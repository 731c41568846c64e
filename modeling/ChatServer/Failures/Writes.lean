import ChatServer.Sessions.Jobs

/-!
What a handler does when its repository write returns false. Five requests write: two of
them test the answer, the renames, password changes and public messages drop it.
-/
namespace FailedWrites
open AtomicCalls ChatProtocol ChatState ChatCalls ChatServices ChatEffects AccountHandlers
  JobEffects

inductive WriteRequest where
  | register (m : RegistrationRequest)
  | changePassword (m : ChangePasswordRequest)
  | changeUsername (m : ChangeUsernameRequest)
  | create (roomName : String)
  | publicMessage (m : PublicMessage)

def WriteRequest.payload : WriteRequest → Payload
  | .register m => .registrationRequest m
  | .changePassword m => .changePasswordRequest m
  | .changeUsername m => .changeUsernameRequest m
  | .create roomName => .roomOperationRequest ⟨.create, roomName⟩
  | .publicMessage m => .publicMessage m

/-- The response says that the request was carried out. -/
def ReportsSuccess (e : Envelope) : Prop :=
  match e.payload with
  | some (.loginResponse m) => m.success = true
  | some (.registrationResponse m) => m.success = true
  | some (.changePasswordResponse m) => m.success = true
  | some (.changeUsernameResponse m) => m.success = true
  | some (.roomOperationResponse m) => m.success = true
  | _ => False

def IsBroadcast (e : Envelope) : Prop :=
  match e.payload with
  | some (.messageBroadcast _) => True
  | _ => False

variable {E : Environment}

def ReturnedFalse (e : Event (chat E)) : Prop :=
  match e.call with
  | .repository (.addUser user) => answered e.choice (.addUser user) e.state.store = .ok none
  | .repository (.updateUser user) =>
    answered e.choice (.updateUser user) e.state.store = .ok false
  | .repository (.addRoom room) => answered e.choice (.addRoom room) e.state.store = .ok none
  | .repository (.addMessage message) =>
    answered e.choice (.addMessage message) e.state.store = .ok none
  | _ => False

def WriteFailed (p : Handler) (choices : Nat → Choice E) (w : World E) : Prop :=
  ∃ e ∈ p.trace (chat E) choices w, ReturnedFalse e

/-- Nothing is reported as done, and what the request is about is as it was. -/
structure Harmless (session : SessionId) (p : Handler) (choices : Nat → Choice E)
    (w : World E) : Prop where
  no_success : ∀ e, (session, e) ∈ p.output (chat E) choices w → ¬ ReportsSuccess e
  no_broadcast : ∀ id e, (id, e) ∈ p.output (chat E) choices w → ¬ IsBroadcast e
  username : ((p.final (chat E) choices w).server.session session).username =
    (w.server.session session).username
  byUserId : (p.final (chat E) choices w).server.sessionManager.sessionsByUserId =
    w.server.sessionManager.sessionsByUserId
  byUsername : (p.final (chat E) choices w).server.sessionManager.sessionsByUsername =
    w.server.sessionManager.sessionsByUsername
  activeRooms : (p.final (chat E) choices w).server.roomService.activeRooms =
    w.server.roomService.activeRooms
  userToRoomMap : (p.final (chat E) choices w).server.roomService.userToRoomMap =
    w.server.roomService.userToRoomMap

theorem harmless_of_refusal {session : SessionId} {p : Handler} {choices : Nat → Choice E}
    {w : World E} {refusal : Envelope}
    (sent_only : p.output (chat E) choices w = [(session, refusal)])
    (no_success : ¬ ReportsSuccess refusal) (no_broadcast : ¬ IsBroadcast refusal)
    (same : (p.final (chat E) choices w).server = w.server) : Harmless session p choices w := by
  constructor
  · intro e sent
    simp only [sent_only, List.mem_singleton, Prod.mk.injEq, true_and] at sent
    subst sent
    exact no_success
  · intro id e sent
    simp only [sent_only, List.mem_singleton, Prod.mk.injEq] at sent
    obtain ⟨-, rfl⟩ := sent
    exact no_broadcast
  all_goals rw [same]

section Gate
variable {session : SessionId} {handler : Handler} {choices : Nat → Choice E} {w : World E}

theorem passed_of_writeFailed
    (failed : WriteFailed (requireAuthentication session handler) choices w) :
    (w.server.session session).authenticated = true ∧
      WriteFailed handler (later choices) w := by
  obtain ⟨e, made, false_answer⟩ := failed
  have other : ∀ id envelope, e.call ≠ .isAuthenticated id ∧ e.call ≠ .send id envelope := by
    intro id envelope
    constructor
    · intro same
      simp [ReturnedFalse, same] at false_answer
    · intro same
      simp [ReturnedFalse, same] at false_answer
  obtain ⟨present, inside⟩ := trace_requireAuthentication made other
  exact ⟨present, e, inside, false_answer⟩

theorem harmless_behind_gate (present : (w.server.session session).authenticated = true) :
    Harmless session (requireAuthentication session handler) choices w ↔
      Harmless session handler (later choices) w := by
  have output : (requireAuthentication session handler).output (chat E) choices w =
    handler.output (chat E) (later choices) w := output_requireAuthentication present
  have final : (requireAuthentication session handler).final (chat E) choices w =
      handler.final (chat E) (later choices) w := by
    rw [final_requireAuthentication, if_pos present]
  constructor
  · intro h
    exact ⟨output ▸ h.no_success, output ▸ h.no_broadcast, final ▸ h.username,
      final ▸ h.byUserId, final ▸ h.byUsername, final ▸ h.activeRooms, final ▸ h.userToRoomMap⟩
  · intro h
    exact ⟨output ▸ h.no_success, output ▸ h.no_broadcast, final ▸ h.username,
      final ▸ h.byUserId, final ▸ h.byUsername, final ▸ h.activeRooms, final ▸ h.userToRoomMap⟩

end Gate

section Handlers
variable [Sha256] {session : SessionId} {choices : Nat → Choice E} {w : World E}

theorem register_failed {m : RegistrationRequest}
    (failed : WriteFailed (handleRegister session m) choices w) :
    (handleRegister session m).output (chat E) choices w =
      [(session, envelope (.registrationResponse ⟨false,
        "Registration failed due to a server-side error."⟩))] := by
  unfold WriteFailed handleRegister at failed
  unfold handleRegister
  simp [ReturnedFalse, answered] at failed ⊢
  split at failed
  · rename_i found heq
    cases found with
    | some user => simp [sendError] at failed
    | none =>
      cases salt : (choices 1).salt with
      | none => simp [salt] at failed
      | some salt =>
        simp [salt] at failed ⊢
        rcases failed with wrote | later
        · simp [wrote]
        · split at later
          · rename_i added _
            cases added <;> simp at later
          · simp at later
  · simp at failed

theorem changePassword_failed {m : ChangePasswordRequest}
    (failed : WriteFailed (handleChangePassword session m) choices w) :
    (session, envelope (.changePasswordResponse ⟨true, "Password changed successfully."⟩)) ∈
      (handleChangePassword session m).output (chat E) choices w := by
  unfold WriteFailed at failed
  rw [handleChangePassword_eq] at failed ⊢
  by_cases present : (w.server.session session).authenticated = true
  · cases name : (w.server.session session).username with
    | none => simp [ReturnedFalse, present, name] at failed
    | some username =>
      simp [ReturnedFalse, answered, present, name] at failed ⊢
      split at failed
      · rename_i found heq
        cases found with
        | none => simp [sendError] at failed
        | some user =>
          cases refusal : passwordRefusal m user with
          | some text => simp [changePasswordOf, refusal, sendError] at failed
          | none =>
            cases salt : (choices 3).salt with
            | none => simp [changePasswordOf, refusal, salt] at failed
            | some salt =>
              simp [changePasswordOf, refusal, salt] at failed ⊢
              rcases failed with wrote | later
              · simp [wrote]
              · split at later <;> simp at later
      · simp at failed
  · simp [ReturnedFalse, present, sendError] at failed

omit [Sha256] in
theorem changeUsername_failed {m : ChangeUsernameRequest}
    (failed : WriteFailed (handleChangeUsername session m) choices w) :
    (session, envelope (.changeUsernameResponse ⟨true,
      "Username changed successfully to " ++ m.newUsername ++ ".", ""⟩)) ∈
      (handleChangeUsername session m).output (chat E) choices w := by
  unfold WriteFailed at failed
  rw [handleChangeUsername_eq] at failed ⊢
  by_cases present : (w.server.session session).authenticated = true
  · cases name : (w.server.session session).username with
    | none => simp [ReturnedFalse, present, name] at failed
    | some username =>
      simp [ReturnedFalse, answered, present, name] at failed ⊢
      split at failed
      · rename_i found heq
        cases found with
        | none => simp [sendError] at failed
        | some user =>
          simp at failed ⊢
          split at failed
          · rename_i taken heq'
            cases taken with
            | some other => simp [sendError] at failed
            | none =>
              cases refusal : renameRefusal m user with
              | some text => simp [changeUsernameOf, refusal, sendError] at failed
              | none =>
                simp [changeUsernameOf, refusal, name, Except.map] at failed ⊢
                rcases failed with wrote | later
                · simp [wrote]
                · split at later <;> simp at later
          · simp at failed
      · simp at failed
  · simp [ReturnedFalse, present, sendError] at failed

omit [Sha256] in
theorem create_failed {roomName : String}
    (failed : WriteFailed (handleRoomOperation session ⟨.create, roomName⟩) choices w) :
    (handleRoomOperation session ⟨.create, roomName⟩).output (chat E) choices w =
        [(session, envelope (.roomOperationResponse ⟨false, .create, roomName,
          "Created room " ++ roomName ++ " failed."⟩))] ∧
      ((handleRoomOperation session ⟨.create, roomName⟩).final (chat E) choices w).server =
        w.server := by
  unfold WriteFailed handleRoomOperation at failed
  unfold handleRoomOperation
  by_cases present : (w.server.session session).authenticated = true
  · cases userId : (w.server.session session).userId with
    | none => simp [ReturnedFalse, present, userId] at failed
    | some userId =>
      simp [ReturnedFalse, answered, present, userId] at failed ⊢
      split at failed
      · rename_i found heq
        cases found with
        | some room => simp [sendRoomResponse] at failed
        | none =>
          simp at failed ⊢
          rcases failed with wrote | later
          · simp [wrote, sendRoomResponse]
          · split at later
            · rename_i added _
              cases added <;> simp [sendRoomResponse] at later
            · simp at later
      · simp at failed
  · simp [ReturnedFalse, present] at failed

def listeners (session : SessionId) (s : Server) : List SessionId :=
  match (s.session session).identity with
  | some (userId, _) =>
    s.roomService.recipients (s.roomService.getUserCurrentRoomName userId) 0
  | none => []

omit [Sha256] in
/-- Unless the write throws, the message is sent on, whatever the write returned. -/
theorem publicMessage_failed {m : PublicMessage}
    (failed : WriteFailed (handlePublicMessage session m) choices w) :
    ∃ b, (handlePublicMessage session m).output (chat E) choices w =
      (listeners session w.server).map (fun id => (id, envelope (.messageBroadcast b))) := by
  unfold WriteFailed handlePublicMessage at failed
  by_cases present : (w.server.session session).authenticated = true
  · obtain ⟨user, username, who⟩ := identity_authenticated present
    obtain ⟨-, userId, name⟩ := identity_some who
    by_cases roomless : w.server.roomService.getUserCurrentRoomName user = ""
    · simp [ReturnedFalse, present, userId, roomless, name, sendCodedError] at failed
    · refine ⟨⟨toString user, username, m.content, some (choices 6).now,
        some (w.server.roomService.getUserCurrentRoomName user)⟩, ?_⟩
      unfold handlePublicMessage
      simp [ReturnedFalse, present, userId, roomless] at failed ⊢
      rcases failed with wrote | later
      · rw [answered] at wrote
        simp [wrote, name, output_broadcastToRoom, listeners, who]
      · split at later
        · simp [name, output_broadcastToRoom, listeners, who]
        · simp at later
  · simp [ReturnedFalse, present] at failed

/-- What must hold before a failing write for it to do no harm. -/
def Unheard (session : SessionId) (s : Server) : WriteRequest → Prop
  | .register _ => True
  | .create _ => True
  | .changePassword _ => False
  | .changeUsername _ => False
  | .publicMessage _ => listeners session s = []

omit [Sha256] in
theorem not_harmless_of_success {p : Handler} {e : Envelope}
    (sent : (session, e) ∈ p.output (chat E) choices w) (success : ReportsSuccess e) :
    ¬ Harmless session p choices w :=
  fun harmless => harmless.no_success e sent success

omit [Sha256] in
theorem harmless_publicMessage {m : PublicMessage}
    (failed : WriteFailed (handlePublicMessage session m) choices w) :
    Harmless session (handlePublicMessage session m) choices w ↔
      listeners session w.server = [] := by
  obtain ⟨b, output⟩ := publicMessage_failed failed
  have same := server_messageCalls (messageCalls_handlePublicMessage session m) choices w
  constructor
  · intro harmless
    cases heard : listeners session w.server with
    | nil => rfl
    | cons id rest =>
      have sent : (id, envelope (.messageBroadcast b)) ∈
          (handlePublicMessage session m).output (chat E) choices w := by
        simp [output, heard]
      exact absurd trivial (harmless.no_broadcast id _ sent)
  · intro unheard
    rw [unheard, List.map_nil] at output
    constructor
    · intro e sent
      simp [output] at sent
    · intro id e sent
      simp [output] at sent
    all_goals rw [same]

end Handlers

section Requests
variable [Sha256]

/-- After a write that returned false, nothing is reported and nothing has changed exactly
    when the handler is one that looks, or nobody listens. -/
theorem failed_write_harmless_iff {session : SessionId} {request : WriteRequest}
    {messageId : String} {choices : Nat → Choice E} {w : World E}
    (failed : WriteFailed (dispatchMessage session ⟨messageId, some request.payload⟩) choices w) :
    Harmless session (dispatchMessage session ⟨messageId, some request.payload⟩) choices w ↔
      Unheard session w.server request := by
  cases request with
  | register m =>
    have refused := register_failed failed
    have same : ((handleRegister session m).final (chat E) choices w).server = w.server := by
      rw [final_handleRegister]
      split <;> rfl
    have harmless := harmless_of_refusal refused (by simp [ReportsSuccess, envelope])
      (by simp [IsBroadcast, envelope]) same
    exact iff_of_true harmless trivial
  | changePassword m =>
    obtain ⟨present, inside⟩ := passed_of_writeFailed failed
    have harmful := not_harmless_of_success (changePassword_failed inside) rfl
    exact iff_of_false (fun h => harmful ((harmless_behind_gate present).mp h)) id
  | changeUsername m =>
    obtain ⟨present, inside⟩ := passed_of_writeFailed failed
    have harmful := not_harmless_of_success (changeUsername_failed inside) rfl
    exact iff_of_false (fun h => harmful ((harmless_behind_gate present).mp h)) id
  | create roomName =>
    obtain ⟨present, inside⟩ := passed_of_writeFailed failed
    obtain ⟨refused, same⟩ := create_failed inside
    have harmless := harmless_of_refusal refused (by simp [ReportsSuccess, envelope])
      (by simp [IsBroadcast, envelope]) same
    exact iff_of_true ((harmless_behind_gate present).mpr harmless) trivial
  | publicMessage m =>
    obtain ⟨present, inside⟩ := passed_of_writeFailed failed
    exact (harmless_behind_gate present).trans (harmless_publicMessage inside)

end Requests

section LostConnection

local instance : Sha256 := ⟨id⟩

def annAlone : World anyAnswers :=
  ⟨Server.start.registerAuthenticatedSession 1 1 "ann", ()⟩

/-- The lookups still find ann's row, then the connection is lost. -/
def lostOnWrite : Nat → Choice anyAnswers := fun _ => ⟨fun q => match q with
  | .findByUsername "ann" => .ok (some ⟨1, "ann", "oldsalt", "salt"⟩)
  | .findByUsername _ => .ok none
  | _ => .error .connectionError, some "pepper", ⟨0, 0⟩⟩

def bobRegisters : WriteRequest := .register ⟨"bob", "pw"⟩

theorem failed_write_harmless_register :
    Harmless 1 (dispatchMessage 1 ⟨"", some bobRegisters.payload⟩) lostOnWrite annAlone := by
  have failed : WriteFailed (dispatchMessage 1 ⟨"", some bobRegisters.payload⟩)
      lostOnWrite annAlone := ⟨⟨annAlone, lostOnWrite 2,
    .repository (.addUser ⟨0, "bob", "pwpepper", "pepper"⟩)⟩, .tail _ (.tail _ (.head _)), rfl⟩
  exact (failed_write_harmless_iff failed).mpr trivial

/-- The row was not written, and ann is told that her password has changed. -/
theorem lost_password_reported_changed :
    WriteFailed (dispatchMessage 1 ⟨"", some (.changePasswordRequest ⟨"old", "new"⟩)⟩)
        lostOnWrite annAlone ∧
      ¬ Harmless 1 (dispatchMessage 1 ⟨"", some (.changePasswordRequest ⟨"old", "new"⟩)⟩)
        lostOnWrite annAlone := by
  constructor
  · exact ⟨⟨annAlone, lostOnWrite 5,
      .repository (.updateUser ⟨1, "ann", "newpepper", "pepper"⟩)⟩,
      .tail _ (.tail _ (.tail _ (.tail _ (.tail _ (.head _))))), rfl⟩
  · intro harmless
    have sent : (1, envelope (.changePasswordResponse ⟨true, "Password changed successfully."⟩)) ∈
        (dispatchMessage 1 ⟨"", some (.changePasswordRequest ⟨"old", "new"⟩)⟩).output
          (chat anyAnswers) lostOnWrite annAlone := by
      decide
    exact harmless.no_success _ sent rfl

end LostConnection

end FailedWrites
