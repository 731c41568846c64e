import ChatServer.Atomic.RelyGuarantee
import ChatServer.Sessions.Jobs
import ChatServer.Sessions.Maps

/-!
For whom a call is made. A handler acts for the user id it has read from its own session,
and only a login that has found the row and the right password writes an id there. What
the others do in between cannot take back what the log says.
-/
namespace ActingSessions
open AtomicCalls EventRuns WorkerPool RelyGuarantee ChatProtocol ChatState ChatCalls ChatServices
  ChatEffects AccountHandlers JobEffects SessionMaps

variable {E : Environment} {Tag : Type}

def Seen (log : List (Entry (chat E) Tag)) (id : SessionId) (user : Int) : Prop :=
  ∃ e ∈ log, (e.event.state.server.session id).userId = some user

/-- A login on the session has found the row of the user, and the password was right. -/
def LoginSucceeded [Sha256] (job : Tag → Job) (log : List (Entry (chat E) Tag)) (id : SessionId)
    (user : Int) : Prop :=
  ∃ e ∈ log, ∃ messageId m, job e.tag = .dispatch id ⟨messageId, some (.loginRequest m)⟩ ∧
    ∃ w choice row, e.event = ⟨w, choice, .repository (.findByUsername m.username)⟩ ∧
      (chat E).answer choice (.repository (.findByUsername m.username)) w = .ok (some row) ∧
      row.id = user ∧ hashPassword m.password row.salt = row.hashedPassword

def Grows (v w : View (chat E) Tag) : Prop := v.2 ⊆ w.2

def Acts [Sha256] (job : Tag → Job) (t : Tag) (v : View (chat E) Tag) : Call → Prop
  | .registerAuthenticatedSession id user _ =>
    id = (job t).session ∧ LoginSucceeded job v.2 id user
  | .updateUsername id _ => id = (job t).session
  | .removeSession id => id = (job t).session
  | .joinRoom user _ _ id => id = (job t).session ∧ Seen v.2 id user
  | .createRoom user _ _ id => id = (job t).session ∧ Seen v.2 id user
  | .leaveRoom user _ => Seen v.2 (job t).session user
  | .disconnectRoom id user => id = (job t).session ∧ Seen v.2 id user
  | .repository (.addRoom room) => Seen v.2 (job t).session room.creatorId
  | .repository (.addMessage message) => Seen v.2 (job t).session message.senderId
  | .send id e => (∀ m, e.payload = some (.roomOperationResponse m) → id = (job t).session) ∧
    ∀ m, e.payload = some (.messageBroadcast m) →
      ∃ user, m.fromUserId = toString user ∧ Seen v.2 (job t).session user
  | _ => True

@[simp] def Plain (session : SessionId) : Call → Prop
  | .registerAuthenticatedSession _ _ _ => False
  | .updateUsername id _ => id = session
  | .removeSession id => id = session
  | .joinRoom _ _ _ _ => False
  | .createRoom _ _ _ _ => False
  | .leaveRoom _ _ => False
  | .disconnectRoom _ _ => False
  | .repository (.addRoom _) => False
  | .repository (.addMessage _) => False
  | .send id e => (∀ m, e.payload = some (.roomOperationResponse m) → id = session) ∧
    ∀ m, e.payload ≠ some (.messageBroadcast m)
  | _ => True

section Plain
variable (session : SessionId)

theorem plain_sendError (message : String) : (sendError session message).Uses (Plain session) := by
  simp [sendError, envelope, errorEnvelope]

theorem plain_sendCodedError (message : String) (code : Int) :
    (sendCodedError session message code).Uses (Plain session) := by
  simp [sendCodedError, envelope, codedError]

theorem plain_sendRoomResponse (success : Bool) (operation : RoomOperation)
    (roomName message : String) :
    (sendRoomResponse session success operation roomName message).Uses (Plain session) := by
  simp [sendRoomResponse, envelope]

theorem plain_notifyRoom (event : UserEventType) (userId : Int) (roomname : String) :
    (notifyRoom session event userId roomname).Uses (Plain session) := by
  have sent : ∀ username shown id, Plain session (.send id (presence event userId username shown)) := by
    simp [presence, envelope]
  exact uses_notifyRoom trivial (fun _ => trivial) sent roomname

theorem plain_historyCalls {p : Handler} (calls : p.Uses (HistoryCall session)) :
    p.Uses (Plain session) := by
  apply uses_mono _ calls
  intro c history
  cases c with
  | repository q => cases q <;> simp_all
  | send id e =>
    obtain ⟨own, response, same⟩ := history
    exact ⟨fun _ _ => own, by simp [same, envelope]⟩
  | _ => simp_all

theorem plain_accountCalls {p : Handler} (calls : p.Uses (AccountCall session)) :
    p.Uses (Plain session) := by
  apply uses_mono _ calls
  intro c account
  cases c with
  | repository q => cases q <;> simp_all
  | send id e =>
    obtain ⟨own, reply⟩ := account
    refine ⟨fun _ _ => own, ?_⟩
    intro m same
    simp [AccountReply, same] at reply
  | _ => simp_all

end Plain

theorem userId_next (c : Call) (s : Server) {id : SessionId} {user : Int}
    (there : ((serverNext c s).session id).userId = some user) :
    (s.session id).userId = some user ∨
      ∃ username, c = .registerAuthenticatedSession id user username := by
  cases c with
  | registerAuthenticatedSession other who username =>
    simp only [serverNext, session_register] at there
    split at there
    · rename_i same
      subst same
      cases there
      exact Or.inr ⟨username, rfl⟩
    · exact Or.inl there
  | updateUsername other newUsername =>
    cases named : (s.session other).username with
    | none =>
      simp only [serverNext, updateUsername_unnamed newUsername named] at there
      exact Or.inl there
    | some username =>
      simp only [serverNext, session_rename newUsername id named] at there
      split at there
      · rename_i same
        subst same
        exact Or.inl there
      · exact Or.inl there
  | disconnectRoom other who =>
    simp only [serverNext] at there
    split at there <;> exact Or.inl there
  | _ => exact Or.inl there

section Log
variable {log log' : List (Entry (chat E) Tag)}

theorem seen_mono (grows : log ⊆ log') {id : SessionId} {user : Int} (h : Seen log id user) :
    Seen log' id user := by
  obtain ⟨e, made, what⟩ := h
  exact ⟨e, grows made, what⟩

theorem loginSucceeded_mono [Sha256] {job : Tag → Job} (grows : log ⊆ log') {id : SessionId}
    {user : Int} (h : LoginSucceeded job log id user) : LoginSucceeded job log' id user := by
  obtain ⟨e, made, what⟩ := h
  exact ⟨e, grows made, what⟩

theorem grows_called (v : View (chat E) Tag) (number : Nat) (t : Tag) (choice : Choice E)
    (c : Call) : Grows v (called v number t choice c) := List.subset_append_left _ _

theorem grows_refl (v : View (chat E) Tag) : Grows v v := fun _ h => h

theorem grows_trans (u v w : View (chat E) Tag) (first : Grows u v) (second : Grows v w) :
    Grows u w := fun _ h => second (first h)

theorem seen_answered (number : Nat) (t : Tag) {v : View (chat E) Tag} {choice : Choice E}
    {id : SessionId} {user : Int}
    (answer : (chat E).answer choice (.getUserId id) v.1 = .ok user) :
    Seen (called v number t choice (.getUserId id)).2 id user := by
  refine ⟨⟨number, t, ⟨v.1, choice, .getUserId id⟩⟩, by simp [called], ?_⟩
  simp only [callAnswer] at answer
  cases found : (v.1.server.session id).userId with
  | none => simp [found] at answer
  | some other => simpa [found] using answer

end Log

section Guards
variable [Sha256] {job : Tag → Job} {t : Tag} {number : Nat}

theorem acts_of_plain (v : View (chat E) Tag) (c : Call) (plain : Plain (job t).session c) :
    Acts job t v c := by
  cases c with
  | repository q => cases q <;> simp_all [Acts]
  | send id e =>
    obtain ⟨own, other⟩ := plain
    exact ⟨own, fun m same => absurd same (other m)⟩
  | _ => simp_all [Acts]

theorem guarded_plain {p : Program Call Call.Answer α} (plain : p.Uses (Plain (job t).session))
    (v : View (chat E) Tag) : Guarded Grows (Acts job) number t p v :=
  guarded_of_uses acts_of_plain plain v

theorem guarded_handleLogin {id : SessionId} {messageId : String} {m : LoginRequest}
    (here : job t = .dispatch id ⟨messageId, some (.loginRequest m)⟩) (v : View (chat E) Tag) :
    Guarded Grows (Acts job) number t (handleLogin id m) v := by
  have own : (job t).session = id := by rw [here]; rfl
  intro looked _
  refine ⟨trivial, ?_⟩
  intro choice found answer
  cases found with
  | none => exact guarded_plain (own ▸ plain_sendError id _) _
  | some user =>
    change Guarded _ _ _ _ (ite _ _ _) _
    split
    · rename_i fits
      intro registered since
      refine ⟨⟨own.symm, ?_⟩, ?_⟩
      · refine ⟨_, since (List.mem_append_right _ (List.mem_singleton.mpr rfl)), messageId, m, here,
          looked.1, choice, user, rfl, answer, rfl, fits⟩
      · intro _ _ _
        exact guarded_plain (by simp [own, envelope, Program.bind]) _
    · exact guarded_plain (own ▸ plain_sendError id _) _

@[simp] def ActsFor (session : SessionId) (user : Int) : Call → Prop
  | .joinRoom who _ _ id => id = session ∧ who = user
  | .createRoom who _ _ id => id = session ∧ who = user
  | .leaveRoom who _ => who = user
  | .disconnectRoom id who => id = session ∧ who = user
  | .repository (.addRoom room) => room.creatorId = user
  | .repository (.addMessage message) => message.senderId = user
  | .send id e => (∀ m, e.payload = some (.roomOperationResponse m) → id = session) ∧
    ∀ m, e.payload = some (.messageBroadcast m) → m.fromUserId = toString user
  | c => Plain session c

omit [Sha256] in
theorem actsFor_of_plain (session : SessionId) (user : Int) (c : Call) (plain : Plain session c) :
    ActsFor session user c := by
  cases c with
  | repository q => cases q <;> simp_all
  | send id e =>
    obtain ⟨own, other⟩ := plain
    exact ⟨own, fun m same => absurd same (other m)⟩
  | _ => simp_all

theorem acts_of_actsFor {v : View (chat E) Tag} {user : Int} {c : Call}
    (seen : Seen v.2 (job t).session user) (acts : ActsFor (job t).session user c) :
    Acts job t v c := by
  cases c with
  | repository q => cases q <;> simp_all [Acts]
  | send id e => exact ⟨acts.1, fun m same => ⟨user, acts.2 m same, seen⟩⟩
  | _ => simp_all [Acts]

theorem guarded_actsFor {p : Program Call Call.Answer α} {user : Int} {v : View (chat E) Tag}
    (seen : Seen v.2 (job t).session user) (acts : p.Uses (ActsFor (job t).session user)) :
    Guarded Grows (Acts job) number t p v := by
  induction p generalizing v with
  | done a => trivial
  | call c rest ih =>
    intro now since
    refine ⟨acts_of_actsFor (seen_mono since seen) acts.1, ?_⟩
    intro choice a _
    exact ih a (seen_mono (grows_called now number t choice c) (seen_mono since seen)) (acts.2 a)

theorem guarded_for {p : Int → Handler} {id : SessionId} (own : (job t).session = id)
    (acts : ∀ user, (p user).Uses (ActsFor id user)) (v : View (chat E) Tag) :
    Guarded Grows (Acts job) number t (do
      if ← call (.isAuthenticated id) then
        let user ← call (.getUserId id)
        p user
      else pure ()) v := by
  intro now _
  refine ⟨trivial, ?_⟩
  intro _ present _
  cases present with
  | false => trivial
  | true =>
    intro asked _
    refine ⟨trivial, ?_⟩
    intro _ user answer
    have seen := seen_answered number t answer
    exact guarded_actsFor (own ▸ seen) (own ▸ acts user)

variable {id : SessionId} (own : (job t).session = id)
include own

theorem guarded_handlePublicMessage (m : PublicMessage) (v : View (chat E) Tag) :
    Guarded Grows (Acts job) number t (handlePublicMessage id m) v := by
  apply guarded_for own
  intro user
  simp only [perform_bind, Program.Uses, ActsFor, Plain, true_and]
  intro roomName
  split
  · exact uses_mono (actsFor_of_plain id user) ⟨trivial, fun _ => plain_sendCodedError id _ _⟩
  · simp only [Program.Uses, ActsFor, Plain, true_and]
    intro _ _ username now _ target
    exact ⟨trivial, uses_sendAll (by simp [envelope])⟩

theorem guarded_handlePrivateMessage (m : PrivateMessageRequest) (v : View (chat E) Tag) :
    Guarded Grows (Acts job) number t (handlePrivateMessage id m) v := by
  apply guarded_for own
  intro user
  simp only [perform_bind, Program.Uses, ActsFor, Plain, true_and]
  intro name roomname
  have refused : ∀ message code, (do
      let _ ← call (.getUsername id)
      sendCodedError id message code).Uses (ActsFor id user) := by
    intro message code
    exact uses_mono (actsFor_of_plain id user) ⟨trivial, fun _ => plain_sendCodedError id _ _⟩
  split
  · exact refused _ _
  · simp only [Program.Uses, ActsFor, Plain, true_and]
    intro found
    cases found with
    | none => exact refused _ _
    | some accept =>
      simp only [Program.Uses, ActsFor, Plain, true_and]
      intro online
      split
      · simp only [Program.Uses, ActsFor, Plain, true_and]
        intro other
        split
        · exact refused _ _
        · simp [envelope]
      · exact refused _ _

theorem guarded_handleRoomOperation (m : RoomOperationRequest) (v : View (chat E) Tag) :
    Guarded Grows (Acts job) number t (handleRoomOperation id m) v := by
  apply guarded_for own
  intro user
  have reply : ∀ success operation roomName message,
      (sendRoomResponse id success operation roomName message).Uses (ActsFor id user) := by
    intro success operation roomName message
    exact uses_mono (actsFor_of_plain id user) (plain_sendRoomResponse id _ _ _ _)
  have notified : ∀ event operation message, (notifyRoom id event user m.roomName >>= fun _ =>
      sendRoomResponse id true operation m.roomName message).Uses (ActsFor id user) := by
    intro event operation message
    exact uses_bind (uses_mono (actsFor_of_plain id user) (plain_notifyRoom id _ _ _))
      (fun _ => reply _ _ _ _)
  cases m.operation with
  | join =>
    refine ⟨trivial, ?_⟩
    intro found
    cases found with
    | none => exact reply _ _ _ _
    | some room => exact ⟨⟨rfl, rfl⟩, fun _ => notified _ _ _⟩
  | leave => exact ⟨rfl, fun _ => notified _ _ _⟩
  | create =>
    refine ⟨trivial, ?_⟩
    intro found
    cases found with
    | some room => exact reply _ _ _ _
    | none =>
      refine ⟨rfl, ?_⟩
      intro added
      cases added with
      | none => exact reply _ _ _ _
      | some roomId => exact ⟨⟨rfl, rfl⟩, fun _ => reply _ _ _ _⟩
  | other value => exact reply _ _ _ _

theorem guarded_onDisconnect (v : View (chat E) Tag) :
    Guarded Grows (Acts job) number t (onDisconnect id) v := by
  subst own
  have removed : ∀ v : View (chat E) Tag,
      Guarded Grows (Acts job) number t (call (.removeSession (job t).session)) v := by
    intro v
    exact guarded_plain (by simp) v
  intro now _
  refine ⟨trivial, ?_⟩
  intro _ present _
  cases present with
  | false => exact removed _
  | true =>
    intro named _
    refine ⟨trivial, ?_⟩
    intro _ _ _ asked _
    refine ⟨trivial, ?_⟩
    intro _ _ _ again _
    refine ⟨trivial, ?_⟩
    intro _ still _
    cases still with
    | false => exact removed _
    | true =>
      intro read _
      refine ⟨trivial, ?_⟩
      intro _ user answer
      have seen := seen_answered number t answer
      have acts : (do
          call (.disconnectRoom (job t).session user)
          call (.removeSession (job t).session)).Uses (ActsFor (job t).session user) :=
        ⟨⟨rfl, rfl⟩, fun _ => ⟨rfl, fun _ => trivial⟩⟩
      exact guarded_actsFor seen acts

omit own in
/-- Whatever a job does, it acts for its own session. -/
theorem guarded_job (number : Nat) (t : Tag) (v : View (chat E) Tag) :
    Guarded Grows (Acts job) number t (job t).handler v := by
  cases same : job t with
  | disconnect id => exact guarded_onDisconnect (by rw [same]; rfl) v
  | dispatch id e =>
    have own : (job t).session = id := by rw [same]; rfl
    obtain ⟨messageId, payload⟩ := e
    have behind : ∀ v : View (chat E) Tag,
        Guarded Grows (Acts job) number t (dispatchAuthenticated id payload) v := by
      intro v
      cases payload with
      | none => trivial
      | some payload =>
        cases payload with
        | changePasswordRequest m =>
          exact guarded_plain (plain_accountCalls _ (own ▸ accountCalls_handleChangePassword m)) v
        | changeUsernameRequest m =>
          exact guarded_plain (plain_accountCalls _ (own ▸ accountCalls_handleChangeUsername m)) v
        | publicMessage m => exact guarded_handlePublicMessage own m v
        | privateMessageRequest m => exact guarded_handlePrivateMessage own m v
        | roomOperationRequest m => exact guarded_handleRoomOperation own m v
        | historyMessageRequest m =>
          exact guarded_plain (plain_historyCalls _ (own ▸ historyCalls_handleHistoryRequest id m)) v
        | _ => trivial
    have gate : Guarded Grows (Acts job) number t
        (requireAuthentication id (dispatchAuthenticated id payload)) v := by
      intro now _
      refine ⟨trivial, ?_⟩
      intro _ present _
      cases present with
      | true => exact behind _
      | false => exact guarded_plain (own ▸ plain_sendError id _) _
    cases payload with
    | none => exact gate
    | some payload =>
      cases payload with
      | loginRequest m => exact guarded_handleLogin same v
      | registrationRequest m =>
        exact guarded_plain (plain_accountCalls _ (own ▸ accountCalls_handleRegister m)) v
      | _ => exact gate

end Guards

end ActingSessions
