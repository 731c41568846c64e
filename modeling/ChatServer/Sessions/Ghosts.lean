import ChatServer.Atomic.RelyGuarantee
import ChatServer.Sessions.Jobs
import ChatServer.Sessions.Tidy

/-!
Sessions that stay behind. The disconnect job of a session first clears its room and
then its index entries. What it clears is all there is, as long as a session never
changes whom it is logged in as and nobody is seated twice; and it stays cleared, as
long as no earlier request of the session inserts it again afterwards. The jobs run
interleaved, so what a handler has read must survive what the others do: a session
keeps its user id.
-/
namespace GhostSessions
open AtomicCalls EventRuns WorkerPool RelyGuarantee KeyedMaps ChatProtocol ChatState ChatCalls
  ChatServices ChatEffects AccountHandlers JobEffects RoomMaps SessionMaps TidySessions

abbrev ServerView := View (chat anyAnswers) Job

/-- A disconnect job of the session is done with its room: it has cleared it, or has
    found the session unauthenticated and passed the clearing over. -/
def RoomCleared (log : List (Entry (chat anyAnswers) Job)) (id : SessionId) : Prop :=
  ∃ e ∈ log, e.tag = .disconnect id ∧
    ((∃ u, e.event.call = .disconnectRoom id u) ∨
      (e.event.call = .isAuthenticated id ∧
        (e.event.state.server.session id).authenticated = false))

def Finished (log : List (Entry (chat anyAnswers) Job)) (id : SessionId) : Prop :=
  ∃ e ∈ log, e.tag = .disconnect id ∧ e.event.call = .removeSession id

instance (log : List (Entry (chat anyAnswers) Job)) (id : SessionId) :
    Decidable (Finished log id) :=
  inferInstanceAs (Decidable (∃ e ∈ log, e.tag = .disconnect id ∧ _))

/-- No session whose disconnect has finished is in an index or a room. -/
def NoGhost (p : Pool (chat anyAnswers) Job) : Prop :=
  ∀ id, Finished p.log id → Unlisted p.state.server id ∧ Seatless p.state.server id

/-- A login says who the session is already, if anybody; a session is not listed after
    its disconnect has finished, nor seated after its room was cleared; and CREATE is not
    for a user who is seated in another room. -/
def Proper (v : ServerView) : Call → Prop
  | .registerAuthenticatedSession id k n => ¬ Finished v.2 id ∧
      ∀ l m, (v.1.server.session id).identity = some (l, m) → l = k ∧ m = n
  | .updateUsername id _ => ¬ Finished v.2 id
  | .joinRoom _ _ _ id => ¬ RoomCleared v.2 id
  | .createRoom user name _ id => ¬ RoomCleared v.2 id ∧
      ∀ old, v.1.server.roomService.userToRoomMap[user]? = some old → old = name
  | _ => True

/-- The others leave every user id and every log entry in place. -/
def Keeps (v w : ServerView) : Prop :=
  (∀ id u, (v.1.server.session id).userId = some u → (w.1.server.session id).userId = some u) ∧
    v.2 ⊆ w.2

/-- Rooms are asked for under the user id of the session, and a session is removed only
    after its room was cleared. -/
def Permitted (_ : Job) (v : ServerView) : Call → Prop
  | .joinRoom user _ _ id => (v.1.server.session id).userId = some user
  | .createRoom user _ _ id => (v.1.server.session id).userId = some user
  | .disconnectRoom id user => (v.1.server.session id).userId = some user
  | .removeSession id => RoomCleared v.2 id
  | _ => True

@[simp] def Free : Call → Prop
  | .joinRoom _ _ _ _ => False
  | .createRoom _ _ _ _ => False
  | .disconnectRoom _ _ => False
  | .removeSession _ => False
  | _ => True

theorem permitted_of_free (job : Job) (v : ServerView) (c : Call) (free : Free c) :
    Permitted job v c := by
  cases c <;> simp_all [Permitted]

theorem keeps_refl (v : ServerView) : Keeps v v := ⟨fun _ _ h => h, fun _ h => h⟩

theorem keeps_trans (u v w : ServerView) (first : Keeps u v) (second : Keeps v w) : Keeps u w :=
  ⟨fun id k h => second.1 id k (first.1 id k h), fun _ h => second.2 (first.2 h)⟩

theorem roomCleared_mono {log log' : List (Entry (chat anyAnswers) Job)} (grows : log ⊆ log')
    {id : SessionId} (h : RoomCleared log id) : RoomCleared log' id := by
  obtain ⟨e, made, what⟩ := h
  exact ⟨e, grows made, what⟩

section Free

theorem free_messageCalls {p : Program Call Call.Answer α} (calls : p.Uses MessageCall) :
    p.Uses Free :=
  uses_mono (fun c h => by cases c <;> simp_all) calls

variable [Sha256]

theorem free_handleLogin (session : SessionId) (m : LoginRequest) :
    (handleLogin session m).Uses Free := by
  simp only [handleLogin, perform_bind, Program.Uses, Free, true_and]
  intro found
  cases found with
  | none => simp [sendError]
  | some user =>
    dsimp only
    split <;> simp [sendError]

omit [Sha256] in
theorem free_accountCalls {session : SessionId} {p : Handler}
    (calls : p.Uses (AccountCall session)) : p.Uses Free := by
  apply uses_mono _ calls
  intro c account
  cases c <;> simp_all

end Free

section Dispatch
variable [Sha256] {E : Environment} {rely : View (chat E) Job → View (chat E) Job → Prop}
  {permit : Job → View (chat E) Job → Call → Prop} {number : Nat} {job : Job}
  (free : ∀ v c, Free c → permit job v c)
include free

/-- Of all the requests only the room operations need an argument. -/
theorem guarded_dispatchMessage {session : SessionId}
    (rooms : ∀ m v, Guarded rely permit number job (handleRoomOperation session m) v)
    (e : Envelope) (v : View (chat E) Job) :
    Guarded rely permit number job (dispatchMessage session e) v := by
  have behind : ∀ payload v,
      Guarded rely permit number job (dispatchAuthenticated session payload) v := by
    intro payload v
    cases payload with
    | none => trivial
    | some payload =>
      cases payload with
      | changePasswordRequest m =>
        exact guarded_of_uses free (free_accountCalls (accountCalls_handleChangePassword m)) v
      | changeUsernameRequest m =>
        exact guarded_of_uses free (free_accountCalls (accountCalls_handleChangeUsername m)) v
      | publicMessage m =>
        exact guarded_of_uses free (free_messageCalls (messageCalls_handlePublicMessage session m)) v
      | privateMessageRequest m =>
        exact guarded_of_uses free (free_messageCalls (messageCalls_handlePrivateMessage session m)) v
      | roomOperationRequest m => exact rooms m v
      | historyMessageRequest m =>
        exact guarded_of_uses free (free_messageCalls (messageCalls_handleHistoryRequest session m)) v
      | _ => trivial
  have gate : ∀ payload, Guarded rely permit number job
      (requireAuthentication session (dispatchAuthenticated session payload)) v := by
    intro payload now _
    refine ⟨free now _ trivial, ?_⟩
    intro _ present _
    cases present with
    | true => exact behind payload _
    | false =>
      have refusal : (sendError session "Authentication required.").Uses Free :=
        ⟨trivial, fun _ => trivial⟩
      exact guarded_of_uses free refusal _
  obtain ⟨messageId, payload⟩ := e
  cases payload with
  | none => exact gate none
  | some payload =>
    cases payload with
    | loginRequest m => exact guarded_of_uses free (free_handleLogin session m) v
    | registrationRequest m =>
      exact guarded_of_uses free (free_accountCalls (accountCalls_handleRegister m)) v
    | _ => exact gate (some _)

end Dispatch

section Bodies

theorem userId_answered {choice : Choice anyAnswers} {id : SessionId} {w : World anyAnswers}
    {u : Int} (answer : (chat anyAnswers).answer choice (.getUserId id) w = .ok u) :
    (w.server.session id).userId = some u := by
  simp only [callAnswer] at answer
  cases known : (w.server.session id).userId with
  | none => simp [known] at answer
  | some k =>
    simp only [known, fieldOr, Except.ok.injEq] at answer
    rw [answer]

theorem guarded_free {number : Nat} {job : Job} {p : Program Call Call.Answer α}
    (free : p.Uses Free) (v : ServerView) : Guarded Keeps Permitted number job p v :=
  guarded_of_uses (permitted_of_free job) free v

theorem free_notifyRoom (session : SessionId) (event : UserEventType) (userId : Int)
    (roomname : String) : (notifyRoom session event userId roomname).Uses Free :=
  uses_notifyRoom trivial (fun _ => trivial) (fun _ _ _ => trivial) roomname

theorem free_sendRoomResponse (session : SessionId) (success : Bool)
    (operation : RoomOperation) (roomName message : String) :
    (sendRoomResponse session success operation roomName message).Uses Free :=
  ⟨trivial, fun _ => trivial⟩

theorem guarded_handleRoomOperation (number : Nat) (job : Job) (session : SessionId)
    (m : RoomOperationRequest) (v : ServerView) :
    Guarded Keeps Permitted number job (handleRoomOperation session m) v := by
  intro now _
  refine ⟨trivial, ?_⟩
  intro choice present _
  cases present with
  | false => trivial
  | true =>
    intro asked _
    refine ⟨trivial, ?_⟩
    intro choice' u answer
    have known : (asked.1.server.session session).userId = some u := userId_answered answer
    obtain ⟨operation, roomname⟩ := m
    cases operation with
    | join =>
      intro looked since
      refine ⟨trivial, ?_⟩
      intro _ found _
      cases found with
      | none => exact guarded_free (free_sendRoomResponse _ _ _ _ _) _
      | some room =>
        intro joined since'
        refine ⟨since'.1 session u (since.1 session u known), ?_⟩
        intro _ _ _
        exact guarded_free (uses_bind (free_notifyRoom _ _ _ _)
          (fun _ => free_sendRoomResponse _ _ _ _ _)) _
    | leave =>
      intro left _
      refine ⟨trivial, ?_⟩
      intro _ _ _
      exact guarded_free (uses_bind (free_notifyRoom _ _ _ _)
        (fun _ => free_sendRoomResponse _ _ _ _ _)) _
    | create =>
      intro looked since
      refine ⟨trivial, ?_⟩
      intro _ found _
      cases found with
      | some room => exact guarded_free (free_sendRoomResponse _ _ _ _ _) _
      | none =>
        intro inserted since'
        refine ⟨trivial, ?_⟩
        intro _ added _
        cases added with
        | none => exact guarded_free (free_sendRoomResponse _ _ _ _ _) _
        | some roomId =>
          intro created since''
          refine ⟨?_, ?_⟩
          · exact since''.1 session u (since'.1 session u (since.1 session u known))
          · intro _ _ _
            exact guarded_free (free_sendRoomResponse _ _ _ _ _) _
    | other value => exact guarded_free (free_sendRoomResponse _ _ _ _ _) _

theorem guarded_removeSession {number : Nat} {session : SessionId} {v : ServerView}
    (cleared : RoomCleared v.2 session) :
    Guarded Keeps Permitted number (.disconnect session) (call (.removeSession session)) v := by
  intro now since
  exact ⟨roomCleared_mono since.2 cleared, fun _ _ _ => trivial⟩

theorem roomCleared_called {v : ServerView} {number : Nat} {session : SessionId}
    {choice : Choice anyAnswers} {c : Call}
    (clears : (∃ u, c = .disconnectRoom session u) ∨
      (c = .isAuthenticated session ∧ (v.1.server.session session).authenticated = false)) :
    RoomCleared (called v number (.disconnect session) choice c).2 session :=
  ⟨⟨number, .disconnect session, ⟨v.1, choice, c⟩⟩, by simp [called], rfl, clears⟩

theorem guarded_onDisconnect (number : Nat) (session : SessionId) (v : ServerView) :
    Guarded Keeps Permitted number (.disconnect session) (onDisconnect session) v := by
  intro now _
  refine ⟨trivial, ?_⟩
  intro choice present answer
  cases present with
  | false =>
    refine guarded_removeSession (roomCleared_called (Or.inr ⟨rfl, ?_⟩))
    simpa using answer
  | true =>
    intro named _
    refine ⟨trivial, ?_⟩
    intro _ _ _ numbered _
    refine ⟨trivial, ?_⟩
    intro _ _ _ again _
    refine ⟨trivial, ?_⟩
    intro choice' still answer'
    cases still with
    | false =>
      refine guarded_removeSession (roomCleared_called (Or.inr ⟨rfl, ?_⟩))
      simpa using answer'
    | true =>
      intro read _
      refine ⟨trivial, ?_⟩
      intro _ u known cleared since
      refine ⟨since.1 session u (userId_answered known), ?_⟩
      intro _ _ _
      exact guarded_removeSession (roomCleared_called (Or.inl ⟨u, rfl⟩))

theorem guarded_job [Sha256] (number : Nat) (job : Job) (v : ServerView) :
    Guarded Keeps Permitted number job job.handler v := by
  cases job with
  | disconnect session => exact guarded_onDisconnect number session v
  | dispatch session e =>
    exact guarded_dispatchMessage (permitted_of_free _)
      (guarded_handleRoomOperation number _ session) e v

end Bodies

section Steps
variable {s : Server}

theorem seated_next (c : Call) {r : String} {u : Int} {id : SessionId}
    (h : memberSession (serverNext c s).roomService.activeRooms r u = some id) :
    memberSession s.roomService.activeRooms r u = some id ∨
      (∃ user name room, c = .joinRoom user name room id) ∨
      (∃ user name roomId, c = .createRoom user name roomId id) := by
  cases c with
  | joinRoom user name room other =>
    simp only [serverNext, memberSession_join] at h
    split at h
    · cases h
      exact Or.inr (Or.inl ⟨user, name, room, rfl⟩)
    · split at h
      · cases h
      · exact Or.inl h
  | createRoom user name roomId other =>
    simp only [serverNext, memberSession_create] at h
    split at h
    · cases h
      exact Or.inr (Or.inr ⟨user, name, roomId, rfl⟩)
    · exact Or.inl h
  | leaveRoom user name =>
    simp only [serverNext, memberSession_leave] at h
    split at h
    · cases h
    · exact Or.inl h
  | disconnectRoom other user =>
    simp only [serverNext] at h
    split at h
    · simp only [RoomService.disconnect, memberSession_vacate] at h
      split at h
      · cases h
      · exact Or.inl h
    · exact Or.inl h
  | updateUsername other newUsername =>
    simp only [serverNext, Server.updateUsername] at h
    split at h <;> exact Or.inl h
  | _ => exact Or.inl h

theorem byId_next (c : Call) {k : Int} {id : SessionId}
    (h : (serverNext c s).sessionManager.sessionsByUserId[k]? = some id) :
    s.sessionManager.sessionsByUserId[k]? = some id ∨
      ∃ l n, c = .registerAuthenticatedSession id l n := by
  cases c with
  | registerAuthenticatedSession other l n =>
    simp only [serverNext, byId_register] at h
    split at h
    · cases h
      exact Or.inr ⟨l, n, rfl⟩
    · exact Or.inl h
  | updateUsername other newUsername =>
    simp only [serverNext, byId_rename] at h
    exact Or.inl h
  | removeSession other =>
    simp only [serverNext] at h
    cases who : (s.session other).identity with
    | none =>
      rw [(indexes_remove_anonymous who).1] at h
      exact Or.inl h
    | some identity =>
      rw [byId_remove who] at h
      split at h
      · cases h
      · exact Or.inl h
  | disconnectRoom other user =>
    simp only [serverNext] at h
    split at h <;> exact Or.inl h
  | _ => exact Or.inl h

theorem byName_next (c : Call) {n : String} {id : SessionId}
    (h : (serverNext c s).sessionManager.sessionsByUsername[n]? = some id) :
    s.sessionManager.sessionsByUsername[n]? = some id ∨
      (∃ l m, c = .registerAuthenticatedSession id l m) ∨ ∃ m, c = .updateUsername id m := by
  cases c with
  | registerAuthenticatedSession other l m =>
    simp only [serverNext, byName_register] at h
    split at h
    · cases h
      exact Or.inr (Or.inl ⟨l, m, rfl⟩)
    · exact Or.inl h
  | updateUsername other newUsername =>
    cases name : (s.session other).username with
    | none =>
      simp only [serverNext, updateUsername_unnamed newUsername name] at h
      exact Or.inl h
    | some old =>
      simp only [serverNext, byName_rename newUsername n name] at h
      split at h
      · cases h
        exact Or.inr (Or.inr ⟨newUsername, rfl⟩)
      · split at h
        · cases h
        · exact Or.inl h
  | removeSession other =>
    simp only [serverNext] at h
    cases who : (s.session other).identity with
    | none =>
      rw [(indexes_remove_anonymous who).2] at h
      exact Or.inl h
    | some identity =>
      rw [byName_remove who] at h
      split at h
      · cases h
      · exact Or.inl h
  | disconnectRoom other user =>
    simp only [serverNext] at h
    split at h <;> exact Or.inl h
  | _ => exact Or.inl h

variable {v : ServerView} {job : Job} {c : Call}

theorem tidy_next (tidy : Tidy v.1.server) (permitted : Permitted job v c) (proper : Proper v c) :
    Tidy (serverNext c v.1.server) := by
  cases c with
  | registerAuthenticatedSession id k n => exact tidy_register tidy proper.2
  | updateUsername id newUsername => exact tidy_rename tidy newUsername
  | removeSession id => exact tidy_remove tidy
  | joinRoom user name room id => exact tidy_join tidy permitted name room
  | leaveRoom user name => exact tidy_leave tidy user name
  | createRoom user name roomId id => exact tidy_create tidy permitted proper.2 roomId
  | disconnectRoom id user =>
    simp only [serverNext]
    split
    · exact tidy_vacate tidy user
    · exact tidy
  | _ => exact tidy

theorem userId_next (tidy : Tidy v.1.server) (proper : Proper v c) {id : SessionId} {u : Int}
    (known : (v.1.server.session id).userId = some u) :
    ((serverNext c v.1.server).session id).userId = some u := by
  cases c with
  | registerAuthenticatedSession other k n =>
    simp only [serverNext, session_register]
    split
    · rename_i it
      obtain ⟨m, who⟩ := identity_of_userId tidy known
      rw [it] at who
      rw [(proper.2 u m who).1]
      rfl
    · exact known
  | updateUsername other newUsername =>
    cases name : (v.1.server.session other).username with
    | none =>
      simp only [serverNext, updateUsername_unnamed newUsername name]
      exact known
    | some old =>
      simp only [serverNext, session_rename newUsername id name]
      split
      · rename_i it
        rw [it] at known
        exact known
      · exact known
  | disconnectRoom other user =>
    simp only [serverNext]
    split <;> exact known
  | _ => exact known

end Steps

/-- Tidy entries, no seat after the room was cleared, no entry after the disconnect, and
    no disconnect that did not clear the room first. -/
structure GhostInvariant (v : ServerView) : Prop where
  tidy : Tidy v.1.server
  rooms : ∀ id, RoomCleared v.2 id → Seatless v.1.server id
  indexes : ∀ id, Finished v.2 id → Unlisted v.1.server id
  order : ∀ id, Finished v.2 id → RoomCleared v.2 id

section Invariant
variable {v : ServerView} {job : Job} {c : Call} (h : GhostInvariant v)
  (permitted : Permitted job v c) (proper : Proper v c)
include h permitted proper

theorem seatless_next {id : SessionId} (cleared : RoomCleared v.2 id) :
    Seatless (serverNext c v.1.server) id := by
  intro r u seated
  rcases seated_next c seated with before | ⟨user, name, room, same⟩ | ⟨user, name, roomId, same⟩
  · exact h.rooms id cleared r u before
  · subst same
    exact proper cleared
  · subst same
    exact proper.1 cleared

theorem unlisted_next {id : SessionId} (finished : Finished v.2 id) :
    Unlisted (serverNext c v.1.server) id := by
  obtain ⟨ids, names⟩ := h.indexes id finished
  constructor
  · intro k listed
    rcases byId_next c listed with before | ⟨l, n, same⟩
    · exact ids k before
    · subst same
      exact proper.1 finished
  · intro n listed
    rcases byName_next c listed with before | ⟨l, m, same⟩ | ⟨m, same⟩
    · exact names n before
    · subst same
      exact proper.1 finished
    · subst same
      exact proper finished

theorem seatless_cleared {id : SessionId}
    (clears : (∃ u, c = .disconnectRoom id u) ∨
      (c = .isAuthenticated id ∧ (v.1.server.session id).authenticated = false)) :
    Seatless (serverNext c v.1.server) id := by
  rcases clears with ⟨u, same⟩ | ⟨same, nobody⟩
  · subst same
    have known : (v.1.server.session id).userId = some u := permitted
    obtain ⟨n, who⟩ := identity_of_userId h.tidy known
    simp only [serverNext, (identity_some who).2.2]
    exact seatless_vacate h.tidy known
  · subst same
    exact seatless_unauthenticated h.tidy nobody

theorem ghostInvariant_called (number : Nat) (choice : Choice anyAnswers) :
    GhostInvariant (called v number job choice c) := by
  refine ⟨tidy_next h.tidy permitted proper, ?_, ?_, ?_⟩
  · intro id cleared
    obtain ⟨e, made, tag, clears⟩ := cleared
    rcases List.mem_append.mp made with old | new
    · exact seatless_next h permitted proper ⟨e, old, tag, clears⟩
    · rw [List.mem_singleton.mp new] at clears
      exact seatless_cleared h permitted proper clears
  · intro id finished
    obtain ⟨e, made, tag, removes⟩ := finished
    rcases List.mem_append.mp made with old | new
    · exact unlisted_next h permitted proper ⟨e, old, tag, removes⟩
    · rw [List.mem_singleton.mp new] at removes
      dsimp only at removes
      subst removes
      exact unlisted_remove h.tidy
  · intro id finished
    obtain ⟨e, made, tag, removes⟩ := finished
    have grows : v.2 ⊆ (called v number job choice c).2 := List.subset_append_left _ _
    rcases List.mem_append.mp made with old | new
    · exact roomCleared_mono grows (h.order id ⟨e, old, tag, removes⟩)
    · rw [List.mem_singleton.mp new] at removes
      dsimp only at removes
      subst removes
      exact roomCleared_mono grows permitted

end Invariant

theorem ghostInvariant_keep (v : ServerView) (number : Nat) (job : Job)
    (choice : Choice anyAnswers) (c : Call) (h : GhostInvariant v)
    (permitted : Permitted job v c) (proper : Proper v c) :
    GhostInvariant (called v number job choice c) ∧ Keeps v (called v number job choice c) :=
  ⟨ghostInvariant_called h permitted proper number choice,
    fun _ _ known => userId_next h.tidy proper known, List.subset_append_left _ _⟩

theorem ghostInvariant_start : GhostInvariant ((⟨.start, ()⟩, []) : ServerView) := by
  refine ⟨tidy_start, ?_, ?_, ?_⟩ <;>
  · intro id cleared
    obtain ⟨e, made, _⟩ := cleared
    cases made

section Runs
variable [Sha256]

/-- With any number of workers and in any interleaving: a run whose calls are all proper
    never leaves a session behind. -/
theorem no_ghosts (workers : Nat) (moves : List (Move (chat anyAnswers) Job))
    (proper : EveryStep (Pool.step workers Job.handler) (SafeMove Proper)
      (Pool.idle ⟨.start, ()⟩) moves) :
    EveryState (Pool.step workers Job.handler) NoGhost (Pool.idle ⟨.start, ()⟩) moves := by
  have kept : EveryState (Pool.step workers Job.handler) (fun p => GhostInvariant (view p))
      (Pool.idle ⟨.start, ()⟩) moves :=
    invariant_of_safe_moves keeps_trans ghostInvariant_keep keeps_refl guarded_job
      ghostInvariant_start proper
  exact everyState_mono
    (fun p h id finished => ⟨h.indexes id finished, h.rooms id (h.order id finished)⟩) kept

end Runs

section LateJoin

local instance : Sha256 := ⟨id⟩

def everythingFound : Nat → Choice anyAnswers := fun _ => ⟨fun q => match q with
  | .findByUsername name => .ok (some ⟨1, name, "pw", ""⟩)
  | .findByRoomName name => .ok (some ⟨1, name, 1⟩)
  | q => .ok q.fallback, none, ⟨0, 0⟩⟩

def login (session : SessionId) : Job := .dispatch session ⟨"", some (.loginRequest ⟨"ann", "pw"⟩)⟩

def join : Job := .dispatch 7 ⟨"", some (.roomOperationRequest ⟨.join, "hall"⟩)⟩

def loggedIn (session : SessionId) : List (Move (chat anyAnswers) Job) :=
  [.post (login session) everythingFound, .start, .advance 0, .advance 0, .advance 0, .advance 0]

def cameAndWent : List (Move (chat anyAnswers) Job) :=
  loggedIn 7 ++ ([.post join everythingFound, .start, .advance 0, .advance 0, .advance 0,
    .advance 0, .advance 0, .advance 0, .advance 0, .advance 0, .advance 0, .advance 0] ++
  [.post (.disconnect 7) everythingFound, .start, .advance 0, .advance 0, .advance 0, .advance 0,
    .advance 0, .advance 0, .advance 0, .advance 0])

def afterwards (moves : List (Move (chat anyAnswers) Job)) : Pool (chat anyAnswers) Job :=
  (Pool.idle (⟨.start, ()⟩ : World anyAnswers)).run 2 Job.handler moves

theorem not_roomCleared {log : List (Entry (chat anyAnswers) Job)} {id : SessionId}
    (stays : ∀ e ∈ log, e.tag ≠ .disconnect id) : ¬ RoomCleared log id := by
  intro cleared
  obtain ⟨e, made, tag, _⟩ := cleared
  exact stays e made tag

/-- She comes back on session 8 when session 7 is gone. -/
theorem no_ghosts_return : Finished (afterwards cameAndWent).log 7 ∧
    EveryState (Pool.step 2 Job.handler) NoGhost (Pool.idle ⟨.start, ()⟩)
      (cameAndWent ++ loggedIn 8) := by
  refine ⟨by decide, no_ghosts 2 (cameAndWent ++ loggedIn 8) ?_⟩
  simp only [cameAndWent, List.append_assoc, everyStep_append]
  refine ⟨⟨?_, ?_, ?_, ?_, ?_, ?_, trivial⟩,
    ⟨?_, ?_, ?_, ?_, ?_, ?_, ?_, ?_, ?_, ?_, ?_, ?_, trivial⟩,
    ⟨?_, ?_, ?_, ?_, ?_, ?_, ?_, ?_, ?_, ?_, trivial⟩, ⟨?_, ?_, ?_, ?_, ?_, ?_, trivial⟩⟩
  · exact safeMove_post _ _
  · exact safeMove_start
  · exact safeMove_call rfl rfl trivial
  · refine safeMove_call rfl rfl ⟨by decide, ?_⟩
    intro l m who
    cases who
  · exact safeMove_call rfl rfl trivial
  · exact safeMove_done rfl rfl
  · exact safeMove_post _ _
  · exact safeMove_start
  · exact safeMove_call rfl rfl trivial
  · exact safeMove_call rfl rfl trivial
  · exact safeMove_call rfl rfl trivial
  · exact safeMove_call rfl rfl trivial
  · exact safeMove_call rfl rfl (not_roomCleared (by decide))
  · exact safeMove_call rfl rfl trivial
  · exact safeMove_call rfl rfl trivial
  · exact safeMove_call rfl rfl trivial
  · exact safeMove_call rfl rfl trivial
  · exact safeMove_done rfl rfl
  · exact safeMove_post _ _
  · exact safeMove_start
  · exact safeMove_call rfl rfl trivial
  · exact safeMove_call rfl rfl trivial
  · exact safeMove_call rfl rfl trivial
  · exact safeMove_call rfl rfl trivial
  · exact safeMove_call rfl rfl trivial
  · exact safeMove_call rfl rfl trivial
  · exact safeMove_call rfl rfl trivial
  · exact safeMove_done rfl rfl
  · exact safeMove_post _ _
  · exact safeMove_start
  · exact safeMove_call rfl rfl trivial
  · refine safeMove_call rfl rfl ⟨by decide, ?_⟩
    intro l m who
    cases who
  · exact safeMove_call rfl rfl trivial
  · exact safeMove_done rfl rfl

/-- The disconnect of a session runs while its join is between the lookup and the
    locked block. -/
def lateJoin : List (Move (chat anyAnswers) Job) :=
  loggedIn 7 ++ [.post join everythingFound, .start, .advance 0, .advance 0, .advance 0, .advance 0,
    .post (.disconnect 7) everythingFound, .start, .advance 1, .advance 1, .advance 1,
    .advance 1, .advance 1, .advance 1, .advance 1, .advance 1, .advance 0]

theorem late_join_leaves_ghost : ¬ EveryState (Pool.step 2 Job.handler) NoGhost
    (Pool.idle ⟨.start, ()⟩) lateJoin := by
  intro all
  have last := everyState_last all
  obtain ⟨_, seatless⟩ := last 7 (by decide)
  exact seatless "hall" 1 (by decide)

end LateJoin

end GhostSessions
