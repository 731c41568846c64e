import ChatServer.Accounts.Handlers
import ChatServer.Model.Database

/-!
Which outcomes of its calls let a posted request return. A repository function that meets
an error of another category rethrows it, and no handler catches it; drawing a salt can
fail; a sender's name is looked up twice and the second answer is used unchecked. Nothing
else a handler does can throw.
-/
namespace WorkerExceptions
open AtomicCalls ChatProtocol ChatState ChatCalls ChatServices ChatEffects AccountHandlers

variable {E : Environment}

def Rethrown (choice : Choice E) (q : Query) (store : E.Store) : Prop :=
  E.answer choice.store q store = .error .otherCategory

theorem not_rethrown_iff {choice : Choice E} {q : Query} {store : E.Store} :
    ¬ Rethrown choice q store ↔ ∃ a, answered choice q store = .ok a := by
  unfold Rethrown answered
  cases answer : E.answer choice.store q store with
  | ok a => simp [catchLadder]
  | error e => cases e <;> simp [catchLadder]

def Returns (p : Handler) (choices : Nat → Choice E) (w : World E) : Prop :=
  p.result (chat E) choices w = .ok ()

section Accounts
variable [Sha256] (session : SessionId) (choices : Nat → Choice E) (w : World E)

def LoginReturns (m : LoginRequest) (choices : Nat → Choice E) (store : E.Store) : Prop :=
  ¬ Rethrown (choices 0) (.findByUsername m.username) store

def RegisterReturns (m : RegistrationRequest) (choices : Nat → Choice E) (store : E.Store) :
    Prop :=
  let found := answered (choices 0) (.findByUsername m.username) store
  ¬ Rethrown (choices 0) (.findByUsername m.username) store ∧
    (found = .ok none → (choices 1).salt ≠ none) ∧
    ∀ user, registered m found (choices 1).salt = some user →
      ¬ Rethrown (choices 2) (.addUser user) store

def ChangePasswordReturns (m : ChangePasswordRequest) (username : String)
    (choices : Nat → Choice E) (store : E.Store) : Prop :=
  let found := answered (choices 2) (.findByUsername username) store
  ¬ Rethrown (choices 2) (.findByUsername username) store ∧
    (∀ user, found = .ok (some user) → passwordRefusal m user = none →
      (choices 3).salt ≠ none) ∧
    ∀ user, repassworded m found (choices 3).salt = some user →
      ¬ Rethrown (choices 4) (.updateUser user) store

def ChangeUsernameReturns (m : ChangeUsernameRequest) (username : String)
    (choices : Nat → Choice E) (store : E.Store) : Prop :=
  let found := answered (choices 2) (.findByUsername username) store
  let taken := answered (choices 3) (.findByUsername m.newUsername) store
  ¬ Rethrown (choices 2) (.findByUsername username) store ∧
    (∀ user, found = .ok (some user) →
      ¬ Rethrown (choices 3) (.findByUsername m.newUsername) store) ∧
    ∀ user, renamed m found taken = some user → ¬ Rethrown (choices 4) (.updateUser user) store

theorem login_returns_iff (m : LoginRequest) :
    Returns (handleLogin session m) choices w ↔ LoginReturns m choices w.store := by
  unfold Returns handleLogin LoginReturns
  rw [not_rethrown_iff]
  simp [answered]
  split
  · rename_i found heq
    cases found with
    | none => simp [heq, sendError]
    | some user =>
      simp only [heq]
      split <;> simp [sendError]
  · rename_i e heq
    simp [heq]

theorem register_returns_iff (m : RegistrationRequest) :
    Returns (handleRegister session m) choices w ↔ RegisterReturns m choices w.store := by
  unfold Returns handleRegister RegisterReturns
  simp only [not_rethrown_iff]
  simp [answered]
  split
  · rename_i found heq
    cases found with
    | some user => simp [heq, registered, sendError]
    | none =>
      cases salt : (choices 1).salt with
      | none => simp [heq, salt]
      | some salt =>
        simp [heq, registered, salt]
        split
        · rename_i added answer
          cases added <;> simp [answer]
        · rename_i e answer
          simp [answer]
  · rename_i e heq
    simp [heq]

variable {session choices w} {userId : Int} {username : String}
  (who : (w.server.session session).identity = some (userId, username))
include who

theorem changePassword_returns_iff (m : ChangePasswordRequest) :
    Returns (handleChangePassword session m) choices w ↔
      ChangePasswordReturns m username choices w.store := by
  obtain ⟨present, -, name⟩ := identity_some who
  unfold Returns ChangePasswordReturns
  rw [handleChangePassword_eq]
  simp only [not_rethrown_iff]
  simp [answered, present, name]
  split
  · rename_i found heq
    cases found with
    | none => simp [heq, repassworded, sendError]
    | some user =>
      cases refusal : passwordRefusal m user with
      | some text =>
        cases salt : (choices 3).salt <;>
          simp [heq, repassworded, changePasswordOf, refusal, sendError]
      | none =>
        cases salt : (choices 3).salt with
        | none => simp [heq, changePasswordOf, refusal, salt]
        | some salt =>
          simp [heq, repassworded, changePasswordOf, refusal, salt]
          split
          · rename_i written answer
            simp [answer]
          · rename_i e answer
            simp [answer]
  · rename_i e heq
    simp [heq]

omit [Sha256] in
theorem changeUsername_returns_iff (m : ChangeUsernameRequest) :
    Returns (handleChangeUsername session m) choices w ↔
      ChangeUsernameReturns m username choices w.store := by
  obtain ⟨present, -, name⟩ := identity_some who
  unfold Returns ChangeUsernameReturns
  rw [handleChangeUsername_eq]
  simp only [not_rethrown_iff]
  simp [answered, present, name]
  split
  · rename_i found heq
    cases found with
    | none => simp [heq, renamed, sendError]
    | some user =>
      simp [heq]
      split
      · rename_i taken heq'
        cases taken with
        | some other => simp [heq', renamed, sendError]
        | none =>
          cases refusal : renameRefusal m user with
          | some text => simp [heq', renamed, changeUsernameOf, refusal, sendError]
          | none =>
            simp [heq', renamed, changeUsernameOf, refusal, name]
            split
            · rename_i written answer
              simp [answer, Except.map]
            · rename_i e answer
              simp [answer]
      · rename_i e heq'
        simp [heq']
  · rename_i e heq
    simp [heq]

end Accounts

section Rooms
variable {session : SessionId} {choices : Nat → Choice E} {w : World E} {userId : Int}
  {username : String} (who : (w.server.session session).identity = some (userId, username))

def Closing (session : SessionId) : Call → Prop
  | .getUsername id => id = session
  | .recipients _ _ => True
  | .send _ _ => True
  | _ => False

theorem closing_sendAll (recipients : List SessionId) (e : Envelope) :
    (sendAll recipients e).Uses (Closing session) :=
  uses_sendAll (fun _ => trivial) recipients

theorem closing_notifyRoom (event : UserEventType) (roomname : String) :
    (notifyRoom session event userId roomname).Uses (Closing session) := by
  have named : Closing session (.getUsername session) := rfl
  have looked : ∀ roomname, Closing session (.recipients roomname userId) := fun _ => trivial
  have sent : ∀ username shown id,
      Closing session (.send id (presence event userId username shown)) := fun _ _ _ => trivial
  exact uses_notifyRoom named looked sent roomname

theorem closing_returns {p : Handler} (closing : p.Uses (Closing session))
    (choices : Nat → Choice E) {now : World E}
    (named : (now.server.session session).username.isSome = true) :
    p.result (chat E) choices now = .ok () := by
  have answers : ∀ choice c (s : World E), Closing session c →
      (s.server.session session).username.isSome = true → ∃ a, callAnswer E choice c s = .ok a := by
    intro choice c s ends has_name
    cases c with
    | getUsername id =>
      have own : id = session := ends
      subst own
      obtain ⟨name, same⟩ := Option.isSome_iff_exists.mp has_name
      simp [same]
    | recipients roomName exclude => exact ⟨_, rfl⟩
    | send id e => exact ⟨_, rfl⟩
    | _ => exact False.elim ends
  have keep : ∀ (_ : Choice E) c (s : World E), Closing session c →
      (s.server.session session).username.isSome = true →
      ((serverNext c s.server).session session).username.isSome = true := by
    intro choice c s ends has_name
    cases c with
    | getUsername id => exact has_name
    | recipients roomName exclude => exact has_name
    | send id e => exact has_name
    | _ => exact False.elim ends
  obtain ⟨a, returned⟩ := result_ok (M := chat E)
    (fun s => (s.server.session session).username.isSome = true) answers keep closing choices named
  exact returned

def RoomReturns (m : RoomOperationRequest) (userId : Int) (choices : Nat → Choice E)
    (store : E.Store) : Prop :=
  match m.operation with
  | .join => ¬ Rethrown (choices 2) (.findByRoomName m.roomName) store
  | .create => ¬ Rethrown (choices 2) (.findByRoomName m.roomName) store ∧
    (roomFound choices m.roomName store = .ok none →
      ¬ Rethrown (choices 3) (.addRoom ⟨0, m.roomName, userId⟩) store)
  | _ => True

include who

theorem room_returns_iff (m : RoomOperationRequest) :
    Returns (handleRoomOperation session m) choices w ↔
      RoomReturns m userId choices w.store := by
  obtain ⟨present, id, name⟩ := identity_some who
  unfold Returns handleRoomOperation RoomReturns
  simp only [not_rethrown_iff]
  simp [present, id]
  have closing : ∀ event operation message,
      (notifyRoom session event userId m.roomName >>= fun _ =>
        sendRoomResponse session true operation m.roomName message).Uses (Closing session) :=
    fun event operation message => uses_bind (closing_notifyRoom event m.roomName)
      fun _ => ⟨trivial, fun _ => trivial⟩
  cases op : m.operation with
  | join =>
    simp [answered]
    split
    · rename_i found heq
      cases found with
      | none => simp [heq, sendRoomResponse]
      | some room =>
        simp [heq]
        exact closing_returns (closing _ _ _) _ (by simp [name])
    · rename_i e heq
      simp [heq]
  | leave =>
    simp
    exact closing_returns (closing _ _ _) _ (by simp [name])
  | create =>
    simp [roomFound, answered]
    split
    · rename_i found heq
      cases found with
      | some room => simp [heq, sendRoomResponse]
      | none =>
        simp [heq]
        split
        · rename_i added answer
          cases added <;> simp [answer, sendRoomResponse]
        · rename_i e answer
          simp [answer]
    · rename_i e heq
      simp [heq]
  | other value => simp [sendRoomResponse]

end Rooms

section Messages
variable {session : SessionId} {choices : Nat → Choice E} {w : World E} {userId : Int}
  {username : String}

/-- Each sender is found, or not found, by two lookups in a row that agree. -/
def SendersStay : List Message → (Nat → Choice E) → E.Store → Prop
  | [], _, _ => True
  | msg :: rest, choices, store =>
    match answered (choices 0) (.findByUserId msg.senderId) store with
    | .error _ => False
    | .ok none => SendersStay rest (later choices) store
    | .ok (some _) =>
      (∃ user, answered (choices 1) (.findByUserId msg.senderId) store = .ok (some user)) ∧
        SendersStay rest (later (later choices)) store

theorem historyMessages_returns_iff (roomname : String) (messages : List Message)
    (choices : Nat → Choice E) (next : List MessageBroadcast → Handler)
    (goes_on : ∀ history choices, Returns (next history) choices w) :
    Returns (historyMessages roomname messages >>= next) choices w ↔
      SendersStay messages choices w.store := by
  induction messages generalizing choices next with
  | nil => exact iff_of_true (goes_on [] choices) trivial
  | cons msg rest ih =>
    have tail : ∀ name choices, Returns (historyMessages roomname rest >>= fun others =>
        next (⟨toString msg.senderId, name, msg.content,
          some (convertTimePointToTimestamp msg.createdAt), some roomname⟩ :: others)) choices w ↔
        SendersStay rest choices w.store :=
      fun name choices => ih choices _ (fun history choices => goes_on _ choices)
    unfold Returns at tail ⊢
    simp only [historyMessages, bind_assoc, senderName, perform_bind, call_bind, SendersStay,
      Program.result, callAnswer, answered, serverNext, storeNext]
    split
    · rename_i first heq
      cases first with
      | none =>
        simp only [heq, pure_eq_done, done_bind]
        exact tail "Unknown" (later choices)
      | some user =>
        simp only [heq, call_bind, Program.result, callAnswer, later_apply]
        split
        · rename_i again heq'
          cases again with
          | none => simp [heq']
          | some user =>
            simp only [heq', pure_eq_done, done_bind, Except.ok.injEq, Option.some.injEq,
              exists_eq', true_and]
            exact tail user.username (later (later choices))
        · rename_i e heq'
          simp [heq']
    · rename_i e heq
      simp [heq]

def HistoryReturns (m : HistoryMessageRequest) (userId : Int) (choices : Nat → Choice E)
    (w : World E) : Prop :=
  let roomId := w.server.roomService.getUserCurrentRoomId userId
  let limit := if 0 < m.limit then m.limit else 50
  w.server.roomService.userToRoomMap[userId]? = some m.roomName →
    ∃ messages, answered (choices 5) (.findLatestByRoomId roomId limit) w.store = .ok messages ∧
      SendersStay messages.reverse (fun n => choices (n + 6)) w.store

def PublicReturns (m : PublicMessage) (userId : Int) (choices : Nat → Choice E)
    (w : World E) : Prop :=
  let roomId := w.server.roomService.getUserCurrentRoomId userId
  w.server.roomService.getUserCurrentRoomName userId ≠ "" →
    ¬ Rethrown (choices 4) (.addMessage ⟨0, roomId, userId, m.content, 0⟩) w.store

variable (who : (w.server.session session).identity = some (userId, username))
include who

theorem history_returns_iff (m : HistoryMessageRequest) :
    Returns (handleHistoryRequest session m) choices w ↔ HistoryReturns m userId choices w := by
  obtain ⟨present, id, -⟩ := identity_some who
  by_cases inside : w.server.roomService.userToRoomMap[userId]? = some m.roomName
  · have sends : ∀ history (choices : Nat → Choice E), Returns (do
        call (.send session (envelope (.historyMessageResponse ⟨m.roomName, history⟩))))
        choices w := by
      intro history choices
      simp [Returns]
    have history := fun messages choices =>
      historyMessages_returns_iff m.roomName messages choices _ sends
    unfold Returns handleHistoryRequest HistoryReturns
    simp [present, id, inside, answered]
    split
    · rename_i messages heq
      simp [heq]
      exact history messages.reverse _
    · rename_i e heq
      simp [heq]
  · unfold Returns handleHistoryRequest HistoryReturns
    simp [present, id, inside]

theorem public_returns_iff (m : PublicMessage) :
    Returns (handlePublicMessage session m) choices w ↔ PublicReturns m userId choices w := by
  obtain ⟨present, id, name⟩ := identity_some who
  unfold Returns handlePublicMessage PublicReturns
  simp only [not_rethrown_iff]
  by_cases roomless : w.server.roomService.getUserCurrentRoomName userId = ""
  · simp [present, id, name, roomless, sendCodedError]
  · have closing : ∀ roomName e, (broadcastToRoom roomName e 0).Uses (Closing session) :=
      fun roomName e => ⟨trivial, fun recipients => closing_sendAll recipients e⟩
    simp [present, id, name, roomless, answered]
    split
    · rename_i written heq
      simp [heq]
      exact closing_returns (closing _ _) _ (by simp [name])
    · rename_i e heq
      simp [heq]

theorem private_returns (m : PrivateMessageRequest) :
    Returns (handlePrivateMessage session m) choices w := by
  obtain ⟨present, id, name⟩ := identity_some who
  unfold Returns handlePrivateMessage
  by_cases roomless : w.server.roomService.getUserCurrentRoomName userId = ""
  · simp [present, id, name, roomless, sendCodedError]
  · simp [present, id, name, roomless]
    cases found : w.server.sessionManager.sessionsByUsername[m.toUsername]? with
    | none => simp [name, sendCodedError]
    | some acceptSession =>
      simp
      by_cases online : (w.server.session acceptSession).authenticated = true
      · obtain ⟨accept, acceptName, other⟩ := identity_authenticated online
        obtain ⟨-, acceptId, -⟩ := identity_some other
        by_cases same : accept = userId
        · simp [online, acceptId, same, name, sendCodedError]
        · simp [online, acceptId, same]
      · simp [online, name, sendCodedError]

end Messages

section Dispatch
variable [Sha256] {session : SessionId} {choices : Nat → Choice E} {w : World E}

def RequestReturns (userId : Int) (username : String) (choices : Nat → Choice E) (w : World E) :
    Option Payload → Prop
  | some (.changePasswordRequest m) => ChangePasswordReturns m username choices w.store
  | some (.changeUsernameRequest m) => ChangeUsernameReturns m username choices w.store
  | some (.publicMessage m) => PublicReturns m userId choices w
  | some (.roomOperationRequest m) => RoomReturns m userId choices w.store
  | some (.historyMessageRequest m) => HistoryReturns m userId choices w
  | _ => True

/-- The outcomes with which a posted request returns. -/
def DispatchReturns (session : SessionId) (e : Envelope) (choices : Nat → Choice E)
    (w : World E) : Prop :=
  match e.payload with
  | some (.loginRequest m) => LoginReturns m choices w.store
  | some (.registrationRequest m) => RegisterReturns m choices w.store
  | payload => match (w.server.session session).identity with
    | some (userId, username) => RequestReturns userId username (later choices) w payload
    | none => True

theorem authenticated_returns_iff {userId : Int} {username : String}
    (who : (w.server.session session).identity = some (userId, username))
    (payload : Option Payload) :
    Returns (dispatchAuthenticated session payload) choices w ↔
      RequestReturns userId username choices w payload := by
  cases payload with
  | none => exact iff_of_true rfl trivial
  | some payload =>
    cases payload with
    | changePasswordRequest m => exact changePassword_returns_iff who m
    | changeUsernameRequest m => exact changeUsername_returns_iff who m
    | publicMessage m => exact public_returns_iff who m
    | privateMessageRequest m => exact iff_of_true (private_returns who m) trivial
    | roomOperationRequest m => exact room_returns_iff who m
    | historyMessageRequest m => exact history_returns_iff who m
    | _ => exact iff_of_true rfl trivial

theorem gate_returns_iff (payload : Option Payload) :
    Returns (requireAuthentication session (dispatchAuthenticated session payload)) choices w ↔
      match (w.server.session session).identity with
      | some (userId, username) => RequestReturns userId username (later choices) w payload
      | none => True := by
  cases who : (w.server.session session).identity with
  | none =>
    simp [Returns, requireAuthentication, identity_none who, sendError]
  | some identity =>
    obtain ⟨userId, username⟩ := identity
    obtain ⟨present, -, -⟩ := identity_some who
    have inside : Returns (dispatchAuthenticated session payload) (later choices) w ↔
        RequestReturns userId username (later choices) w payload :=
      authenticated_returns_iff who payload
    simp only
    rw [← inside]
    simp [Returns, requireAuthentication, present]

/-- For every envelope, session, state and outcome of the calls: the posted task returns
    exactly when none of the named calls fails in a way that the server does not catch. -/
theorem dispatch_returns_iff (session : SessionId) (e : Envelope) (choices : Nat → Choice E)
    (w : World E) :
    Returns (dispatchMessage session e) choices w ↔ DispatchReturns session e choices w := by
  obtain ⟨messageId, payload⟩ := e
  cases payload with
  | none => exact gate_returns_iff none
  | some payload =>
    cases payload with
    | loginRequest m => exact login_returns_iff session choices w m
    | registrationRequest m => exact register_returns_iff session choices w m
    | _ => exact gate_returns_iff _

end Dispatch

section LongName

local instance : ChatDatabase.Collation := ⟨id⟩

local instance : Sha256 := ⟨id⟩

def longName : String := "aaaaaaaaaaaaaaaaaaaaaaaaaaaaaaaaaaaaaaaaaaaaaaaaaaa"

def noErrors : Nat → Choice ChatDatabase.database :=
  fun _ => ⟨⟨none, 0, fun _ => 0⟩, some "salt", ⟨0, 0⟩⟩

/-- The insert is refused with an error that addUser rethrows. -/
theorem long_name_ends_worker :
    ¬ Returns (dispatchMessage 1 ⟨"", some (.registrationRequest ⟨longName, "pw"⟩)⟩) noErrors
      ⟨.start, .empty⟩ := by
  intro returned
  cases returned

end LongName

end WorkerExceptions
