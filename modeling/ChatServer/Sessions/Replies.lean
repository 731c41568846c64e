import ChatServer.Failures.Exceptions
import ChatServer.Rooms.ClientRooms
import ChatServer.Sessions.Disconnect

/-!
What the sender of a request hears. Most handlers end with their only reply, so they
answer exactly when they return. A history of another room is not answered at all, a JOIN
of an unknown room is answered before the room is named, and a public message comes back
to its sender through the room.
-/
namespace RequestReplies
open AtomicCalls EventRuns ChatProtocol ChatState ChatCalls ChatServices ChatEffects
  AccountHandlers JobEffects RoomMaps SessionMaps WorkerExceptions
open ClientRooms (forClient)
open ExactDisconnect (History historyStep annLogsIn)

def IsRequest : Payload → Prop
  | .loginRequest _ => True
  | .registrationRequest _ => True
  | .changePasswordRequest _ => True
  | .changeUsernameRequest _ => True
  | .publicMessage _ => True
  | .privateMessageRequest _ => True
  | .roomOperationRequest _ => True
  | .historyMessageRequest _ => True
  | _ => False

/-- A response, an error, or a broadcast of the session's own user. -/
def IsReply (s : Server) (session : SessionId) (e : Envelope) : Prop :=
  match e.payload with
  | some (.loginResponse _) => True
  | some (.registrationResponse _) => True
  | some (.changePasswordResponse _) => True
  | some (.changeUsernameResponse _) => True
  | some (.roomOperationResponse _) => True
  | some (.historyMessageResponse _) => True
  | some (.errorResponse _) => True
  | some (.messageBroadcast m) =>
    ∃ user, (s.session session).userId = some user ∧ m.fromUserId = toString user
  | _ => False

def Echoes (m : RoomOperationRequest) (e : Envelope) : Prop :=
  ∃ response, e = envelope (.roomOperationResponse response) ∧
    response.operation = m.operation ∧ response.roomName = m.roomName

/-- The session is sent one envelope, a reply, and an echo for a room operation. -/
def Answered (s : Server) (session : SessionId) (payload : Payload)
    (sent : List (SessionId × Envelope)) : Prop :=
  ∃ e, forClient session sent = [e] ∧ IsReply s session e ∧
    ∀ m, payload = .roomOperationRequest m → (s.session session).authenticated = true → Echoes m e

section Sent
variable {session : SessionId}

@[simp] theorem forClient_append (first second : List (SessionId × Envelope)) :
    forClient session (first ++ second) = forClient session first ++ forClient session second := by
  simp [forClient]

@[simp] theorem forClient_own (e : Envelope) : forClient session [(session, e)] = [e] := by
  simp [forClient]

variable (session) in
theorem forClient_map (ids : List SessionId) (e : Envelope) :
    forClient session (ids.map (fun id => (id, e))) = List.replicate (ids.count session) e := by
  induction ids with
  | nil => rfl
  | cons id rest ih =>
    rw [List.map_cons, ← List.singleton_append, forClient_append, ih]
    by_cases same : id = session
    · simp [same, List.replicate_succ]
    · simp [forClient, same]

theorem reply_broadcast {s : Server} {user : Int} {m : MessageBroadcast}
    (known : (s.session session).userId = some user) (sender : m.fromUserId = toString user) :
    IsReply s session (envelope (.messageBroadcast m)) := ⟨user, known, sender⟩

theorem not_answered_silent {s : Server} {payload : Payload} : ¬ Answered s session payload [] := by
  intro answered
  obtain ⟨e, one, _⟩ := answered
  cases one

theorem answered_reply {s : Server} {payload : Payload} {e : Envelope}
    (other : ∀ m, payload ≠ .roomOperationRequest m) (reply : IsReply s session e) :
    Answered s session payload [(session, e)] :=
  ⟨e, forClient_own e, reply, fun m asked => absurd asked (other m)⟩

end Sent

section LastCall
variable {E : Environment} {session : SessionId} {choices : Nat → Choice E} {w : World E}

def RepliesLast (session : SessionId) : Handler → Prop
  | .done _ => False
  | .call (.send id e) rest => id = session ∧ (∀ s, IsReply s session e) ∧ rest () = .done ()
  | .call (.disconnectRoom _ _) _ => False
  | .call _ rest => ∀ a, RepliesLast session (rest a)

/-- The handler sends a reply if it returns, and nothing if it throws. -/
def RepliesOnce (session : SessionId) (p : Handler) (choices : Nat → Choice E) (w : World E) :
    Prop :=
  (Returns p choices w ∧ ∃ e, (∀ s, IsReply s session e) ∧
      p.output (chat E) choices w = [(session, e)]) ∨
    (¬ Returns p choices w ∧ p.output (chat E) choices w = [])

theorem repliesOnce_call {c : Call} {rest : c.Answer → Handler} {a : c.Answer}
    (silent : callEmit c w.server = []) (answer : callAnswer E (choices 0) c w = .ok a)
    (tail : RepliesOnce session (rest a) (later choices)
      ⟨serverNext c w.server, storeNext E (choices 0) c w.store⟩) :
    RepliesOnce session (.call c rest) choices w := by
  unfold RepliesOnce Returns at tail ⊢
  simp only [Program.result, output_call, silent, answer, List.nil_append]
  exact tail

theorem repliesOnce_throws {c : Call} {rest : c.Answer → Handler} {e : Exception}
    (silent : callEmit c w.server = []) (answer : callAnswer E (choices 0) c w = .error e) :
    RepliesOnce session (.call c rest) choices w := by
  unfold RepliesOnce Returns
  simp only [Program.result, output_call, silent, answer, List.nil_append]
  exact Or.inr ⟨nofun, trivial⟩

theorem repliesOnce_of_last {p : Handler} (last : RepliesLast session p) :
    RepliesOnce session p choices w := by
  induction p generalizing choices w with
  | done a => exact last.elim
  | call c rest ih =>
    have silent : (∀ a, RepliesLast session (rest a)) → callEmit c w.server = [] →
        RepliesOnce session (.call c rest) choices w := by
      intro later quiet
      cases answer : callAnswer E (choices 0) c w with
      | error e => exact repliesOnce_throws quiet answer
      | ok a => exact repliesOnce_call quiet answer (ih a (later a))
    cases c with
    | send id e =>
      obtain ⟨same, reply, ends⟩ := last
      subst same
      exact Or.inl ⟨by simp [Returns, ends], e, reply, by simp [ends]⟩
    | disconnectRoom id user => exact last.elim
    | _ => exact silent last rfl

theorem last_response {e : Envelope} (reply : ∀ s, IsReply s session e) :
    RepliesLast session (call (.send session e)) := ⟨rfl, reply, rfl⟩

theorem last_sendError (message : String) : RepliesLast session (sendError session message) :=
  last_response (fun _ => trivial)

section Accounts
variable [Sha256]

theorem last_handleLogin (m : LoginRequest) : RepliesLast session (handleLogin session m) := by
  intro found
  cases found with
  | none => exact last_sendError _
  | some user =>
    dsimp only [Program.bind]
    split
    · intro _
      exact last_response (fun _ => trivial)
    · exact last_sendError _

theorem last_handleRegister (m : RegistrationRequest) :
    RepliesLast session (handleRegister session m) := by
  intro found
  cases found with
  | some user => exact last_sendError _
  | none =>
    intro salt added
    cases added <;> exact last_response (fun _ => trivial)

theorem last_handleChangePassword (m : ChangePasswordRequest) :
    RepliesLast session (handleChangePassword session m) := by
  rw [handleChangePassword_eq]
  intro present
  cases present with
  | false => exact last_sendError _
  | true =>
    intro username found
    cases found with
    | none => exact last_sendError _
    | some user =>
      dsimp only [Program.bind, changePasswordOf]
      split
      · exact last_sendError _
      · intro salt written
        exact last_response (fun _ => trivial)

omit [Sha256] in
theorem last_handleChangeUsername (m : ChangeUsernameRequest) :
    RepliesLast session (handleChangeUsername session m) := by
  rw [handleChangeUsername_eq]
  intro present
  cases present with
  | false => exact last_sendError _
  | true =>
    intro username found
    cases found with
    | none => exact last_sendError _
    | some user =>
      intro taken
      cases taken with
      | some other => exact last_sendError _
      | none =>
        dsimp only [Program.bind, changeUsernameOf]
        split
        · exact last_sendError _
        · intro written renamed
          exact last_response (fun _ => trivial)

end Accounts

theorem answered_once_iff {p : Handler} (once : RepliesOnce session p choices w) {s : Server}
    {payload : Payload} (other : ∀ m, payload ≠ .roomOperationRequest m) :
    Answered s session payload (p.output (chat E) choices w) ↔ Returns p choices w := by
  rcases once with ⟨returns, e, reply, sent⟩ | ⟨throws, nothing⟩
  · rw [sent]
    exact iff_of_true (answered_reply other (reply s)) returns
  · rw [nothing]
    exact iff_of_false not_answered_silent throws

variable (choices w) in
theorem answered_last_iff {p : Handler} (last : RepliesLast session p) (s : Server)
    (payload : Payload) (other : ∀ m, payload ≠ .roomOperationRequest m) :
    Answered s session payload (p.output (chat E) choices w) ↔ Returns p choices w :=
  answered_once_iff (repliesOnce_of_last last) other

end LastCall

section Rooms
variable {E : Environment} {session : SessionId} {choices : Nat → Choice E} {w : World E}
  {userId : Int} {username : String}

def OnlyOwnSeats (s : Server) (session : SessionId) (userId : Int) : Prop :=
  ∀ name user, memberSession s.roomService.activeRooms name user = some session → user = userId

theorem not_recipient {r : RoomService} {name : String}
    (own : ∀ user, memberSession r.activeRooms name user = some session → user = userId) :
    session ∉ r.recipients name userId := by
  intro sent
  obtain ⟨user, other, seat⟩ := mem_recipients.mp sent
  exact other (own user seat)

theorem forClient_notified {r : RoomService} {roomname : String} (notice e : Envelope)
    (absent : session ∉ r.recipients roomname userId) :
    forClient session ((r.recipients roomname userId).map (fun id => (id, notice)) ++
      [(session, e)]) = [e] := by
  rw [forClient_append, forClient_map, List.count_eq_zero.mpr absent, forClient_own]
  rfl

theorem answered_echo {s : Server} {m : RoomOperationRequest} {sent : List (SessionId × Envelope)}
    {success : Bool} {message : String} (heard : forClient session sent =
      [envelope (.roomOperationResponse ⟨success, m.operation, m.roomName, message⟩)]) :
    Answered s session (.roomOperationRequest m) sent := by
  refine ⟨_, heard, trivial, ?_⟩
  intro m' asked _
  cases asked
  exact ⟨_, rfl, rfl, rfl⟩

/-- A JOIN of an unknown room is answered for the room "". -/
def Names (m : RoomOperationRequest) (found : Except Exception (Option Room)) : Prop :=
  m.operation = .join → found = .ok none → m.roomName = ""

variable (who : (w.server.session session).identity = some (userId, username))
include who

theorem answered_room_iff (own : OnlyOwnSeats w.server session userId) (m : RoomOperationRequest) :
    Answered w.server session (.roomOperationRequest m)
        ((handleRoomOperation session m).output (chat E) choices w) ↔
      RoomReturns m userId choices w.store ∧ Names m (roomFound choices m.roomName w.store) := by
  rw [output_handleRoomOperation m choices who]
  simp only [RoomReturns, Names, not_rethrown_iff]
  unfold roomFound roomAdded
  generalize answered (choices 2) (.findByRoomName m.roomName) w.store = found
  generalize answered (choices 3) (.addRoom ⟨0, m.roomName, userId⟩) w.store = added
  obtain ⟨operation, roomName⟩ := m
  have heard : ∀ (q : RoomService) (notice e : Envelope),
      (∀ user, user ≠ userId → memberSession q.activeRooms roomName user = some session →
        memberSession w.server.roomService.activeRooms roomName user = some session) →
      forClient session ((q.recipients roomName userId).map (fun id => (id, notice)) ++
        [(session, e)]) = [e] := by
    intro q notice e sub
    apply forClient_notified
    apply not_recipient
    intro user seat
    by_contra other
    exact other (own roomName user (sub user other seat))
  cases operation with
  | join =>
    cases found with
    | error e => simp [roomSends, not_answered_silent]
    | ok found =>
      cases found with
      | none =>
        simp only [Except.ok.injEq, exists_eq', true_and, forall_const]
        constructor
        · intro answered
          obtain ⟨e, heard, _, echo⟩ := answered
          obtain ⟨response, same, _, named⟩ := echo _ rfl (identity_some who).1
          simp only [roomSends, forClient_own, List.cons.injEq, and_true] at heard
          rw [same] at heard
          cases heard
          exact named.symm
        · intro nameless
          subst nameless
          exact answered_echo (forClient_own _)
      | some room =>
        simp only [roomSends]
        refine iff_of_true (answered_echo (heard _ _ _ ?_)) (by simp)
        intro user other seat
        simpa [memberSession_join, other] using seat
  | leave =>
    refine iff_of_true (answered_echo (heard _ _ _ ?_)) (by simp)
    intro user other seat
    simpa [memberSession_leave, other] using seat
  | create =>
    cases found with
    | error e => simp [roomSends, not_answered_silent]
    | ok found =>
      cases found with
      | some room => exact iff_of_true (answered_echo (forClient_own _)) (by simp)
      | none =>
        cases added with
        | error e => simp [roomSends, not_answered_silent]
        | ok added =>
          cases added with
          | none => exact iff_of_true (answered_echo (forClient_own _)) (by simp)
          | some roomId => exact iff_of_true (answered_echo (forClient_own _)) (by simp)
  | other value => exact iff_of_true (answered_echo (forClient_own _)) (by simp)

end Rooms

section Messages
variable {E : Environment} {session : SessionId} {choices : Nat → Choice E} {w : World E}
  {userId : Int} {username : String}

def SeatedHere (s : Server) (session : SessionId) (userId : Int) : Prop :=
  ∀ name : String, s.roomService.userToRoomMap[userId]? = some name →
    memberSession s.roomService.activeRooms name userId = some session

variable (who : (w.server.session session).identity = some (userId, username))
include who

theorem answered_public_iff (own : OnlyOwnSeats w.server session userId)
    (seated : SeatedHere w.server session userId) (m : PublicMessage) :
    Answered w.server session (.publicMessage m)
        ((handlePublicMessage session m).output (chat E) choices w) ↔
      PublicReturns m userId choices w ∧
        (w.server.roomService.getUserCurrentRoomName userId ≠ "" → userId ≠ 0) := by
  rw [output_handlePublicMessage m choices who]
  unfold publicSends PublicReturns
  by_cases roomless : w.server.roomService.getUserCurrentRoomName userId = ""
  · simp only [roomless, ↓reduceIte, ne_eq, not_true_eq_false, false_implies, and_self, iff_true]
    exact answered_reply (by simp) trivial
  · have seat := seated _ ((currentName_iff roomless).mp rfl)
    simp only [roomless, ↓reduceIte, ne_eq, not_false_eq_true, forall_const, not_rethrown_iff]
    generalize answered (choices 4) _ w.store = written
    cases written with
    | error e => simp [not_answered_silent]
    | ok written =>
      simp only [Except.ok.injEq, exists_eq', true_and]
      by_cases zero : userId = 0
      · apply iff_of_false _ (fun some_id => some_id zero)
        intro answered
        obtain ⟨e, heard, _⟩ := answered
        have absent : (w.server.roomService.recipients
            (w.server.roomService.getUserCurrentRoomName userId) 0).count session = 0 := by
          apply count_recipients_zero.mpr
          intro user other held
          exact other ((own _ user held).trans zero)
        rw [forClient_map, absent] at heard
        cases heard
      · apply iff_of_true _ zero
        have once := (count_recipients_one zero seat).mpr (fun user _ held => own _ user held)
        have heard := forClient_map session (w.server.roomService.recipients
          (w.server.roomService.getUserCurrentRoomName userId) 0) (envelope (.messageBroadcast
          ⟨toString userId, username, m.content, some (choices 6).now,
            some (w.server.roomService.getUserCurrentRoomName userId)⟩))
        rw [once] at heard
        exact ⟨_, heard, reply_broadcast (identity_some who).2.1 rfl, by simp⟩

theorem answered_private (m : PrivateMessageRequest) :
    Answered w.server session (.privateMessageRequest m)
      ((handlePrivateMessage session m).output (chat E) choices w) := by
  rw [output_handlePrivateMessage m choices who]
  unfold privateSends
  dsimp only
  split
  · exact answered_reply (by simp) trivial
  · split
    · exact answered_reply (by simp) trivial
    · rename_i accept _
      split
      · exact answered_reply (by simp) trivial
      · rename_i acceptId _ found
        split
        · exact answered_reply (by simp) trivial
        · rename_i other
          have apart : accept ≠ session := by
            intro same
            rw [same, who] at found
            cases found
            exact other rfl
          have heard : ∀ e, forClient session [(accept, e), (session, e)] = [e] := by
            intro e
            simp [forClient, apart]
          exact ⟨_, heard _, reply_broadcast (identity_some who).2.1 rfl, by simp⟩

omit who in
theorem last_history (roomname : String) (messages : List Message)
    {next : List MessageBroadcast → Handler} (ends : ∀ history, RepliesLast session (next history)) :
    RepliesLast session (historyMessages roomname messages >>= next) := by
  induction messages generalizing next with
  | nil => exact ends []
  | cons msg rest ih =>
    simp only [historyMessages, bind_assoc, senderName, perform_bind, call_bind]
    intro found
    cases found with
    | none => exact ih (fun _ => ends _)
    | some user =>
      intro again
      cases again with
      | none =>
        intro impossible
        cases impossible
      | some user => exact ih (fun _ => ends _)

theorem answered_history_iff (m : HistoryMessageRequest) :
    Answered w.server session (.historyMessageRequest m)
        ((handleHistoryRequest session m).output (chat E) choices w) ↔
      HistoryReturns m userId choices w ∧
        w.server.roomService.userToRoomMap[userId]? = some m.roomName := by
  obtain ⟨present, id, -⟩ := identity_some who
  by_cases inside : w.server.roomService.userToRoomMap[userId]? = some m.roomName
  · rw [and_iff_left inside, ← history_returns_iff who m]
    apply answered_once_iff _ (by simp)
    unfold handleHistoryRequest
    simp only [perform_bind]
    apply repliesOnce_call (c := .isAuthenticated session) (a := true) rfl (by simp [present])
    apply repliesOnce_call (c := .getUserId session) (a := userId) rfl (by simp [id])
    apply repliesOnce_call (c := .isInRoom userId m.roomName) (a := true) rfl (by simp [inside])
    apply repliesOnce_of_last
    intro current roomId messages
    exact last_history m.roomName messages.reverse (fun _ => last_response (fun _ => trivial))
  · apply iff_of_false _ (fun both => inside both.2)
    unfold handleHistoryRequest
    simp [present, id, inside, not_answered_silent]

end Messages

section Dispatch
variable [Sha256] {E : Environment} {session : SessionId} {choices : Nat → Choice E} {w : World E}

/-- The room of a JOIN can be named, the history is of the user's room, and a message to a
    room is not from the user that is left out. -/
def RequestHeard (s : Server) (userId : Int) (choices : Nat → Choice E) (store : E.Store) :
    Payload → Prop
  | .roomOperationRequest m => Names m (roomFound choices m.roomName store)
  | .historyMessageRequest m => s.roomService.userToRoomMap[userId]? = some m.roomName
  | .publicMessage _ => s.roomService.getUserCurrentRoomName userId ≠ "" → userId ≠ 0
  | _ => True

def Heard (session : SessionId) (payload : Payload) (choices : Nat → Choice E) (w : World E) :
    Prop :=
  ∀ userId username, (w.server.session session).identity = some (userId, username) →
    RequestHeard w.server userId (later choices) w.store payload

/-- The seats of the session are those of its user. -/
def Home (s : Server) (session : SessionId) : Prop :=
  ∀ userId username, (s.session session).identity = some (userId, username) →
    OnlyOwnSeats s session userId ∧ SeatedHere s session userId

section Gate
variable {payload : Payload} (asked : IsRequest payload)
  (login : ∀ m, payload ≠ .loginRequest m) (registration : ∀ m, payload ≠ .registrationRequest m)
  (home : Home w.server session)
include asked login registration home

theorem answered_request_iff {userId : Int} {username : String}
    (who : (w.server.session session).identity = some (userId, username)) :
    Answered w.server session payload
        ((dispatchAuthenticated session (some payload)).output (chat E) choices w) ↔
      RequestReturns userId username choices w (some payload) ∧
        RequestHeard w.server userId choices w.store payload := by
  obtain ⟨own, seated⟩ := home userId username who
  cases payload with
  | changePasswordRequest m =>
    have last : RepliesLast session (handleChangePassword session m) := last_handleChangePassword m
    have answers := answered_last_iff choices w last w.server (.changePasswordRequest m) nofun
    exact (answers.trans (changePassword_returns_iff who m)).trans (and_iff_left trivial).symm
  | changeUsernameRequest m =>
    have last : RepliesLast session (handleChangeUsername session m) := last_handleChangeUsername m
    have answers := answered_last_iff choices w last w.server (.changeUsernameRequest m) nofun
    exact (answers.trans (changeUsername_returns_iff who m)).trans (and_iff_left trivial).symm
  | publicMessage m => exact answered_public_iff who own seated m
  | privateMessageRequest m => exact iff_of_true (answered_private who m) ⟨trivial, trivial⟩
  | roomOperationRequest m => exact answered_room_iff who own m
  | historyMessageRequest m => exact answered_history_iff who m
  | loginRequest m => exact absurd rfl (login m)
  | registrationRequest m => exact absurd rfl (registration m)
  | _ => exact asked.elim

theorem answered_gate_iff :
    Answered w.server session payload ((requireAuthentication session
        (dispatchAuthenticated session (some payload))).output (chat E) choices w) ↔
      (match (w.server.session session).identity with
        | some (userId, username) => RequestReturns userId username (later choices) w (some payload)
        | none => True) ∧ Heard session payload choices w := by
  cases who : (w.server.session session).identity with
  | none =>
    have absent := identity_none who
    have refused : (requireAuthentication session
        (dispatchAuthenticated session (some payload))).output (chat E) choices w =
        [(session, errorEnvelope "Authentication required.")] := by
      unfold requireAuthentication sendError
      simp [absent]
    rw [refused]
    apply iff_of_true
    · refine ⟨_, forClient_own _, trivial, ?_⟩
      intro m _ present
      rw [absent] at present
      cases present
    · refine ⟨trivial, ?_⟩
      intro userId username someone
      rw [who] at someone
      cases someone
  | some identity =>
    obtain ⟨userId, username⟩ := identity
    rw [output_requireAuthentication (identity_some who).1,
      answered_request_iff asked login registration home who]
    apply and_congr_right
    intro _
    constructor
    · intro heard k n someone
      rw [who] at someone
      cases someone
      exact heard
    · intro heard
      exact heard userId username who

end Gate

/-- What a request needs to be answered, in a state in which its session is at home. -/
theorem answered_dispatch_iff (home : Home w.server session) (messageId : String)
    {payload : Payload} (asked : IsRequest payload) :
    Answered w.server session payload
        ((dispatchMessage session ⟨messageId, some payload⟩).output (chat E) choices w) ↔
      DispatchReturns session ⟨messageId, some payload⟩ choices w ∧
        Heard session payload choices w := by
  cases payload with
  | loginRequest m =>
    have last : RepliesLast session (handleLogin session m) := last_handleLogin m
    have answers := answered_last_iff choices w last w.server (.loginRequest m) nofun
    exact (answers.trans (login_returns_iff session choices w m)).trans
      (and_iff_left (fun _ _ _ => trivial)).symm
  | registrationRequest m =>
    have last : RepliesLast session (handleRegister session m) := last_handleRegister m
    have answers := answered_last_iff choices w last w.server (.registrationRequest m) nofun
    exact (answers.trans (register_returns_iff session choices w m)).trans
      (and_iff_left (fun _ _ _ => trivial)).symm
  | changePasswordRequest m => exact answered_gate_iff asked nofun nofun home
  | changeUsernameRequest m => exact answered_gate_iff asked nofun nofun home
  | publicMessage m => exact answered_gate_iff asked nofun nofun home
  | privateMessageRequest m => exact answered_gate_iff asked nofun nofun home
  | roomOperationRequest m => exact answered_gate_iff asked nofun nofun home
  | historyMessageRequest m => exact answered_gate_iff asked nofun nofun home
  | _ => exact asked.elim

end Dispatch

/-- A user has one connected session, seats are held by their users' sessions, and a user
    in a room holds the seat through a connected one. -/
structure OneSeat (s : Server) (gone : List SessionId) : Prop where
  held : ∀ id k, (s.session id).userId = some k → (s.session id).authenticated = true
  single : ∀ id ∉ gone, ∀ other ∉ gone, ∀ k, (s.session id).userId = some k →
    (s.session other).userId = some k → id = other
  own : ∀ name user id, memberSession s.roomService.activeRooms name user = some id →
    (s.session id).userId = some user
  here : ∀ (user : Int) (name : String), s.roomService.userToRoomMap[user]? = some name →
    ∃ id ∉ gone, memberSession s.roomService.activeRooms name user = some id

theorem oneSeat_start : OneSeat Server.start [] := by
  constructor
  · simp [Server.start, Session.fresh]
  · simp [Server.start, Session.fresh]
  · simp [Server.start, RoomService.empty, memberSession]
  · simp [Server.start, RoomService.empty]

section Operations
variable {s : Server} {gone : List SessionId} (law : OneSeat s gone) {id : SessionId}
include law

theorem home_of_oneSeat (connected : id ∉ gone) : Home s id := by
  intro k n who
  have known := (identity_some who).2.1
  constructor
  · intro name user seat
    have same := law.own name user id seat
    rw [known] at same
    exact (Option.some.inj same).symm
  · intro name place
    obtain ⟨other, present, seat⟩ := law.here k name place
    have same := law.single id connected other present k known (law.own name k other seat)
    rw [same]
    exact seat

theorem oneSeat_register {k : Int} (n : String) (fresh : (s.session id).authenticated = false)
    (alone : ∀ other ∉ gone, (s.session other).userId ≠ some k) :
    OneSeat (s.registerAuthenticatedSession id k n) gone := by
  have unseated : ∀ name user, memberSession s.roomService.activeRooms name user ≠ some id := by
    intro name user seat
    have present := law.held id user (law.own name user id seat)
    rw [fresh] at present
    cases present
  constructor
  · intro other l known
    rw [session_register] at known ⊢
    by_cases it : other = id
    · rw [if_pos it]
      rfl
    · rw [if_neg it] at known ⊢
      exact law.held other l known
  · intro a there b also l
    rw [session_register, session_register]
    by_cases first : a = id
    · by_cases second : b = id
      · intro _ _
        rw [first, second]
      · rw [if_pos first, if_neg second]
        intro known same
        cases known
        exact absurd same (alone b also)
    · by_cases second : b = id
      · rw [if_neg first, if_pos second]
        intro same known
        cases known
        exact absurd same (alone a there)
      · rw [if_neg first, if_neg second]
        exact law.single a there b also l
  · intro name user other seat
    have different : other ≠ id := by
      intro it
      rw [it] at seat
      exact unseated name user seat
    rw [session_register, if_neg different]
    exact law.own name user other seat
  · exact law.here

theorem oneSeat_rename (newUsername : String) : OneSeat (s.updateUsername id newUsername) gone := by
  cases named : (s.session id).username with
  | none =>
    rw [updateUsername_unnamed newUsername named]
    exact law
  | some old =>
    have rooms : (s.updateUsername id newUsername).roomService = s.roomService := by
      simp only [Server.updateUsername, named, Server.setSession]
    have same : ∀ other,
        ((s.updateUsername id newUsername).session other).userId = (s.session other).userId ∧
          ((s.updateUsername id newUsername).session other).authenticated =
            (s.session other).authenticated := by
      intro other
      rw [session_rename newUsername other named]
      split
      · rename_i it
        rw [it]
        exact ⟨rfl, rfl⟩
      · exact ⟨rfl, rfl⟩
    constructor
    · intro other k
      rw [(same other).1, (same other).2]
      exact law.held other k
    · intro a there b also k
      rw [(same a).1, (same b).1]
      exact law.single a there b also k
    · intro name user other
      rw [rooms, (same other).1]
      exact law.own name user other
    · rw [rooms]
      exact law.here

theorem oneSeat_rooms {q : RoomService}
    (own : ∀ name user other, memberSession q.activeRooms name user = some other →
      (s.session other).userId = some user)
    (here : ∀ (user : Int) (name : String), q.userToRoomMap[user]? = some name →
      ∃ other ∉ gone, memberSession q.activeRooms name user = some other) :
    OneSeat { s with roomService := q } gone := ⟨law.held, law.single, own, here⟩

section Entering
variable {k : Int} (known : (s.session id).userId = some k) (connected : id ∉ gone)
include known connected

theorem oneSeat_join (name : String) (room : Room) :
    OneSeat { s with roomService := s.roomService.join k name room id } gone := by
  apply oneSeat_rooms law
  · intro other user member seat
    rw [memberSession_join] at seat
    split at seat
    · rename_i it
      cases seat
      rw [it.2]
      exact known
    · split at seat
      · cases seat
      · exact law.own other user member seat
  · intro user other place
    rw [map_join] at place
    by_cases it : user = k
    · rw [if_pos it] at place
      cases place
      refine ⟨id, connected, ?_⟩
      rw [memberSession_join, if_pos ⟨rfl, it⟩]
    · rw [if_neg it] at place
      obtain ⟨member, present, seat⟩ := law.here user other place
      refine ⟨member, present, ?_⟩
      rw [memberSession_join, if_neg (fun both => it both.2), if_neg (fun both => it both.1)]
      exact seat

theorem oneSeat_create (name : String) (roomId : Int) :
    OneSeat { s with roomService := s.roomService.create k name roomId id } gone := by
  apply oneSeat_rooms law
  · intro other user member seat
    rw [memberSession_create] at seat
    split at seat
    · rename_i it
      cases seat
      rw [it.2]
      exact known
    · exact law.own other user member seat
  · intro user other place
    rw [map_create] at place
    by_cases it : user = k
    · rw [if_pos it] at place
      cases place
      refine ⟨id, connected, ?_⟩
      rw [memberSession_create, if_pos ⟨rfl, it⟩]
    · rw [if_neg it] at place
      obtain ⟨member, present, seat⟩ := law.here user other place
      refine ⟨member, present, ?_⟩
      rw [memberSession_create, if_neg (fun both => it both.2)]
      exact seat

end Entering

theorem oneSeat_vacate (k : Int) :
    OneSeat { s with roomService := s.roomService.vacate k } gone := by
  apply oneSeat_rooms law
  · intro other user member seat
    rw [memberSession_vacate] at seat
    split at seat
    · cases seat
    · exact law.own other user member seat
  · intro user other place
    rw [map_vacate] at place
    by_cases it : user = k
    · rw [if_pos it] at place
      cases place
    · rw [if_neg it] at place
      obtain ⟨member, present, seat⟩ := law.here user other place
      refine ⟨member, present, ?_⟩
      rw [memberSession_vacate, if_neg (fun both => it both.1)]
      exact seat

theorem oneSeat_leave (k : Int) (name : String) :
    OneSeat { s with roomService := s.roomService.leave k name } gone := by
  unfold RoomService.leave
  split
  · exact oneSeat_vacate law k
  · exact law

theorem oneSeat_remove (unseated : ∀ user, (s.session id).userId = some user →
      s.roomService.userToRoomMap[user]? = none) :
    OneSeat (s.removeSession id) (id :: gone) := by
  constructor
  · exact law.held
  · intro a there b also
    exact law.single a (List.not_mem_of_not_mem_cons there) b (List.not_mem_of_not_mem_cons also)
  · exact law.own
  · intro user name place
    obtain ⟨member, present, seat⟩ := law.here user name place
    refine ⟨member, ?_, seat⟩
    intro there
    rcases List.mem_cons.mp there with it | before
    · have known := law.own name user member seat
      rw [it] at known
      have nowhere := unseated user known
      have somewhere : s.roomService.userToRoomMap[user]? = some name := place
      rw [nowhere] at somewhere
      cases somewhere
    · exact present before

theorem oneSeat_disconnect : OneSeat (afterDisconnect id s) (id :: gone) := by
  unfold afterDisconnect
  cases who : (s.session id).identity with
  | none =>
    apply oneSeat_remove law
    intro user known
    have present := law.held id user known
    rw [identity_none who] at present
    cases present
  | some identity =>
    obtain ⟨k, n⟩ := identity
    apply oneSeat_remove (oneSeat_vacate law k)
    intro user known
    rw [(identity_some who).2.1] at known
    cases known
    exact (map_vacate s.roomService k k).trans (if_pos rfl)

end Operations

section Runs
variable [Sha256]

/-- Requests come from connected sessions, and a login opens one that is not logged in for
    a user who has no other. -/
def OneSession (h : History) (e : JobEvent) : Prop :=
  match e.job with
  | .disconnect _ => True
  | .dispatch session envelope => session ∉ h.gone ∧
    ∀ m, envelope.payload = some (.loginRequest m) →
      ∀ user, opened m (answered (e.choices 0) (.findByUsername m.username) h.world.store) =
        some user →
      (h.world.server.session session).authenticated = false ∧
        ∀ other ∉ h.gone, (h.world.server.session other).userId ≠ some user.id

theorem oneSeat_historyStep (h : History) (e : JobEvent) (law : OneSeat h.world.server h.gone)
    (alone : OneSession h e) : OneSeat (historyStep h e).world.server (historyStep h e).gone := by
  obtain ⟨job, choices⟩ := e
  have effect := final_job job choices h.world
  cases job with
  | disconnect session =>
    simp only [historyStep, jobStep]
    rw [effect]
    exact oneSeat_disconnect law
  | dispatch session envelope =>
    obtain ⟨connected, logins⟩ := alone
    simp only [historyStep, jobStep]
    rw [effect]
    obtain ⟨messageId, payload⟩ := envelope
    simp only [serverAfter]
    split
    · rename_i m
      unfold afterLogin
      split
      · rename_i user accepted
        obtain ⟨fresh, others⟩ := logins m rfl user accepted
        exact oneSeat_register law user.username fresh others
      · exact law
    · cases who : (h.world.server.session session).identity with
      | none => exact law
      | some identity =>
        obtain ⟨k, n⟩ := identity
        have known := (identity_some who).2.1
        simp only [afterRequest]
        split
        · unfold afterRename serverRenamed
          split
          · split
            · exact oneSeat_rename law _
            · exact law
          · exact law
        · unfold afterRooms roomAfter
          split
          · exact oneSeat_join law known connected _ _
          · exact oneSeat_leave law _ _
          · exact oneSeat_create law known connected _ _
          · exact law
        · exact law

/-- After every run in which each user has one session: a request of a connected session is
    answered exactly when nothing throws, its JOIN is not of an unknown room, its history is
    of the room its user is in, and its public message is not from the user 0 to a room. -/
theorem request_answered_iff (events : List JobEvent)
    (alone : EveryStep historyStep OneSession ⟨⟨.start, ()⟩, []⟩ events) {session : SessionId}
    (connected : session ∉ (after historyStep ⟨⟨.start, ()⟩, []⟩ events).gone)
    (messageId : String) {payload : Payload} (asked : IsRequest payload)
    (choices : Nat → Choice anyAnswers) :
    let w := (after historyStep ⟨⟨.start, ()⟩, []⟩ events).world
    Answered w.server session payload
        ((dispatchMessage session ⟨messageId, some payload⟩).output (chat anyAnswers) choices w) ↔
      DispatchReturns session ⟨messageId, some payload⟩ choices w ∧
        Heard session payload choices w := by
  have law := everyState_last (everyState_of_everyStep
    (P := fun h => OneSeat h.world.server h.gone) oneSeat_historyStep oneSeat_start alone)
  exact answered_dispatch_iff (home_of_oneSeat law connected) messageId asked

end Runs

section UnknownRoom

local instance : Sha256 := ⟨id⟩

def emptyTables : Nat → Choice anyAnswers := fun _ => ⟨fun q => .ok q.fallback, none, ⟨0, 0⟩⟩

theorem annLogsIn_alone :
    EveryStep historyStep OneSession ⟨⟨.start, ()⟩, []⟩ [annLogsIn 7] := by
  refine ⟨⟨List.not_mem_nil, ?_⟩, trivial⟩
  intro m same user opens
  refine ⟨rfl, ?_⟩
  intro other _ known
  cases known

/-- Ann asks for a new room, which is not stored, and she is told that it failed. -/
theorem created_room_answered :
    Answered (after historyStep ⟨⟨.start, ()⟩, []⟩ [annLogsIn 7]).world.server 7
      (.roomOperationRequest ⟨.create, "hall"⟩)
      ((dispatchMessage 7 ⟨"", some (.roomOperationRequest ⟨.create, "hall"⟩)⟩).output
        (chat anyAnswers) emptyTables
        (after historyStep ⟨⟨.start, ()⟩, []⟩ [annLogsIn 7]).world) := by
  have asked : IsRequest (.roomOperationRequest ⟨.create, "hall"⟩) := trivial
  have connected : 7 ∉ (after historyStep ⟨⟨.start, ()⟩, []⟩ [annLogsIn 7]).gone := by decide
  apply (request_answered_iff [annLogsIn 7] annLogsIn_alone connected "" asked emptyTables).mpr
  refine ⟨⟨nofun, fun _ => nofun⟩, ?_⟩
  intro userId username _ joins
  cases joins

/-- Ann joins a room that does not exist. The refusal names no room. -/
theorem unknown_room_not_named :
    EveryStep historyStep OneSession ⟨⟨.start, ()⟩, []⟩ [annLogsIn 7] ∧
      ¬ Answered (after historyStep ⟨⟨.start, ()⟩, []⟩ [annLogsIn 7]).world.server 7
        (.roomOperationRequest ⟨.join, "nowhere"⟩)
        ((dispatchMessage 7 ⟨"", some (.roomOperationRequest ⟨.join, "nowhere"⟩)⟩).output
          (chat anyAnswers) emptyTables
          (after historyStep ⟨⟨.start, ()⟩, []⟩ [annLogsIn 7]).world) := by
  refine ⟨annLogsIn_alone, ?_⟩
  intro answered
  obtain ⟨e, heard, _, echo⟩ := answered
  obtain ⟨response, same, _, named⟩ := echo _ rfl (by decide)
  rw [same] at heard
  cases heard
  exact absurd named (by decide)

end UnknownRoom

end RequestReplies
