import ChatServer.Failures.Exceptions
import ChatServer.Wire.ChatWire

/-!
Whether what a request makes the server send fits the frames that its client reads. The
readers check the length of a body, the writer does not. Lengths are bytes of UTF-8.
-/
namespace FrameSizes
open AtomicCalls ChatProtocol ChatState ChatCalls ChatServices ChatEffects AccountHandlers
  ProtoWire ChatWire WorkerExceptions

variable {E : Environment}

section Requests
variable [Serializer]

/-- Everything a request makes the server send is read by the client it is sent to. -/
def AllAccepted (p : Handler) (choices : Nat → Choice E) (w : World E) : Prop :=
  ∀ sent ∈ p.output (chat E) choices w, Accepted sent.2

theorem accepted_map_iff (recipients : List SessionId) (e : Envelope) :
    (∀ sent ∈ recipients.map (fun id => (id, e)), Accepted sent.2) ↔
      (recipients ≠ [] → Accepted e) := by
  cases recipients with
  | nil => simp
  | cons id rest =>
    simp only [List.mem_map, forall_exists_index, and_imp, ne_eq, reduceCtorEq, not_false_eq_true,
      forall_const]
    constructor
    · intro all
      exact all _ id (by simp) rfl
    · intro accepted sent id' _ same
      rw [← same]
      exact accepted

section Replies

theorem accepted_coded (message : String) {code : Int} (short : integerSize code ≤ 11) :
    Accepted (codedError message code) ↔ size message + integerSize code ≤ 8184 := by
  have fits : stringSize (size message) ≤ 8187 - integerSize code ↔
      size message + 3 ≤ 8187 - integerSize code := string_size_le_iff (by omega) (by omega)
  unfold codedError
  rw [accepted_iff]
  simp [payloadSize, extraTag, payloadNumber, size] at fits ⊢
  omega

theorem accepted_error (message : String) :
    Accepted (errorEnvelope message) ↔ size message ≤ 8184 :=
  accepted_coded message (by simp)

omit [Serializer] in
theorem integer_size_true : integerSize (flag true) = 2 := integer_size_small (by decide) (by decide)

omit [Serializer] in
theorem integer_size_false : integerSize (flag false) = 0 := rfl

omit [Serializer] in
theorem integer_size_code {code : Int} (low : 128 ≤ code) (high : code < 16384) :
    integerSize code = 3 := by
  have two : (varint (code % 2 ^ 64).toNat).length = 2 :=
    varint_length_two (by omega) (by omega)
  rw [integerSize, if_neg (by omega), two]

omit [Serializer] in
theorem echo_size (before after name : String) :
    size (before ++ name ++ after) = size name + (size before + size after) := by
  simp only [size, String.utf8ByteSize_append]
  omega

end Replies

section Accounts
variable [Sha256] (session : SessionId) (choices : Nat → Choice E) (w : World E)

def LoginFits (m : LoginRequest) (choices : Nat → Choice E) (store : E.Store) : Prop :=
  ∀ user, opened m (answered (choices 0) (.findByUsername m.username) store) = some user →
    stringSize (size user.username + 28) + stringSize (size (toString user.id)) ≤ 8186

def RegisterFits (m : RegistrationRequest) (choices : Nat → Choice E) (store : E.Store) : Prop :=
  ∀ user, registered m (answered (choices 0) (.findByUsername m.username) store)
      (choices 1).salt = some user →
    ∀ id, answered (choices 2) (.addUser user) store = .ok (some id) → size m.username ≤ 8137

def ChangeUsernameFits (m : ChangeUsernameRequest) (username : String)
    (choices : Nat → Choice E) (store : E.Store) : Prop :=
  ∀ user, renamed m (answered (choices 2) (.findByUsername username) store)
      (answered (choices 3) (.findByUsername m.newUsername) store) = some user →
    ∀ written, answered (choices 4) (.updateUser user) store = .ok written →
      size m.newUsername ≤ 8148

omit [Sha256] in
theorem accepted_welcome (user : User) :
    Accepted (envelope (.loginResponse ⟨true, "Login successful. Welcome, " ++ user.username ++ "!",
        toString user.id⟩)) ↔
      stringSize (size user.username + 28) + stringSize (size (toString user.id)) ≤ 8186 := by
  have text : size ("Login successful. Welcome, " ++ user.username ++ "!") =
      size user.username + 28 := echo_size _ _ _
  rw [accepted_iff]
  simp only [payloadSize, extraTag, payloadNumber, text, integer_size_true, Nat.reduceLT, ↓reduceIte]
  omega

theorem login_fits_iff (m : LoginRequest) :
    AllAccepted (handleLogin session m) choices w ↔ LoginFits m choices w.store := by
  unfold AllAccepted handleLogin LoginFits
  simp [answered]
  split
  · rename_i found heq
    cases found with
    | none =>
      simp [heq, opened, sendError, accepted_error]
      decide
    | some user =>
      simp only [heq, opened]
      split
      · simpa using accepted_welcome user
      · simp [sendError, accepted_error]
        decide
  · rename_i e heq
    simp [heq, opened]

omit [Sha256] in
theorem accepted_registered (name : String) :
    Accepted (envelope (.registrationResponse ⟨true,
        "Registration successful. You can now log in, " ++ name ++ "!"⟩)) ↔
      size name ≤ 8137 := by
  have text : size ("Registration successful. You can now log in, " ++ name ++ "!") =
      size name + 46 := echo_size _ _ _
  have fits : stringSize (size name + 46) ≤ 8186 ↔ size name + 46 + 3 ≤ 8186 :=
    string_size_le_iff (by omega) (by omega)
  rw [accepted_iff]
  simp only [payloadSize, extraTag, payloadNumber, text, integer_size_true, Nat.reduceLT, ↓reduceIte]
  omega

omit [Sha256] in
theorem accepted_renamed (name : String) :
    Accepted (envelope (.changeUsernameResponse ⟨true,
        "Username changed successfully to " ++ name ++ ".", ""⟩)) ↔
      size name ≤ 8148 := by
  have text : size ("Username changed successfully to " ++ name ++ ".") = size name + 34 :=
    echo_size _ _ _
  have fits : stringSize (size name + 34) ≤ 8185 ↔ size name + 34 + 3 ≤ 8185 :=
    string_size_le_iff (by omega) (by omega)
  rw [accepted_iff]
  simp only [payloadSize, extraTag, payloadNumber, text, integer_size_true, Nat.reduceLT,
    ↓reduceIte, show size "" = 0 from rfl, string_size_zero]
  omega

omit [Sha256] in
theorem accepted_failed_registration : Accepted (envelope (.registrationResponse ⟨false,
    "Registration failed due to a server-side error."⟩)) := by
  have fits : stringSize 47 ≤ 8186 ↔ 47 + 3 ≤ 8186 := string_size_le_iff (by omega) (by omega)
  rw [accepted_iff]
  simp only [payloadSize, extraTag, payloadNumber, integer_size_false, Nat.reduceLT, ↓reduceIte,
    show size "Registration failed due to a server-side error." = 47 from rfl]
  omega

theorem register_fits_iff (m : RegistrationRequest) :
    AllAccepted (handleRegister session m) choices w ↔ RegisterFits m choices w.store := by
  unfold AllAccepted handleRegister RegisterFits
  simp [answered]
  split
  · rename_i found heq
    cases found with
    | some user =>
      simp [heq, registered, sendError, accepted_error]
      decide
    | none =>
      cases salt : (choices 1).salt with
      | none => simp [heq, registered, salt]
      | some salt =>
        simp [heq, registered, salt]
        split
        · rename_i added answer
          cases added with
          | some id => simp [answer, accepted_registered]
          | none =>
            simp [answer, accepted_failed_registration]
        · rename_i e answer
          simp [answer]
  · rename_i e heq
    simp [heq, registered]

omit [Sha256] in
theorem accepted_password_changed :
    Accepted (envelope (.changePasswordResponse ⟨true, "Password changed successfully."⟩)) := by
  have fits : stringSize 30 ≤ 8186 ↔ 30 + 3 ≤ 8186 := string_size_le_iff (by omega) (by omega)
  rw [accepted_iff]
  simp only [payloadSize, extraTag, payloadNumber, integer_size_true, Nat.reduceLT, ↓reduceIte,
    show size "Password changed successfully." = 30 from rfl]
  omega

omit [Serializer] in
theorem password_refusal_short {m : ChangePasswordRequest} {user : User} {text : String}
    (refused : passwordRefusal m user = some text) : size text ≤ 8184 := by
  unfold passwordRefusal at refused
  split_ifs at refused <;> cases refused <;> decide

omit [Serializer] [Sha256] in
theorem rename_refusal_short {m : ChangeUsernameRequest} {user : User} {text : String}
    (refused : renameRefusal m user = some text) : size text ≤ 8184 := by
  unfold renameRefusal at refused
  split_ifs at refused <;> cases refused <;> decide

variable {session choices w} {userId : Int} {username : String}
  (who : (w.server.session session).identity = some (userId, username))
include who

theorem changePassword_fits (m : ChangePasswordRequest) :
    AllAccepted (handleChangePassword session m) choices w := by
  obtain ⟨present, -, name⟩ := identity_some who
  unfold AllAccepted
  rw [handleChangePassword_eq]
  simp [present, name]
  split
  · rename_i found heq
    cases found with
    | none =>
      simp [sendError, accepted_error]
      decide
    | some user =>
      cases refusal : passwordRefusal m user with
      | some text =>
        simp [changePasswordOf, refusal, sendError, accepted_error]
        exact password_refusal_short refusal
      | none =>
        cases salt : (choices 3).salt with
        | none => simp [changePasswordOf, refusal, salt]
        | some salt =>
          simp [changePasswordOf, refusal, salt]
          split
          · simp [accepted_password_changed]
          · simp
  · simp

omit [Sha256] in
theorem changeUsername_fits_iff (m : ChangeUsernameRequest) :
    AllAccepted (handleChangeUsername session m) choices w ↔
      ChangeUsernameFits m username choices w.store := by
  obtain ⟨present, -, name⟩ := identity_some who
  unfold AllAccepted ChangeUsernameFits
  rw [handleChangeUsername_eq]
  simp [answered, present, name]
  split
  · rename_i found heq
    cases found with
    | none =>
      simp [heq, renamed, sendError, accepted_error]
      decide
    | some user =>
      simp [heq]
      split
      · rename_i taken heq'
        cases taken with
        | some other =>
          simp [heq', renamed, sendError, accepted_error]
          decide
        | none =>
          cases refusal : renameRefusal m user with
          | some text =>
            simp [heq', renamed, changeUsernameOf, refusal, sendError, accepted_error]
            exact rename_refusal_short refusal
          | none =>
            simp [heq', renamed, changeUsernameOf, refusal, name]
            split
            · rename_i written answer
              cases written <;> simp [answer, Except.map, accepted_renamed]
            · rename_i e answer
              simp [answer]
      · rename_i e heq'
        simp [heq', renamed]
  · rename_i e heq
    simp [heq, renamed]

end Accounts

section Rooms
variable {session : SessionId} {choices : Nat → Choice E} {w : World E} {userId : Int}
  {username : String} (who : (w.server.session session).identity = some (userId, username))

/-- The bytes of a notice besides the id and the first of the two names. -/
def noticeText : UserEventType → Nat
  | .userJoined => 26
  | .userLeft => 24

def NoticeFits (event : UserEventType) (userId : Int) (username roomName : String)
    (r : RoomService) : Prop :=
  r.recipients roomName userId ≠ [] →
    integerSize (eventValue event) + (stringSize (size (toString userId)) +
      (stringSize (size username) + stringSize (size username + noticeText event))) ≤ 8187

def RoomFits (m : RoomOperationRequest) (session : SessionId) (userId : Int) (username : String)
    (choices : Nat → Choice E) (w : World E) : Prop :=
  let found := roomFound choices m.roomName w.store
  let added := roomAdded choices userId m.roomName w.store
  let r := w.server.roomService
  match m.operation with
  | .join => (found = .ok none → size m.roomName ≤ 8161) ∧
    ∀ room, found = .ok (some room) → size m.roomName ≤ 4076 ∧
      NoticeFits .userJoined userId username m.roomName (r.join userId m.roomName room session)
  | .leave => size m.roomName ≤ 4076 ∧
    NoticeFits .userLeft userId username m.roomName (r.leave userId m.roomName)
  | .create => (∀ room, found = .ok (some room) → size m.roomName ≤ 4074) ∧
    (found = .ok none → (added = .ok none → size m.roomName ≤ 4079) ∧
      ∀ roomId, added = .ok (some roomId) → size m.roomName ≤ 4075)
  | .other value => integerSize value + stringSize (size m.roomName) ≤ 8167

theorem accepted_presence (event : UserEventType) (userId : Int) (username : String) :
    Accepted (presence event userId username username) ↔
      integerSize (eventValue event) + (stringSize (size (toString userId)) +
        (stringSize (size username) + stringSize (size username + noticeText event))) ≤ 8187 := by
  unfold presence
  rw [accepted_iff]
  cases event with
  | userJoined =>
    have text := echo_size "User " " has joined the room." username
    rw [show size "User " + size " has joined the room." = 26 from rfl] at text
    simp only [payloadSize, extraTag, payloadNumber, noticeText, text, Nat.reduceLT, ↓reduceIte]
    omega
  | userLeft =>
    have text := echo_size "User " " has left the room." username
    rw [show size "User " + size " has left the room." = 24 from rfl] at text
    simp only [payloadSize, extraTag, payloadNumber, noticeText, text, Nat.reduceLT, ↓reduceIte]
    omega

theorem notified_fits_iff (event : UserEventType) (roomName : String) (r : RoomService)
    (reply : Envelope) :
    (∀ sent ∈ (r.recipients roomName userId).map (fun id =>
        (id, presence event userId username username)) ++ [(session, reply)], Accepted sent.2) ↔
      Accepted reply ∧ NoticeFits event userId username roomName r := by
  unfold NoticeFits
  rw [List.forall_mem_append, accepted_map_iff, accepted_presence, and_comm]
  simp

theorem accepted_echo {success : Bool} {operation : RoomOperation} {cost more : Nat}
    (flags : integerSize (flag success) + integerSize (operationValue operation) = cost)
    (cheap : cost ≤ 100) (roomName before after : String)
    (text : size before + size after = more) (short : more ≤ 100) :
    Accepted (envelope (.roomOperationResponse
        ⟨success, operation, roomName, before ++ roomName ++ after⟩)) ↔
      2 * size roomName + (cost + more) ≤ 8181 := by
  have echoes := echo_size before after roomName
  rw [text] at echoes
  have fits : stringSize (size roomName) + stringSize (size roomName + more) ≤ 8187 - cost ↔
      2 * size roomName + more + 6 ≤ 8187 - cost :=
    string_sizes_le_iff short (by omega) (by omega)
  rw [accepted_iff]
  simp only [payloadSize, extraTag, payloadNumber, echoes, Nat.reduceLT, ↓reduceIte]
  omega

theorem accepted_unknownRoom (roomName : String) :
    Accepted (envelope (.roomOperationResponse
        ⟨false, .join, "", "Room '" ++ roomName ++ "' does not exist."⟩)) ↔
      size roomName ≤ 8161 := by
  have text := echo_size "Room '" "' does not exist." roomName
  rw [show size "Room '" + size "' does not exist." = 23 from rfl] at text
  have fits : stringSize (size roomName + 23) ≤ 8187 ↔ size roomName + 23 + 3 ≤ 8187 :=
    string_size_le_iff (by omega) (by omega)
  rw [accepted_iff]
  simp only [payloadSize, extraTag, payloadNumber, integer_size_false, operationValue, text,
    integer_size_zero, show size "" = 0 from rfl, string_size_zero, Nat.reduceLT, ↓reduceIte]
  omega

theorem accepted_unknownOperation (value : Int) (roomName : String) :
    Accepted (envelope (.roomOperationResponse
        ⟨false, .other value, roomName, "Unknown operation."⟩)) ↔
      integerSize value + stringSize (size roomName) ≤ 8167 := by
  have text : stringSize (size "Unknown operation.") = 20 := block_size_small (by decide)
  rw [accepted_iff]
  simp only [payloadSize, extraTag, payloadNumber, integer_size_false, operationValue, text,
    Nat.reduceLT, ↓reduceIte]
  omega

omit [Serializer] in
theorem flags_join : integerSize (flag true) + integerSize (operationValue .join) = 2 := by
  rw [integer_size_true]
  rfl

omit [Serializer] in
theorem flags_leave : integerSize (flag true) + integerSize (operationValue .leave) = 4 := by
  rw [integer_size_true, operationValue, integer_size_small (by decide) (by decide)]

omit [Serializer] in
theorem flags_created : integerSize (flag true) + integerSize (operationValue .create) = 4 := by
  rw [integer_size_true, operationValue, integer_size_small (by decide) (by decide)]

omit [Serializer] in
theorem flags_refused : integerSize (flag false) + integerSize (operationValue .create) = 2 := by
  rw [integer_size_false, operationValue, integer_size_small (by decide) (by decide)]

theorem accepted_joined (roomName : String) :
    Accepted (envelope (.roomOperationResponse
        ⟨true, .join, roomName, "Joined room " ++ roomName ++ " successfully."⟩)) ↔
      size roomName ≤ 4076 := by
  have text : size "Joined room " + size " successfully." = 26 := rfl
  rw [accepted_echo flags_join (by omega) roomName _ _ text (by omega)]
  omega

theorem accepted_left (roomName : String) :
    Accepted (envelope (.roomOperationResponse
        ⟨true, .leave, roomName, "Left room " ++ roomName ++ " successfully."⟩)) ↔
      size roomName ≤ 4076 := by
  have text : size "Left room " + size " successfully." = 24 := rfl
  rw [accepted_echo flags_leave (by omega) roomName _ _ text (by omega)]
  omega

theorem accepted_created (roomName : String) :
    Accepted (envelope (.roomOperationResponse
        ⟨true, .create, roomName, "Created room " ++ roomName ++ " successfully."⟩)) ↔
      size roomName ≤ 4075 := by
  have text : size "Created room " + size " successfully." = 27 := rfl
  rw [accepted_echo flags_created (by omega) roomName _ _ text (by omega)]
  omega

theorem accepted_taken (roomName : String) :
    Accepted (envelope (.roomOperationResponse
        ⟨false, .create, roomName, "Room name '" ++ roomName ++ "' is already taken."⟩)) ↔
      size roomName ≤ 4074 := by
  have text : size "Room name '" + size "' is already taken." = 30 := rfl
  rw [accepted_echo flags_refused (by omega) roomName _ _ text (by omega)]
  omega

theorem accepted_notCreated (roomName : String) :
    Accepted (envelope (.roomOperationResponse
        ⟨false, .create, roomName, "Created room " ++ roomName ++ " failed."⟩)) ↔
      size roomName ≤ 4079 := by
  have text : size "Created room " + size " failed." = 21 := rfl
  rw [accepted_echo flags_refused (by omega) roomName _ _ text (by omega)]
  omega

include who

theorem room_fits_iff (m : RoomOperationRequest) :
    AllAccepted (handleRoomOperation session m) choices w ↔
      RoomFits m session userId username choices w := by
  unfold AllAccepted RoomFits
  rw [output_handleRoomOperation m choices who]
  generalize roomFound choices m.roomName w.store = found
  generalize roomAdded choices userId m.roomName w.store = added
  obtain ⟨operation, roomName⟩ := m
  cases operation with
  | join =>
    cases found with
    | error e => simp [roomSends]
    | ok found =>
      cases found with
      | none => simp [roomSends, accepted_unknownRoom]
      | some room =>
        simp only [Except.ok.injEq, Option.some.injEq, reduceCtorEq, false_implies, true_and,
          forall_eq']
        rw [← accepted_joined]
        exact notified_fits_iff .userJoined roomName _ _
  | leave =>
    rw [← accepted_left]
    exact notified_fits_iff .userLeft roomName _ _
  | create =>
    cases found with
    | error e => simp [roomSends]
    | ok found =>
      cases found with
      | some room => simp [roomSends, accepted_taken]
      | none =>
        cases added with
        | error e => simp [roomSends]
        | ok added =>
          cases added with
          | none => simp [roomSends, accepted_notCreated]
          | some roomId => simp [roomSends, accepted_created]
  | other value => simp [roomSends, accepted_unknownOperation]

end Rooms

section Messages
variable {session : SessionId} {choices : Nat → Choice E} {w : World E} {userId : Int}
  {username : String}

def HistoryFits (m : HistoryMessageRequest) (userId : Int) (choices : Nat → Choice E)
    (w : World E) : Prop :=
  let roomId := w.server.roomService.getUserCurrentRoomId userId
  let limit := if 0 < m.limit then m.limit else 50
  w.server.roomService.userToRoomMap[userId]? = some m.roomName →
    ∀ messages, answered (choices 5) (.findLatestByRoomId roomId limit) w.store = .ok messages →
      ∀ history, namedHistory m.roomName messages.reverse (fun n => choices (n + 6)) w.store =
          some history →
        stringSize (size m.roomName) + (history.map (fun b => blockSize (broadcastSize b))).sum ≤
          8187

def PublicFits (m : PublicMessage) (userId : Int) (username : String) (choices : Nat → Choice E)
    (w : World E) : Prop :=
  let r := w.server.roomService
  let roomName := r.getUserCurrentRoomName userId
  roomName ≠ "" → r.recipients roomName 0 ≠ [] →
    ∀ written, answered (choices 4)
        (.addMessage ⟨0, r.getUserCurrentRoomId userId, userId, m.content, 0⟩) w.store =
          .ok written →
      broadcastSize ⟨toString userId, username, m.content, some (choices 6).now, some roomName⟩ ≤
        8187

def PrivateFits (m : PrivateMessageRequest) (userId : Int) (username : String)
    (choices : Nat → Choice E) (w : World E) : Prop :=
  let roomName := w.server.roomService.getUserCurrentRoomName userId
  roomName ≠ "" →
    match w.server.sessionManager.sessionsByUsername[m.toUsername]? with
    | none => size m.toUsername ≤ 8113
    | some accept => match (w.server.session accept).identity with
      | none => size m.toUsername ≤ 8113
      | some (acceptId, _) => acceptId ≠ userId → broadcastSize
          ⟨toString userId, username, m.content, some (choices 7).now, some roomName⟩ ≤ 8187

theorem accepted_broadcast (m : MessageBroadcast) :
    Accepted (envelope (.messageBroadcast m)) ↔ broadcastSize m ≤ 8187 := by
  rw [accepted_iff]
  simp only [payloadSize, extraTag, payloadNumber, Nat.reduceLT, ↓reduceIte]
  omega

theorem accepted_history (roomname : String) (history : List MessageBroadcast) :
    Accepted (envelope (.historyMessageResponse ⟨roomname, history⟩)) ↔
      stringSize (size roomname) + (history.map (fun b => blockSize (broadcastSize b))).sum ≤
        8187 := by
  rw [accepted_iff]
  simp only [payloadSize, extraTag, payloadNumber, Nat.reduceLT, ↓reduceIte]
  omega

theorem accepted_notInRoom : Accepted (codedError notInRoom 403) := by
  have three : integerSize 403 = 3 := integer_size_code (by decide) (by decide)
  have text : size notInRoom = 54 := rfl
  rw [accepted_coded notInRoom (by omega)]
  omega

theorem accepted_toYourself :
    Accepted (codedError "You cannot send a private message to yourself." 400) := by
  have three : integerSize 400 = 3 := integer_size_code (by decide) (by decide)
  have text : size "You cannot send a private message to yourself." = 46 := rfl
  rw [accepted_coded _ (by omega)]
  omega

theorem accepted_missing (toUsername : String) :
    Accepted (codedError ("The user " ++ toUsername ++
        " you are trying to message does not exist or is not online.") 404) ↔
      size toUsername ≤ 8113 := by
  have three : integerSize 404 = 3 := integer_size_code (by decide) (by decide)
  have text := echo_size "The user "
    " you are trying to message does not exist or is not online." toUsername
  rw [show size "The user " + size " you are trying to message does not exist or is not online." =
    68 from rfl] at text
  rw [accepted_coded _ (by omega)]
  omega

variable (who : (w.server.session session).identity = some (userId, username))
include who

theorem history_fits_iff (m : HistoryMessageRequest) :
    AllAccepted (handleHistoryRequest session m) choices w ↔ HistoryFits m userId choices w := by
  obtain ⟨present, id, -⟩ := identity_some who
  unfold AllAccepted handleHistoryRequest HistoryFits
  by_cases inside : w.server.roomService.userToRoomMap[userId]? = some m.roomName
  · have sends : ∀ history (choices : Nat → Choice E),
        (call (.send session (envelope (.historyMessageResponse ⟨m.roomName, history⟩)))).output
          (chat E) choices w =
        [(session, envelope (.historyMessageResponse ⟨m.roomName, history⟩))] := by
      intro history choices
      simp
    have output := fun messages choices =>
      output_historyMessages m.roomName messages choices _ _ sends
    simp only [perform_bind, output_call, callEmit, callAnswer, present, ↓reduceIte, id, fieldOr,
      serverNext, storeNext, List.nil_append, inside, decide_true, forall_const, answered,
      later_apply]
    split
    · rename_i messages heq
      have sent := output messages.reverse (fun n => choices (n + 6))
      simp only [heq, Except.ok.injEq, forall_eq']
      change (∀ x ∈ (historyMessages m.roomName messages.reverse >>= _).output (chat E)
        (fun n => choices (n + 6)) w, Accepted x.2) ↔ _
      rw [sent]
      cases namedHistory m.roomName messages.reverse (fun n => choices (n + 6)) w.store with
      | none => simp
      | some history => simp [accepted_history]
    · rename_i e heq
      simp [heq]
  · simp [present, id, inside]

theorem public_fits_iff (m : PublicMessage) :
    AllAccepted (handlePublicMessage session m) choices w ↔
      PublicFits m userId username choices w := by
  unfold AllAccepted PublicFits
  rw [output_handlePublicMessage m choices who]
  unfold publicSends
  by_cases roomless : w.server.roomService.getUserCurrentRoomName userId = ""
  · simp [roomless, accepted_notInRoom]
  · simp only [roomless, ↓reduceIte, ne_eq, not_false_eq_true, forall_const]
    cases answered (choices 4) (.addMessage ⟨0, w.server.roomService.getUserCurrentRoomId userId,
      userId, m.content, 0⟩) w.store with
    | error e => simp
    | ok written =>
      simp only [Except.ok.injEq, forall_eq']
      rw [accepted_map_iff, accepted_broadcast]

theorem private_fits_iff (m : PrivateMessageRequest) :
    AllAccepted (handlePrivateMessage session m) choices w ↔
      PrivateFits m userId username choices w := by
  unfold AllAccepted PrivateFits
  rw [output_handlePrivateMessage m choices who, privateSends]
  by_cases roomless : w.server.roomService.getUserCurrentRoomName userId = ""
  · simp [roomless, accepted_notInRoom]
  · simp only [roomless, ↓reduceIte, ne_eq, not_false_eq_true, forall_const]
    cases w.server.sessionManager.sessionsByUsername[m.toUsername]? with
    | none => simp [accepted_missing]
    | some accept =>
      cases other : (w.server.session accept).identity with
      | none => simp [other, accepted_missing]
      | some identity =>
        obtain ⟨acceptId, acceptName⟩ := identity
        by_cases same : acceptId = userId
        · simp [other, same, accepted_toYourself]
        · simp [other, same, accepted_broadcast]

end Messages

section Dispatch
variable [Sha256] {session : SessionId} {choices : Nat → Choice E} {w : World E}

def RequestFits (session : SessionId) (userId : Int) (username : String)
    (choices : Nat → Choice E) (w : World E) : Option Payload → Prop
  | some (.changeUsernameRequest m) => ChangeUsernameFits m username choices w.store
  | some (.publicMessage m) => PublicFits m userId username choices w
  | some (.privateMessageRequest m) => PrivateFits m userId username choices w
  | some (.roomOperationRequest m) => RoomFits m session userId username choices w
  | some (.historyMessageRequest m) => HistoryFits m userId choices w
  | _ => True

/-- The lengths with which everything that a request makes the server send fits. -/
def DispatchFits (session : SessionId) (e : Envelope) (choices : Nat → Choice E)
    (w : World E) : Prop :=
  match e.payload with
  | some (.loginRequest m) => LoginFits m choices w.store
  | some (.registrationRequest m) => RegisterFits m choices w.store
  | payload => match (w.server.session session).identity with
    | some (userId, username) => RequestFits session userId username (later choices) w payload
    | none => True

theorem authenticated_fits_iff {userId : Int} {username : String}
    (who : (w.server.session session).identity = some (userId, username))
    (payload : Option Payload) :
    AllAccepted (dispatchAuthenticated session payload) choices w ↔
      RequestFits session userId username choices w payload := by
  have silent : AllAccepted (pure () : Handler) choices w := by
    simp [AllAccepted]
  cases payload with
  | none => exact iff_of_true silent trivial
  | some payload =>
    cases payload with
    | changePasswordRequest m => exact iff_of_true (changePassword_fits who m) trivial
    | changeUsernameRequest m => exact changeUsername_fits_iff who m
    | publicMessage m => exact public_fits_iff who m
    | privateMessageRequest m => exact private_fits_iff who m
    | roomOperationRequest m => exact room_fits_iff who m
    | historyMessageRequest m => exact history_fits_iff who m
    | _ => exact iff_of_true silent trivial

theorem gate_fits_iff (payload : Option Payload) :
    AllAccepted (requireAuthentication session (dispatchAuthenticated session payload)) choices w ↔
      match (w.server.session session).identity with
      | some (userId, username) => RequestFits session userId username (later choices) w payload
      | none => True := by
  cases who : (w.server.session session).identity with
  | none =>
    simp [AllAccepted, requireAuthentication, identity_none who, sendError, accepted_error]
    decide
  | some identity =>
    obtain ⟨userId, username⟩ := identity
    obtain ⟨present, -, -⟩ := identity_some who
    have inside : AllAccepted (dispatchAuthenticated session payload) (later choices) w ↔
        RequestFits session userId username (later choices) w payload :=
      authenticated_fits_iff who payload
    unfold AllAccepted at inside ⊢
    rw [output_requireAuthentication present]
    exact inside

/-- For every request, session, state and outcome of the calls: each envelope sent is one
    whose length the client's reader accepts exactly when the named texts are short enough. -/
theorem dispatch_fits_iff (session : SessionId) (e : Envelope) (choices : Nat → Choice E)
    (w : World E) :
    AllAccepted (dispatchMessage session e) choices w ↔ DispatchFits session e choices w := by
  obtain ⟨messageId, payload⟩ := e
  cases payload with
  | none => exact gate_fits_iff none
  | some payload =>
    cases payload with
    | loginRequest m => exact login_fits_iff session choices w m
    | registrationRequest m => exact register_fits_iff session choices w m
    | _ => exact gate_fits_iff _

end Dispatch

end Requests

section LongRoomName

local instance : Sha256 := ⟨id⟩

local instance : Serializer := fieldsInOrder

def annFound : Nat → Choice anyAnswers := fun _ => ⟨fun q => match q with
  | .findByUsername _ => .ok (some ⟨1, "ann", "pw", ""⟩)
  | q => .ok q.fallback, none, ⟨0, 0⟩⟩

def annOnline : World anyAnswers :=
  (dispatchMessage 1 ⟨"", some (.loginRequest ⟨"ann", "pw"⟩)⟩).final (chat anyAnswers) annFound
    ⟨.start, ()⟩

def leaveRoom (roomName : String) : Envelope :=
  envelope (.roomOperationRequest ⟨.leave, roomName⟩)

theorem leave_accepted {roomName : String} (short : size roomName ≤ 8000) :
    Accepted (leaveRoom roomName) := by
  have fits : stringSize (size roomName) ≤ 8100 ↔ size roomName + 3 ≤ 8100 :=
    string_size_le_iff (by omega) (by omega)
  have operation : integerSize 1 = 2 := integer_size_small (by decide) (by decide)
  unfold leaveRoom
  rw [accepted_iff]
  simp only [payloadSize, extraTag, payloadNumber, operationValue, operation, Nat.reduceLT,
    ↓reduceIte]
  omega

theorem long_leave_reply {roomName : String} (long : 4077 ≤ size roomName) :
    ¬ AllAccepted (dispatchMessage 1 (leaveRoom roomName)) annFound annOnline := by
  intro all
  have who : (annOnline.server.session 1).identity = some (1, "ann") := rfl
  have inside := (gate_fits_iff (some (.roomOperationRequest ⟨.leave, roomName⟩))).mp all
  simp only [who, RequestFits, RoomFits] at inside
  have short := inside.1
  omega

def longRoom : String := String.ofList (List.replicate 5000 'a')

theorem long_room_size : size longRoom = 5000 := by
  have repeated : ∀ n, String.utf8Len (List.replicate n 'a') = n := by
    intro n
    induction n with
    | zero => rfl
    | succ n ih =>
      rw [List.replicate_succ, String.utf8Len_cons, ih]
      rfl
  unfold size longRoom
  rw [String.utf8ByteSize_ofList, repeated]

theorem dispatch_fits_iff_leave :
    AllAccepted (dispatchMessage 1 (leaveRoom longRoom)) annFound annOnline ↔
      DispatchFits 1 (leaveRoom longRoom) annFound annOnline :=
  dispatch_fits_iff 1 (leaveRoom longRoom) annFound annOnline

/-- The server reads the request to leave; the reply, which repeats the name, is too long. -/
theorem long_leave_not_accepted :
    Accepted (leaveRoom longRoom) ∧
      ¬ AllAccepted (dispatchMessage 1 (leaveRoom longRoom)) annFound annOnline := by
  have size_eq := long_room_size
  constructor
  · exact leave_accepted (by omega)
  · exact long_leave_reply (by omega)

end LongRoomName

end FrameSizes
