import ChatServer.Model.Services

/-!
What the handlers leave behind. Most calls are quiet: they read, or send, and change
neither the memory nor the store. A handler's effect is then what its few other calls
do, stated once here for each handler.
-/
namespace ChatEffects
open AtomicCalls ChatProtocol ChatState ChatCalls ChatServices

def Quiet (c : Call) : Prop :=
  (∀ s, serverNext c s = s) ∧ ∀ E choice store, storeNext E choice c store = store

theorem quiet_send (session : SessionId) (e : Envelope) : Quiet (.send session e) :=
  ⟨fun _ => rfl, fun _ _ _ => rfl⟩

theorem quiet_getUsername (session : SessionId) : Quiet (.getUsername session) :=
  ⟨fun _ => rfl, fun _ _ _ => rfl⟩

theorem quiet_recipients (roomName : String) (exclude : Int) :
    Quiet (.recipients roomName exclude) := ⟨fun _ => rfl, fun _ _ _ => rfl⟩

theorem uses_sendAll {allowed : Call → Prop} {e : Envelope} (ok : ∀ id, allowed (.send id e))
    (recipients : List SessionId) : (sendAll recipients e).Uses allowed := by
  induction recipients with
  | nil => trivial
  | cons session rest ih => exact ⟨ok session, fun _ => ih⟩

theorem uses_notifyRoom {allowed : Call → Prop} {session : SessionId} {event : UserEventType}
    {userId : Int} (named : allowed (.getUsername session))
    (looked : ∀ roomname, allowed (.recipients roomname userId))
    (sent : ∀ username shown id, allowed (.send id (presence event userId username shown)))
    (roomname : String) : (notifyRoom session event userId roomname).Uses allowed :=
  ⟨named, fun username => ⟨named, fun shown => ⟨looked roomname,
    uses_sendAll (sent username shown)⟩⟩⟩

/-- The names of a history are looked up, and nothing else is done for it. -/
theorem uses_historyMessages {allowed : Call → Prop}
    (find : ∀ id, allowed (.repository (.findByUserId id))) (deref : allowed .dereferenceEmpty)
    (roomname : String) (messages : List Message) :
    (historyMessages roomname messages).Uses allowed := by
  have named : ∀ senderId, (senderName senderId).Uses allowed := by
    intro senderId
    simp only [senderName, perform_bind, Program.Uses, find, true_and]
    intro found
    cases found with
    | none => trivial
    | some user =>
      simp only [Program.Uses, find, true_and]
      intro again
      cases again <;> simp [deref]
  induction messages with
  | nil => trivial
  | cons msg rest ih => exact uses_bind (named msg.senderId) (fun _ => uses_bind ih (fun _ => trivial))

theorem quiet_notifyRoom (session : SessionId) (event : UserEventType) (userId : Int)
    (roomname : String) : (notifyRoom session event userId roomname).Uses Quiet :=
  uses_notifyRoom (quiet_getUsername session) (fun name => quiet_recipients name userId)
    (fun _ _ id => quiet_send id _) roomname

theorem quiet_sendRoomResponse (session : SessionId) (success : Bool)
    (operation : RoomOperation) (roomName message : String) :
    (sendRoomResponse session success operation roomName message).Uses Quiet :=
  ⟨quiet_send session _, fun _ => trivial⟩

variable {E : Environment}

theorem final_quiet {p : Program Call Call.Answer α} (quiet : p.Uses Quiet)
    (choices : Nat → Choice E) (w : World E) : p.final (chat E) choices w = w :=
  final_same (M := chat E)
    (fun choice _ s ok => congrArg₂ World.mk (ok.1 s.server) (ok.2 E choice s.store)) quiet choices w

theorem final_quiet_then {p : Handler} {session : SessionId} {success : Bool}
    {operation : RoomOperation} {roomName message : String} (quiet : p.Uses Quiet)
    (choices : Nat → Choice E) (w : World E) :
    (p >>= fun _ => sendRoomResponse session success operation roomName message).final
      (chat E) choices w = w :=
  final_quiet (uses_bind quiet fun _ => quiet_sendRoomResponse _ _ _ _ _) choices w

theorem identity_some {s : Session} {user : Int} {name : String}
    (who : s.identity = some (user, name)) :
    s.authenticated = true ∧ s.userId = some user ∧ s.username = some name := by
  unfold Session.identity at who
  split at who
  · rename_i present
    cases userId : s.userId <;> cases username : s.username <;> simp_all
  · cases who

theorem identity_authenticated {s : Session} (present : s.authenticated = true) :
    ∃ userId username, s.identity = some (userId, username) := by
  obtain ⟨user, userId⟩ := Option.isSome_iff_exists.mp (s.identified present).1
  obtain ⟨name, username⟩ := Option.isSome_iff_exists.mp (s.identified present).2
  exact ⟨user, name, by simp [Session.identity, present, userId, username]⟩

theorem identity_none {s : Session} (nobody : s.identity = none) : s.authenticated = false := by
  cases present : s.authenticated with
  | false => rfl
  | true =>
    obtain ⟨user, name, who⟩ := identity_authenticated present
    rw [nobody] at who
    cases who

@[simp] theorem identity_setAuthenticated (s : Session) (userId : Int) (username : String) :
    (s.setAuthenticated userId username).identity = some (userId, username) := rfl

theorem identity_setUsername {s : Session} {userId : Int} {username : String}
    (who : s.identity = some (userId, username)) (newUsername : String) :
    (s.setUsername newUsername).identity = some (userId, newUsername) := by
  obtain ⟨present, id, name⟩ := identity_some who
  simp [Session.identity, Session.setUsername, present, id]

theorem final_requireAuthentication (session : SessionId) (handler : Handler)
    (choices : Nat → Choice E) (w : World E) :
    (requireAuthentication session handler).final (chat E) choices w =
      if (w.server.session session).authenticated = true then
        handler.final (chat E) (later choices) w
      else w := by
  unfold requireAuthentication
  by_cases present : (w.server.session session).authenticated = true
  · simp [present]
  · simp [present, sendError]

theorem output_requireAuthentication {session : SessionId} {handler : Handler}
    {choices : Nat → Choice E} {w : World E}
    (present : (w.server.session session).authenticated = true) :
    (requireAuthentication session handler).output (chat E) choices w =
      handler.output (chat E) (later choices) w := by
  unfold requireAuthentication
  simp [present]

theorem trace_requireAuthentication {session : SessionId} {handler : Handler}
    {choices : Nat → Choice E} {w : World E} {made : Event (chat E)}
    (present : made ∈ (requireAuthentication session handler).trace (chat E) choices w)
    (other : ∀ id e, made.call ≠ .isAuthenticated id ∧ made.call ≠ .send id e) :
    (w.server.session session).authenticated = true ∧
      made ∈ handler.trace (chat E) (later choices) w := by
  unfold requireAuthentication at present
  by_cases logged : (w.server.session session).authenticated = true
  · simp only [perform_bind, Program.trace, callAnswer, logged, ↓reduceIte,
      List.mem_cons] at present
    rcases present with first | rest
    · exact absurd (congrArg Event.call first) (other session (errorEnvelope "")).1
    · exact ⟨logged, rest⟩
  · simp [logged, sendError] at present
    rcases present with first | rest
    · exact absurd (congrArg Event.call first) (other session (errorEnvelope "")).1
    · exact absurd (congrArg Event.call rest) (other session _).2

theorem output_sendAll (recipients : List SessionId) (e : Envelope) (choices : Nat → Choice E)
    (w : World E) :
    (sendAll recipients e).output (chat E) choices w = recipients.map (fun id => (id, e)) := by
  induction recipients generalizing choices with
  | nil => rfl
  | cons id rest ih =>
    have tail := ih (later choices)
    simp only [sendAll, perform_bind, output_call, List.map_cons]
    exact congrArg ((id, e) :: ·) tail

theorem output_broadcastToRoom (roomName : String) (e : Envelope) (exclude : Int)
    (choices : Nat → Choice E) (w : World E) :
    (broadcastToRoom roomName e exclude).output (chat E) choices w =
      (w.server.roomService.recipients roomName exclude).map (fun id => (id, e)) := by
  have sent := output_sendAll (w.server.roomService.recipients roomName exclude) e
    (later choices) w
  simp only [broadcastToRoom, perform_bind, output_call]
  exact sent

theorem output_notifyRoom {session : SessionId} {username : String} (event : UserEventType)
    (userId : Int) (roomname : String) (choices : Nat → Choice E) {w : World E}
    (name : (w.server.session session).username = some username) :
    (notifyRoom session event userId roomname).output (chat E) choices w =
      (w.server.roomService.recipients roomname userId).map
        (fun id => (id, presence event userId username username)) := by
  unfold notifyRoom
  simp [name, output_broadcastToRoom]

theorem result_sendAll (recipients : List SessionId) (e : Envelope) (choices : Nat → Choice E)
    (w : World E) : (sendAll recipients e).result (chat E) choices w = .ok () := by
  induction recipients generalizing choices w with
  | nil => rfl
  | cons id rest ih =>
    have tail := ih (later choices) w
    simp only [sendAll, perform_bind, Program.result]
    exact tail

theorem result_notifyRoom {session : SessionId} {username : String} (event : UserEventType)
    (userId : Int) (roomname : String) (choices : Nat → Choice E) {w : World E}
    (name : (w.server.session session).username = some username) :
    (notifyRoom session event userId roomname).result (chat E) choices w = .ok () := by
  unfold notifyRoom broadcastToRoom
  simp [name, result_sendAll]

theorem output_notified {session : SessionId} {username : String} (event : UserEventType)
    (userId : Int) (roomname : String) (operation : RoomOperation) (message : String)
    (choices : Nat → Choice E) {w : World E}
    (name : (w.server.session session).username = some username) :
    (notifyRoom session event userId roomname >>= fun _ =>
        sendRoomResponse session true operation roomname message).output (chat E) choices w =
      (w.server.roomService.recipients roomname userId).map
          (fun id => (id, presence event userId username username)) ++
        [(session, envelope (.roomOperationResponse ⟨true, operation, roomname, message⟩))] := by
  rw [output_bind, result_notifyRoom event userId roomname choices name,
    output_notifyRoom event userId roomname choices name]
  simp [sendRoomResponse]

def answered (choice : Choice E) (q : Query) (store : E.Store) : Except Exception q.Answer :=
  catchLadder q (E.answer choice.store q store)

def roomFound (choices : Nat → Choice E) (roomname : String) (store : E.Store) :
    Except Exception (Option Room) :=
  answered (choices 2) (.findByRoomName roomname) store

def roomAdded (choices : Nat → Choice E) (userId : Int) (roomname : String) (store : E.Store) :
    Except Exception (Option Int) :=
  answered (choices 3) (.addRoom ⟨0, roomname, userId⟩) store

def roomAfter (session : SessionId) (user : Int) (request : RoomOperationRequest)
    (found : Except Exception (Option Room)) (added : Except Exception (Option Int))
    (r : RoomService) : RoomService :=
  match request.operation, found, added with
  | .join, .ok (some room), _ => r.join user request.roomName room session
  | .leave, _, _ => r.leave user request.roomName
  | .create, .ok none, .ok (some roomId) => r.create user request.roomName roomId session
  | _, _, _ => r

theorem final_handleRoomOperation (session : SessionId) (request : RoomOperationRequest)
    (choices : Nat → Choice E) (w : World E) {user : Int} {name : String}
    (who : (w.server.session session).identity = some (user, name)) :
    ((handleRoomOperation session request).final (chat E) choices w).server =
      { w.server with
        roomService := roomAfter session user request (roomFound choices request.roomName w.store)
          (roomAdded choices user request.roomName w.store) w.server.roomService } := by
  obtain ⟨present, userId, username⟩ := identity_some who
  unfold handleRoomOperation
  simp [present, userId]
  cases op : request.operation with
  | join =>
    simp [op, roomAfter, roomFound, answered]
    split
    · rename_i found heq
      cases found with
      | none => simp [heq, final_quiet (quiet_sendRoomResponse _ _ _ _ _)]
      | some room =>
        simp [heq, final_quiet_then (quiet_notifyRoom _ _ _ _)]
    · rename_i e heq
      simp [heq]
  | leave =>
    simp [op, roomAfter, final_quiet_then (quiet_notifyRoom _ _ _ _)]
  | create =>
    simp [op, roomAfter, roomFound, roomAdded, answered]
    split
    · rename_i found heq
      cases found with
      | some room => simp [heq, final_quiet (quiet_sendRoomResponse _ _ _ _ _)]
      | none =>
        simp [heq]
        split
        · rename_i added heq'
          cases added with
          | none => simp [heq', final_quiet (quiet_sendRoomResponse _ _ _ _ _)]
          | some roomId => simp [heq', final_quiet (quiet_sendRoomResponse _ _ _ _ _)]
        · rename_i e heq'
          simp [heq']
    · rename_i e heq
      simp [heq]
  | other value =>
    simp [op, roomAfter, final_quiet (quiet_sendRoomResponse _ _ _ _ _)]

theorem final_handleRoomOperation_anonymous (session : SessionId)
    (request : RoomOperationRequest) (choices : Nat → Choice E) (w : World E)
    (nobody : (w.server.session session).identity = none) :
    (handleRoomOperation session request).final (chat E) choices w = w := by
  unfold handleRoomOperation
  simp [identity_none nobody]

theorem final_handleDisconnect (session : SessionId) (choices : Nat → Choice E) (w : World E)
    {user : Int} {name : String}
    (who : (w.server.session session).identity = some (user, name)) :
    (handleDisconnect session).final (chat E) choices w =
      { w with server := { w.server with
        roomService := w.server.roomService.disconnect user } } := by
  obtain ⟨present, userId, username⟩ := identity_some who
  unfold handleDisconnect
  simp [present, userId, username]

theorem final_handleDisconnect_anonymous (session : SessionId) (choices : Nat → Choice E)
    (w : World E) (nobody : (w.server.session session).identity = none) :
    (handleDisconnect session).final (chat E) choices w = w := by
  unfold handleDisconnect
  simp [identity_none nobody]

def roomSends (r : RoomService) (session : SessionId) (userId : Int) (username : String)
    (m : RoomOperationRequest) (found : Except Exception (Option Room))
    (added : Except Exception (Option Int)) : List (SessionId × Envelope) :=
  let told := fun event (now : RoomService) => (now.recipients m.roomName userId).map
    (fun id => (id, presence event userId username username))
  let reply := fun success operation roomName message =>
    [(session, envelope (.roomOperationResponse ⟨success, operation, roomName, message⟩))]
  match m.operation, found, added with
  | .join, .ok none, _ => reply false .join "" ("Room '" ++ m.roomName ++ "' does not exist.")
  | .join, .ok (some room), _ => told .userJoined (r.join userId m.roomName room session) ++
    reply true .join m.roomName ("Joined room " ++ m.roomName ++ " successfully.")
  | .leave, _, _ => told .userLeft (r.leave userId m.roomName) ++
    reply true .leave m.roomName ("Left room " ++ m.roomName ++ " successfully.")
  | .create, .ok (some _), _ =>
    reply false .create m.roomName ("Room name '" ++ m.roomName ++ "' is already taken.")
  | .create, .ok none, .ok (some _) =>
    reply true .create m.roomName ("Created room " ++ m.roomName ++ " successfully.")
  | .create, .ok none, .ok none =>
    reply false .create m.roomName ("Created room " ++ m.roomName ++ " failed.")
  | .other value, _, _ => reply false (.other value) m.roomName "Unknown operation."
  | _, _, _ => []

theorem output_handleRoomOperation {session : SessionId} (m : RoomOperationRequest)
    (choices : Nat → Choice E) {w : World E} {userId : Int} {username : String}
    (who : (w.server.session session).identity = some (userId, username)) :
    (handleRoomOperation session m).output (chat E) choices w =
      roomSends w.server.roomService session userId username m
        (roomFound choices m.roomName w.store) (roomAdded choices userId m.roomName w.store) := by
  obtain ⟨present, id, name⟩ := identity_some who
  obtain ⟨operation, roomName⟩ := m
  unfold handleRoomOperation roomSends
  simp only [perform_bind, output_call, callEmit, callAnswer, present, ↓reduceIte, id, fieldOr,
    serverNext, storeNext, List.nil_append, roomFound, roomAdded, answered]
  cases operation with
  | join =>
    simp only [output_call, callEmit, callAnswer, serverNext, storeNext, List.nil_append, later_apply]
    split
    · rename_i found heq
      cases found with
      | none => simp [heq, sendRoomResponse]
      | some room =>
        simp only [heq, output_call, callEmit, callAnswer, List.nil_append]
        exact output_notified .userJoined userId roomName .join _ _ name
    · rename_i e heq
      simp [heq]
  | leave =>
    simp only [output_call, callEmit, callAnswer, List.nil_append]
    exact output_notified .userLeft userId roomName .leave _ _ name
  | create =>
    simp only [output_call, callEmit, callAnswer, serverNext, storeNext, List.nil_append, later_apply]
    split
    · rename_i found heq
      cases found with
      | some room => simp [heq, sendRoomResponse]
      | none =>
        simp only [heq, output_call, callEmit, callAnswer, List.nil_append, later_apply]
        split
        · rename_i added answer
          cases added <;> simp [answer, sendRoomResponse]
        · rename_i e answer
          simp [answer]
    · rename_i e heq
      simp [heq]
  | other value => simp [sendRoomResponse]

def privateSends (s : Server) (session : SessionId) (userId : Int) (username : String)
    (m : PrivateMessageRequest) (now : Timestamp) : List (SessionId × Envelope) :=
  let roomname := s.roomService.getUserCurrentRoomName userId
  let missing := codedError ("The user " ++ m.toUsername ++
    " you are trying to message does not exist or is not online.") 404
  let broadcast := envelope (.messageBroadcast
    ⟨toString userId, username, m.content, some now, some roomname⟩)
  if roomname = "" then [(session, codedError notInRoom 403)]
  else match s.sessionManager.sessionsByUsername[m.toUsername]? with
    | none => [(session, missing)]
    | some accept => match (s.session accept).identity with
      | none => [(session, missing)]
      | some (acceptId, _) =>
        if acceptId = userId then
          [(session, codedError "You cannot send a private message to yourself." 400)]
        else [(accept, broadcast), (session, broadcast)]

theorem output_handlePrivateMessage {session : SessionId} (m : PrivateMessageRequest)
    (choices : Nat → Choice E) {w : World E} {userId : Int} {username : String}
    (who : (w.server.session session).identity = some (userId, username)) :
    (handlePrivateMessage session m).output (chat E) choices w =
      privateSends w.server session userId username m (choices 7).now := by
  obtain ⟨present, id, name⟩ := identity_some who
  unfold handlePrivateMessage privateSends
  by_cases roomless : w.server.roomService.getUserCurrentRoomName userId = ""
  · simp [present, id, name, roomless, sendCodedError]
  · simp only [perform_bind, output_call, callEmit, callAnswer, present, ↓reduceIte, id, fieldOr,
      serverNext, storeNext, List.nil_append, roomless, name]
    cases found : w.server.sessionManager.sessionsByUsername[m.toUsername]? with
    | none => simp [name, sendCodedError]
    | some accept =>
      cases other : (w.server.session accept).identity with
      | none => simp [other, identity_none other, name, sendCodedError]
      | some identity =>
        obtain ⟨acceptId, acceptName⟩ := identity
        obtain ⟨online, acceptIs, -⟩ := identity_some other
        by_cases same : acceptId = userId
        · simp [other, online, acceptIs, same, name, sendCodedError]
        · simp [other, online, acceptIs, same]

def publicSends (s : Server) (session : SessionId) (userId : Int) (username : String)
    (m : PublicMessage) (now : Timestamp) (written : Except Exception (Option Int)) :
    List (SessionId × Envelope) :=
  let roomName := s.roomService.getUserCurrentRoomName userId
  if roomName = "" then [(session, codedError notInRoom 403)]
  else match written with
    | .error _ => []
    | .ok _ => (s.roomService.recipients roomName 0).map (fun id =>
        (id, envelope (.messageBroadcast
          ⟨toString userId, username, m.content, some now, some roomName⟩)))

theorem output_handlePublicMessage {session : SessionId} (m : PublicMessage)
    (choices : Nat → Choice E) {w : World E} {userId : Int} {username : String}
    (who : (w.server.session session).identity = some (userId, username)) :
    (handlePublicMessage session m).output (chat E) choices w =
      publicSends w.server session userId username m (choices 6).now
        (answered (choices 4) (.addMessage ⟨0, w.server.roomService.getUserCurrentRoomId userId,
          userId, m.content, 0⟩) w.store) := by
  obtain ⟨present, id, name⟩ := identity_some who
  unfold handlePublicMessage publicSends
  by_cases roomless : w.server.roomService.getUserCurrentRoomName userId = ""
  · simp [present, id, name, roomless, sendCodedError]
  · simp only [perform_bind, output_call, callEmit, callAnswer, present, ↓reduceIte, id, fieldOr,
      serverNext, storeNext, List.nil_append, roomless, name, answered, later_apply]
    split
    · rename_i written heq
      simp only [heq]
      rw [output_broadcastToRoom]
    · rename_i e heq
      simp [heq]

def historyEntry (roomname : String) (msg : Message) (name : String) : MessageBroadcast :=
  ⟨toString msg.senderId, name, msg.content, some (convertTimePointToTimestamp msg.createdAt),
    some roomname⟩

/-- What the stored messages and the lookups of their senders make of a history; none when
    a lookup throws. -/
def namedHistory (roomname : String) :
    List Message → (Nat → Choice E) → E.Store → Option (List MessageBroadcast)
  | [], _, _ => some []
  | msg :: rest, choices, store =>
    match answered (choices 0) (.findByUserId msg.senderId) store with
    | .error _ => none
    | .ok none => (namedHistory roomname rest (later choices) store).map
        (historyEntry roomname msg "Unknown" :: ·)
    | .ok (some _) => match answered (choices 1) (.findByUserId msg.senderId) store with
      | .ok (some user) => (namedHistory roomname rest (later (later choices)) store).map
          (historyEntry roomname msg user.username :: ·)
      | _ => none

theorem output_historyMessages {w : World E} (roomname : String) (messages : List Message)
    (choices : Nat → Choice E) (next : List MessageBroadcast → Handler)
    (sends : List MessageBroadcast → List (SessionId × Envelope))
    (goes_on : ∀ history choices, (next history).output (chat E) choices w = sends history) :
    (historyMessages roomname messages >>= next).output (chat E) choices w =
      match namedHistory roomname messages choices w.store with
      | some history => sends history
      | none => [] := by
  induction messages generalizing choices next sends with
  | nil => exact goes_on [] choices
  | cons msg rest ih =>
    have tail : ∀ name choices, (historyMessages roomname rest >>= fun others =>
        next (historyEntry roomname msg name :: others)).output (chat E) choices w =
        match (namedHistory roomname rest choices w.store).map (historyEntry roomname msg name :: ·)
          with
        | some history => sends history
        | none => [] := by
      intro name choices
      rw [ih choices _ (fun others => sends (historyEntry roomname msg name :: others))
        (fun history choices => goes_on _ choices)]
      cases namedHistory roomname rest choices w.store <;> rfl
    simp only [historyMessages, bind_assoc, senderName, perform_bind, call_bind, namedHistory,
      output_call, callEmit, callAnswer, answered, serverNext, storeNext, List.nil_append]
    split
    · rename_i first heq
      cases first with
      | none =>
        simp only [heq, pure_eq_done, done_bind]
        exact tail "Unknown" (later choices)
      | some user =>
        simp only [heq, call_bind, output_call, callEmit, callAnswer, later_apply, List.nil_append]
        split
        · rename_i again heq'
          cases again with
          | none => simp [heq']
          | some user =>
            simp only [heq', pure_eq_done, done_bind]
            exact tail user.username (later (later choices))
        · rename_i e heq'
          simp [heq']
    · rename_i e heq
      simp [heq]

end ChatEffects
