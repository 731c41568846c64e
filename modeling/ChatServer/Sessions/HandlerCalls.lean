import ChatServer.Sessions.Jobs

/-!
What the handlers of rooms, of messages and of disconnects call. Most of what is said of all
their calls follows from these lists, as it does for the other handlers from theirs.
-/
namespace HandlerCalls
open AtomicCalls ChatProtocol ChatState ChatCalls ChatServices ChatEffects

/-- What the handler of room operations calls; it answers with the operation it was asked for. -/
@[simp] def RoomCall (session : SessionId) (m : RoomOperationRequest) : Call → Prop
  | .isAuthenticated id => id = session
  | .getUserId id => id = session
  | .getUsername id => id = session
  | .repository (.findByRoomName _) => True
  | .repository (.addRoom _) => True
  | .joinRoom _ _ _ _ => True
  | .leaveRoom _ _ => True
  | .createRoom _ _ _ _ => True
  | .recipients _ _ => True
  | .send id e => (∃ event userId username shown, e = presence event userId username shown) ∨
    id = session ∧ ∃ success roomName message,
      e = envelope (.roomOperationResponse ⟨success, m.operation, roomName, message⟩)
  | _ => False

/-- What the handler of public messages calls; it stores and tells what it was given. -/
@[simp] def PublicCall (session : SessionId) (m : PublicMessage) : Call → Prop
  | .isAuthenticated id => id = session
  | .getUserId id => id = session
  | .getUsername id => id = session
  | .getUserCurrentRoomName _ => True
  | .getUserCurrentRoomId _ => True
  | .recipients _ _ => True
  | .repository (.addMessage message) => message.content = m.content
  | .getCurrentTime => True
  | .send _ e => (∃ message code, e = codedError message code) ∨
    ∃ b, e = envelope (.messageBroadcast b) ∧ b.content = m.content
  | _ => False

@[simp] def PrivateCall (m : PrivateMessageRequest) : Call → Prop
  | .isAuthenticated _ => True
  | .getUserId _ => True
  | .getUsername _ => True
  | .getUserCurrentRoomName _ => True
  | .findSession username => username = m.toUsername
  | .getCurrentTime => True
  | .send _ e => (∃ message code, e = codedError message code) ∨
    ∃ b, e = envelope (.messageBroadcast b) ∧ b.content = m.content
  | _ => False

@[simp] def LeaveCall (session : SessionId) : Call → Prop
  | .isAuthenticated id => id = session
  | .getUserId id => id = session
  | .getUsername id => id = session
  | .disconnectRoom id _ => id = session
  | .removeSession id => id = session
  | _ => False

section Rooms
variable {session : SessionId} {m : RoomOperationRequest}

theorem roomCalls_sendRoomResponse {operation : RoomOperation} (asked : operation = m.operation)
    (success : Bool) (roomName message : String) :
    (sendRoomResponse session success operation roomName message).Uses (RoomCall session m) := by
  rw [asked]
  exact ⟨Or.inr ⟨rfl, success, roomName, message, rfl⟩, fun _ => trivial⟩

theorem roomCalls_notifyRoom (event : UserEventType) (userId : Int) (roomname : String) :
    (notifyRoom session event userId roomname).Uses (RoomCall session m) := by
  have named : RoomCall session m (.getUsername session) := rfl
  have sent : ∀ username shown id,
      RoomCall session m (.send id (presence event userId username shown)) :=
    fun username shown _ => Or.inl ⟨event, userId, username, shown, rfl⟩
  exact uses_notifyRoom named (fun _ => trivial) sent roomname

theorem roomCalls_notified {operation : RoomOperation} (asked : operation = m.operation)
    (event : UserEventType) (userId : Int) (roomname message : String) :
    (notifyRoom session event userId roomname >>= fun _ =>
      sendRoomResponse session true operation roomname message).Uses (RoomCall session m) :=
  uses_bind (roomCalls_notifyRoom event userId roomname)
    fun _ => roomCalls_sendRoomResponse asked true roomname message

theorem roomCalls_handleRoomOperation (session : SessionId) (m : RoomOperationRequest) :
    (handleRoomOperation session m).Uses (RoomCall session m) := by
  simp only [handleRoomOperation, perform_bind, Program.Uses, RoomCall, true_and]
  intro present
  cases present with
  | false => trivial
  | true =>
    simp only [if_true, Program.Uses, RoomCall, true_and]
    intro userId
    cases asked : m.operation with
    | join =>
      simp only [Program.Uses, RoomCall, true_and]
      intro found
      cases found with
      | none => exact roomCalls_sendRoomResponse asked.symm _ _ _
      | some room => exact ⟨trivial, fun _ => roomCalls_notified asked.symm _ _ _ _⟩
    | leave => exact ⟨trivial, fun _ => roomCalls_notified asked.symm _ _ _ _⟩
    | create =>
      simp only [Program.Uses, RoomCall, true_and]
      intro found
      cases found with
      | some room => exact roomCalls_sendRoomResponse asked.symm _ _ _
      | none =>
        simp only [Program.Uses, RoomCall, true_and]
        intro added
        cases added with
        | none => exact roomCalls_sendRoomResponse asked.symm _ _ _
        | some roomId => exact ⟨trivial, fun _ => roomCalls_sendRoomResponse asked.symm _ _ _⟩
    | other value => exact roomCalls_sendRoomResponse asked.symm _ _ _

end Rooms

section Messages
variable (session : SessionId)

theorem publicCalls_handlePublicMessage (m : PublicMessage) :
    (handlePublicMessage session m).Uses (PublicCall session m) := by
  simp only [handlePublicMessage, perform_bind, Program.Uses, PublicCall, true_and]
  intro present
  cases present with
  | false => trivial
  | true =>
    simp only [if_true, Program.Uses, PublicCall, true_and]
    intro senderId roomName
    split
    · exact ⟨rfl, fun _ => ⟨Or.inl ⟨notInRoom, 403, rfl⟩, fun _ => trivial⟩⟩
    · simp only [broadcastToRoom, perform_bind, Program.Uses, PublicCall, true_and]
      intro roomId _ username now userId target recipients
      exact uses_sendAll (fun _ => Or.inr ⟨_, rfl, rfl⟩) recipients

theorem privateCalls_refused {m : PrivateMessageRequest} (message : String) (code : Int) :
    (call (.getUsername session) >>= fun _ =>
      sendCodedError session message code).Uses (PrivateCall m) :=
  ⟨trivial, fun _ => ⟨Or.inl ⟨message, code, rfl⟩, fun _ => trivial⟩⟩

theorem privateCalls_handlePrivateMessage (m : PrivateMessageRequest) :
    (handlePrivateMessage session m).Uses (PrivateCall m) := by
  simp only [handlePrivateMessage, perform_bind, Program.Uses, PrivateCall, true_and]
  intro present
  cases present with
  | false => trivial
  | true =>
    simp only [if_true, Program.Uses, PrivateCall, true_and]
    intro senderId senderName roomname
    split
    · exact privateCalls_refused session notInRoom 403
    · simp only [Program.Uses, PrivateCall, true_and]
      intro found
      cases found with
      | none => exact privateCalls_refused session _ 404
      | some acceptSession =>
        simp only [Program.Uses, PrivateCall, true_and]
        intro online
        cases online with
        | false => exact privateCalls_refused session _ 404
        | true =>
          simp only [if_true, Program.Uses, PrivateCall, true_and]
          intro other
          split
          · exact privateCalls_refused session _ 400
          · have told : ∀ b : MessageBroadcast, b.content = m.content → ∀ id,
                PrivateCall m (.send id (envelope (.messageBroadcast b))) :=
              fun b same _ => Or.inr ⟨b, rfl, same⟩
            exact ⟨trivial, fun _ => ⟨told _ rfl _, fun _ => ⟨told _ rfl _, fun _ => trivial⟩⟩⟩

end Messages

theorem leaveCalls_onDisconnect (session : SessionId) :
    (onDisconnect session).Uses (LeaveCall session) := by
  simp only [onDisconnect, handleDisconnect, perform_bind, call_bind, Program.Uses, LeaveCall,
    true_and]
  intro present
  cases present with
  | false => exact ⟨rfl, fun _ => trivial⟩
  | true =>
    simp only [if_true, Program.Uses, LeaveCall, true_and]
    intro username userId still
    cases still with
    | false => exact ⟨rfl, fun _ => trivial⟩
    | true => exact ⟨rfl, fun _ => ⟨rfl, fun _ => ⟨rfl, fun _ => trivial⟩⟩⟩

end HandlerCalls
