import ChatServer.Model.Protocol

/-!
The chat client as far as it follows the room its user is in: the room commands of the
input loop, and what a message from the server does to `currentRoom`.
-/
namespace ChatClient
open ChatProtocol

inductive Command where
  | create (roomName : String)
  | join (roomName : String)
  | leave
  deriving DecidableEq, Repr

structure Client where
  currentRoom : String
  deriving DecidableEq, Repr

/-- What `handle_user_input` sends for a command; outside of rooms there is nothing to leave. -/
def Client.handleUserInput (client : Client) : Command → Option Envelope
  | .create roomName => some (envelope (.roomOperationRequest ⟨.create, roomName⟩))
  | .join roomName => some (envelope (.roomOperationRequest ⟨.join, roomName⟩))
  | .leave =>
    if client.currentRoom = "" then none
    else some (envelope (.roomOperationRequest ⟨.leave, client.currentRoom⟩))

/-- The second branch does not ask whether the room was created. -/
def Client.handleRoomOperationResponse (client : Client) (resp : RoomOperationResponse) :
    Client × List Envelope :=
  if resp.success = true ∧ resp.operation = .join then
    (⟨resp.roomName⟩, [envelope (.historyMessageRequest ⟨resp.roomName, 20⟩)])
  else if resp.operation = .create then (⟨resp.roomName⟩, [])
  else if resp.success = true ∧ resp.operation = .leave then (⟨""⟩, [])
  else (client, [])

/-- The client after a message, and what it sends in turn. The other messages are shown. -/
def Client.handleServerMessage (client : Client) (e : Envelope) : Client × List Envelope :=
  match e.payload with
  | some (.roomOperationResponse resp) => client.handleRoomOperationResponse resp
  | _ => (client, [])

end ChatClient
