import ChatServer.Model.Protocol

/-!
The memory of the server: the session objects, the indexes of `SessionManager` and
the two maps of `RoomService`, with one definition for every block that runs under
the shared mutex. A session is known by its number, as the source knows it by its
pointer. The order of an `unordered_map` is unspecified; ours is the order of keys.
-/
namespace ChatState
open ChatProtocol

abbrev SessionId := Nat

/-- `setAuthenticated` sets the flag and both fields, so the flag promises them. -/
structure Session where
  userId : Option Int
  username : Option String
  authenticated : Bool
  identified : authenticated = true → userId.isSome = true ∧ username.isSome = true

def Session.fresh : Session := ⟨none, none, false, by simp⟩

def Session.setAuthenticated (_ : Session) (userId : Int) (username : String) : Session :=
  ⟨some userId, some username, true, by simp⟩

def Session.setUsername (s : Session) (newUsername : String) : Session :=
  ⟨s.userId, some newUsername, s.authenticated, fun h => ⟨(s.identified h).1, rfl⟩⟩

def Session.identity (s : Session) : Option (Int × String) :=
  if s.authenticated then
    match s.userId, s.username with
    | some userId, some username => some (userId, username)
    | _, _ => none
  else none

structure SessionManager where
  sessions : Std.ExtTreeSet SessionId
  sessionsByUserId : Std.ExtTreeMap Int SessionId
  sessionsByUsername : Std.ExtTreeMap String SessionId

structure ActiveRoom where
  id : Int
  creatorId : Int
  name : String
  members : Std.ExtTreeMap Int SessionId

structure RoomService where
  activeRooms : Std.ExtTreeMap String ActiveRoom
  userToRoomMap : Std.ExtTreeMap Int String

structure Server where
  session : SessionId → Session
  sessionManager : SessionManager
  roomService : RoomService

def SessionManager.empty : SessionManager := ⟨∅, ∅, ∅⟩

def RoomService.empty : RoomService := ⟨∅, ∅⟩

def Server.start : Server := ⟨fun _ => .fresh, .empty, .empty⟩

def Server.setSession (s : Server) (id : SessionId) (session : Session) : Server :=
  { s with session := Function.update s.session id session }

def Server.removeSession (s : Server) (id : SessionId) : Server :=
  let m := s.sessionManager
  let rest : SessionManager := match (s.session id).identity with
    | some (userId, username) =>
      { m with
        sessionsByUserId := m.sessionsByUserId.erase userId
        sessionsByUsername := m.sessionsByUsername.erase username }
    | none => m
  { s with sessionManager := { rest with sessions := rest.sessions.erase id } }

/-- `getUsername` throws before anything is changed when the name was never set. -/
def Server.updateUsername (s : Server) (id : SessionId) (newUsername : String) : Server :=
  match (s.session id).username with
  | none => s
  | some username =>
    let m := s.sessionManager
    { s.setSession id ((s.session id).setUsername newUsername) with
      sessionManager := { m with
        sessionsByUsername := (m.sessionsByUsername.erase username).insert newUsername id } }

def Server.registerAuthenticatedSession (s : Server) (id : SessionId) (userId : Int)
    (username : String) : Server :=
  let m := s.sessionManager
  { s.setSession id ((s.session id).setAuthenticated userId username) with
    sessionManager := { m with
      sessionsByUserId := m.sessionsByUserId.insert userId id
      sessionsByUsername := m.sessionsByUsername.insert username id } }

def dropMember (activeRooms : Std.ExtTreeMap String ActiveRoom) (roomName : String)
    (userId : Int) : Std.ExtTreeMap String ActiveRoom :=
  match activeRooms[roomName]? with
  | none => activeRooms
  | some room =>
    let members := room.members.erase userId
    if members.isEmpty then activeRooms.erase roomName
    else activeRooms.insert roomName { room with members := members }

/-- The user out of the room the map names, as JOIN, LEAVE and `handleDisconnect` each
    write it out. -/
def RoomService.vacate (r : RoomService) (userId : Int) : RoomService :=
  match r.userToRoomMap[userId]? with
  | some roomName => ⟨dropMember r.activeRooms roomName userId, r.userToRoomMap.erase userId⟩
  | none => r

/-- The locked block of JOIN: out of the old room, then into the new one, which is
    rebuilt from the stored row when it is not active. -/
def RoomService.join (r : RoomService) (userId : Int) (roomname : String) (room : Room)
    (session : SessionId) : RoomService :=
  let left := r.vacate userId
  let entry : ActiveRoom := match left.activeRooms[roomname]? with
    | some active => { active with members := active.members.insert userId session }
    | none => ⟨room.id, room.creatorId, room.name,
        (∅ : Std.ExtTreeMap Int SessionId).insert userId session⟩
  ⟨left.activeRooms.insert roomname entry, left.userToRoomMap.insert userId roomname⟩

def RoomService.leave (r : RoomService) (userId : Int) (roomname : String) : RoomService :=
  if r.userToRoomMap[userId]? = some roomname then r.vacate userId else r

/-- The locked block of CREATE. `operator[]` keeps the members of an entry that is
    already there, and nothing takes the user out of another room. -/
def RoomService.create (r : RoomService) (userId : Int) (roomname : String) (roomId : Int)
    (session : SessionId) : RoomService :=
  let members : Std.ExtTreeMap Int SessionId := match r.activeRooms[roomname]? with
    | some active => active.members
    | none => ∅
  ⟨r.activeRooms.insert roomname ⟨roomId, userId, roomname, members.insert userId session⟩,
    r.userToRoomMap.insert userId roomname⟩

def RoomService.disconnect (r : RoomService) (userId : Int) : RoomService := r.vacate userId

def RoomService.getUserCurrentRoomName (r : RoomService) (userId : Int) : String :=
  match r.userToRoomMap[userId]? with
  | some roomName => roomName
  | none => ""

def RoomService.getUserCurrentRoomId (r : RoomService) (userId : Int) : Int :=
  match r.userToRoomMap[userId]? with
  | some roomName =>
    match r.activeRooms[roomName]? with
    | some room => room.id
    | none => 0
  | none => 0

def RoomService.recipients (r : RoomService) (roomName : String) (excludeUserId : Int) :
    List SessionId :=
  match r.activeRooms[roomName]? with
  | some room => (room.members.toList.filter (fun m => m.1 != excludeUserId)).map (·.2)
  | none => []

end ChatState
