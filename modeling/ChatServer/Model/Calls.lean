import ChatServer.Model.State

/-!
The atomic calls the handlers make and the machine that performs them. A call is a
block under the shared mutex, a read of a session's fields, one `Session::send`, one
repository call, or a draw of a salt or of the time. What a repository answers is
left to an environment: any answers at all, or the tables of `Database`.
-/
namespace ChatCalls
open AtomicCalls ChatProtocol ChatState

inductive Query where
  | findByUsername (username : String)
  | findByUserId (id : Int)
  | addUser (user : User)
  | updateUser (user : User)
  | findByRoomName (name : String)
  | addRoom (room : Room)
  | addMessage (message : Message)
  | findLatestByRoomId (roomId : Int) (limit : Int)
  deriving DecidableEq

/-- An insert that returns true also writes the new id into its argument. -/
abbrev Query.Answer : Query → Type
  | .findByUsername _ => Option User
  | .findByUserId _ => Option User
  | .addUser _ => Option Int
  | .updateUser _ => Bool
  | .findByRoomName _ => Option Room
  | .addRoom _ => Option Int
  | .addMessage _ => Option Int
  | .findLatestByRoomId _ _ => List Message

/-- What a repository returns from a catch block that does not rethrow. -/
def Query.fallback : (q : Query) → q.Answer
  | .findByUsername _ => none
  | .findByUserId _ => none
  | .addUser _ => none
  | .updateUser _ => false
  | .findByRoomName _ => none
  | .addRoom _ => none
  | .addMessage _ => none
  | .findLatestByRoomId _ _ => []

/-- What the driver may raise inside a repository function: a `soci_error` of one of
    the categories the catch blocks name, one of another category, or some other
    `std::exception`. -/
inductive DriverError where
  | noData
  | connectionError
  | systemError
  | otherCategory
  | standardException
  deriving DecidableEq, Repr

inductive Exception where
  | sociError
  | runtimeError
  | logicError
  | badOptionalAccess
  | emptyOptionalDereferenced
  deriving DecidableEq, Repr

/-- The catch ladder that ends every repository function. -/
def catchLadder (q : Query) : Except DriverError q.Answer → Except Exception q.Answer
  | .ok a => .ok a
  | .error .otherCategory => .error .sociError
  | .error _ => .ok q.fallback

inductive Call where
  | isAuthenticated (session : SessionId)
  | getUserId (session : SessionId)
  | getUsername (session : SessionId)
  | send (session : SessionId) (envelope : Envelope)
  | registerAuthenticatedSession (session : SessionId) (userId : Int) (username : String)
  | updateUsername (session : SessionId) (newUsername : String)
  | removeSession (session : SessionId)
  | findSession (username : String)
  | joinRoom (userId : Int) (roomname : String) (room : Room) (session : SessionId)
  | leaveRoom (userId : Int) (roomname : String)
  | createRoom (userId : Int) (roomname : String) (roomId : Int) (session : SessionId)
  | disconnectRoom (session : SessionId) (userId : Int)
  | isInRoom (userId : Int) (roomname : String)
  | getUserCurrentRoomName (userId : Int)
  | getUserCurrentRoomId (userId : Int)
  | recipients (roomName : String) (excludeUserId : Int)
  | repository (query : Query)
  | generateSalt
  | getCurrentTime
  | dereferenceEmpty
  deriving DecidableEq

abbrev Call.Answer : Call → Type
  | .isAuthenticated _ => Bool
  | .getUserId _ => Int
  | .getUsername _ => String
  | .send _ _ => Unit
  | .registerAuthenticatedSession _ _ _ => Unit
  | .updateUsername _ _ => Unit
  | .removeSession _ => Unit
  | .findSession _ => Option SessionId
  | .joinRoom _ _ _ _ => Unit
  | .leaveRoom _ _ => Unit
  | .createRoom _ _ _ _ => Unit
  | .disconnectRoom _ _ => Unit
  | .isInRoom _ _ => Bool
  | .getUserCurrentRoomName _ => String
  | .getUserCurrentRoomId _ => Int
  | .recipients _ _ => List SessionId
  | .repository query => query.Answer
  | .generateSalt => String
  | .getCurrentTime => Timestamp
  | .dereferenceEmpty => Empty

abbrev call (c : Call) : Program Call Call.Answer c.Answer := perform c

abbrev ask (q : Query) : Program Call Call.Answer q.Answer := perform (Call.repository q)

/-- What stands behind the repositories: how a query is answered, before the catch
    ladder, and what it leaves stored. -/
structure Environment where
  Store : Type
  Choice : Type
  answer : Choice → (q : Query) → Store → Except DriverError q.Answer
  next : Choice → Query → Store → Store

/-- Every query is answered as the choice says, whatever was asked before. -/
def anyAnswers : Environment where
  Store := Unit
  Choice := (q : Query) → Except DriverError q.Answer
  answer := fun choice q _ => choice q
  next := fun _ _ store => store

structure World (E : Environment) where
  server : Server
  store : E.Store

/-- What one call may find outside the process; each call looks at its own part.
    A salt of `none` is a failure of `RAND_bytes`. -/
structure Choice (E : Environment) where
  store : E.Choice
  salt : Option String
  now : Timestamp

/-- The notification of JOIN, LEAVE and `handleDisconnect`, which read the name twice. -/
def presence (event : UserEventType) (userId : Int) (username shown : String) : Envelope :=
  envelope (.serverNotification ⟨event, toString userId, username,
    "User " ++ shown ++ match event with
      | .userJoined => " has joined the room."
      | .userLeft => " has left the room."⟩)

/-- What `handleDisconnect` sends while it holds the mutex. -/
def disconnectNotices (s : Server) (session : SessionId) (userId : Int) :
    List (SessionId × Envelope) :=
  match s.roomService.userToRoomMap[userId]?, (s.session session).username with
  | some roomName, some username =>
    (s.roomService.recipients roomName userId).map
      (fun id => (id, presence .userLeft userId username username))
  | _, _ => []

@[simp] def fieldOr (e : Exception) : Option α → Except Exception α
  | some a => .ok a
  | none => .error e

variable (E : Environment)

@[simp] def callAnswer (choice : Choice E) : (c : Call) → World E → Except Exception c.Answer
  | .isAuthenticated id, w => .ok (w.server.session id).authenticated
  | .getUserId id, w => fieldOr .logicError (w.server.session id).userId
  | .getUsername id, w => fieldOr .badOptionalAccess (w.server.session id).username
  | .send _ _, _ => .ok ()
  | .registerAuthenticatedSession _ _ _, _ => .ok ()
  | .updateUsername id _, w =>
    (fieldOr .badOptionalAccess (w.server.session id).username).map (fun _ => ())
  | .removeSession _, _ => .ok ()
  | .findSession username, w => .ok w.server.sessionManager.sessionsByUsername[username]?
  | .joinRoom _ _ _ _, _ => .ok ()
  | .leaveRoom _ _, _ => .ok ()
  | .createRoom _ _ _ _, _ => .ok ()
  | .disconnectRoom id userId, w =>
    match w.server.roomService.userToRoomMap[userId]? with
    | some _ => (fieldOr .badOptionalAccess (w.server.session id).username).map (fun _ => ())
    | none => .ok ()
  | .isInRoom userId roomname, w =>
    .ok (decide (w.server.roomService.userToRoomMap[userId]? = some roomname))
  | .getUserCurrentRoomName userId, w => .ok (w.server.roomService.getUserCurrentRoomName userId)
  | .getUserCurrentRoomId userId, w => .ok (w.server.roomService.getUserCurrentRoomId userId)
  | .recipients roomName exclude, w => .ok (w.server.roomService.recipients roomName exclude)
  | .repository q, w => catchLadder q (E.answer choice.store q w.store)
  | .generateSalt, _ => fieldOr .runtimeError choice.salt
  | .getCurrentTime, _ => .ok choice.now
  | .dereferenceEmpty, _ => .error .emptyOptionalDereferenced

@[simp] def serverNext : Call → Server → Server
  | .registerAuthenticatedSession id userId username, s =>
    s.registerAuthenticatedSession id userId username
  | .updateUsername id newUsername, s => s.updateUsername id newUsername
  | .removeSession id, s => s.removeSession id
  | .joinRoom userId roomname room id, s =>
    { s with roomService := s.roomService.join userId roomname room id }
  | .leaveRoom userId roomname, s =>
    { s with roomService := s.roomService.leave userId roomname }
  | .createRoom userId roomname roomId id, s =>
    { s with roomService := s.roomService.create userId roomname roomId id }
  | .disconnectRoom id userId, s =>
    match (s.session id).username with
    | some _ => { s with roomService := s.roomService.disconnect userId }
    | none => s
  | _, s => s

@[simp] def storeNext (choice : Choice E) : Call → E.Store → E.Store
  | .repository (.addUser user), store => E.next choice.store (.addUser user) store
  | .repository (.updateUser user), store => E.next choice.store (.updateUser user) store
  | .repository (.addRoom room), store => E.next choice.store (.addRoom room) store
  | .repository (.addMessage message), store => E.next choice.store (.addMessage message) store
  | _, store => store

@[simp] def callEmit : Call → Server → List (SessionId × Envelope)
  | .send id e, _ => [(id, e)]
  | .disconnectRoom id userId, s => disconnectNotices s id userId
  | _, _ => []

abbrev chat : Machine Call Call.Answer where
  State := World E
  Choice := Choice E
  Fault := Exception
  Output := SessionId × Envelope
  answer := callAnswer E
  next := fun choice c w => ⟨serverNext c w.server, storeNext E choice c w.store⟩
  emit := fun _ c w => callEmit c w.server

end ChatCalls
