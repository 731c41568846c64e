import ChatServer.Atomic.KeyedMaps
import ChatServer.Model.Calls

/-!
The maps of `RoomService` read as functions. `memberSession` is the session a room
holds for a user; each block under the mutex changes it at the places its equation
names and nowhere else.
-/
namespace RoomMaps
open KeyedMaps ChatProtocol ChatState ChatCalls

def memberSession (rooms : Std.ExtTreeMap String ActiveRoom) (name : String) (user : Int) :
    Option SessionId :=
  rooms[name]?.bind (fun (room : ActiveRoom) => room.members[user]?)

def IsMember (rooms : Std.ExtTreeMap String ActiveRoom) (name : String) (user : Int) : Prop :=
  ∃ room : ActiveRoom, rooms[name]? = some room ∧ user ∈ room.members

theorem isMember_iff (rooms : Std.ExtTreeMap String ActiveRoom) (name : String) (user : Int) :
    IsMember rooms name user ↔ (memberSession rooms name user).isSome = true := by
  unfold IsMember memberSession
  cases rooms[name]? <;> simp

def Occupied (rooms : Std.ExtTreeMap String ActiveRoom) : Prop :=
  ∀ (name : String) (room : ActiveRoom), rooms[name]? = some room → room.members.isEmpty = false

variable (rooms : Std.ExtTreeMap String ActiveRoom)

theorem memberSession_erase (name other : String) (user : Int) :
    memberSession (rooms.erase name) other user =
      if other = name then none else memberSession rooms other user := by
  simp only [memberSession, find_erase]
  split <;> simp_all

theorem memberSession_insert (name other : String) (room : ActiveRoom) (user : Int) :
    memberSession (rooms.insert name room) other user =
      if other = name then room.members[user]? else memberSession rooms other user := by
  simp only [memberSession, find_insert]
  split <;> simp_all

theorem memberSession_dropMember (name other : String) (user who : Int) :
    memberSession (dropMember rooms name user) other who =
      if other = name ∧ who = user then none else memberSession rooms other who := by
  unfold dropMember
  cases found : rooms[name]? with
  | none =>
    by_cases same : other = name
    · subst same
      simp [memberSession, found]
    · simp [same]
  | some room =>
    have inside : memberSession rooms name who = room.members[who]? := by
      simp [memberSession, found]
    by_cases empty : (room.members.erase user).isEmpty = true
    · have gone := find_of_isEmpty empty who
      rw [find_erase] at gone
      simp only [empty, ↓reduceIte, memberSession_erase]
      by_cases same : other = name
      · subst same
        by_cases it : who = user
        · simp [it]
        · simp only [it, ↓reduceIte] at gone
          simp [it, inside, gone]
      · simp [same]
    · simp only [empty, Bool.false_eq_true, ↓reduceIte, memberSession_insert, find_erase]
      by_cases same : other = name
      · subst same
        simp [inside]
      · simp [same]

variable {rooms : Std.ExtTreeMap String ActiveRoom}

theorem occupied_dropMember (h : Occupied rooms) (name : String) (user : Int) :
    Occupied (dropMember rooms name user) := by
  unfold dropMember
  cases found : rooms[name]? with
  | none => exact h
  | some room =>
    by_cases empty : (room.members.erase user).isEmpty = true
    · simp only [empty, ↓reduceIte]
      intro other entry stored
      rw [find_erase] at stored
      split at stored
      · cases stored
      · exact h other entry stored
    · simp only [empty, Bool.false_eq_true, ↓reduceIte]
      intro other entry stored
      rw [find_insert] at stored
      split at stored
      · cases stored
        simpa using empty
      · exact h other entry stored

theorem occupied_insert (h : Occupied rooms) (name : String) (id creatorId : Int)
    (title : String) (members : Std.ExtTreeMap Int SessionId) (user : Int)
    (session : SessionId) :
    Occupied (rooms.insert name ⟨id, creatorId, title, members.insert user session⟩) := by
  intro other entry stored
  rw [find_insert] at stored
  split at stored
  · cases stored
    simp
  · exact h other entry stored

/-- A broadcast goes to the sessions of the other members. -/
theorem mem_recipients {r : RoomService} {name : String} {exclude : Int} {session : SessionId} :
    session ∈ r.recipients name exclude ↔
      ∃ user, user ≠ exclude ∧ memberSession r.activeRooms name user = some session := by
  unfold RoomService.recipients memberSession
  cases found : r.activeRooms[name]? with
  | none => simp
  | some room =>
    simp only [List.mem_map, List.mem_filter, bne_iff_ne, Option.bind_some, Prod.exists,
      Std.ExtTreeMap.mem_toList_iff_getElem?_eq_some]
    constructor
    · intro sent
      obtain ⟨user, held, ⟨member, other⟩, same⟩ := sent
      exact ⟨user, other, same ▸ member⟩
    · intro member
      obtain ⟨user, other, held⟩ := member
      exact ⟨user, session, ⟨held, other⟩, rfl⟩

theorem count_recipients_zero {r : RoomService} {name : String} {exclude : Int}
    {session : SessionId} : (r.recipients name exclude).count session = 0 ↔
      ∀ user, user ≠ exclude → memberSession r.activeRooms name user ≠ some session := by
  rw [List.count_eq_zero, mem_recipients]
  simp

theorem count_recipients_one {r : RoomService} {name : String} {exclude member : Int}
    {session : SessionId} (other : member ≠ exclude)
    (here : memberSession r.activeRooms name member = some session) :
    (r.recipients name exclude).count session = 1 ↔
      ∀ user, user ≠ exclude → memberSession r.activeRooms name user = some session →
        user = member := by
  unfold memberSession at here ⊢
  unfold RoomService.recipients
  cases found : r.activeRooms[name]? with
  | none => simp [found] at here
  | some room =>
    simp only [found, Option.bind_some] at here ⊢
    have keys : ((room.members.toList.filter (fun m => m.1 != exclude)).map Prod.fst).Nodup := by
      rw [List.Nodup, List.pairwise_map]
      apply List.Pairwise.filter
      apply room.members.distinct_keys_toList.imp
      intro a b apart same
      exact apart (by simp [same])
    have listed : (member, session) ∈ room.members.toList.filter (fun m => m.1 != exclude) := by
      simp [here, other]
    rw [count_values keys listed]
    simp only [List.mem_filter, bne_iff_ne, Std.ExtTreeMap.mem_toList_iff_getElem?_eq_some]
    constructor
    · intro unique user apart held
      exact unique user ⟨held, apart⟩
    · intro unique user held
      exact unique user held.2 held.1

section Blocks
variable (r : RoomService) (user who : Int) (name other : String) (session : SessionId)

theorem map_vacate :
    (r.vacate user).userToRoomMap[who]? =
      if who = user then none else r.userToRoomMap[who]? := by
  unfold RoomService.vacate
  cases found : r.userToRoomMap[user]? with
  | none =>
    by_cases same : who = user
    · simp [same, found]
    · simp [same]
  | some old => exact find_erase r.userToRoomMap user who

theorem memberSession_vacate :
    memberSession (r.vacate user).activeRooms other who =
      if who = user ∧ r.userToRoomMap[user]? = some other then none
      else memberSession r.activeRooms other who := by
  unfold RoomService.vacate
  cases found : r.userToRoomMap[user]? with
  | none => simp
  | some old =>
    simp only [memberSession_dropMember, Option.some.injEq]
    grind

theorem currentName_iff {r : RoomService} {user : Int} {name : String} (named : name ≠ "") :
    r.getUserCurrentRoomName user = name ↔ r.userToRoomMap[user]? = some name := by
  unfold RoomService.getUserCurrentRoomName
  cases r.userToRoomMap[user]? with
  | none => simp [named.symm]
  | some other => simp

theorem occupied_vacate (h : Occupied r.activeRooms) :
    Occupied (r.vacate user).activeRooms := by
  unfold RoomService.vacate
  cases r.userToRoomMap[user]? with
  | none => exact h
  | some old => exact occupied_dropMember h old user

theorem map_join (room : Room) :
    (r.join user name room session).userToRoomMap[who]? =
      if who = user then some name else r.userToRoomMap[who]? := by
  simp only [RoomService.join, find_insert, map_vacate]
  split <;> rfl

theorem memberSession_join (room : Room) :
    memberSession (r.join user name room session).activeRooms other who =
      if other = name ∧ who = user then some session
      else if who = user ∧ r.userToRoomMap[user]? = some other then none
      else memberSession r.activeRooms other who := by
  have left := memberSession_vacate r user who other
  simp only [RoomService.join, memberSession_insert]
  by_cases same : other = name
  · subst same
    by_cases it : who = user
    · cases (r.vacate user).activeRooms[other]? <;> simp [it]
    · simp only [memberSession, it, false_and, ↓reduceIte] at left
      cases found : (r.vacate user).activeRooms[other]? <;>
        simp_all [memberSession, find_insert]
  · simp [same, left]

theorem occupied_join (room : Room) (h : Occupied r.activeRooms) :
    Occupied (r.join user name room session).activeRooms := by
  have left := occupied_vacate r user h
  simp only [RoomService.join]
  cases (r.vacate user).activeRooms[name]? <;> exact occupied_insert left name _ _ _ _ _ _

theorem map_leave :
    (r.leave user name).userToRoomMap[who]? =
      if who = user ∧ r.userToRoomMap[user]? = some name then none
      else r.userToRoomMap[who]? := by
  unfold RoomService.leave
  by_cases there : r.userToRoomMap[user]? = some name
  · simp [there, map_vacate]
  · simp [there]

theorem memberSession_leave :
    memberSession (r.leave user name).activeRooms other who =
      if who = user ∧ r.userToRoomMap[user]? = some name ∧ other = name then none
      else memberSession r.activeRooms other who := by
  unfold RoomService.leave
  by_cases there : r.userToRoomMap[user]? = some name
  · simp [there, memberSession_vacate, eq_comm]
  · simp [there]

theorem map_create (roomId : Int) :
    (r.create user name roomId session).userToRoomMap[who]? =
      if who = user then some name else r.userToRoomMap[who]? :=
  find_insert r.userToRoomMap user who name

theorem memberSession_create (roomId : Int) :
    memberSession (r.create user name roomId session).activeRooms other who =
      if other = name ∧ who = user then some session
      else memberSession r.activeRooms other who := by
  simp only [RoomService.create, memberSession_insert, find_insert]
  by_cases same : other = name
  · subst same
    cases found : r.activeRooms[other]? <;> simp [memberSession, found]
  · simp [same]

theorem occupied_create (roomId : Int) (h : Occupied r.activeRooms) :
    Occupied (r.create user name roomId session).activeRooms :=
  occupied_insert h name _ _ _ _ _ _

end Blocks

/-- Whoever the map names a room for is in it. -/
def Seats (r : RoomService) : Prop :=
  ∀ (user : Int) (name : String), r.userToRoomMap[user]? = some name →
    (memberSession r.activeRooms name user).isSome = true

theorem seats_empty : Seats .empty := by
  intro user name there
  simp [RoomService.empty] at there

section Seats
variable {r : RoomService} (h : Seats r) (user : Int) (name : String) (session : SessionId)
include h

theorem seats_vacate : Seats (r.vacate user) := by
  intro who other there
  rw [map_vacate] at there
  rw [memberSession_vacate]
  by_cases same : who = user
  · rw [if_pos same] at there
    cases there
  · rw [if_neg same] at there
    rw [if_neg (fun both => same both.1)]
    exact h who other there

theorem seats_join (room : Room) : Seats (r.join user name room session) := by
  intro who other there
  rw [map_join] at there
  rw [memberSession_join]
  by_cases it : who = user
  · rw [if_pos it] at there
    cases there
    simp [it]
  · rw [if_neg it] at there
    simp only [it, and_false, false_and, ↓reduceIte]
    exact h who other there

theorem seats_create (roomId : Int) : Seats (r.create user name roomId session) := by
  intro who other there
  rw [map_create] at there
  rw [memberSession_create]
  by_cases it : who = user
  · rw [if_pos it] at there
    cases there
    simp [it]
  · rw [if_neg it] at there
    simp only [it, and_false, ↓reduceIte]
    exact h who other there

end Seats

theorem rooms_next (keeps : RoomService → Prop) {s : Server} {c : Call} (h : keeps s.roomService)
    (vacate : ∀ user, keeps (s.roomService.vacate user))
    (join : ∀ user name room session, c = .joinRoom user name room session →
      keeps (s.roomService.join user name room session))
    (create : ∀ user name roomId session, c = .createRoom user name roomId session →
      keeps (s.roomService.create user name roomId session)) :
    keeps (serverNext c s).roomService := by
  cases c with
  | joinRoom user name room session => exact join user name room session rfl
  | leaveRoom user name =>
    simp only [serverNext, RoomService.leave]
    split
    · exact vacate user
    · exact h
  | createRoom user name roomId session => exact create user name roomId session rfl
  | disconnectRoom session user =>
    simp only [serverNext]
    split
    · exact vacate user
    · exact h
  | updateUsername session newUsername =>
    simp only [serverNext, Server.updateUsername]
    split <;> exact h
  | _ => exact h

theorem seats_next {s : Server} (h : Seats s.roomService) (c : Call) :
    Seats (serverNext c s).roomService := by
  apply rooms_next Seats h (seats_vacate h)
  · intro user name room session _
    exact seats_join h user name session room
  · intro user name roomId session _
    exact seats_create h user name session roomId

theorem occupied_next {s : Server} (h : Occupied s.roomService.activeRooms) (c : Call) :
    Occupied (serverNext c s).roomService.activeRooms := by
  apply rooms_next (fun r => Occupied r.activeRooms) h
  · intro user
    exact occupied_vacate _ user h
  · intro user name room session _
    exact occupied_join _ user name session room h
  · intro user name roomId session _
    exact occupied_create _ user name session roomId h

end RoomMaps
