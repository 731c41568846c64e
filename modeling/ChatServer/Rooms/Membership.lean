import ChatServer.Atomic.Runs
import ChatServer.Model.Effects
import ChatServer.Rooms.Maps

/-!
Who is in which room. The rooms are there to seat every user in at most one room;
`Occupancy` says this alone, and `Seated` ties the two maps of `RoomService` to it.
JOIN, LEAVE and a disconnect always follow the occupancy. CREATE does so only for a
user who is not seated in another room, and the run theorem makes that exact.
-/
namespace RoomMembership
open AtomicCalls EventRuns KeyedMaps ChatProtocol ChatState ChatCalls ChatServices
  ChatEffects RoomMaps

section Occupancy
variable {User Room : Type} [DecidableEq User]

abbrev Occupancy (User Room : Type) := User → Option Room

def Occupancy.enter (o : Occupancy User Room) (user : User) (room : Room) :
    Occupancy User Room := Function.update o user (some room)

def Occupancy.vacate (o : Occupancy User Room) (user : User) : Occupancy User Room :=
  Function.update o user none

end Occupancy

/-- The maps hold exactly the occupancy, and no room without members. -/
structure Seated (r : RoomService) (o : Occupancy Int String) : Prop where
  map : ∀ user, r.userToRoomMap[user]? = o user
  members : ∀ name user, (memberSession r.activeRooms name user).isSome = true ↔
    o user = some name
  occupied : Occupied r.activeRooms

theorem seated_empty : Seated .empty (fun _ => none) where
  map := by simp [RoomService.empty]
  members := by simp [RoomService.empty, memberSession]
  occupied := by simp [RoomService.empty, Occupied]

section Blocks
variable {r : RoomService} {o : Occupancy Int String} (h : Seated r o)
include h

theorem seated_vacate (user : Int) : Seated (r.vacate user) (o.vacate user) where
  map := by
    intro who
    rw [map_vacate, h.map, Occupancy.vacate, Function.update_apply]
  members := by
    intro name who
    have before := h.members name who
    have here := h.map user
    rw [memberSession_vacate, Occupancy.vacate, Function.update_apply]
    grind
  occupied := occupied_vacate r user h.occupied

theorem seated_join (user : Int) (name : String) (room : Room) (session : SessionId) :
    Seated (r.join user name room session) (o.enter user name) where
  map := by
    intro who
    rw [map_join, h.map, Occupancy.enter, Function.update_apply]
  members := by
    intro other who
    have before := h.members other who
    have here := h.map user
    rw [memberSession_join, Occupancy.enter, Function.update_apply]
    grind
  occupied := occupied_join r user name session room h.occupied

theorem seated_leave (user : Int) (name : String) :
    Seated (r.leave user name) (if o user = some name then o.vacate user else o) := by
  unfold RoomService.leave
  rw [h.map]
  split
  · exact seated_vacate h user
  · exact h

theorem seated_create_iff (user : Int) (name : String) (roomId : Int) (session : SessionId) :
    Seated (r.create user name roomId session) (o.enter user name) ↔
      ∀ old, o user = some old → old = name := by
  constructor
  · intro after old seated
    have still := (after.members old user).mp (by
      have was := (h.members old user).mpr seated
      rw [memberSession_create]
      split
      · rfl
      · exact was)
    simp only [Occupancy.enter, Function.update_self, Option.some.injEq] at still
    exact still.symm
  · intro free
    refine ⟨?_, ?_, occupied_create r user name session roomId h.occupied⟩
    · intro who
      rw [map_create, h.map, Occupancy.enter, Function.update_apply]
    · intro other who
      have before := h.members other who
      rw [memberSession_create, Occupancy.enter, Function.update_apply]
      grind

end Blocks

/-- The two maps agree, nobody is a member twice, and no active room is empty. -/
structure MembershipLaw (r : RoomService) : Prop where
  agree : ∀ (user : Int) (name : String),
    r.userToRoomMap[user]? = some name ↔ IsMember r.activeRooms name user
  single : ∀ (user : Int) (name other : String),
    IsMember r.activeRooms name user → IsMember r.activeRooms other user → name = other
  occupied : Occupied r.activeRooms

theorem membershipLaw_iff_seated (r : RoomService) :
    MembershipLaw r ↔ Seated r (fun user => r.userToRoomMap[user]?) := by
  constructor
  · intro law
    refine ⟨fun _ => rfl, fun name user => ?_, law.occupied⟩
    rw [← isMember_iff, law.agree]
  · intro seated
    have agree : ∀ (user : Int) (name : String),
        r.userToRoomMap[user]? = some name ↔ IsMember r.activeRooms name user := by
      intro user name
      rw [isMember_iff, seated.members]
    refine ⟨agree, fun user name other here there => ?_, seated.occupied⟩
    have first := (agree user name).mpr here
    have second := (agree user other).mpr there
    rw [first] at second
    exact Option.some.inj second

theorem seated_unique {r : RoomService} {o : Occupancy Int String} (h : Seated r o) :
    o = fun user => r.userToRoomMap[user]? :=
  funext (fun user => (h.map user).symm)

theorem membershipLaw_of_seated {r : RoomService} {o : Occupancy Int String}
    (h : Seated r o) : MembershipLaw r := by
  rw [membershipLaw_iff_seated, ← seated_unique h]
  exact h

theorem membershipLaw_create_iff {r : RoomService} (law : MembershipLaw r) (user : Int)
    (name : String) (roomId : Int) (session : SessionId) :
    MembershipLaw (r.create user name roomId session) ↔
      ∀ old, r.userToRoomMap[user]? = some old → old = name := by
  have seated := (membershipLaw_iff_seated r).mp law
  rw [← seated_create_iff seated user name roomId session, membershipLaw_iff_seated]
  have entered : (fun who => (r.create user name roomId session).userToRoomMap[who]?) =
      Occupancy.enter (fun who => r.userToRoomMap[who]?) user name := by
    funext who
    rw [map_create, Occupancy.enter, Function.update_apply]
  rw [entered]

/-- A call to `RoomService`: who the sessions are then, what is asked, and what the
    tables and the clock answer meanwhile. -/
inductive RoomRequest where
  | operation (session : SessionId) (request : RoomOperationRequest)
  | disconnect (session : SessionId)

structure RoomEvent where
  sessions : SessionId → Session
  request : RoomRequest
  choices : Nat → Choice anyAnswers

def RoomRequest.handler : RoomRequest → Handler
  | .operation session request => handleRoomOperation session request
  | .disconnect session => handleDisconnect session

def roomStep (w : World anyAnswers) (e : RoomEvent) : World anyAnswers :=
  e.request.handler.final (chat anyAnswers) e.choices
    { w with server := { w.server with session := e.sessions } }

/-- A CREATE that the tables grant to a user whose entry names another room. -/
def CreatesElsewhere (w : World anyAnswers) (e : RoomEvent) : Prop :=
  ∃ session name user username roomId old,
    e.request = .operation session ⟨.create, name⟩ ∧
    (e.sessions session).identity = some (user, username) ∧
    roomFound e.choices name w.store = .ok none ∧
    roomAdded e.choices user name w.store = .ok (some roomId) ∧
    w.server.roomService.userToRoomMap[user]? = some old ∧ old ≠ name

theorem roomStep_operation {w : World anyAnswers} {e : RoomEvent} {session : SessionId}
    {request : RoomOperationRequest} (asked : e.request = .operation session request)
    {user : Int} {username : String}
    (who : (e.sessions session).identity = some (user, username)) :
    (roomStep w e).server.roomService = roomAfter session user request
      (roomFound e.choices request.roomName w.store)
      (roomAdded e.choices user request.roomName w.store) w.server.roomService := by
  simp only [roomStep, asked, RoomRequest.handler]
  rw [final_handleRoomOperation session request e.choices _ who]

theorem roomStep_disconnect {w : World anyAnswers} {e : RoomEvent} {session : SessionId}
    (asked : e.request = .disconnect session) {user : Int} {username : String}
    (who : (e.sessions session).identity = some (user, username)) :
    (roomStep w e).server.roomService = w.server.roomService.vacate user := by
  simp only [roomStep, asked, RoomRequest.handler]
  rw [final_handleDisconnect session e.choices _ who]
  rfl

theorem roomStep_anonymous {w : World anyAnswers} {e : RoomEvent} {session : SessionId}
    (nobody : (e.sessions session).identity = none)
    (asked : e.request = .disconnect session ∨ ∃ request, e.request = .operation session request) :
    (roomStep w e).server.roomService = w.server.roomService := by
  rcases asked with asked | ⟨request, asked⟩
  · simp only [roomStep, asked, RoomRequest.handler]
    rw [final_handleDisconnect_anonymous session e.choices _ nobody]
  · simp only [roomStep, asked, RoomRequest.handler]
    rw [final_handleRoomOperation_anonymous session request e.choices _ nobody]

/-- JOIN, LEAVE, refused requests: everything a logged-in user asks but a granted CREATE. -/
theorem membershipLaw_roomAfter {r : RoomService} (law : MembershipLaw r) (session : SessionId)
    (user : Int) (request : RoomOperationRequest) (found : Except Exception (Option Room))
    (added : Except Exception (Option Int))
    (not_created : ¬ (request.operation = .create ∧ found = .ok none ∧
      ∃ roomId, added = .ok (some roomId))) :
    MembershipLaw (roomAfter session user request found added r) := by
  have seated := (membershipLaw_iff_seated r).mp law
  unfold roomAfter
  split
  · exact membershipLaw_of_seated (seated_join seated user _ _ session)
  · exact membershipLaw_of_seated (seated_leave seated user _)
  · rename_i roomId op
    exact absurd ⟨op, rfl, roomId, rfl⟩ not_created
  · exact law

theorem membershipLaw_roomStep_iff (w : World anyAnswers) (e : RoomEvent)
    (law : MembershipLaw w.server.roomService) :
    MembershipLaw (roomStep w e).server.roomService ↔ ¬ CreatesElsewhere w e := by
  cases asked : e.request with
  | disconnect session =>
    have kept : ¬ CreatesElsewhere w e := by
      intro clash
      obtain ⟨_, _, _, _, _, _, create, _⟩ := clash
      rw [asked] at create
      cases create
    cases who : (e.sessions session).identity with
    | none =>
      rw [roomStep_anonymous who (Or.inl asked)]
      exact iff_of_true law kept
    | some identity =>
      rw [roomStep_disconnect asked who]
      exact iff_of_true (membershipLaw_of_seated
        (seated_vacate ((membershipLaw_iff_seated _).mp law) identity.1)) kept
  | operation session request =>
    cases who : (e.sessions session).identity with
    | none =>
      rw [roomStep_anonymous who (Or.inr ⟨request, asked⟩)]
      apply iff_of_true law
      intro clash
      obtain ⟨_, _, _, _, _, _, create, someone, _⟩ := clash
      rw [asked] at create
      cases create
      rw [who] at someone
      cases someone
    | some identity =>
      obtain ⟨user, username⟩ := identity
      rw [roomStep_operation asked who]
      by_cases created : request.operation = .create ∧
          roomFound e.choices request.roomName w.store = .ok none ∧
          ∃ roomId, roomAdded e.choices user request.roomName w.store = .ok (some roomId)
      · obtain ⟨op, found, roomId, added⟩ := created
        simp only [roomAfter, op, found, added]
        rw [membershipLaw_create_iff law]
        constructor
        · intro only clash
          obtain ⟨_, name, who', _, _, old, create, someone, _, _, elsewhere, ne⟩ := clash
          rw [asked] at create
          cases create
          rw [who] at someone
          cases someone
          exact ne (only old elsewhere)
        · intro kept old elsewhere
          by_contra ne
          refine kept ⟨session, request.roomName, user, username, roomId, old, ?_, who,
            found, added, elsewhere, ne⟩
          rw [asked, ← op]
      · apply iff_of_true (membershipLaw_roomAfter law session user request _ _ created)
        intro clash
        obtain ⟨_, name, who', _, roomId, old, create, someone, found, added, _, _⟩ := clash
        rw [asked] at create
        cases create
        rw [who] at someone
        cases someone
        exact created ⟨rfl, found, roomId, added⟩

def roomsStart : World anyAnswers := ⟨.start, ()⟩

/-- From empty maps, a run of room operations and disconnects keeps the law throughout
    exactly when it makes no CREATE that a user wins while seated in another room. -/
theorem membership_holds_iff_no_create_elsewhere (events : List RoomEvent) :
    EveryState roomStep (fun w => MembershipLaw w.server.roomService) roomsStart events ↔
      EveryStep roomStep (fun w e => ¬ CreatesElsewhere w e) roomsStart events :=
  everyState_iff_everyStep membershipLaw_roomStep_iff
    (membershipLaw_of_seated seated_empty) events

/-- One user creates two rooms, each name free and each insert successful. -/
def twoCreates : List RoomEvent :=
  let sessions : SessionId → Session := fun _ => Session.fresh.setAuthenticated 1 "ann"
  let create (roomname : String) (roomId : Int) : RoomEvent :=
    ⟨sessions, .operation 7 ⟨.create, roomname⟩, fun _ => ⟨fun q => match q with
      | .addRoom _ => .ok (some roomId)
      | q => .ok q.fallback, none, ⟨0, 0⟩⟩⟩
  [create "hall" 1, create "garden" 2]

theorem two_creates_break_membership :
    ¬ EveryState roomStep (fun w => MembershipLaw w.server.roomService) roomsStart twoCreates := by
  intro kept
  have law := everyState_last kept
  have hall : IsMember (after roomStep roomsStart twoCreates).server.roomService.activeRooms
      "hall" 1 := (isMember_iff _ _ _).mpr (by decide)
  have garden : IsMember (after roomStep roomsStart twoCreates).server.roomService.activeRooms
      "garden" 1 := (isMember_iff _ _ _).mpr (by decide)
  exact absurd (law.single 1 "hall" "garden" hall garden) (by decide)

end RoomMembership
