import ChatServer.Rooms.Membership
import ChatServer.Sessions.Rosters

/-!
The empty room name. `getUserCurrentRoomName` answers "" for a user who is in no room, and
the message handlers go by that answer. A room may have this name itself, and then its
members are taken for users without a room.
-/
namespace NamelessRooms
open AtomicCalls EventRuns ChatProtocol ChatState ChatCalls ChatServices ChatEffects RoomMaps
  RoomMembership SessionRosters

/-- The answer "" is for those in no room. -/
def EmptyMeansNowhere (r : RoomService) : Prop :=
  ∀ user, r.getUserCurrentRoomName user = "" ↔ r.userToRoomMap[user]? = none

/-- Whoever the sessions are, the message handlers refuse those in no room and no others. -/
def RefusesOnlyNowhere (w : World anyAnswers) : Prop :=
  ∀ (sessions : SessionId → Session) session user username (choices : Nat → Choice anyAnswers),
    (sessions session).identity = some (user, username) →
    (∀ m, (handlePublicMessage session m).output (chat anyAnswers) choices
        { w with server := { w.server with session := sessions } } =
          [(session, codedError notInRoom 403)] ↔
      w.server.roomService.userToRoomMap[user]? = none) ∧
    ∀ m, (handlePrivateMessage session m).output (chat anyAnswers) choices
        { w with server := { w.server with session := sessions } } =
          [(session, codedError notInRoom 403)] ↔
      w.server.roomService.userToRoomMap[user]? = none

def Unambiguous (w : World anyAnswers) : Prop :=
  EmptyMeansNowhere w.server.roomService ∧ RefusesOnlyNowhere w

/-- A JOIN or CREATE with the empty room name that puts a logged-in user into the room. -/
def EntersNameless (w : World anyAnswers) (e : RoomEvent) : Prop :=
  ∃ session request user username, e.request = .operation session request ∧
    request.roomName = "" ∧ (e.sessions session).identity = some (user, username) ∧
    Enters request (roomFound e.choices "" w.store) (roomAdded e.choices user "" w.store)

section Answers
variable {r : RoomService}

theorem emptyMeansNowhere_iff :
    EmptyMeansNowhere r ↔ ∀ user : Int, r.userToRoomMap[user]? ≠ some "" := by
  constructor
  · intro means user inside
    have nowhere := (means user).mp (by simp [RoomService.getUserCurrentRoomName, inside])
    rw [inside] at nowhere
    cases nowhere
  · intro named user
    have here := named user
    unfold RoomService.getUserCurrentRoomName
    cases inside : r.userToRoomMap[user]? with
    | none => simp
    | some name =>
      rw [inside] at here
      simpa using here

theorem publicSends_refused_iff (s : Server) (session : SessionId) (user : Int) (username : String)
    (m : PublicMessage) (now : Timestamp) (written : Except Exception (Option Int)) :
    publicSends s session user username m now written = [(session, codedError notInRoom 403)] ↔
      s.roomService.getUserCurrentRoomName user = "" := by
  unfold publicSends
  by_cases roomless : s.roomService.getUserCurrentRoomName user = ""
  · simp [roomless]
  · simp only [roomless, ↓reduceIte, iff_false]
    cases written with
    | error e => simp
    | ok row =>
      intro same
      have member : (session, codedError notInRoom 403) ∈
          [(session, codedError notInRoom 403)] := List.mem_cons_self
      rw [← same] at member
      simp [codedError, envelope] at member

theorem privateSends_refused_iff (s : Server) (session : SessionId) (user : Int)
    (username : String) (m : PrivateMessageRequest) (now : Timestamp) :
    privateSends s session user username m now = [(session, codedError notInRoom 403)] ↔
      s.roomService.getUserCurrentRoomName user = "" := by
  unfold privateSends
  by_cases roomless : s.roomService.getUserCurrentRoomName user = ""
  · simp [roomless]
  · simp only [roomless, ↓reduceIte, iff_false]
    cases s.sessionManager.sessionsByUsername[m.toUsername]? with
    | none => simp [codedError, envelope]
    | some accept =>
      cases found : (s.session accept).identity with
      | none => simp [found, codedError, envelope]
      | some identity =>
        simp only [found]
        split <;> simp [codedError, envelope, notInRoom]

theorem unambiguous_iff (w : World anyAnswers) :
    Unambiguous w ↔ ∀ user : Int, w.server.roomService.userToRoomMap[user]? ≠ some "" := by
  rw [← emptyMeansNowhere_iff]
  constructor
  · intro both
    exact both.1
  · intro means
    refine ⟨means, ?_⟩
    intro sessions session user username choices who
    constructor
    · intro m
      rw [output_handlePublicMessage m choices who, publicSends_refused_iff]
      exact means user
    · intro m
      rw [output_handlePrivateMessage m choices who, privateSends_refused_iff]
      exact means user

end Answers

section Steps
variable {r : RoomService}

theorem named_roomAfter_iff (named : ∀ who : Int, r.userToRoomMap[who]? ≠ some "")
    (session : SessionId) (user : Int) (request : RoomOperationRequest)
    (found : Except Exception (Option Room)) (added : Except Exception (Option Int)) :
    (∀ who : Int, (roomAfter session user request found added r).userToRoomMap[who]? ≠ some "") ↔
      ¬ (request.roomName = "" ∧ Enters request found added) := by
  have entered : ∀ q : RoomService,
      (∀ who : Int, q.userToRoomMap[who]? =
        if who = user then some request.roomName else r.userToRoomMap[who]?) →
      ((∀ who : Int, q.userToRoomMap[who]? ≠ some "") ↔ request.roomName ≠ "") := by
    intro q maps
    constructor
    · intro all same
      apply all user
      rw [maps, if_pos rfl, same]
    · intro different who
      rw [maps]
      split
      · simpa using different
      · exact named who
  have stays : ¬ Enters request found added →
      ((∀ who : Int, r.userToRoomMap[who]? ≠ some "") ↔
        ¬ (request.roomName = "" ∧ Enters request found added)) := by
    intro outside
    exact iff_of_true named (fun both => outside both.2)
  cases op : request.operation with
  | join =>
    cases found with
    | error e => simpa only [roomAfter, op] using stays (by simp [Enters, op])
    | ok row =>
      cases row with
      | none => simpa only [roomAfter, op] using stays (by simp [Enters, op])
      | some room =>
        simp only [roomAfter, Enters, op, and_true]
        exact entered _ (fun who => map_join r user who request.roomName session room)
  | leave =>
    apply iff_of_true
    · intro who
      simp only [roomAfter, op, map_leave]
      split
      · simp
      · exact named who
    · simp [Enters, op]
  | create =>
    cases found with
    | error e => simpa only [roomAfter, op] using stays (by simp [Enters, op])
    | ok row =>
      cases row with
      | some room => simpa only [roomAfter, op] using stays (by simp [Enters, op])
      | none =>
        cases added with
        | error e => simpa only [roomAfter, op] using stays (by simp [Enters, op])
        | ok inserted =>
          cases inserted with
          | none => simpa only [roomAfter, op] using stays (by simp [Enters, op])
          | some roomId =>
            simp only [roomAfter, Enters, op, and_true]
            exact entered _ (fun who => map_create r user who request.roomName session roomId)
  | other value => simpa only [roomAfter, op] using stays (by simp [Enters, op])

theorem named_roomStep_iff (w : World anyAnswers) (e : RoomEvent)
    (named : ∀ who : Int, w.server.roomService.userToRoomMap[who]? ≠ some "") :
    (∀ who : Int, (roomStep w e).server.roomService.userToRoomMap[who]? ≠ some "") ↔
      ¬ EntersNameless w e := by
  cases asked : e.request with
  | disconnect session =>
    have kept : ¬ EntersNameless w e := by
      intro enters
      obtain ⟨_, _, _, _, operation, _⟩ := enters
      rw [asked] at operation
      cases operation
    cases who : (e.sessions session).identity with
    | none =>
      rw [roomStep_anonymous who (Or.inl asked)]
      exact iff_of_true named kept
    | some identity =>
      rw [roomStep_disconnect asked who]
      apply iff_of_true _ kept
      intro other
      rw [map_vacate]
      split
      · simp
      · exact named other
  | operation session request =>
    cases who : (e.sessions session).identity with
    | none =>
      rw [roomStep_anonymous who (Or.inr ⟨request, asked⟩)]
      apply iff_of_true named
      intro enters
      obtain ⟨_, _, _, _, operation, _, someone, _⟩ := enters
      rw [asked] at operation
      cases operation
      rw [who] at someone
      cases someone
    | some identity =>
      obtain ⟨user, username⟩ := identity
      rw [roomStep_operation asked who, named_roomAfter_iff named]
      apply not_congr
      constructor
      · intro both
        obtain ⟨empty, enters⟩ := both
        rw [empty] at enters
        exact ⟨session, request, user, username, asked, empty, who, enters⟩
      · intro enters
        obtain ⟨_, _, _, _, operation, empty, someone, enters⟩ := enters
        rw [asked] at operation
        cases operation
        rw [who] at someone
        cases someone
        rw [empty]
        exact ⟨rfl, enters⟩

/-- From empty maps, a run of room operations and disconnects keeps "" for those in no
    room throughout exactly when no JOIN or CREATE of "" puts a user into it. -/
theorem unambiguous_iff_no_nameless_room (events : List RoomEvent) :
    EveryState roomStep Unambiguous roomsStart events ↔
      EveryStep roomStep (fun w e => ¬ EntersNameless w e) roomsStart events := by
  apply everyState_iff_everyStep
  · intro w e named
    rw [unambiguous_iff] at named ⊢
    exact named_roomStep_iff w e named
  · rw [unambiguous_iff]
    intro user
    simp [roomsStart, Server.start, RoomService.empty]

end Steps

def createsNameless : List RoomEvent :=
  [⟨fun _ => Session.fresh.setAuthenticated 1 "ann", .operation 7 ⟨.create, ""⟩,
    fun _ => ⟨fun q => match q with
      | .addRoom _ => .ok (some 1)
      | q => .ok q.fallback, none, ⟨0, 0⟩⟩⟩]

theorem nameless_room_ambiguous :
    ¬ EveryState roomStep Unambiguous roomsStart createsNameless := by
  intro kept
  have nowhere := ((everyState_last kept).1 1).mp (by decide)
  exact absurd nowhere (by decide)

end NamelessRooms
