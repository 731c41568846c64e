import ChatServer.Rooms.Membership
import ChatServer.Sessions.Jobs

/-!
Who is told of whose coming and going. The law compares the members of every room
before and after an operation with the notices each of the others is sent. JOIN tells
the new room only, and again if the user is in it; LEAVE tells the room that was named,
whether or not the user was in it. The theorem says in which states that comes out
right.
-/
namespace RoomPresence
open AtomicCalls EventRuns ChatProtocol ChatState ChatCalls ChatServices ChatEffects JobEffects
  RoomMaps RoomMembership

def isNotice (event : UserEventType) (user : Int) (e : Envelope) : Bool :=
  match e.payload with
  | some (.serverNotification n) => n.eventType == event && n.userId == toString user
  | _ => false

def notices (event : UserEventType) (user : Int) (session : SessionId)
    (sent : List (SessionId × Envelope)) : Nat :=
  sent.countP (fun message => message.1 == session && isNotice event user message.2)

theorem notices_append (event : UserEventType) (user : Int) (session : SessionId)
    (first second : List (SessionId × Envelope)) :
    notices event user session (first ++ second) =
      notices event user session first + notices event user session second :=
  List.countP_append

theorem notices_presence (event other : UserEventType) (user : Int) (username : String)
    (session : SessionId) (ids : List SessionId) :
    notices event user session (ids.map (fun id => (id, presence other user username username))) =
      if event = other then ids.count session else 0 := by
  induction ids with
  | nil => simp [notices]
  | cons id rest ih =>
    simp only [notices, List.map_cons, List.countP_cons] at ih ⊢
    rw [ih, List.count_cons]
    by_cases same : event = other
    · simp [same, isNotice, presence, envelope]
    · simp [same, isNotice, presence, envelope, Ne.symm same]

theorem notices_reply (event : UserEventType) (user : Int) (session asker : SessionId)
    (response : RoomOperationResponse) :
    notices event user session [(asker, envelope (.roomOperationResponse response))] = 0 := by
  simp [notices, isNotice, envelope]

section Law

abbrev Left (before after : RoomService) (user : Int) (room : String) : Prop :=
  (memberSession before.activeRooms room user).isSome = true ∧
    (memberSession after.activeRooms room user).isSome = false

abbrev Joined (before after : RoomService) (user : Int) (room : String) : Prop :=
  (memberSession before.activeRooms room user).isSome = false ∧
    (memberSession after.activeRooms room user).isSome = true

/-- Every other member of a room is sent one USER_LEFT if the user left the room, one
    USER_JOINED if the user joined it, and nothing else about the user. -/
def NoticesExact (before after : RoomService) (user : Int)
    (sent : List (SessionId × Envelope)) : Prop :=
  ∀ room member session, member ≠ user →
    (memberSession before.activeRooms room member).isSome = true →
    memberSession after.activeRooms room member = some session →
      notices .userLeft user session sent = (if Left before after user room then 1 else 0) ∧
      notices .userJoined user session sent = if Joined before after user room then 1 else 0

def Alone (r : RoomService) (user : Int) (room : String) : Prop :=
  ∀ member, member ≠ user → memberSession r.activeRooms room member = none

/-- The sessions of the others in the room have no other seat, here or elsewhere. -/
def SeatedOnce (r : RoomService) (user : Int) (name : String) : Prop :=
  ∀ member session, member ≠ user → memberSession r.activeRooms name member = some session →
    ∀ room other, other ≠ user → memberSession r.activeRooms room other = some session →
      room = name ∧ other = member

/-- The counts `n` tell the other members of a room whether it changed. -/
def Tells (n : SessionId → Nat) (r : RoomService) (user : Int) (changed : String → Prop)
    [DecidablePred changed] : Prop :=
  ∀ room member session, member ≠ user → memberSession r.activeRooms room member = some session →
    n session = if changed room then 1 else 0

section Tells
variable {r q : RoomService} {user : Int} {name : String} {n : SessionId → Nat}
  {changed : String → Prop} [DecidablePred changed]

theorem tells_silent (silent : ∀ session, n session = 0) :
    Tells n r user changed ↔ ∀ room, changed room → Alone r user room := by
  constructor
  · intro tells room happened member other
    cases seat : memberSession r.activeRooms room member with
    | none => rfl
    | some session =>
      have told := tells room member session other seat
      rw [silent, if_pos happened] at told
      omega
  · intro alone room member session other seat
    rw [silent]
    by_cases happened : changed room
    · have empty := alone room happened member other
      rw [seat] at empty
      cases empty
    · rw [if_neg happened]

variable (counts : ∀ session, n session = (q.recipients name user).count session)
  (same : ∀ member, member ≠ user →
    memberSession q.activeRooms name member = memberSession r.activeRooms name member)
include counts same

theorem tells_room (exact_change : ∀ room, changed room ↔ room = name) :
    Tells n r user changed ↔ SeatedOnce r user name := by
  constructor
  · intro tells member session other seat room member' other' seat'
    have told := tells name member session other seat
    rw [counts, if_pos ((exact_change name).mpr rfl),
      count_recipients_one other ((same member other).trans seat)] at told
    have elsewhere := tells room member' session other' seat'
    by_cases here : room = name
    · subst here
      exact ⟨rfl, told member' other' ((same member' other').trans seat')⟩
    · rw [if_neg (fun change => here ((exact_change room).mp change)), counts] at elsewhere
      exact absurd ((same member other).trans seat)
        (count_recipients_zero.mp elsewhere member other)
  · intro once room member session other seat
    rw [counts]
    by_cases here : room = name
    · subst here
      rw [if_pos ((exact_change room).mpr rfl)]
      apply (count_recipients_one other ((same member other).trans seat)).mpr
      intro member' other' seat'
      exact (once member session other seat room member' other'
        ((same member' other').symm.trans seat')).2
    · rw [if_neg (fun change => here ((exact_change room).mp change))]
      apply count_recipients_zero.mpr
      intro member' other' seat'
      exact here (once member' session other' ((same member' other').symm.trans seat') room member
        other seat).1

theorem tells_falsely (never : ∀ room, ¬ changed room) :
    Tells n r user changed ↔ Alone r user name := by
  constructor
  · intro tells member other
    cases seat : memberSession r.activeRooms name member with
    | none => rfl
    | some session =>
      have told := tells name member session other seat
      rw [if_neg (never name), counts] at told
      exact absurd ((same member other).trans seat) (count_recipients_zero.mp told member other)
  · intro alone room member session other seat
    rw [if_neg (never room), counts]
    apply count_recipients_zero.mpr
    intro member' other' seat'
    have empty := (same member' other').trans (alone member' other')
    rw [seat'] at empty
    cases empty

end Tells

theorem noticesExact_iff {before after : RoomService} {user : Int}
    {sent : List (SessionId × Envelope)}
    (others : ∀ room member, member ≠ user → memberSession after.activeRooms room member =
      memberSession before.activeRooms room member) :
    NoticesExact before after user sent ↔
      Tells (fun session => notices .userLeft user session sent) before user
          (Left before after user) ∧
        Tells (fun session => notices .userJoined user session sent) before user
          (Joined before after user) := by
  constructor
  · intro exact_notices
    constructor
    · intro room member session other seat
      exact (exact_notices room member session other (by simp [seat])
        ((others room member other).trans seat)).1
    · intro room member session other seat
      exact (exact_notices room member session other (by simp [seat])
        ((others room member other).trans seat)).2
  · intro tells room member session other _ seat
    have before_seat := (others room member other).symm.trans seat
    exact ⟨tells.1 room member session other before_seat,
      tells.2 room member session other before_seat⟩

end Law

section Operations
variable {r : RoomService} {user : Int} {name : String} {session : SessionId}
  {sent : List (SessionId × Envelope)}

/-- What the user leaves by joining is empty, and the room is told of somebody new. -/
def JoinTold (r : RoomService) (user : Int) (name : String) : Prop :=
  (∀ old, r.userToRoomMap[user]? = some old → old ≠ name → Alone r user old) ∧
    if (memberSession r.activeRooms name user).isSome = true then Alone r user name
    else SeatedOnce r user name

def LeaveTold (r : RoomService) (user : Int) (name : String) : Prop :=
  if r.userToRoomMap[user]? = some name then SeatedOnce r user name else Alone r user name

def CreateTold (r : RoomService) (user : Int) (name : String) : Prop :=
  (memberSession r.activeRooms name user).isSome = false → Alone r user name

def DisconnectTold (r : RoomService) (user : Int) : Prop :=
  ∀ name, r.userToRoomMap[user]? = some name → SeatedOnce r user name

theorem noticesExact_unchanged (silent : ∀ event listener, notices event user listener sent = 0) :
    NoticesExact r r user sent := by
  have never : ∀ room, ¬ Left r r user room ∧ ¬ Joined r r user room := by
    intro room
    constructor
    · intro left
      cases left.1.symm.trans left.2
    · intro joined
      cases joined.1.symm.trans joined.2
  apply (noticesExact_iff (fun _ _ _ => rfl)).mpr
  constructor
  · apply (tells_silent (silent .userLeft)).mpr
    intro room left
    exact absurd left (never room).1
  · apply (tells_silent (silent .userJoined)).mpr
    intro room joined
    exact absurd joined (never room).2

theorem noticesExact_join_iff (seats : Seats r) (room : Room)
    (left : ∀ listener, notices .userLeft user listener sent = 0)
    (joined : ∀ listener, notices .userJoined user listener sent =
      ((r.join user name room session).recipients name user).count listener) :
    NoticesExact r (r.join user name room session) user sent ↔ JoinTold r user name := by
  have others : ∀ place member, member ≠ user →
      memberSession (r.join user name room session).activeRooms place member =
        memberSession r.activeRooms place member := by
    intro place member other
    simp [memberSession_join, other]
  have leaves : ∀ place, Left r (r.join user name room session) user place ↔
      r.userToRoomMap[user]? = some place ∧ place ≠ name := by
    intro place
    have seat := seats user place
    simp only [Left, memberSession_join]
    grind
  have joins : ∀ place, Joined r (r.join user name room session) user place ↔
      place = name ∧ (memberSession r.activeRooms name user).isSome = false := by
    intro place
    simp only [Joined, memberSession_join]
    grind
  rw [noticesExact_iff others, JoinTold]
  apply and_congr
  · rw [tells_silent left]
    constructor
    · intro alone old there different
      exact alone old ((leaves old).mpr ⟨there, different⟩)
    · intro alone place gone
      obtain ⟨there, different⟩ := (leaves place).mp gone
      exact alone place there different
  · by_cases inside : (memberSession r.activeRooms name user).isSome = true
    · rw [if_pos inside]
      apply tells_falsely joined (others name)
      intro place came
      rw [((joins place).mp came).2] at inside
      cases inside
    · rw [if_neg inside]
      apply tells_room joined (others name)
      intro place
      rw [joins]
      simp [inside]

theorem noticesExact_leave_iff (seats : Seats r)
    (left : ∀ listener, notices .userLeft user listener sent =
      ((r.leave user name).recipients name user).count listener)
    (joined : ∀ listener, notices .userJoined user listener sent = 0) :
    NoticesExact r (r.leave user name) user sent ↔ LeaveTold r user name := by
  have others : ∀ place member, member ≠ user →
      memberSession (r.leave user name).activeRooms place member =
        memberSession r.activeRooms place member := by
    intro place member other
    simp [memberSession_leave, other]
  have leaves : ∀ place, Left r (r.leave user name) user place ↔
      place = name ∧ r.userToRoomMap[user]? = some name := by
    intro place
    have seat := seats user place
    simp only [Left, memberSession_leave]
    grind
  have joins : ∀ place, ¬ Joined r (r.leave user name) user place := by
    intro place
    simp only [Joined, memberSession_leave]
    grind
  rw [noticesExact_iff others, LeaveTold]
  have nobody_joins : Tells (fun listener => notices .userJoined user listener sent) r user
      (Joined r (r.leave user name) user) :=
    (tells_silent joined).mpr (fun place came => absurd came (joins place))
  rw [and_iff_left nobody_joins]
  by_cases there : r.userToRoomMap[user]? = some name
  · rw [if_pos there]
    apply tells_room left (others name)
    intro place
    rw [leaves]
    simp [there]
  · rw [if_neg there]
    apply tells_falsely left (others name)
    intro place gone
    exact there ((leaves place).mp gone).2

theorem noticesExact_create_iff (roomId : Int)
    (silent : ∀ event listener, notices event user listener sent = 0) :
    NoticesExact r (r.create user name roomId session) user sent ↔ CreateTold r user name := by
  have others : ∀ place member, member ≠ user →
      memberSession (r.create user name roomId session).activeRooms place member =
        memberSession r.activeRooms place member := by
    intro place member other
    simp [memberSession_create, other]
  have leaves : ∀ place, ¬ Left r (r.create user name roomId session) user place := by
    intro place
    simp only [Left, memberSession_create]
    grind
  have joins : ∀ place, Joined r (r.create user name roomId session) user place ↔
      place = name ∧ (memberSession r.activeRooms name user).isSome = false := by
    intro place
    simp only [Joined, memberSession_create]
    grind
  rw [noticesExact_iff others, tells_silent (silent .userLeft), tells_silent (silent .userJoined)]
  constructor
  · intro alone outside
    exact alone.2 name ((joins name).mpr ⟨rfl, outside⟩)
  · intro told
    constructor
    · intro place gone
      exact absurd gone (leaves place)
    · intro place came
      obtain ⟨here, outside⟩ := (joins place).mp came
      rw [here]
      exact told outside

theorem noticesExact_vacate_iff (seats : Seats r)
    (left : ∀ listener, notices .userLeft user listener sent =
      match r.userToRoomMap[user]? with
      | some name => (r.recipients name user).count listener
      | none => 0)
    (joined : ∀ listener, notices .userJoined user listener sent = 0) :
    NoticesExact r (r.vacate user) user sent ↔ DisconnectTold r user := by
  have others : ∀ place member, member ≠ user →
      memberSession (r.vacate user).activeRooms place member =
        memberSession r.activeRooms place member := by
    intro place member other
    simp [memberSession_vacate, other]
  have leaves : ∀ place, Left r (r.vacate user) user place ↔
      r.userToRoomMap[user]? = some place := by
    intro place
    have seat := seats user place
    simp only [Left, memberSession_vacate]
    grind
  have joins : ∀ place, ¬ Joined r (r.vacate user) user place := by
    intro place
    simp only [Joined, memberSession_vacate]
    grind
  rw [noticesExact_iff others, DisconnectTold]
  have nobody_joins : Tells (fun listener => notices .userJoined user listener sent) r user
      (Joined r (r.vacate user) user) :=
    (tells_silent joined).mpr (fun place came => absurd came (joins place))
  rw [and_iff_left nobody_joins]
  cases there : r.userToRoomMap[user]? with
  | none =>
    simp only [there] at left
    rw [tells_silent left]
    simp [leaves, there]
  | some name =>
    simp only [there] at left
    simp only [Option.some.injEq, forall_eq']
    apply tells_room left (fun _ _ => rfl)
    intro place
    rw [leaves, there, Option.some.injEq, eq_comm]

end Operations

section Requests
variable {E : Environment} {session : SessionId} {choices : Nat → Choice E} {w : World E}
  {user : Int} {username : String} (who : (w.server.session session).identity = some (user, username))

def announced (event : UserEventType) (session : SessionId) (user : Int) (m : RoomOperationRequest)
    (found : Except Exception (Option Room)) (r : RoomService) : List SessionId :=
  match m.operation, found, event with
  | .join, .ok (some room), .userJoined =>
    (r.join user m.roomName room session).recipients m.roomName user
  | .leave, _, .userLeft => (r.leave user m.roomName).recipients m.roomName user
  | _, _, _ => []

include who

theorem notices_operation (m : RoomOperationRequest) (event : UserEventType)
    (listener : SessionId) :
    notices event user listener ((handleRoomOperation session m).output (chat E) choices w) =
      (announced event session user m (roomFound choices m.roomName w.store)
        w.server.roomService).count listener := by
  rw [output_handleRoomOperation m choices who]
  generalize roomFound choices m.roomName w.store = found
  generalize roomAdded choices user m.roomName w.store = added
  obtain ⟨operation, roomName⟩ := m
  cases operation with
  | join =>
    cases found with
    | error e => rfl
    | ok found =>
      cases found with
      | none => exact notices_reply event user listener session _
      | some room =>
        simp only [roomSends, notices_append, notices_presence, notices_reply, Nat.add_zero]
        cases event <;> simp [announced]
  | leave =>
    simp only [roomSends, notices_append, notices_presence, notices_reply, Nat.add_zero]
    cases event <;> simp [announced]
  | create =>
    have nobody : announced event session user ⟨.create, roomName⟩ found
        w.server.roomService = [] := by cases event <;> rfl
    rw [nobody, List.count_nil]
    cases found with
    | error e => rfl
    | ok found =>
      cases found with
      | some room => exact notices_reply event user listener session _
      | none =>
        cases added with
        | error e => rfl
        | ok added => cases added <;> exact notices_reply event user listener session _
  | other value => exact notices_reply event user listener session _

theorem notices_disconnect (event : UserEventType) (listener : SessionId) :
    notices event user listener ((handleDisconnect session).output (chat E) choices w) =
      match event, w.server.roomService.userToRoomMap[user]? with
      | .userLeft, some name => (w.server.roomService.recipients name user).count listener
      | _, _ => 0 := by
  obtain ⟨present, id, name⟩ := identity_some who
  have sent : (handleDisconnect session).output (chat E) choices w =
      disconnectNotices w.server session user := by
    unfold handleDisconnect
    simp [present, id]
  rw [sent, disconnectNotices]
  cases there : w.server.roomService.userToRoomMap[user]? with
  | none => cases event <;> simp [notices]
  | some roomName =>
    simp only [name, notices_presence]
    cases event <;> simp

end Requests

section Runs

def asker : RoomRequest → SessionId
  | .operation session _ => session
  | .disconnect session => session

/-- The operation tells every other member of every room what changed, and no more. -/
def PresenceLaw (w : World anyAnswers) (request : RoomRequest)
    (choices : Nat → Choice anyAnswers) : Prop :=
  ∀ user username, (w.server.session (asker request)).identity = some (user, username) →
    NoticesExact w.server.roomService
      (request.handler.final (chat anyAnswers) choices w).server.roomService user
      (request.handler.output (chat anyAnswers) choices w)

def OperationTold (r : RoomService) (user : Int) (m : RoomOperationRequest)
    (found : Except Exception (Option Room)) (added : Except Exception (Option Int)) : Prop :=
  match m.operation, found, added with
  | .join, .ok (some _), _ => JoinTold r user m.roomName
  | .leave, _, _ => LeaveTold r user m.roomName
  | .create, .ok none, .ok (some _) => CreateTold r user m.roomName
  | _, _, _ => True

def Told (w : World anyAnswers) (request : RoomRequest) (choices : Nat → Choice anyAnswers) :
    Prop :=
  ∀ user username, (w.server.session (asker request)).identity = some (user, username) →
    match request with
    | .operation _ m => OperationTold w.server.roomService user m
      (roomFound choices m.roomName w.store) (roomAdded choices user m.roomName w.store)
    | .disconnect _ => DisconnectTold w.server.roomService user

section Step
variable {w : World anyAnswers} {choices : Nat → Choice anyAnswers} {session : SessionId}
  {user : Int} {username : String} (who : (w.server.session session).identity = some (user, username))
  (seats : Seats w.server.roomService)
include who seats

theorem operation_told_iff (m : RoomOperationRequest) :
    NoticesExact w.server.roomService
        ((handleRoomOperation session m).final (chat anyAnswers) choices w).server.roomService user
        ((handleRoomOperation session m).output (chat anyAnswers) choices w) ↔
      OperationTold w.server.roomService user m (roomFound choices m.roomName w.store)
        (roomAdded choices user m.roomName w.store) := by
  have told : ∀ event listener,
      notices event user listener ((handleRoomOperation session m).output (chat anyAnswers) choices w) =
        (announced event session user m (roomFound choices m.roomName w.store)
          w.server.roomService).count listener := notices_operation who m
  rw [final_handleRoomOperation session m choices w who]
  generalize (handleRoomOperation session m).output (chat anyAnswers) choices w = sent at told ⊢
  generalize roomFound choices m.roomName w.store = found at told ⊢
  generalize roomAdded choices user m.roomName w.store = added
  have quiet : (∀ event, announced event session user m found w.server.roomService = []) →
      ∀ event listener, notices event user listener sent = 0 := by
    intro nobody event listener
    rw [told, nobody]
    rfl
  obtain ⟨operation, name⟩ := m
  cases operation with
  | join =>
    cases found with
    | error e => exact iff_of_true (noticesExact_unchanged (quiet (fun _ => rfl))) trivial
    | ok found =>
      cases found with
      | none => exact iff_of_true (noticesExact_unchanged (quiet (fun _ => rfl))) trivial
      | some room =>
        exact noticesExact_join_iff seats room (told .userLeft) (told .userJoined)
  | leave => exact noticesExact_leave_iff seats (told .userLeft) (told .userJoined)
  | create =>
    have silent : ∀ event, announced event session user ⟨.create, name⟩ found
        w.server.roomService = [] := fun event => by cases event <;> rfl
    cases found with
    | error e => exact iff_of_true (noticesExact_unchanged (quiet silent)) trivial
    | ok found =>
      cases found with
      | some room => exact iff_of_true (noticesExact_unchanged (quiet silent)) trivial
      | none =>
        cases added with
        | error e => exact iff_of_true (noticesExact_unchanged (quiet silent)) trivial
        | ok added =>
          cases added with
          | none => exact iff_of_true (noticesExact_unchanged (quiet silent)) trivial
          | some roomId => exact noticesExact_create_iff roomId (quiet silent)
  | other value => exact iff_of_true (noticesExact_unchanged (quiet (fun _ => rfl))) trivial

theorem disconnect_told_iff :
    NoticesExact w.server.roomService
        ((handleDisconnect session).final (chat anyAnswers) choices w).server.roomService user
        ((handleDisconnect session).output (chat anyAnswers) choices w) ↔
      DisconnectTold w.server.roomService user := by
  rw [final_handleDisconnect session choices w who]
  apply noticesExact_vacate_iff seats
  · intro listener
    rw [notices_disconnect who .userLeft listener]
    cases w.server.roomService.userToRoomMap[user]? <;> rfl
  · exact notices_disconnect who .userJoined

end Step

variable [Sha256]

theorem seats_after (events : List JobEvent) :
    Seats (after jobStep ⟨.start, ()⟩ events).server.roomService := by
  suffices kept : ∀ w : World anyAnswers, Seats w.server.roomService →
      Seats (after jobStep w events).server.roomService from kept ⟨.start, ()⟩ seats_empty
  induction events with
  | nil => exact fun w seats => seats
  | cons e rest ih =>
    intro w seats
    apply ih
    exact final_keeps (M := chat anyAnswers) (fun now => Seats now.server.roomService)
      (fun _ c _ _ before => seats_next before c) (uses_anything e.job.handler) e.choices seats

/-- In every state that jobs run one after the other can lead to. -/
theorem presence_exact_iff_told (events : List JobEvent) (request : RoomRequest)
    (choices : Nat → Choice anyAnswers) :
    PresenceLaw (after jobStep ⟨.start, ()⟩ events) request choices ↔
      Told (after jobStep ⟨.start, ()⟩ events) request choices := by
  have seats := seats_after events
  generalize after jobStep ⟨.start, ()⟩ events = w at seats ⊢
  apply forall_congr'
  intro user
  apply forall_congr'
  intro username
  apply imp_congr_right
  intro who
  cases request with
  | operation session m => exact operation_told_iff who seats m
  | disconnect session => exact disconnect_told_iff who seats

end Runs

section Switching

local instance : Sha256 := ⟨id⟩

def foundAs (id : Int) (name : String) : Nat → Choice anyAnswers := fun _ => ⟨fun q => match q with
  | .findByUsername _ => .ok (some ⟨id, name, "pw", ""⟩)
  | .findByRoomName room => .ok (some ⟨1, room, 1⟩)
  | q => .ok q.fallback, none, ⟨0, 0⟩⟩

def loginAs (session : SessionId) (id : Int) (name : String) : JobEvent :=
  ⟨.dispatch session ⟨"", some (.loginRequest ⟨name, "pw"⟩)⟩, foundAs id name⟩

def joinHall (session : SessionId) : JobEvent :=
  ⟨.dispatch session ⟨"", some (.roomOperationRequest ⟨.join, "hall"⟩)⟩, foundAs 1 ""⟩

/-- Ann and Bob meet in the hall; Ann goes on to the garden. -/
theorem switch_not_told : ¬ PresenceLaw
    (after jobStep ⟨.start, ()⟩ [loginAs 1 1 "ann", loginAs 2 2 "bob", joinHall 1, joinHall 2])
    (.operation 1 ⟨.join, "garden"⟩) (foundAs 1 "") := by
  intro law
  have told := (law 1 "ann" (by decide) "hall" 2 2 (by decide) (by decide) (by decide)).1
  exact absurd told (by decide)

end Switching

end RoomPresence
