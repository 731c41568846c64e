import ChatServer.Atomic.Runs
import ChatServer.Rooms.Maps
import ChatServer.Sessions.Jobs
import ChatServer.Sessions.Maps

/-!
The rosters of the rooms and the registry of sessions. Both say which session stands
for a user; the rooms are told when a user enters, the registry when a user logs in.
They agree as long as no login moves a user who is seated, and nobody enters a room or
stays in one without being registered.
-/
namespace SessionRosters
open AtomicCalls EventRuns ChatProtocol ChatState ChatCalls ChatServices ChatEffects
  AccountHandlers JobEffects RoomMaps SessionMaps

/-- A seat is held by the session that is registered for its user, so what is sent to a
    room reaches each session once. -/
structure RosterLaw (s : Server) : Prop where
  seats : ∀ (room : String) (user : Int) (id : SessionId),
    memberSession s.roomService.activeRooms room user = some id →
      (s.session id).authenticated = true ∧ (s.session id).userId = some user ∧
        s.sessionManager.sessionsByUserId[user]? = some id
  once : ∀ room exclude id, (s.roomService.recipients room exclude).count id ≤ 1
  registered : ∀ (room : String) (exclude : Int) (id : SessionId),
    id ∈ s.roomService.recipients room exclude →
      ∃ user : Int, (s.session id).userId = some user ∧
        s.sessionManager.sessionsByUserId[user]? = some id

def Rostered (s : Server) : Prop :=
  ∀ (room : String) (user : Int) (id : SessionId),
    memberSession s.roomService.activeRooms room user = some id →
      (s.session id).authenticated = true ∧ (s.session id).userId = some user ∧
        s.sessionManager.sessionsByUserId[user]? = some id

theorem rosterLaw_iff (s : Server) : RosterLaw s ↔ Rostered s := by
  constructor
  · intro law
    exact law.seats
  · intro rostered
    refine ⟨rostered, ?_, ?_⟩
    · intro room exclude id
      by_cases sent : id ∈ s.roomService.recipients room exclude
      · obtain ⟨user, other, seat⟩ := mem_recipients.mp sent
        have one : (s.roomService.recipients room exclude).count id = 1 := by
          apply (count_recipients_one other seat).mpr
          intro user' _ seat'
          have known := (rostered room user' id seat').2.1
          rw [(rostered room user id seat).2.1] at known
          exact (Option.some.inj known).symm
        omega
      · rw [List.count_eq_zero_of_not_mem sent]
        omega
    · intro room exclude id sent
      obtain ⟨user, _, seat⟩ := mem_recipients.mp sent
      exact ⟨user, (rostered room user id seat).2⟩

section Operations
variable {s : Server} (rostered : Rostered s) {id : SessionId} {k : Int}
include rostered

theorem rostered_register_iff (n : String) :
    Rostered (s.registerAuthenticatedSession id k n) ↔
      ∀ room user other, memberSession s.roomService.activeRooms room user = some other →
        (other = id ↔ user = k) := by
  constructor
  · intro now room user other seat
    obtain ⟨_, known, listed⟩ := now room user other seat
    rw [session_register] at known
    rw [byId_register] at listed
    constructor
    · intro it
      rw [if_pos it] at known
      exact (Option.some.inj known).symm
    · intro it
      rw [if_pos it] at listed
      exact (Option.some.inj listed).symm
  · intro fits room user other seat
    have apart := fits room user other seat
    rw [session_register, byId_register]
    by_cases it : other = id
    · rw [if_pos it, if_pos (apart.mp it), it, apart.mp it]
      exact ⟨rfl, rfl, rfl⟩
    · rw [if_neg it, if_neg (fun same => it (apart.mpr same))]
      exact rostered room user other seat

theorem rostered_rename (newUsername : String) : Rostered (s.updateUsername id newUsername) := by
  cases named : (s.session id).username with
  | none =>
    rw [updateUsername_unnamed newUsername named]
    exact rostered
  | some old =>
    have rooms : (s.updateUsername id newUsername).roomService = s.roomService := by
      simp only [Server.updateUsername, named, Server.setSession]
    intro room user other seat
    rw [rooms] at seat
    rw [byId_rename, session_rename newUsername other named]
    obtain ⟨present, known, listed⟩ := rostered room user other seat
    split
    · rename_i it
      rw [it] at present known
      exact ⟨present, known, listed⟩
    · exact ⟨present, known, listed⟩

theorem rostered_sub {q : RoomService}
    (sub : ∀ room user other, memberSession q.activeRooms room user = some other →
      memberSession s.roomService.activeRooms room user = some other) :
    Rostered { s with roomService := q } := by
  intro room user other seat
  exact rostered room user other (sub room user other seat)

theorem rostered_vacate (user : Int) :
    Rostered { s with roomService := s.roomService.vacate user } := by
  apply rostered_sub rostered
  intro room who other seat
  rw [memberSession_vacate] at seat
  split at seat
  · cases seat
  · exact seat

theorem rostered_leave (user : Int) (name : String) :
    Rostered { s with roomService := s.roomService.leave user name } := by
  apply rostered_sub rostered
  intro room who other seat
  rw [memberSession_leave] at seat
  split at seat
  · cases seat
  · exact seat

theorem rostered_enter_iff {q : RoomService} {n : String} (name : String)
    (who : (s.session id).identity = some (k, n))
    (entered : memberSession q.activeRooms name k = some id)
    (before : ∀ room user other, memberSession q.activeRooms room user = some other →
      (user = k ∧ other = id) ∨ memberSession s.roomService.activeRooms room user = some other) :
    Rostered { s with roomService := q } ↔ s.sessionManager.sessionsByUserId[k]? = some id := by
  constructor
  · intro now
    exact (now name k id entered).2.2
  · intro listed room user other seat
    rcases before room user other seat with ⟨same, it⟩ | old
    · subst same it
      exact ⟨(identity_some who).1, (identity_some who).2.1, listed⟩
    · exact rostered room user other old

theorem rostered_join_iff {n : String} (who : (s.session id).identity = some (k, n)) (name : String)
    (room : Room) : Rostered { s with roomService := s.roomService.join k name room id } ↔
      s.sessionManager.sessionsByUserId[k]? = some id := by
  apply rostered_enter_iff rostered name who
  · simp [memberSession_join]
  · intro place user other seat
    rw [memberSession_join] at seat
    split at seat
    · rename_i here
      cases seat
      exact Or.inl ⟨here.2, rfl⟩
    · split at seat
      · cases seat
      · exact Or.inr seat

theorem rostered_create_iff {n : String} (who : (s.session id).identity = some (k, n))
    (name : String) (roomId : Int) :
    Rostered { s with roomService := s.roomService.create k name roomId id } ↔
      s.sessionManager.sessionsByUserId[k]? = some id := by
  apply rostered_enter_iff rostered name who
  · simp [memberSession_create]
  · intro place user other seat
    rw [memberSession_create] at seat
    split at seat
    · rename_i here
      cases seat
      exact Or.inl ⟨here.2, rfl⟩
    · exact Or.inr seat

/-- A disconnect takes the user's id off the registry, and the user out of one room. -/
theorem rostered_disconnect_iff {n : String} (who : (s.session id).identity = some (k, n)) :
    Rostered ({ s with roomService := s.roomService.vacate k }.removeSession id) ↔
      ∀ room, (memberSession s.roomService.activeRooms room k).isSome = true →
        s.roomService.userToRoomMap[k]? = some room := by
  have out := rostered_vacate rostered k
  have still : ({ s with roomService := s.roomService.vacate k }.session id).identity =
      some (k, n) := who
  constructor
  · intro now room inside
    by_contra elsewhere
    obtain ⟨other, seat⟩ := Option.isSome_iff_exists.mp inside
    have stays : memberSession (s.roomService.vacate k).activeRooms room k = some other := by
      rw [memberSession_vacate, if_neg (fun both => elsewhere both.2)]
      exact seat
    have listed := (now room k other stays).2.2
    rw [byId_remove still, if_pos rfl] at listed
    cases listed
  · intro alone room user other seat
    have kept : memberSession (s.roomService.vacate k).activeRooms room user = some other := seat
    have gone : user ≠ k := by
      intro it
      rw [memberSession_vacate, it] at kept
      split at kept
      · cases kept
      · rename_i elsewhere
        exact elsewhere ⟨rfl, alone room (by simp [kept])⟩
    rw [byId_remove still, if_neg gone]
    exact out room user other seat

end Operations

section Runs
variable [Sha256]

def Enters (m : RoomOperationRequest) (found : Except Exception (Option Room))
    (added : Except Exception (Option Int)) : Prop :=
  match m.operation, found, added with
  | .join, .ok (some _), _ => True
  | .create, .ok none, .ok (some _) => True
  | _, _, _ => False

/-- The user of the row is seated through this session or not at all, and the session
    through no other user. -/
def LoginKeepsSeats (w : World anyAnswers) (session : SessionId) (m : LoginRequest)
    (choices : Nat → Choice anyAnswers) : Prop :=
  ∀ row, opened m (answered (choices 0) (.findByUsername m.username) w.store) = some row →
    ∀ room user other, memberSession w.server.roomService.activeRooms room user = some other →
      (other = session ↔ user = row.id)

def EntersRegistered (w : World anyAnswers) (session : SessionId) (m : RoomOperationRequest)
    (choices : Nat → Choice anyAnswers) : Prop :=
  ∀ k n, (w.server.session session).identity = some (k, n) →
    Enters m (roomFound (later choices) m.roomName w.store)
      (roomAdded (later choices) k m.roomName w.store) →
    w.server.sessionManager.sessionsByUserId[k]? = some session

def LeavesNoSeat (w : World anyAnswers) (session : SessionId) : Prop :=
  ∀ k n, (w.server.session session).identity = some (k, n) →
    ∀ room, (memberSession w.server.roomService.activeRooms room k).isSome = true →
      w.server.roomService.userToRoomMap[k]? = some room

def RosterFits (w : World anyAnswers) (e : JobEvent) : Prop :=
  match e.job with
  | .disconnect session => LeavesNoSeat w session
  | .dispatch session envelope => match envelope.payload with
    | some (.loginRequest m) => LoginKeepsSeats w session m e.choices
    | some (.roomOperationRequest m) => EntersRegistered w session m e.choices
    | _ => True

section Steps
variable {w : World anyAnswers} (rostered : Rostered w.server) (session : SessionId)
  (choices : Nat → Choice anyAnswers)
include rostered

theorem rostered_login_iff (m : LoginRequest) :
    Rostered (afterLogin session m choices w) ↔ LoginKeepsSeats w session m choices := by
  unfold afterLogin LoginKeepsSeats
  cases opened m (answered (choices 0) (.findByUsername m.username) w.store) with
  | none => simp [rostered]
  | some row => simp [rostered_register_iff rostered]

omit [Sha256] in
theorem rostered_afterDisconnect_iff :
    Rostered (afterDisconnect session w.server) ↔ LeavesNoSeat w session := by
  unfold afterDisconnect LeavesNoSeat
  cases who : (w.server.session session).identity with
  | none =>
    refine iff_of_true ?_ (by simp)
    intro room user other seat
    rw [(indexes_remove_anonymous who).1]
    exact rostered room user other seat
  | some identity =>
    obtain ⟨k, n⟩ := identity
    simp only [Option.some.injEq, Prod.mk.injEq, and_imp, forall_eq', forall_apply_eq_imp_iff]
    exact rostered_disconnect_iff rostered who

omit [Sha256] in
theorem rostered_afterRooms_iff (m : RoomOperationRequest) {k : Int} {n : String}
    (who : (w.server.session session).identity = some (k, n)) :
    Rostered (afterRooms session m choices w k) ↔ EntersRegistered w session m choices := by
  have only : EntersRegistered w session m choices ↔
      (Enters m (roomFound (later choices) m.roomName w.store)
          (roomAdded (later choices) k m.roomName w.store) →
        w.server.sessionManager.sessionsByUserId[k]? = some session) := by
    simp [EntersRegistered, who]
  rw [only, afterRooms]
  generalize roomFound (later choices) m.roomName w.store = found
  generalize roomAdded (later choices) k m.roomName w.store = added
  obtain ⟨operation, name⟩ := m
  cases operation with
  | join =>
    cases found with
    | error e => simpa [roomAfter, Enters] using rostered
    | ok found =>
      cases found with
      | none => simpa [roomAfter, Enters] using rostered
      | some room => simpa [roomAfter, Enters] using rostered_join_iff rostered who name room
  | leave => simpa [roomAfter, Enters] using rostered_leave rostered k name
  | create =>
    cases found with
    | error e => simpa [roomAfter, Enters] using rostered
    | ok found =>
      cases found with
      | some room => simpa [roomAfter, Enters] using rostered
      | none =>
        cases added with
        | error e => simpa [roomAfter, Enters] using rostered
        | ok added =>
          cases added with
          | none => simpa [roomAfter, Enters] using rostered
          | some roomId =>
            simpa [roomAfter, Enters] using rostered_create_iff rostered who name roomId
  | other value => simpa [roomAfter, Enters] using rostered

omit [Sha256] in
theorem rostered_afterRename (m : ChangeUsernameRequest) (n : String) :
    Rostered (afterRename session m choices w n) := by
  unfold afterRename
  split
  · unfold serverRenamed
    split
    · exact rostered_rename rostered m.newUsername
    · exact rostered
  · exact rostered

omit [Sha256] in
theorem rostered_request_iff (payload : Option Payload) {k : Int} {n : String}
    (who : (w.server.session session).identity = some (k, n)) :
    Rostered (afterRequest session payload choices w k n) ↔
      ∀ m, payload = some (.roomOperationRequest m) → EntersRegistered w session m choices := by
  unfold afterRequest
  split
  · apply iff_of_true (rostered_afterRename rostered session choices _ n)
    intro m other
    cases other
  · rename_i m
    simp only [Option.some.injEq, Payload.roomOperationRequest.injEq, forall_eq']
    exact rostered_afterRooms_iff rostered session choices m who
  · rename_i not_room
    apply iff_of_true rostered
    intro m asked
    exact absurd asked (not_room m)

end Steps

theorem rosterLaw_jobStep_iff (w : World anyAnswers) (e : JobEvent) (law : RosterLaw w.server) :
    RosterLaw (jobStep w e).server ↔ RosterFits w e := by
  have rostered := (rosterLaw_iff w.server).mp law
  obtain ⟨job, choices⟩ := e
  rw [rosterLaw_iff, jobStep, final_job]
  cases job with
  | disconnect session => exact rostered_afterDisconnect_iff rostered session
  | dispatch session envelope =>
    obtain ⟨messageId, payload⟩ := envelope
    simp only [serverAfter, RosterFits]
    split
    · rename_i m
      exact rostered_login_iff rostered session choices m
    · rename_i not_login
      cases who : (w.server.session session).identity with
      | none =>
        apply iff_of_true rostered
        split
        · exact absurd rfl (not_login _)
        · intro k n someone
          rw [who] at someone
          cases someone
        · trivial
      | some identity =>
        obtain ⟨k, n⟩ := identity
        apply (rostered_request_iff rostered session choices payload who).trans
        split
        · exact absurd rfl (not_login _)
        · simp
        · rename_i not_room
          simp only [iff_true]
          intro m asked
          exact absurd asked (not_room m)

omit [Sha256] in
theorem rosterLaw_start : RosterLaw (⟨.start, ()⟩ : World anyAnswers).server := by
  apply (rosterLaw_iff _).mpr
  intro room user id seat
  simp [Server.start, RoomService.empty, memberSession] at seat

/-- From an empty server, a run of jobs keeps the rosters and the registry together
    throughout exactly when no login is by or for somebody seated otherwise, nobody enters
    a room unregistered, and no disconnect leaves a seat behind. -/
theorem rosters_hold_iff_jobs_fit (events : List JobEvent) :
    EveryState jobStep (fun w => RosterLaw w.server) ⟨.start, ()⟩ events ↔
      EveryStep jobStep RosterFits ⟨.start, ()⟩ events :=
  everyState_iff_everyStep rosterLaw_jobStep_iff rosterLaw_start events

end Runs

section SecondLogin

local instance : Sha256 := ⟨id⟩

def annsAnswers : Nat → Choice anyAnswers := fun _ => ⟨fun q => match q with
  | .findByUsername name => .ok (some ⟨1, name, "pw", ""⟩)
  | .findByRoomName name => .ok (some ⟨1, name, 1⟩)
  | q => .ok q.fallback, none, ⟨0, 0⟩⟩

def annLogin (session : SessionId) : JobEvent :=
  ⟨.dispatch session ⟨"", some (.loginRequest ⟨"ann", "pw"⟩)⟩, annsAnswers⟩

/-- Ann enters the hall on one session and then logs in on another. -/
def secondLogin : List JobEvent :=
  [annLogin 7, ⟨.dispatch 7 ⟨"", some (.roomOperationRequest ⟨.join, "hall"⟩)⟩, annsAnswers⟩,
    annLogin 8]

theorem second_login_breaks_roster :
    ¬ EveryState jobStep (fun w => RosterLaw w.server) ⟨.start, ()⟩ secondLogin := by
  intro kept
  have listed := ((everyState_last kept).seats "hall" 1 7 (by decide)).2.2
  exact absurd listed (by decide)

end SecondLogin

end SessionRosters
