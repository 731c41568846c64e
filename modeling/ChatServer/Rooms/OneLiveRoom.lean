import ChatServer.Rooms.LiveRooms

/-!
One room of the table, active once. The table tells names apart by their collation
keys, memory by their spelling. A room is active under two names exactly when it is
entered under one spelling while it is active under another.
-/
namespace OneLiveRoom
open AtomicCalls EventRuns WorkerPool RelyGuarantee KeyedMaps ChatProtocol ChatState ChatCalls
  ChatServices ChatDatabase RoomMaps LiveRooms

def Together (r : RoomService) (user other : Int) : Prop :=
  ∃ (name : String) (session : SessionId), r.userToRoomMap[user]? = some name ∧
    r.userToRoomMap[other]? = some name ∧
    memberSession r.activeRooms name other = some session ∧
    ∀ exclude ≠ other, session ∈ r.recipients name exclude

/-- No stored room is active under two names, and who shares a room id shares the room. -/
structure OneLive (r : RoomService) : Prop where
  distinct : ∀ (name other : String) (a b : ActiveRoom), r.activeRooms[name]? = some a →
    r.activeRooms[other]? = some b → name ≠ other → a.id ≠ b.id
  together : ∀ user other, r.getUserCurrentRoomId user ≠ 0 →
    r.getUserCurrentRoomId user = r.getUserCurrentRoomId other → Together r user other

def DistinctIds (r : RoomService) : Prop :=
  ∀ name other id, liveId r.activeRooms name = some id → liveId r.activeRooms other = some id →
    name = other

theorem distinctIds_iff (r : RoomService) :
    DistinctIds r ↔ ∀ (name other : String) (a b : ActiveRoom), r.activeRooms[name]? = some a →
      r.activeRooms[other]? = some b → name ≠ other → a.id ≠ b.id := by
  constructor
  · intro h name other a b first second apart same
    exact apart (h name other a.id (by simp [liveId, first]) (by simp [liveId, second, same]))
  · intro h name other id first second
    simp only [liveId, Option.map_eq_some_iff] at first second
    obtain ⟨a, found, rfl⟩ := first
    obtain ⟨b, found', same⟩ := second
    by_contra apart
    exact h name other a b found found' apart same.symm

section Users
variable {r : RoomService}

theorem live_of_currentId {user : Int} (inside : r.getUserCurrentRoomId user ≠ 0) :
    ∃ name, r.userToRoomMap[user]? = some name ∧
      liveId r.activeRooms name = some (r.getUserCurrentRoomId user) := by
  unfold RoomService.getUserCurrentRoomId at inside ⊢
  cases there : r.userToRoomMap[user]? with
  | none => simp [there] at inside
  | some name =>
    refine ⟨name, rfl, ?_⟩
    cases found : r.activeRooms[name]? with
    | none => simp [there, found] at inside
    | some active => simp [liveId, found]

theorem distinct_of_sub {q : RoomService} (distinct : DistinctIds r)
    (sub : ∀ name id, liveId q.activeRooms name = some id → liveId r.activeRooms name = some id) :
    DistinctIds q := by
  intro name other id first second
  exact distinct name other id (sub name id first) (sub other id second)

/-- A room entered under `name` with the id `id` is active once exactly when it was not
    active under another name. -/
theorem distinct_enter_iff {q : RoomService} {name : String} {id : Int} (distinct : DistinctIds r)
    (enter : ∀ other, liveId q.activeRooms other =
      if other = name then some id else liveId r.activeRooms other) :
    DistinctIds q ↔ ∀ other, liveId r.activeRooms other = some id → other = name := by
  constructor
  · intro after other live
    by_contra apart
    have here : liveId q.activeRooms name = some id := by rw [enter, if_pos rfl]
    have there : liveId q.activeRooms other = some id := by rw [enter, if_neg apart, live]
    exact apart (after other name id there here)
  · intro free first second live both both'
    rw [enter] at both both'
    split at both <;> split at both'
    · rename_i one two
      rw [one, two]
    · rename_i one two
      cases both
      exact absurd (free second both') two
    · rename_i one two
      cases both'
      exact absurd (free first both) one
    · exact distinct first second live both both'

variable [Collation] {t : Table Room}

theorem oneLive_iff (h : Persisted r t) : OneLive r ↔ DistinctIds r := by
  constructor
  · intro one
    exact (distinctIds_iff r).mpr one.distinct
  · intro distinct
    refine ⟨(distinctIds_iff r).mp distinct, ?_⟩
    intro user other inside same
    obtain ⟨name, there, live⟩ := live_of_currentId inside
    obtain ⟨name', there', live'⟩ := live_of_currentId (same ▸ inside)
    rw [← same] at live'
    have shared := distinct name name' _ live live'
    subst shared
    obtain ⟨session, member⟩ := Option.isSome_iff_exists.mp (h.seated other name there')
    refine ⟨name, session, there, there', member, ?_⟩
    intro exclude apart
    exact mem_recipients.mpr ⟨other, apart.symm, member⟩

/-- The room that is entered is not active under another name; for a JOIN once the user
    is out of their old room. -/
def OneSpelling (v : TablesView) : Call → Prop
  | .joinRoom user name room _ => ∀ other,
    liveId (v.1.server.roomService.vacate user).activeRooms other = some room.id → other = name
  | .createRoom _ name roomId _ => ∀ other,
    liveId v.1.server.roomService.activeRooms other = some roomId → other = name
  | _ => True

theorem entered_id (h : Persisted r t) {user : Int} {name : String} {room : Room}
    (stored : room ∈ t.rows) (same : SameName room.name name) :
    (liveId (r.vacate user).activeRooms name).getD room.id = room.id := by
  cases live : liveId (r.vacate user).activeRooms name with
  | none => rfl
  | some id =>
    obtain ⟨row, there, alike, known⟩ := (persisted_vacate h user).live name id live
    rw [same_name_same_row there stored (alike.trans same.symm)] at known
    exact known.symm

variable {v : TablesView} {job : ChatServices.Job} {c : Call}

theorem distinct_next_iff (h : PersistedView v) (enters : EntersStored job v c)
    (distinct : DistinctIds v.1.server.roomService) :
    DistinctIds (serverNext c v.1.server).roomService ↔ OneSpelling v c := by
  have vacated : ∀ user, DistinctIds (v.1.server.roomService.vacate user) := by
    intro user
    apply distinct_of_sub distinct
    intro name id live
    exact liveId_vacate _ user name live
  cases c with
  | joinRoom user name room session =>
    apply distinct_enter_iff (vacated user)
    intro other
    rw [← entered_id h enters.1 enters.2]
    exact liveId_join _ user name other session room
  | createRoom user name roomId session =>
    apply distinct_enter_iff distinct
    intro other
    exact liveId_create _ user name other session roomId
  | leaveRoom user name =>
    refine iff_of_true ?_ trivial
    simp only [serverNext, RoomService.leave]
    split
    · exact vacated user
    · exact distinct
  | disconnectRoom session user =>
    refine iff_of_true ?_ trivial
    simp only [serverNext]
    split
    · exact vacated user
    · exact distinct
  | updateUsername session newUsername =>
    refine iff_of_true ?_ trivial
    simp only [serverNext, Server.updateUsername]
    split <;> exact distinct
  | _ => exact iff_of_true distinct trivial

end Users

section Runs
variable [Collation] [Sha256]

abbrev SoundRooms (p : Pool (chat database) Job) : Prop :=
  Sound KeepsRooms EntersStored Job.handler PersistedView p

theorem soundRooms_step {workers : Nat} {p : Pool (chat database) Job}
    {move : Move (chat database) Job} (h : SoundRooms p) :
    SoundRooms (p.step workers Job.handler move) := by
  have calls : SafeMove (fun _ _ => True) p move := safeMove_of_forall (fun _ _ => trivial) p move
  apply sound_step keepsRooms_trans _ keepsRooms_refl enters_job h
    calls
  intro v number job choice c persisted enters _
  exact persisted_called v number job choice c persisted enters

theorem oneLive_step_iff {workers : Nat} {p : Pool (chat database) Job}
    {move : Move (chat database) Job} (h : SoundRooms p)
    (one : OneLive p.state.server.roomService) :
    OneLive (p.step workers Job.handler move).state.server.roomService ↔
      SafeMove OneSpelling p move := by
  have next : PersistedView (view (p.step workers Job.handler move)) := (soundRooms_step h).inv
  apply (oneLive_iff next).trans
  rcases sound_step_cases keepsRooms_refl h move with ⟨same, free⟩ | ⟨t, c, enters, same, free⟩
  · rw [same]
    exact iff_of_true ((distinctIds_iff _).mpr one.distinct) (free OneSpelling)
  · rw [free OneSpelling, same]
    exact distinct_next_iff h.inv enters ((distinctIds_iff _).mpr one.distinct)

/-- From empty maps and any tables, with any number of workers and in any interleaving:
    no stored room is ever active twice exactly when no room is entered under one
    spelling while it is active under another. -/
theorem one_live_room_iff_one_spelling (workers : Nat) (w : World database)
    (empty : w.server.roomService = .empty) (moves : List (Move (chat database) Job)) :
    EveryState (Pool.step workers Job.handler)
        (fun p : Pool (chat database) Job => OneLive p.state.server.roomService)
        (Pool.idle w) moves ↔
      EveryStep (Pool.step workers Job.handler) (SafeMove OneSpelling) (Pool.idle w) moves := by
  have persisted : Persisted w.server.roomService w.store.rooms := by
    rw [empty]
    exact persisted_empty w.store.rooms
  have sound : SoundRooms (Pool.idle w) := by
    refine ⟨persisted, ?_, ?_⟩
    · intro t member
      cases member
    · intro t member
      cases member
  have start : OneLive w.server.roomService := by
    apply (oneLive_iff persisted).mpr
    intro name other id live
    simp [empty, RoomService.empty, liveId] at live
  exact everyState_iff_everyStep_beside (fun p move h => soundRooms_step h)
    (fun p move h one => oneLive_step_iff h one) sound start moves

end Runs

section TwoSpellings

/-- Names that differ in the case of ASCII letters are equal. -/
local instance : Collation := ⟨fun name => String.ofList (name.toList.map Char.toLower)⟩

local instance : Sha256 := ⟨id⟩

def worked : Choice database := ⟨⟨none, 0, fun _ => 0⟩, none, ⟨0, 0⟩⟩

def hallTables : Tables :=
  database.next worked.store (.addRoom ⟨0, "Hall", 1⟩)
    (database.next worked.store (.addUser ⟨0, "ann", "pw", ""⟩) Tables.empty)

def annAndBob : World database :=
  ⟨(Server.start.registerAuthenticatedSession 1 1 "ann").registerAuthenticatedSession 2 2 "bob",
    hallTables⟩

def joinAs (session : SessionId) (name : String) : Move (chat database) Job :=
  .post (.dispatch session ⟨"", some (.roomOperationRequest ⟨.join, name⟩)⟩) (fun _ => worked)

def twoSpellings : List (Move (chat database) Job) :=
  [joinAs 1 "Hall", .start, .advance 0, .advance 0, .advance 0, .advance 0, .advance 0,
    joinAs 2 "hall", .start, .advance 1, .advance 1, .advance 1, .advance 1, .advance 1]

def oneSpelling : List (Move (chat database) Job) :=
  [joinAs 1 "hall", .start, .advance 0, .advance 0, .advance 0, .advance 0, .advance 0,
    joinAs 2 "hall", .start, .advance 1, .advance 1, .advance 1, .advance 1, .advance 1]

theorem one_live_room_iff_one_spelling_joined :
    liveId ((Pool.idle annAndBob).run 2 Job.handler
        oneSpelling).state.server.roomService.activeRooms "hall" = some 1 ∧
      (EveryState (Pool.step 2 Job.handler)
          (fun p : Pool (chat database) Job => OneLive p.state.server.roomService)
          (Pool.idle annAndBob) oneSpelling ↔
        EveryStep (Pool.step 2 Job.handler) (SafeMove OneSpelling) (Pool.idle annAndBob)
          oneSpelling) :=
  ⟨by decide, one_live_room_iff_one_spelling 2 annAndBob rfl oneSpelling⟩

theorem two_spellings_two_rooms : ¬ EveryState (Pool.step 2 Job.handler)
    (fun p : Pool (chat database) Job => OneLive p.state.server.roomService)
    (Pool.idle annAndBob) twoSpellings := by
  intro all
  have last := (distinctIds_iff _).mpr (everyState_last all).distinct
  exact absurd (last "Hall" "hall" 1 (by decide) (by decide)) (by decide)

end TwoSpellings

end OneLiveRoom
