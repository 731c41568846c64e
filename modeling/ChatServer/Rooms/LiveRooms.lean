import ChatServer.Model.Database
import ChatServer.Rooms.Maps
import ChatServer.Sessions.Ghosts

/-!
The rooms in memory and the rooms in the table. A room enters memory under the name a
client typed, with the id of the row found or inserted for that name some steps before.
Rows stay, so in every interleaving that id is still the id of the row with this name.
-/
namespace LiveRooms
open AtomicCalls EventRuns WorkerPool RelyGuarantee KeyedMaps ChatProtocol ChatState ChatCalls
  ChatServices ChatEffects ChatDatabase JobEffects RoomMaps GhostSessions

def liveId (rooms : Std.ExtTreeMap String ActiveRoom) (name : String) : Option Int :=
  rooms[name]?.map (fun (room : ActiveRoom) => room.id)

/-- The row a room would be rebuilt from. -/
def rowOf (room : ActiveRoom) : Room := ⟨room.id, room.name, room.creatorId⟩

def liveRow (rooms : Std.ExtTreeMap String ActiveRoom) (name : String) : Option Room :=
  rooms[name]?.map rowOf

section Maps
variable (rooms : Std.ExtTreeMap String ActiveRoom)

theorem liveId_eq (name : String) : liveId rooms name = (liveRow rooms name).map Room.id := by
  simp only [liveId, liveRow, Option.map_map]
  rfl

theorem liveRow_erase (name other : String) :
    liveRow (rooms.erase name) other = if other = name then none else liveRow rooms other := by
  simp only [liveRow, find_erase]
  split <;> rfl

theorem liveRow_insert (name other : String) (room : ActiveRoom) :
    liveRow (rooms.insert name room) other =
      if other = name then some (rowOf room) else liveRow rooms other := by
  simp only [liveRow, find_insert]
  split <;> rfl

theorem liveRow_dropMember {name other : String} {user : Int} {row : Room}
    (live : liveRow (dropMember rooms name user) other = some row) :
    liveRow rooms other = some row := by
  unfold dropMember at live
  cases found : rooms[name]? with
  | none =>
    simp only [found] at live
    exact live
  | some room =>
    simp only [found] at live
    split at live
    · rw [liveRow_erase] at live
      split at live
      · cases live
      · exact live
    · rw [liveRow_insert] at live
      split at live
      · rename_i same
        rw [same, liveRow, found]
        exact live
      · exact live

theorem live_of_member {name : String} {user : Int}
    (member : (memberSession rooms name user).isSome = true) : ∃ id, liveId rooms name = some id := by
  unfold memberSession at member
  cases found : rooms[name]? with
  | none => simp [found] at member
  | some room => exact ⟨room.id, by simp [liveId, found]⟩

variable (r : RoomService) (user : Int) (name other : String) (session : SessionId)

theorem liveRow_vacate {row : Room} (live : liveRow (r.vacate user).activeRooms other = some row) :
    liveRow r.activeRooms other = some row := by
  unfold RoomService.vacate at live
  cases found : r.userToRoomMap[user]? with
  | none =>
    simp only [found] at live
    exact live
  | some old =>
    simp only [found] at live
    exact liveRow_dropMember r.activeRooms live

theorem liveId_vacate {id : Int} (live : liveId (r.vacate user).activeRooms other = some id) :
    liveId r.activeRooms other = some id := by
  rw [liveId_eq] at live ⊢
  obtain ⟨row, there, same⟩ := Option.map_eq_some_iff.mp live
  rw [liveRow_vacate r user other there, ← same]
  rfl

theorem liveRow_join (room : Room) :
    liveRow (r.join user name room session).activeRooms other =
      if other = name then some ((liveRow (r.vacate user).activeRooms name).getD room)
      else liveRow (r.vacate user).activeRooms other := by
  simp only [RoomService.join, liveRow_insert]
  by_cases same : other = name
  · simp only [same, ↓reduceIte]
    unfold liveRow
    cases (r.vacate user).activeRooms[name]? <;> rfl
  · simp only [same, ↓reduceIte]

theorem liveId_join (room : Room) :
    liveId (r.join user name room session).activeRooms other =
      if other = name then some ((liveId (r.vacate user).activeRooms name).getD room.id)
      else liveId (r.vacate user).activeRooms other := by
  simp only [liveId_eq, liveRow_join]
  split
  · cases liveRow (r.vacate user).activeRooms name <;> rfl
  · rfl

theorem liveRow_create (roomId : Int) :
    liveRow (r.create user name roomId session).activeRooms other =
      if other = name then some ⟨roomId, name, user⟩ else liveRow r.activeRooms other := by
  simp only [RoomService.create, liveRow_insert]
  rfl

theorem liveId_create (roomId : Int) :
    liveId (r.create user name roomId session).activeRooms other =
      if other = name then some roomId else liveId r.activeRooms other := by
  simp only [liveId_eq, liveRow_create]
  split <;> rfl

end Maps

def LiveOnly (P : String → Room → Prop) (r : RoomService) : Prop :=
  ∀ name row, liveRow r.activeRooms name = some row → P name row

/-- The call brings a name into memory only with a row of which `P` holds. -/
def EntersAs (P : String → Room → Prop) : Call → Prop
  | .joinRoom _ name room _ => P name room
  | .createRoom user name roomId _ => P name ⟨roomId, name, user⟩
  | _ => True

section LiveOnly
variable {P Q : String → Room → Prop} {r : RoomService}

theorem liveOnly_empty : LiveOnly P .empty := by
  intro name row live
  simp [RoomService.empty, liveRow] at live

theorem liveOnly_mono (h : LiveOnly P r) (weaken : ∀ name row, P name row → Q name row) :
    LiveOnly Q r :=
  fun name row live => weaken name row (h name row live)

theorem liveOnly_vacate (h : LiveOnly P r) (user : Int) : LiveOnly P (r.vacate user) :=
  fun name row live => h name row (liveRow_vacate r user name live)

theorem liveOnly_join (h : LiveOnly P r) (user : Int) {name : String} {room : Room}
    (session : SessionId) (enters : P name room) : LiveOnly P (r.join user name room session) := by
  have left := liveOnly_vacate h user
  intro other row live
  rw [liveRow_join] at live
  by_cases here : other = name
  · rw [if_pos here] at live
    rw [here]
    cases before : liveRow (r.vacate user).activeRooms name with
    | none =>
      rw [before] at live
      cases live
      exact enters
    | some old =>
      rw [before] at live
      cases live
      exact left name old before
  · rw [if_neg here] at live
    exact left other row live

theorem liveOnly_create (h : LiveOnly P r) {user : Int} {name : String} {roomId : Int}
    (session : SessionId) (enters : P name ⟨roomId, name, user⟩) :
    LiveOnly P (r.create user name roomId session) := by
  intro other row live
  rw [liveRow_create] at live
  by_cases here : other = name
  · rw [if_pos here] at live
    cases live
    rw [here]
    exact enters
  · rw [if_neg here] at live
    exact h other row live

theorem liveOnly_next {s : Server} (h : LiveOnly P s.roomService) {c : Call}
    (enters : EntersAs P c) : LiveOnly P (serverNext c s).roomService := by
  apply rooms_next (LiveOnly P) h (liveOnly_vacate h)
  · intro user name room session call
    rw [call] at enters
    exact liveOnly_join h user session enters
  · intro user name roomId session call
    rw [call] at enters
    exact liveOnly_create h session enters

end LiveOnly

section Persisted
variable [Collation]

/-- Every active room has the id of a row with its name, and whoever the map names a room
    for is in it. -/
structure Persisted (r : RoomService) (t : Table Room) : Prop where
  live : ∀ name id, liveId r.activeRooms name = some id →
    ∃ row ∈ t.rows, SameName row.name name ∧ row.id = id
  seated : Seats r

def HasIdOf (t : Table Room) (name : String) (row : Room) : Prop :=
  ∃ stored ∈ t.rows, SameName stored.name name ∧ stored.id = row.id

theorem persisted_iff (r : RoomService) (t : Table Room) :
    Persisted r t ↔ LiveOnly (HasIdOf t) r ∧ Seats r := by
  constructor
  · intro h
    refine ⟨?_, h.seated⟩
    intro name row live
    exact h.live name row.id (by rw [liveId_eq, live]; rfl)
  · intro h
    refine ⟨?_, h.2⟩
    intro name id live
    rw [liveId_eq] at live
    obtain ⟨row, there, same⟩ := Option.map_eq_some_iff.mp live
    rw [← same]
    exact h.1 name row there

theorem persisted_empty (t : Table Room) : Persisted .empty t :=
  (persisted_iff _ t).mpr ⟨liveOnly_empty, seats_empty⟩

variable {r : RoomService} {t : Table Room}

theorem persisted_find (h : Persisted r t) {name : String} {id : Int}
    (live : liveId r.activeRooms name = some id) : ∃ row, t.find name = some row ∧ row.id = id := by
  obtain ⟨row, stored, same, known⟩ := h.live name id live
  exact ⟨row, find_of_mem stored same, known⟩

theorem persisted_mono (h : Persisted r t) {u : Table Room} (grows : t.rows ⊆ u.rows) :
    Persisted r u := by
  constructor
  · intro name id live
    obtain ⟨row, stored, same⟩ := h.live name id live
    exact ⟨row, grows stored, same⟩
  · exact h.seated

theorem persisted_vacate (h : Persisted r t) (user : Int) : Persisted (r.vacate user) t := by
  obtain ⟨live, seated⟩ := (persisted_iff r t).mp h
  exact (persisted_iff _ t).mpr ⟨liveOnly_vacate live user, seats_vacate seated user⟩

end Persisted

section Interleaving
variable [Collation]

abbrev TablesView := View (chat database) Job

def roomRows (w : World database) : List Room := w.store.rooms.rows

def KeepsRooms (v w : TablesView) : Prop := roomRows v.1 ⊆ roomRows w.1

def EntersStored (_ : Job) (v : TablesView) : Call → Prop
  | .joinRoom _ name room _ => room ∈ roomRows v.1 ∧ SameName room.name name
  | .createRoom _ name roomId _ =>
    ∃ row ∈ roomRows v.1, SameName row.name name ∧ row.id = roomId
  | _ => True

def RowNamed (rows : List Room) (name : String) (row : Room) : Prop :=
  row ∈ rows ∧ SameName row.name name

def EntersRow (_ : Job) (v : TablesView) : Call → Prop := EntersAs (RowNamed (roomRows v.1))

theorem entersRow_of_free (job : Job) (v : TablesView) (c : Call) (free : Free c) :
    EntersRow job v c := by
  cases c <;> simp_all [EntersRow, EntersAs]

theorem entersStored_of_row (job : Job) (v : TablesView) (c : Call) (enters : EntersRow job v c) :
    EntersStored job v c := by
  cases c with
  | joinRoom user name room session => exact enters
  | createRoom user name roomId session => exact ⟨_, enters.1, enters.2, rfl⟩
  | _ => trivial

theorem keepsRooms_refl (v : TablesView) : KeepsRooms v v := fun _ h => h

theorem keepsRooms_trans (u v w : TablesView) (first : KeepsRooms u v) (second : KeepsRooms v w) :
    KeepsRooms u w := fun _ h => second (first h)

theorem rows_next (choice : Choice database) (c : Call) (w : World database) :
    roomRows w ⊆ roomRows ((chat database).next choice c w) := by
  intro row stored
  have kept : ∀ q, row ∈ (database.next choice.store q w.store).rooms.rows := by
    intro q
    by_cases effect : Stored choice.store q w.store
    · rw [next_stored effect]
      cases q with
      | addRoom room =>
        have inserted : row ∈ (w.store.rooms.insert room effect.2.1).rows :=
          mem_insert.mpr (Or.inl stored)
        exact inserted
      | _ => exact stored
    · rw [next_not_stored effect]
      exact stored
  cases c with
  | repository q =>
    cases q with
    | addUser user => exact kept _
    | updateUser user => exact kept _
    | addRoom room => exact kept _
    | addMessage message => exact kept _
    | _ => exact stored
  | _ => exact stored

theorem found_stored {choice : Choice database} {name : String} {w : World database} {room : Room}
    (answer : (chat database).answer choice (.repository (.findByRoomName name)) w =
      .ok (some room)) : room ∈ roomRows w ∧ SameName room.name name := by
  rcases stored_or_lost answer with ⟨_, same⟩ | ⟨_, same⟩
  · exact find_some same.symm
  · cases same

theorem added_stored {choice : Choice database} {room : Room} {w : World database} {roomId : Int}
    (answer : (chat database).answer choice (.repository (.addRoom room)) w = .ok (some roomId)) :
    { room with id := roomId } ∈
      roomRows ((chat database).next choice (.repository (.addRoom room)) w) := by
  rcases stored_or_lost answer with ⟨effect, same⟩ | ⟨_, same⟩
  · cases same
    have inserted : { room with id := w.store.rooms.nextId } ∈
        (w.store.rooms.insert room effect.2.1).rows := mem_insert.mpr (Or.inr rfl)
    simp only [roomRows, storeNext, next_stored effect]
    exact inserted
  · cases same

theorem enters_free {number : Nat} {job : Job} {p : Program Call Call.Answer α}
    (free : p.Uses Free) (v : TablesView) : Guarded KeepsRooms EntersRow number job p v :=
  guarded_of_uses (entersRow_of_free job) free v

theorem enters_handleRoomOperation (number : Nat) (job : Job) (session : SessionId)
    (m : RoomOperationRequest) (v : TablesView) :
    Guarded KeepsRooms EntersRow number job (handleRoomOperation session m) v := by
  intro now _
  refine ⟨trivial, ?_⟩
  intro _ present _
  cases present with
  | false => trivial
  | true =>
    intro asked _
    refine ⟨trivial, ?_⟩
    intro _ u _
    obtain ⟨operation, roomname⟩ := m
    cases operation with
    | join =>
      intro looked _
      refine ⟨trivial, ?_⟩
      intro choice found answer
      cases found with
      | none => exact enters_free (free_sendRoomResponse _ _ _ _ _) _
      | some room =>
        intro joined since
        have stored := found_stored answer
        refine ⟨⟨since (rows_next choice _ _ stored.1), stored.2⟩, ?_⟩
        intro _ _ _
        exact enters_free (uses_bind (free_notifyRoom _ _ _ _)
          (fun _ => free_sendRoomResponse _ _ _ _ _)) _
    | leave =>
      intro left _
      refine ⟨trivial, ?_⟩
      intro _ _ _
      exact enters_free (uses_bind (free_notifyRoom _ _ _ _)
        (fun _ => free_sendRoomResponse _ _ _ _ _)) _
    | create =>
      intro looked _
      refine ⟨trivial, ?_⟩
      intro _ found _
      cases found with
      | some room => exact enters_free (free_sendRoomResponse _ _ _ _ _) _
      | none =>
        intro inserted _
        refine ⟨trivial, ?_⟩
        intro choice added answer
        cases added with
        | none => exact enters_free (free_sendRoomResponse _ _ _ _ _) _
        | some roomId =>
          intro created since
          refine ⟨⟨since (added_stored answer), rfl⟩, ?_⟩
          intro _ _ _
          exact enters_free (free_sendRoomResponse _ _ _ _ _) _
    | other value => exact enters_free (free_sendRoomResponse _ _ _ _ _) _

theorem enters_onDisconnect (number : Nat) (job : Job) (session : SessionId) (v : TablesView) :
    Guarded KeepsRooms EntersRow number job (onDisconnect session) v := by
  have uses : (onDisconnect session).Uses (fun c => ∀ v, EntersRow job v c) := by
    refine ⟨fun _ => trivial, ?_⟩
    intro present
    cases present with
    | false => exact ⟨fun _ => trivial, fun _ => trivial⟩
    | true =>
      refine ⟨fun _ => trivial, fun _ => ⟨fun _ => trivial, fun _ => ⟨fun _ => trivial, ?_⟩⟩⟩
      intro still
      cases still with
      | false => exact ⟨fun _ => trivial, fun _ => trivial⟩
      | true =>
        exact ⟨fun _ => trivial, fun _ => ⟨fun _ => trivial, fun _ =>
          ⟨fun _ => trivial, fun _ => trivial⟩⟩⟩
  exact guarded_of_uses (fun v c ok => ok v) uses v

theorem entersRow_job [Sha256] (number : Nat) (job : Job) (v : TablesView) :
    Guarded KeepsRooms EntersRow number job job.handler v := by
  cases job with
  | disconnect session => exact enters_onDisconnect number _ session v
  | dispatch session e =>
    exact guarded_dispatchMessage (entersRow_of_free _)
      (enters_handleRoomOperation number _ session) e v

theorem enters_job [Sha256] (number : Nat) (job : Job) (v : TablesView) :
    Guarded KeepsRooms EntersStored number job job.handler v :=
  guarded_mono (entersStored_of_row job) (entersRow_job number job v)

def PersistedView (v : TablesView) : Prop :=
  Persisted v.1.server.roomService v.1.store.rooms

theorem persisted_called (v : TablesView) (number : Nat) (job : Job) (choice : Choice database)
    (c : Call) (h : PersistedView v) (enters : EntersStored job v c) :
    PersistedView (called v number job choice c) ∧
      KeepsRooms v (called v number job choice c) := by
  have grows := rows_next choice c v.1
  obtain ⟨live, seated⟩ := (persisted_iff _ _).mp h
  have ids : EntersAs (HasIdOf v.1.store.rooms) c := by
    cases c with
    | joinRoom user name room session => exact ⟨room, enters.1, enters.2, rfl⟩
    | createRoom user name roomId session => exact enters
    | _ => trivial
  have kept : Persisted (serverNext c v.1.server).roomService v.1.store.rooms :=
    (persisted_iff _ _).mpr ⟨liveOnly_next live ids, seats_next seated c⟩
  exact ⟨persisted_mono kept grows, grows⟩

/-- The ids in memory are those of the table, and 0 stands for no room. -/
structure CurrentIds (w : World database) : Prop where
  live : ∀ (name : String) (active : ActiveRoom),
    w.server.roomService.activeRooms[name]? = some active →
      ∃ row, w.store.rooms.find name = some row ∧ active.id = row.id
  nowhere : ∀ user : Int, w.server.roomService.getUserCurrentRoomId user = 0 ↔
    w.server.roomService.userToRoomMap[user]? = none
  somewhere : ∀ (user : Int) (name : String),
    w.server.roomService.userToRoomMap[user]? = some name →
      ∃ row, w.store.rooms.find name = some row ∧
        w.server.roomService.getUserCurrentRoomId user = row.id

/-- AUTO_INCREMENT starts above 0. -/
structure PositiveIds (t : Table Room) : Prop where
  next : 0 < t.nextId
  rows : ∀ row ∈ t.rows, 0 < row.id

theorem positive_insert {t : Table Room} (h : PositiveIds t) (room : Room)
    (free : t.Free (Row.name room)) : PositiveIds (t.insert room free) := by
  have next := h.next
  constructor
  · simp only [Table.insert]
    omega
  · intro row stored
    rcases mem_insert.mp stored with old | new
    · exact h.rows row old
    · rw [new]
      exact next

theorem positive_next {w : World database} (h : PositiveIds w.store.rooms)
    (choice : Choice database) (c : Call) :
    PositiveIds ((chat database).next choice c w).store.rooms := by
  have kept : ∀ q, PositiveIds (database.next choice.store q w.store).rooms := by
    intro q
    by_cases effect : Stored choice.store q w.store
    · rw [next_stored effect]
      cases q with
      | addRoom room => exact positive_insert h room effect.2.1
      | _ => exact h
    · rw [next_not_stored effect]
      exact h
  cases c with
  | repository q =>
    cases q with
    | addUser user => exact kept _
    | updateUser user => exact kept _
    | addRoom room => exact kept _
    | addMessage message => exact kept _
    | _ => exact h
  | _ => exact h

omit [Collation] in
theorem currentId_of_live {r : RoomService} {user : Int} {name : String} {id : Int}
    (there : r.userToRoomMap[user]? = some name) (live : liveId r.activeRooms name = some id) :
    r.getUserCurrentRoomId user = id := by
  simp only [liveId, Option.map_eq_some_iff] at live
  obtain ⟨active, found, same⟩ := live
  simp only [RoomService.getUserCurrentRoomId, there, found]
  exact same

theorem currentIds_of_persisted {w : World database}
    (h : Persisted w.server.roomService w.store.rooms) (positive : PositiveIds w.store.rooms) :
    CurrentIds w := by
  have somewhere : ∀ (user : Int) (name : String),
      w.server.roomService.userToRoomMap[user]? = some name →
        ∃ row, w.store.rooms.find name = some row ∧
          w.server.roomService.getUserCurrentRoomId user = row.id := by
    intro user name there
    obtain ⟨id, live⟩ := live_of_member _ (h.seated user name there)
    obtain ⟨row, found, known⟩ := persisted_find h live
    exact ⟨row, found, (currentId_of_live there live).trans known.symm⟩
  constructor
  · intro name active found
    have live : liveId w.server.roomService.activeRooms name = some active.id := by
      simp [liveId, found]
    obtain ⟨row, stored, known⟩ := persisted_find h live
    exact ⟨row, stored, known.symm⟩
  · intro user
    constructor
    · intro zero
      cases there : w.server.roomService.userToRoomMap[user]? with
      | none => rfl
      | some name =>
        obtain ⟨row, found, known⟩ := somewhere user name there
        have above := positive.rows row (find_some found).1
        omega
    · intro nowhere
      simp [RoomService.getUserCurrentRoomId, nowhere]
  · exact somewhere

/-- With any number of workers and in any interleaving of all jobs: the ids in memory are
    those the table has for the names. -/
theorem current_ids_persisted [Sha256] (workers : Nat) (w : World database)
    (empty : w.server.roomService = .empty) (positive : PositiveIds w.store.rooms)
    (moves : List (Move (chat database) Job)) :
    EveryState (Pool.step workers Job.handler) (fun p => CurrentIds p.state) (Pool.idle w)
      moves := by
  have start : PersistedView ((w, []) : TablesView) := by
    rw [PersistedView, empty]
    exact persisted_empty w.store.rooms
  have keep : ∀ (v : TablesView) (number : Nat) (job : Job) (choice : Choice database) (c : Call),
      PersistedView v ∧ PositiveIds v.1.store.rooms → EntersStored job v c → True →
      (PersistedView (called v number job choice c) ∧
        PositiveIds (called v number job choice c).1.store.rooms) ∧
        KeepsRooms v (called v number job choice c) := by
    intro v number job choice c h enters _
    obtain ⟨persisted, grows⟩ := persisted_called v number job choice c h.1 enters
    exact ⟨⟨persisted, positive_next h.2 choice c⟩, grows⟩
  have calls : EveryStep (Pool.step workers Job.handler) (SafeMove (fun _ _ => True))
      (Pool.idle w) moves :=
    everyStep_of_forall (safeMove_of_forall (fun _ _ => trivial)) (Pool.idle w) moves
  have kept : EveryState (Pool.step workers Job.handler)
      (fun p => PersistedView (view p) ∧ PositiveIds (view p).1.store.rooms) (Pool.idle w) moves :=
    invariant_of_safe_moves keepsRooms_trans keep keepsRooms_refl enters_job ⟨start, positive⟩ calls
  exact everyState_mono (fun p h => currentIds_of_persisted h.1 h.2) kept

end Interleaving

section FirstRoom

local instance : Collation := ⟨id⟩

local instance : Sha256 := ⟨id⟩

def annAlone : Tables := database.next ⟨none, 0, fun _ => 0⟩ (.addUser ⟨0, "ann", "pw", ""⟩) .empty

def firstRoom : List (Move (chat database) Job) :=
  [.post (.dispatch 1 ⟨"", some (.roomOperationRequest ⟨.create, "hall"⟩)⟩)
      (fun _ => ⟨⟨none, 0, fun _ => 0⟩, none, ⟨0, 0⟩⟩),
    .start, .advance 0, .advance 0, .advance 0, .advance 0, .advance 0, .advance 0]

theorem current_ids_persisted_first : EveryState (Pool.step 1 Job.handler)
    (fun p : Pool (chat database) Job => CurrentIds p.state)
    (Pool.idle ⟨Server.start.registerAuthenticatedSession 1 1 "ann", annAlone⟩) firstRoom :=
  current_ids_persisted 1 _ rfl ⟨by decide, by decide⟩ firstRoom

end FirstRoom

end LiveRooms
