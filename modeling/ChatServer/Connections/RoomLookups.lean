import ChatServer.Atomic.Runs
import ChatServer.Connections.Inserts

/-!
The lookups of a room by its id and by its name. The lookup by id binds the id to the name
column, so it finds the room of that id exactly when its name, read as a number, is that
id and no other name reads so.
-/
namespace RoomLookups
open AtomicCalls EventRuns ChatProtocol ChatCalls ChatDatabase Repositories TransactedTables
  AtomicInserts

section Rows
variable {α : Type} {order : α → α → Prop} [DecidableRel order] {found : α → Bool} {rows : List α}

theorem mem_of_head_sorted {row : α} (first : (rows.insertionSort order).head? = some row) :
    row ∈ rows := (List.mem_insertionSort order).mp (List.mem_of_head? first)

theorem nil_of_head_sorted (none_first : (rows.insertionSort order).head? = none) : rows = [] := by
  have empty := List.head?_eq_none_iff.mp none_first
  have perm := List.perm_insertionSort order rows
  rw [empty] at perm
  exact perm.nil_eq.symm

theorem head_found (single : ∀ a ∈ rows, ∀ b ∈ rows, found a = true → found b = true → a = b) :
    ((rows.filter found).insertionSort order).head? = rows.find? found := by
  cases first : ((rows.filter found).insertionSort order).head? with
  | none =>
    have nobody := List.filter_eq_nil_iff.mp (nil_of_head_sorted first)
    exact (List.find?_eq_none.mpr nobody).symm
  | some row =>
    obtain ⟨stored, here⟩ := List.mem_filter.mp (mem_of_head_sorted first)
    cases searched : rows.find? found with
    | none => exact absurd here (List.find?_eq_none.mp searched row stored)
    | some other =>
      have same := single other (List.mem_of_find?_eq_some searched) row stored
        (List.find?_some searched) here
      rw [same]

end Rows

section Comparison
variable [Collation] [TextComparison]

def Quiet (choices : Nat → Conditions) : Prop := ∀ n, (choices n).raises = none

theorem returned_findRow {choices : Nat → Conditions} (quiet : Quiet choices) (query : Select)
    (t : Tables) (lastId : Int) :
    returned (findRow query) choices ⟨t, none, lastId⟩ =
      .ok (selected query (choices 3).rank t).head? := by
  have begins : (later choices 0).answer ⟨t, none, lastId⟩ .transaction = .ok () := by
    simp [Conditions.answer, quiet 1]
  have opened : (later choices 0).next .transaction ⟨t, none, lastId⟩ = ⟨t, some t, lastId⟩ := by
    simp [Conditions.next, quiet 1]
  have prepared : (later (later choices) 0).answer ⟨t, some t, lastId⟩ (.prepare (.select query)) =
      .ok () := by
    simp [Conditions.answer, quiet 2]
  have found : (later (later (later choices)) 0).answer ⟨t, some t, lastId⟩
      (.exchange (.select query)) = .ok (selected query (choices 3).rank t).head? := by
    simp [Conditions.answer, quiet 3, DriverState.seen]
  unfold findRow
  rw [returned_wrapped, returned_inTransaction, begins, opened]
  dsimp only
  rw [returned_driver, prepared]
  have unchanged : (later (later choices) 0).next (.prepare (.select query)) ⟨t, some t, lastId⟩ =
      ⟨t, some t, lastId⟩ := rfl
  dsimp only
  rw [returned_driver, unchanged, found]
  rfl

def rankFirst (row : Room) : (table : TableName) → table.Row → Nat
  | .rooms => fun other => if other = row then 0 else 1
  | .users => fun _ => 0
  | .messages => fun _ => 0

def quietly (rank : (table : TableName) → table.Row → Nat) : Nat → Conditions :=
  fun _ => ⟨none, true, true, none, 0, rank, id, 0⟩

omit [Collation] [TextComparison] in
theorem head_rankFirst {rows : List Room} {row : Room} (there : row ∈ rows) :
    (rows.insertionSort (Before .unordered .rooms (rankFirst row .rooms))).head? =
      some row := by
  let first := Before .unordered .rooms (rankFirst row .rooms)
  have total : Std.Total first :=
    ⟨fun a b => le_total (rankFirst row .rooms a) (rankFirst row .rooms b)⟩
  have trans : IsTrans Room first := ⟨fun a b c ab bc => le_trans ab bc⟩
  have sorted := List.pairwise_insertionSort first rows
  have listed := (List.mem_insertionSort first).mpr there
  cases shape : rows.insertionSort first with
  | nil =>
    rw [shape] at listed
    cases listed
  | cons head rest =>
    rw [shape] at sorted listed
    rcases List.mem_cons.mp listed with here | behind
    · exact congrArg some here.symm
    · have least : rankFirst row .rooms head ≤ rankFirst row .rooms row :=
        List.rel_of_pairwise_cons sorted behind
      have same : head = row := by
        by_contra different
        simp [rankFirst, different] at least
      exact congrArg some same

section Lookups
variable {choices : Nat → Conditions} (quiet : Quiet choices) (t : Tables) (lastId : Int)
include quiet

theorem findByRoomId_eq (id : Int) :
    returned (MySQLRoomRepository.findByRoomId id) choices ⟨t, none, lastId⟩ =
      .ok ((t.rooms.rows.filter (fun row => TextComparison.reads row.name id)).insertionSort
        (Before .unordered .rooms ((choices 3).rank .rooms))).head? :=
  returned_findRow quiet (equals .rooms "name" (.integer id)) t lastId

theorem findByRoomName_eq (name : String) :
    returned (MySQLRoomRepository.findByRoomName name) choices ⟨t, none, lastId⟩ =
      .ok (t.rooms.find name) := by
  have found : returned (MySQLRoomRepository.findByRoomName name) choices ⟨t, none, lastId⟩ =
      .ok ((t.rooms.rows.filter (fun row => decide (SameName row.name name))).insertionSort
        (Before .unordered .rooms ((choices 3).rank .rooms))).head? :=
    returned_findRow quiet (equals .rooms "name" (.text name)) t lastId
  rw [found]
  apply congrArg Except.ok
  apply head_found
  intro a here b there same_a same_b
  have same : SameName a.name b.name :=
    Eq.trans (of_decide_eq_true same_a) (of_decide_eq_true same_b).symm
  exact same_name_same_row here there same

end Lookups

/-- The lookup by id returns the row of the id, the row that the lookup by name returns. -/
structure LookupLaw (t : Tables) : Prop where
  byId : ∀ id choices lastId, Quiet choices →
    returned (MySQLRoomRepository.findByRoomId id) choices ⟨t, none, lastId⟩ =
      .ok (t.rooms.findId id)
  agree : ∀ row ∈ t.rooms.rows, ∀ choices others lastId, Quiet choices → Quiet others →
    returned (MySQLRoomRepository.findByRoomId row.id) choices ⟨t, none, lastId⟩ =
      returned (MySQLRoomRepository.findByRoomName row.name) others ⟨t, none, lastId⟩

/-- Each name, compared with numbers, equals the row's own id and nothing else. -/
def NamesAreIds (t : Tables) : Prop :=
  ∀ row ∈ t.rooms.rows, ∀ id, TextComparison.reads row.name id = true ↔ id = row.id

theorem byId_of_namesAreIds {t : Tables} (names : NamesAreIds t) (id : Int)
    {choices : Nat → Conditions} (quiet : Quiet choices) (lastId : Int) :
    returned (MySQLRoomRepository.findByRoomId id) choices ⟨t, none, lastId⟩ =
      .ok (t.rooms.findId id) := by
  rw [findByRoomId_eq quiet]
  apply congrArg Except.ok
  rw [head_found]
  · cases searched : t.rooms.findId id with
    | none =>
      apply List.find?_eq_none.mpr
      intro row there reads
      have other := List.find?_eq_none.mp searched row there
      simp [Row.id, (names row there id).mp reads] at other
    | some row =>
      obtain ⟨there, same⟩ := findId_some_iff.mp searched
      have here := (names row there id).mpr same.symm
      cases read : t.rooms.rows.find? (fun row => TextComparison.reads row.name id) with
      | none => exact absurd here (List.find?_eq_none.mp read row there)
      | some other =>
        have also := List.mem_of_find?_eq_some read
        have reads : TextComparison.reads other.name id = true := by simpa using List.find?_some read
        have its := (names other also id).mp reads
        rw [same_id_same_row also there (its.symm.trans same.symm)]
  · intro a here b there reads_a reads_b
    have same : a.id = b.id := ((names a here id).mp reads_a).symm.trans ((names b there id).mp reads_b)
    exact same_id_same_row here there same

theorem lookupLaw_iff (t : Tables) : LookupLaw t ↔ NamesAreIds t := by
  constructor
  · intro law row there id
    have quiet : Quiet (quietly (rankFirst row)) := fun _ => rfl
    have found := law.byId id (quietly (rankFirst row)) 0 quiet
    rw [findByRoomId_eq quiet] at found
    have first := Except.ok.inj found
    constructor
    · intro reads
      have listed : row ∈ t.rooms.rows.filter (fun row => TextComparison.reads row.name id) :=
        List.mem_filter.mpr ⟨there, reads⟩
      exact (findId_some_iff.mp (first.symm.trans (head_rankFirst listed))).2.symm
    · intro same
      subst same
      have own : t.rooms.findId row.id = some row := findId_some_iff.mpr ⟨there, rfl⟩
      rw [own] at first
      exact (List.mem_filter.mp (mem_of_head_sorted first)).2
  · intro names
    constructor
    · intro id choices lastId quiet
      exact byId_of_namesAreIds names id quiet lastId
    · intro row there choices others lastId quiet also
      have own : t.rooms.findId row.id = some row := findId_some_iff.mpr ⟨there, rfl⟩
      have named : t.rooms.find row.name = some row := find_of_mem there (Eq.refl _)
      rw [byId_of_namesAreIds names row.id quiet, findByRoomName_eq also, own, named]

/-- A call of addRoom, with the id that the connection last gave a row. -/
structure AddRoom where
  room : Room
  choices : Nat → Conditions
  lastId : Int

def addRoomStep (t : Tables) (e : AddRoom) : Tables :=
  (stateAfter (MySQLRoomRepository.addRoom e.room) e.choices ⟨t, none, e.lastId⟩).stored

def roomValues (room : Room) : List (String × Value) :=
  [("name", .text room.name), ("creator_id", .integer room.creatorId)]

/-- A room that is stored is named as the id it is given. -/
def NamedAsId (t : Tables) (e : AddRoom) : Prop :=
  Succeeds .rooms (roomValues e.room) e.choices t →
    ∀ id, TextComparison.reads e.room.name id = true ↔ id = t.rooms.nextId

theorem namesAreIds_step (t : Tables) (e : AddRoom) (names : NamesAreIds t) :
    NamesAreIds (addRoomStep t e) ↔ NamedAsId t e := by
  have conditions := insertRow_succeeds_iff .rooms (roomValues e.room) t e.choices e.lastId
  unfold NamedAsId
  rw [← conditions]
  rcases insertRow_ends .rooms (roomValues e.room) e.choices t e.lastId with
    ⟨success, now, stored⟩ | ⟨silent, same⟩
  · obtain ⟨admits, added⟩ := inserted_some stored
    have rows : (addRoomStep t e).rooms.rows =
        t.rooms.rows ++ [⟨t.rooms.nextId, e.room.name, e.room.creatorId⟩] := by
      have whole : addRoomStep t e = _ := added
      rw [whole]
      rfl
    constructor
    · intro after _ id
      have new : (⟨t.rooms.nextId, e.room.name, e.room.creatorId⟩ : Room) ∈
          (addRoomStep t e).rooms.rows := by
        rw [rows]
        exact List.mem_append_right _ (List.mem_singleton.mpr rfl)
      exact after _ new id
    · intro named row there id
      rw [rows] at there
      rcases List.mem_append.mp there with old | new
      · exact names row old id
      · rw [List.mem_singleton.mp new]
        exact named ⟨_, success⟩ id
  · have rows : (addRoomStep t e).rooms.rows = t.rooms.rows := same.2.1
    apply iff_of_true
    · intro row there
      rw [rows] at there
      exact names row there
    · intro success
      obtain ⟨id, returns⟩ := success
      exact absurd returns (silent id)

/-- From a table without rooms: after every sequence of addRoom calls the lookups agree
    exactly when every room that was stored is named as the id it was given. -/
theorem lookup_undoes_addRoom_iff {t : Tables} (empty : t.rooms.rows = []) (events : List AddRoom) :
    EveryState addRoomStep LookupLaw t events ↔ EveryStep addRoomStep NamedAsId t events := by
  have start : LookupLaw t := by
    apply (lookupLaw_iff t).mpr
    intro row there
    rw [empty] at there
    cases there
  apply everyState_iff_everyStep _ start
  intro t e law
  rw [lookupLaw_iff]
  exact namesAreIds_step t e ((lookupLaw_iff t).mp law)

end Comparison

section Hall

local instance : Collation := ⟨id⟩

local instance : TextComparison where
  reads := fun text number =>
    ((text.toList.takeWhile Char.isDigit).foldl (fun n c => 10 * n + (c.toNat - 48)) 0 : Int) = number
  like := fun text part => part.toList <:+: text.toList

def onlyAnn : Tables :=
  { Tables.empty with users := Table.empty.insert ⟨0, "ann", "", ""⟩ (by decide) }

def addsRoom (name : String) : AddRoom := ⟨⟨0, name, 1⟩, quietly (fun _ _ => 0), 0⟩

/-- The room "1" gets the id 1. -/
theorem lookup_undoes_addRoom_numeral :
    EveryState addRoomStep LookupLaw onlyAnn [addsRoom "1"] := by
  apply (lookup_undoes_addRoom_iff rfl [addsRoom "1"]).mpr
  refine ⟨?_, trivial⟩
  intro _ id
  have reads : TextComparison.reads "1" id = decide ((1 : Int) = id) := rfl
  have next : onlyAnn.rooms.nextId = 1 := rfl
  change TextComparison.reads "1" id = true ↔ id = onlyAnn.rooms.nextId
  rw [reads, next, decide_eq_true_iff]
  exact eq_comm

/-- The room "hall" gets the id 1, and is not found by it. -/
theorem hall_not_found :
    ¬ EveryState addRoomStep LookupLaw onlyAnn [addsRoom "hall"] := by
  intro all
  have names := (lookupLaw_iff _).mp (everyState_last all)
  have there : (⟨1, "hall", 1⟩ : Room) ∈ (addRoomStep onlyAnn (addsRoom "hall")).rooms.rows := by
    decide
  exact absurd ((names _ there 1).mpr rfl) (by decide)

end Hall

end RoomLookups
