import ChatServer.Model.Calls

/-!
The tables of schema.sql behind the repositories. Primary keys and unique keys are
fields of the tables, so no run can break them; a statement that would is raised by
the driver, as is a value too long for its column or a missing foreign key. Names are
compared as the column's collation does: equal when their collation keys are.
-/
namespace ChatDatabase
open ChatProtocol ChatCalls

class Collation where
  key : String → String

variable [Collation]

def SameName (a b : String) : Prop := Collation.key a = Collation.key b

instance (a b : String) : Decidable (SameName a b) :=
  inferInstanceAs (Decidable (Collation.key a = Collation.key b))

/-- A row with an AUTO_INCREMENT primary key and a unique name column. -/
class Row (α : Type) where
  id : α → Int
  name : α → String
  withId : α → Int → α
  id_withId : ∀ r k, id (withId r k) = k
  name_withId : ∀ r k, name (withId r k) = name r

instance : Row User := ⟨User.id, User.username, fun r k => { r with id := k },
  fun _ _ => rfl, fun _ _ => rfl⟩

instance : Row Room := ⟨Room.id, Room.name, fun r k => { r with id := k },
  fun _ _ => rfl, fun _ _ => rfl⟩

structure Table (α : Type) [Row α] where
  rows : List α
  nextId : Int
  below : ∀ r ∈ rows, Row.id r < nextId
  ids : rows.Pairwise (fun a b => Row.id a ≠ Row.id b)
  names : rows.Pairwise (fun a b => ¬ SameName (Row.name a) (Row.name b))

section Table
variable {α : Type} [Row α] (t : Table α)

def Table.empty : Table α := ⟨[], 1, by simp, .nil, .nil⟩

def Table.find (name : String) : Option α := t.rows.find? (fun r => SameName (Row.name r) name)

def Table.findId (id : Int) : Option α := t.rows.find? (fun r => Row.id r = id)

def Table.Free (name : String) : Prop := ∀ r ∈ t.rows, ¬ SameName (Row.name r) name

def Table.FreeFor (id : Int) (name : String) : Prop :=
  ∀ r ∈ t.rows, Row.id r ≠ id → ¬ SameName (Row.name r) name

instance (name : String) : Decidable (t.Free name) :=
  inferInstanceAs (Decidable (∀ r ∈ t.rows, _))

instance (id : Int) (name : String) : Decidable (t.FreeFor id name) :=
  inferInstanceAs (Decidable (∀ r ∈ t.rows, _))

def Table.insert (row : α) (free : t.Free (Row.name row)) : Table α where
  rows := t.rows ++ [Row.withId row t.nextId]
  nextId := t.nextId + 1
  below := by
    intro r member
    rcases List.mem_append.mp member with old | new
    · have := t.below r old
      omega
    · rw [List.mem_singleton.mp new, Row.id_withId]
      omega
  ids := List.pairwise_append.mpr ⟨t.ids, List.pairwise_singleton _ _, by
    intro a old b new
    have := t.below a old
    rw [List.mem_singleton.mp new, Row.id_withId]
    omega⟩
  names := List.pairwise_append.mpr ⟨t.names, List.pairwise_singleton _ _, by
    intro a old b new
    rw [List.mem_singleton.mp new, Row.name_withId]
    exact free a old⟩

theorem find_some {t : Table α} {name : String} {r : α} (found : t.find name = some r) :
    r ∈ t.rows ∧ SameName (Row.name r) name := by
  refine ⟨List.mem_of_find?_eq_some found, ?_⟩
  have here := List.find?_some found
  simpa using here

theorem find_none_iff {t : Table α} {name : String} : t.find name = none ↔ t.Free name := by
  simp [Table.find, Table.Free]

theorem same_id_same_row {t : Table α} {a b : α} (ha : a ∈ t.rows) (hb : b ∈ t.rows)
    (same : Row.id a = Row.id b) : a = b := by
  by_contra apart
  have symmetric : Std.Symm fun a b : α => Row.id a ≠ Row.id b := ⟨fun _ _ => Ne.symm⟩
  exact t.ids.forall ha hb apart same

theorem same_name_same_row {t : Table α} {a b : α} (ha : a ∈ t.rows) (hb : b ∈ t.rows)
    (same : SameName (Row.name a) (Row.name b)) : a = b := by
  by_contra apart
  have symmetric : Std.Symm fun a b : α => ¬ SameName (Row.name a) (Row.name b) :=
    ⟨fun _ _ different back => different (Eq.symm back)⟩
  exact t.names.forall ha hb apart same

theorem find_of_mem {t : Table α} {row : α} {name : String} (stored : row ∈ t.rows)
    (same : SameName (Row.name row) name) : t.find name = some row := by
  cases found : t.find name with
  | none => exact absurd same (find_none_iff.mp found row stored)
  | some other =>
    obtain ⟨there, alike⟩ := find_some found
    rw [same_name_same_row there stored (Eq.trans alike (Eq.symm same))]

theorem findId_some_iff {t : Table α} {id : Int} {row : α} :
    t.findId id = some row ↔ row ∈ t.rows ∧ Row.id row = id := by
  constructor
  · intro found
    have here := List.find?_some found
    exact ⟨List.mem_of_find?_eq_some found, by simpa using here⟩
  · intro stored
    cases found : t.findId id with
    | none =>
      have other := List.find?_eq_none.mp found row stored.1
      simp [stored.2] at other
    | some first =>
      have here := List.find?_some found
      have same : Row.id first = Row.id row := by simpa [stored.2] using here
      rw [same_id_same_row (List.mem_of_find?_eq_some found) stored.1 same]

@[simp] theorem mem_insert {t : Table α} {row r : α} {free : t.Free (Row.name row)} :
    r ∈ (t.insert row free).rows ↔ r ∈ t.rows ∨ r = Row.withId row t.nextId := by
  simp [Table.insert]

end Table

def withColumns (user row : User) : User :=
  if row.id = user.id then
    { row with username := user.username, hashedPassword := user.hashedPassword, salt := user.salt }
  else row

omit [Collation] in
theorem withColumns_id (user row : User) : Row.id (withColumns user row) = Row.id row := by
  unfold withColumns
  split <;> rfl

def updateUsers (t : Table User) (user : User) (free : t.FreeFor user.id user.username) :
    Table User where
  rows := t.rows.map (withColumns user)
  nextId := t.nextId
  below := by
    intro r member
    obtain ⟨old, stored, same⟩ := List.mem_map.mp member
    rw [← same, withColumns_id]
    exact t.below old stored
  ids := by
    rw [List.pairwise_map]
    exact t.ids.imp (by simp only [withColumns_id, ne_eq, imp_self, implies_true])
  names := by
    rw [List.pairwise_map]
    apply (t.ids.and t.names).imp_of_mem
    intro a b ha hb apart same
    simp only [Row.name, withColumns] at same
    split at same <;> split at same
    · rename_i first second
      exact apart.1 (first.trans second.symm)
    · rename_i first second
      exact free b hb second same.symm
    · rename_i first second
      exact free a ha first same
    · exact apart.2 same

@[simp] theorem mem_updateUsers {t : Table User} {user r : User}
    {free : t.FreeFor user.id user.username} :
    r ∈ (updateUsers t user free).rows ↔ ∃ old ∈ t.rows, withColumns user old = r := by
  simp [updateUsers]

structure Tables where
  users : Table User
  rooms : Table Room
  messages : List Message
  nextMessage : Int

def Tables.empty : Tables := ⟨.empty, .empty, [], 1⟩

/-- What one statement meets: an error of the driver, and the database's clock. Rows
    with equal `created_at` come in the order of `rank`. -/
structure Outcome where
  raises : Option DriverError
  now : Int
  rank : Message → Nat

/-- Keys, foreign keys and column widths, as the schema has them. -/
def Tables.Admits (t : Tables) : Query → Prop
  | .addUser user => t.users.Free user.username ∧ user.username.length ≤ 50 ∧
      user.hashedPassword.length ≤ 255 ∧ user.salt.length ≤ 255
  | .updateUser user => t.users.FreeFor user.id user.username ∧ user.username.length ≤ 50 ∧
      user.hashedPassword.length ≤ 255 ∧ user.salt.length ≤ 255
  | .addRoom room => t.rooms.Free room.name ∧ room.name.length ≤ 100 ∧
      ∃ u ∈ t.users.rows, u.id = room.creatorId
  | .addMessage message => message.content.utf8ByteSize ≤ 65535 ∧
      (∃ r ∈ t.rooms.rows, r.id = message.roomId) ∧ ∃ u ∈ t.users.rows, u.id = message.senderId
  | _ => True

instance (t : Tables) (q : Query) : Decidable (t.Admits q) := by
  cases q <;> simp only [Tables.Admits] <;> infer_instance

def newestFirst (rank : Message → Nat) (a b : Message) : Prop :=
  b.createdAt < a.createdAt ∨ (a.createdAt = b.createdAt ∧ rank a ≤ rank b)

instance (rank : Message → Nat) : DecidableRel (newestFirst rank) := fun a b =>
  inferInstanceAs (Decidable (b.createdAt < a.createdAt ∨ _))

def Tables.answer (t : Tables) (outcome : Outcome) : (q : Query) → q.Answer
  | .findByUsername username => t.users.find username
  | .findByUserId id => t.users.findId id
  | .addUser _ => some t.users.nextId
  | .updateUser user => (t.users.findId user.id).isSome
  | .findByRoomName name => t.rooms.find name
  | .addRoom _ => some t.rooms.nextId
  | .addMessage _ => some t.nextMessage
  | .findLatestByRoomId roomId limit =>
    ((t.messages.filter (fun m => m.roomId = roomId)).insertionSort
      (newestFirst outcome.rank)).take limit.toNat

def Tables.apply (t : Tables) (outcome : Outcome) : (q : Query) → t.Admits q → Tables
  | .addUser user, admits => { t with users := t.users.insert user admits.1 }
  | .updateUser user, admits => { t with users := updateUsers t.users user admits.1 }
  | .addRoom room, admits => { t with rooms := t.rooms.insert room admits.1 }
  | .addMessage message, _ =>
    { t with
      messages := t.messages ++ [{ message with id := t.nextMessage, createdAt := outcome.now }]
      nextMessage := t.nextMessage + 1 }
  | _, _ => t

/-- A statement that raises, for whatever reason, leaves the tables alone: its
    transaction is rolled back. -/
def database : Environment where
  Store := Tables
  Choice := Outcome
  answer := fun outcome q t => match outcome.raises with
    | some e => .error e
    | none => if t.Admits q then .ok (t.answer outcome q) else .error .otherCategory
  next := fun outcome q t => match outcome.raises with
    | some _ => t
    | none => if admits : t.Admits q then t.apply outcome q admits else t

def Stored (outcome : Outcome) (q : Query) (t : Tables) : Prop :=
  outcome.raises = none ∧ t.Admits q

def Lost (outcome : Outcome) : Prop :=
  ∃ e, outcome.raises = some e ∧ e ≠ .otherCategory

theorem next_stored {outcome : Outcome} {q : Query} {t : Tables} (stored : Stored outcome q t) :
    database.next outcome q t = t.apply outcome q stored.2 := by
  obtain ⟨quiet, admits⟩ := stored
  simp [database, quiet, admits]

theorem next_not_stored {outcome : Outcome} {q : Query} {t : Tables}
    (not_stored : ¬ Stored outcome q t) : database.next outcome q t = t := by
  simp only [database]
  split
  · rfl
  · rename_i quiet
    have refused : ¬ t.Admits q := fun admits => not_stored ⟨quiet, admits⟩
    simp [refused]

/-- A statement that answers without an exception was stored or lost. -/
theorem stored_or_lost {outcome : Outcome} {q : Query} {t : Tables} {a : q.Answer}
    (answer : catchLadder q (database.answer outcome q t) = .ok a) :
    (Stored outcome q t ∧ a = t.answer outcome q) ∨ (Lost outcome ∧ a = q.fallback) := by
  simp only [database] at answer
  cases raised : outcome.raises with
  | some e =>
    refine Or.inr ⟨⟨e, raised, ?_⟩, ?_⟩
    · intro other
      simp [raised, other, catchLadder] at answer
    · cases e <;> simp_all [catchLadder]
  | none =>
    by_cases admits : t.Admits q
    · simp only [raised, admits, ↓reduceIte, catchLadder, Except.ok.injEq] at answer
      exact Or.inl ⟨⟨raised, admits⟩, answer.symm⟩
    · simp [raised, admits, catchLadder] at answer

end ChatDatabase
