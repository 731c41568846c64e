import ChatServer.Connections.Repositories
import ChatServer.Model.Database

/-!
The driver over the tables. A transaction works on a copy of the tables that a commit
stores and a rollback drops. A commit that raises has not committed, and a rollback that
raises drops nothing. An AUTO_INCREMENT counter is not rolled back.
-/
namespace TransactedTables
open AtomicCalls ChatProtocol ChatCalls ChatDatabase Repositories

/-- How a text column compares with a number, and with the part between two `%`. -/
class TextComparison where
  reads : String → Int → Bool
  like : String → String → Bool

section Selects
variable [Collation] [TextComparison]

def sameValue : Value → Value → Bool
  | .integer a, .integer b => a = b
  | .text a, .text b => SameName a b
  | .text a, .integer b => TextComparison.reads a b
  | .integer a, .text b => TextComparison.reads b a

def userColumn (user : User) : String → Option Value
  | "id" => some (.integer user.id)
  | "username" => some (.text user.username)
  | "hashed_password" => some (.text user.hashedPassword)
  | "salt" => some (.text user.salt)
  | _ => none

def roomColumn (room : Room) : String → Option Value
  | "id" => some (.integer room.id)
  | "name" => some (.text room.name)
  | "creator_id" => some (.integer room.creatorId)
  | _ => none

def messageColumn (message : Message) : String → Option Value
  | "id" => some (.integer message.id)
  | "room_id" => some (.integer message.roomId)
  | "sender_id" => some (.integer message.senderId)
  | "content" => some (.text message.content)
  | "created_at" => some (.integer message.createdAt)
  | _ => none

def column : (table : TableName) → table.Row → String → Option Value
  | .users => userColumn
  | .rooms => roomColumn
  | .messages => messageColumn

def rowsOf (t : Tables) : (table : TableName) → List table.Row
  | .users => t.users.rows
  | .rooms => t.rooms.rows
  | .messages => t.messages

def holds (row : String → Option Value) : Filter → Bool
  | .all => true
  | .equals column value => (row column).any (sameValue · value)
  | .contains column part => (row column).any fun value => match value with
    | .text s => TextComparison.like s part
    | .integer _ => false

/-- Rows are ordered by columns of numbers only. -/
def sortKey (row : String → Option Value) (column : String) : Int :=
  match row column with
  | some (.integer i) => i
  | _ => 0

/-- Rows that the order of a query leaves tied come in the order of `rank`. -/
def Before (order : Order) (table : TableName) (rank : table.Row → Nat) (a b : table.Row) :
    Prop :=
  match order with
  | .unordered => rank a ≤ rank b
  | .ascending name => sortKey (column table a) name < sortKey (column table b) name ∨
    (sortKey (column table a) name = sortKey (column table b) name ∧ rank a ≤ rank b)
  | .descending name => sortKey (column table b) name < sortKey (column table a) name ∨
    (sortKey (column table a) name = sortKey (column table b) name ∧ rank a ≤ rank b)

instance (order : Order) (table : TableName) (rank : table.Row → Nat) :
    DecidableRel (Before order table rank) := fun a b =>
  match order with
  | .unordered => inferInstanceAs (Decidable (rank a ≤ rank b))
  | .ascending name => inferInstanceAs (Decidable (sortKey (column table a) name < _ ∨ _))
  | .descending name => inferInstanceAs (Decidable (sortKey (column table b) name < _ ∨ _))

def selected (query : Select) (rank : (table : TableName) → table.Row → Nat) (t : Tables) :
    List query.table.Row :=
  let found := (rowsOf t query.table).filter
    (fun row => holds (column query.table row) query.filter)
  let sorted := found.insertionSort (Before query.order query.table (rank query.table))
  match query.limit with
  | some limit => sorted.take limit.toNat
  | none => sorted

end Selects

section Inserts
variable [Collation]

def textOf (values : List (String × Value)) (column : String) : String :=
  match values.lookup column with
  | some (.text s) => s
  | _ => ""

def integerOf (values : List (String × Value)) (column : String) : Int :=
  match values.lookup column with
  | some (.integer i) => i
  | _ => 0

def insertQuery (values : List (String × Value)) : TableName → Query
  | .users => .addUser ⟨0, textOf values "username", textOf values "hashed_password",
    textOf values "salt"⟩
  | .rooms => .addRoom ⟨0, textOf values "name", integerOf values "creator_id"⟩
  | .messages => .addMessage ⟨0, integerOf values "room_id", integerOf values "sender_id",
    textOf values "content", 0⟩

def nextIdOf (t : Tables) : TableName → Int
  | .users => t.users.nextId
  | .rooms => t.rooms.nextId
  | .messages => t.nextMessage

theorem below_skipped {α : Type} [Row α] (t : Table α) :
    ∀ r ∈ t.rows, Row.id r < t.nextId + 1 := by
  intro r member
  have old := t.below r member
  omega

def skipId {α : Type} [Row α] (t : Table α) : Table α where
  rows := t.rows
  nextId := t.nextId + 1
  below := below_skipped t
  ids := t.ids
  names := t.names

/-- The tables after an insert that was rolled back. -/
def skipIdOf (t : Tables) : TableName → Tables
  | .users => { t with users := skipId t.users }
  | .rooms => { t with rooms := skipId t.rooms }
  | .messages => { t with nextMessage := t.nextMessage + 1 }

def inserted (table : TableName) (values : List (String × Value)) (now : Int) (t : Tables) :
    Option Tables :=
  if admits : t.Admits (insertQuery values table) then
    some (t.apply ⟨none, now, fun _ => 0⟩ (insertQuery values table) admits)
  else none

end Inserts

/-- One connection: what is stored, the copy of an open transaction, and the id the last
    insert gave. -/
structure DriverState [Collation] where
  stored : Tables
  working : Option Tables
  lastId : Int

/-- What one call into the driver meets: an error, which an insert may meet after its row
    was added; whether the new id and what `created_at` can be read; the clock; the order of
    tied rows. What an UPDATE or DELETE does is left open: no insert or lookup comes to one. -/
structure Conditions [Collation] where
  raises : Option DriverError
  reached : Bool
  hasId : Bool
  createdAt : Option Int
  now : Int
  rank : (table : TableName) → table.Row → Nat
  rewritten : Tables → Tables
  affected : Int

section Driver
variable [Collation]

def DriverState.seen (s : DriverState) : Tables := s.working.getD s.stored

def DriverState.write (s : DriverState) (t : Tables) : DriverState :=
  match s.working with
  | some _ => { s with working := some t }
  | none => { s with stored := t }

def DriverState.insert (s : DriverState) (table : TableName) (t : Tables) : DriverState :=
  { ({ s with stored := skipIdOf s.stored table } : DriverState).write t with
    lastId := nextIdOf s.seen table }

def Conditions.next (met : Conditions) (c : DriverCall) (s : DriverState) : DriverState :=
  match c with
  | .exchange (.insert table values) =>
    match inserted table values met.now s.seen with
    | some t => if met.raises = none ∨ met.reached = true then s.insert table t else s
    | none => s
  | .transaction => if met.raises = none then { s with working := some s.stored } else s
  | .commit => if met.raises = none then { s with stored := s.seen, working := none } else s
  | .rollback => if met.raises = none then { s with working := none } else s
  | .exchange (.update _ _ _) => s.write (met.rewritten s.seen)
  | .exchange (.delete _ _) => s.write (met.rewritten s.seen)
  | _ => s

variable [TextComparison]

def Conditions.answer (met : Conditions) (s : DriverState) :
    (c : DriverCall) → Except DriverError c.Answer := fun c =>
  match met.raises with
  | some e => .error e
  | none => match c with
    | .transaction => .ok ()
    | .prepare _ => .ok ()
    | .exchange (.select query) => .ok (selected query met.rank s.seen).head?
    | .exchange (.selectCreatedAt _ _) => .ok met.createdAt
    | .exchange (.insert table values) => match inserted table values met.now s.seen with
      | some _ => .ok ()
      | none => .error .otherCategory
    | .exchange (.update _ _ _) => .ok ()
    | .exchange (.delete _ _) => .ok ()
    | .execute query => .ok (selected query met.rank s.seen)
    | .fetch => .ok ()
    | .affectedRows => .ok met.affected
    | .lastInsertId _ => .ok (if met.hasId then some s.lastId else none)
    | .commit => .ok ()
    | .rollback => .ok ()

/-- The driver as a machine; whether the wrapper is marked does not matter to it. -/
abbrev connection : Machine RepositoryCall RepositoryCall.Answer where
  State := DriverState
  Choice := Conditions
  Fault := Empty
  Output := Empty
  answer := fun met c s => match c with
    | .getConnection => .ok ()
    | .driver c => .ok (met.answer s c)
    | .markAsInvalid => .ok ()
  next := fun met c s => match c with
    | .getConnection => s
    | .driver c => met.next c s
    | .markAsInvalid => s
  emit := fun _ _ _ => []

def returned (r : Routine α) (choices : Nat → Conditions) (s : DriverState) :
    Except DriverError α :=
  match r.run.result connection choices s with
  | .ok ends => ends
  | .error never => never.elim

def stateAfter (r : Routine α) (choices : Nat → Conditions) (s : DriverState) : DriverState :=
  r.run.final connection choices s

section Calls
variable (met : Conditions) (s : DriverState)

theorem transaction_cases :
    (∃ e, met.answer s .transaction = .error e ∧ met.next .transaction s = s) ∨
      (met.answer s .transaction = .ok () ∧
        met.next .transaction s = { s with working := some s.stored }) := by
  cases raised : met.raises with
  | some e => exact Or.inl ⟨e, by simp [Conditions.answer, raised], by simp [Conditions.next, raised]⟩
  | none => exact Or.inr ⟨by simp [Conditions.answer, raised], by simp [Conditions.next, raised]⟩

theorem insert_cases (table : TableName) (values : List (String × Value)) :
    (∃ e, met.answer s (.exchange (.insert table values)) = .error e ∧
        met.next (.exchange (.insert table values)) s = s) ∨
      ∃ t, inserted table values met.now s.seen = some t ∧
        met.next (.exchange (.insert table values)) s = s.insert table t ∧
        (met.answer s (.exchange (.insert table values)) = .ok () ∨
          ∃ e, met.answer s (.exchange (.insert table values)) = .error e) := by
  cases added : inserted table values met.now s.seen with
  | none =>
    refine Or.inl ?_
    cases raised : met.raises with
    | some e => exact ⟨e, by simp [Conditions.answer, raised], by simp [Conditions.next, added]⟩
    | none =>
      exact ⟨.otherCategory, by simp [Conditions.answer, raised, added],
        by simp [Conditions.next, added]⟩
  | some t =>
    cases raised : met.raises with
    | none =>
      exact Or.inr ⟨t, rfl, by simp [Conditions.next, added, raised],
        Or.inl (by simp [Conditions.answer, raised, added])⟩
    | some e =>
      have ends : met.answer s (.exchange (.insert table values)) = .error e := by
        simp [Conditions.answer, raised]
      by_cases there : met.reached = true
      · exact Or.inr ⟨t, rfl, by simp [Conditions.next, added, there], Or.inr ⟨e, ends⟩⟩
      · exact Or.inl ⟨e, ends, by simp [Conditions.next, added, raised, there]⟩

theorem lastInsertId_cases (table : TableName) :
    (∃ e, met.answer s (.lastInsertId table) = .error e) ∨
      met.answer s (.lastInsertId table) = .ok none ∨
        met.answer s (.lastInsertId table) = .ok (some s.lastId) := by
  cases raised : met.raises with
  | some e => exact Or.inl ⟨e, by simp [Conditions.answer, raised]⟩
  | none => cases known : met.hasId <;> simp [Conditions.answer, raised, known]

theorem commit_cases :
    (∃ e, met.answer s .commit = .error e ∧ met.next .commit s = s) ∨
      (met.answer s .commit = .ok () ∧
        met.next .commit s = { s with stored := s.seen, working := none }) := by
  cases raised : met.raises with
  | some e => exact Or.inl ⟨e, by simp [Conditions.answer, raised], by simp [Conditions.next, raised]⟩
  | none => exact Or.inr ⟨by simp [Conditions.answer, raised], by simp [Conditions.next, raised]⟩

omit [TextComparison] in
theorem stored_rollback : (met.next .rollback s).stored = s.stored := by
  simp only [Conditions.next]
  split <;> rfl

end Calls

section Steps
variable {choices : Nat → Conditions} {s : DriverState}

omit [Collation] [TextComparison] in
theorem run_driver (c : DriverCall) (rest : c.Answer → Routine α) :
    (driver c >>= rest : Routine α).run = .call (.driver c) fun answer => match answer with
      | .ok a => (rest a).run
      | .error e => .done (.error e) := by
  apply congrArg (Program.call (RepositoryCall.driver c))
  funext answer
  cases answer <;> rfl

theorem returned_driver (c : DriverCall) (rest : c.Answer → Routine α) :
    returned (driver c >>= rest) choices s = match (choices 0).answer s c with
      | .ok a => returned (rest a) (later choices) ((choices 0).next c s)
      | .error e => .error e := by
  simp only [returned, run_driver, Program.result]
  cases (choices 0).answer s c <;> rfl

theorem stateAfter_driver (c : DriverCall) (rest : c.Answer → Routine α) :
    stateAfter (driver c >>= rest) choices s = match (choices 0).answer s c with
      | .ok a => stateAfter (rest a) (later choices) ((choices 0).next c s)
      | .error _ => (choices 0).next c s := by
  simp only [stateAfter, run_driver, Program.final]
  cases (choices 0).answer s c <;> rfl

theorem result_returned (r : Routine α) :
    r.run.result connection choices s = .ok (returned r choices s) := by
  unfold returned
  cases r.run.result connection choices s with
  | ok ends => rfl
  | error never => exact never.elim

def laddered (fallback : α) : Except DriverError α → Except DriverError α
  | .ok a => .ok a
  | .error .otherCategory => .error .otherCategory
  | .error _ => .ok fallback

theorem returned_wrapped (fallback : α) (body : Routine α) :
    returned (wrapped fallback body) choices s =
      laddered fallback (returned body (later choices) s) := by
  have ends : (wrapped fallback body).run.result connection choices s =
      .ok (laddered fallback (returned body (later choices) s)) := by
    simp only [run_wrapped, Program.result, run_tryCatch, result_bind, result_returned body]
    cases returned body (later choices) s with
    | ok a => rfl
    | error e => cases e <;> rfl
  rw [result_returned] at ends
  exact Except.ok.inj ends

theorem stateAfter_wrapped (fallback : α) (body : Routine α) :
    stateAfter (wrapped fallback body) choices s = stateAfter body (later choices) s := by
  simp only [stateAfter, run_wrapped, Program.final, run_tryCatch, final_bind,
    result_returned body]
  cases returned body (later choices) s with
  | ok a => rfl
  | error e => cases e <;> rfl

theorem returned_tryCatch (body : Routine α) (fallback : α) :
    returned (tryCatch body fun _ => pure fallback) choices s =
      match returned body choices s with
      | .ok a => .ok a
      | .error _ => .ok fallback := by
  have ends : (tryCatch body (fun _ => pure fallback) : Routine α).run.result connection choices s =
      .ok (match returned body choices s with
        | .ok a => .ok a
        | .error _ => .ok fallback) := by
    simp only [run_tryCatch, result_bind, result_returned body]
    cases returned body choices s <;> rfl
  rw [result_returned] at ends
  exact Except.ok.inj ends

theorem stateAfter_tryCatch (body : Routine α) (fallback : α) :
    stateAfter (tryCatch body fun _ => pure fallback) choices s = stateAfter body choices s := by
  simp only [stateAfter, run_tryCatch, final_bind, result_returned body]
  cases returned body choices s <;> rfl

def attempt (c : DriverCall) : Routine Bool :=
  tryCatch (do
    let _ ← driver c
    pure true) (fun _ => pure false)

omit [Collation] [TextComparison] in
theorem run_attempt (c : DriverCall) (rest : Bool → Routine α) :
    (attempt c >>= rest : Routine α).run = .call (.driver c) fun answer => match answer with
      | .ok _ => (rest true).run
      | .error _ => (rest false).run := by
  apply congrArg (Program.call (RepositoryCall.driver c))
  funext answer
  cases answer <;> rfl

theorem returned_attempt (c : DriverCall) (rest : Bool → Routine α) :
    returned (attempt c >>= rest) choices s = match (choices 0).answer s c with
      | .ok _ => returned (rest true) (later choices) ((choices 0).next c s)
      | .error _ => returned (rest false) (later choices) ((choices 0).next c s) := by
  simp only [returned, run_attempt, Program.result]
  cases (choices 0).answer s c <;> rfl

theorem stateAfter_attempt (c : DriverCall) (rest : Bool → Routine α) :
    stateAfter (attempt c >>= rest) choices s = match (choices 0).answer s c with
      | .ok _ => stateAfter (rest true) (later choices) ((choices 0).next c s)
      | .error _ => stateAfter (rest false) (later choices) ((choices 0).next c s) := by
  simp only [stateAfter, run_attempt, Program.final]
  cases (choices 0).answer s c <;> rfl

theorem returned_bind (body : Routine α) (rest : α → Routine β) :
    returned (body >>= rest) choices s = match returned body choices s with
      | .ok a => returned (rest a) (body.run.choicesAfter connection choices s)
        (stateAfter body choices s)
      | .error e => .error e := by
  have ends : (body >>= rest).run.result connection choices s =
      .ok (match returned body choices s with
        | .ok a => returned (rest a) (body.run.choicesAfter connection choices s)
          (stateAfter body choices s)
        | .error e => .error e) := by
    simp only [run_bind, result_bind, result_returned body]
    cases returned body choices s with
    | ok a => exact result_returned (rest a)
    | error e => rfl
  rw [result_returned] at ends
  exact Except.ok.inj ends

theorem stateAfter_bind (body : Routine α) (rest : α → Routine β) :
    stateAfter (body >>= rest) choices s = match returned body choices s with
      | .ok a => stateAfter (rest a) (body.run.choicesAfter connection choices s)
        (stateAfter body choices s)
      | .error _ => stateAfter body choices s := by
  simp only [stateAfter, run_bind, final_bind, result_returned body]
  cases returned body choices s <;> rfl

theorem returned_rollback (rest : Unit → Routine α) :
    returned (rollback >>= rest) choices s =
      returned (rest ()) (later choices) ((choices 0).next .rollback s) := by
  simp only [returned, run_rollback, Program.result]

theorem stateAfter_rollback (rest : Unit → Routine α) :
    stateAfter (rollback >>= rest) choices s =
      stateAfter (rest ()) (later choices) ((choices 0).next .rollback s) := by
  simp only [stateAfter, run_rollback, Program.final]

theorem returned_rolledBack (body : Routine α) :
    returned (rolledBack body) choices s = returned body choices s := by
  have ends : (rolledBack body).run.result connection choices s =
      .ok (returned body choices s) := by
    simp only [rolledBack, run_tryCatch, result_bind, result_returned body]
    cases returned body choices s with
    | ok a => rfl
    | error e => simp only [caught, run_rollback, Program.result]; rfl
  rw [result_returned] at ends
  exact Except.ok.inj ends

theorem stored_rolledBack (body : Routine α) :
    (stateAfter (rolledBack body) choices s).stored = (stateAfter body choices s).stored := by
  simp only [stateAfter, rolledBack, run_tryCatch, final_bind, result_returned body]
  cases returned body choices s with
  | ok a => rfl
  | error e =>
    simp only [caught, run_rollback, Program.final]
    exact stored_rollback _ _

theorem returned_leave (leaving : Leaving α) :
    returned (leave leaving) choices s = .ok leaving.value := by
  cases leaving with
  | committed a => rfl
  | uncommitted a =>
    simp only [leave, returned_rollback]
    rfl

theorem stored_leave (leaving : Leaving α) :
    (stateAfter (leave leaving) choices s).stored = s.stored := by
  cases leaving with
  | committed a => rfl
  | uncommitted a =>
    simp only [leave, stateAfter_rollback]
    exact stored_rollback _ _

theorem returned_inTransaction (body : Routine (Leaving α)) :
    returned (inTransaction body) choices s = match (choices 0).answer s .transaction with
      | .ok _ => (returned body (later choices) ((choices 0).next .transaction s)).map Leaving.value
      | .error e => .error e := by
  unfold inTransaction
  rw [returned_driver]
  cases (choices 0).answer s .transaction with
  | error e => rfl
  | ok _ =>
    simp only [returned_bind, returned_rolledBack]
    cases returned body (later choices) ((choices 0).next .transaction s) with
    | error e => rfl
    | ok leaving => exact returned_leave leaving

theorem stored_inTransaction (body : Routine (Leaving α)) :
    (stateAfter (inTransaction body) choices s).stored =
      match (choices 0).answer s .transaction with
      | .ok _ => (stateAfter body (later choices) ((choices 0).next .transaction s)).stored
      | .error _ => ((choices 0).next .transaction s).stored := by
  unfold inTransaction
  rw [stateAfter_driver]
  cases (choices 0).answer s .transaction with
  | error e => rfl
  | ok _ =>
    simp only [stateAfter_bind, returned_rolledBack]
    cases returned body (later choices) ((choices 0).next .transaction s) with
    | error e => exact stored_rolledBack body
    | ok leaving => exact (stored_leave leaving).trans (stored_rolledBack body)

end Steps

end Driver

end TransactedTables
