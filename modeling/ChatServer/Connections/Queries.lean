import ChatServer.Connections.RoomLookups
import ChatServer.Model.Services

/-!
The queries of the services, each a function of a repository that makes its calls on a
connection. However many of these calls fail, a query ends as one statement on the tables.
-/
namespace DrivenQueries
open AtomicCalls ChatProtocol ChatState ChatCalls ChatServices ChatDatabase
  Repositories TransactedTables AtomicInserts RoomLookups

section Rules
variable [Collation] [TextComparison]

def AtEnd (good : α → DriverState → Prop) (bad : DriverState → Prop) :
    Except DriverError α → DriverState → Prop
  | .ok a, s => good a s
  | .error _, s => bad s

/-- From the choices and the connection of `pre`, the body ends in `good` or, by an error,
    in `bad`. -/
def Ends (pre : (Nat → Conditions) → DriverState → Prop) (body : Routine α)
    (good : α → DriverState → Prop) (bad : DriverState → Prop) : Prop :=
  ∀ choices s, pre choices s → AtEnd good bad (returned body choices s) (stateAfter body choices s)

variable {pre : (Nat → Conditions) → DriverState → Prop} {good : α → DriverState → Prop}
  {bad : DriverState → Prop}

theorem ends_pure {a : α} (there : ∀ choices s, pre choices s → good a s) :
    Ends pre (pure a) good bad := fun choices s start => there choices s start

theorem ends_weaken {body : Routine α} {worse : DriverState → Prop}
    (ends : Ends pre body good bad) (weaker : ∀ s, bad s → worse s) :
    Ends pre body good worse := by
  intro choices s start
  have here := ends choices s start
  cases outcome : returned body choices s with
  | error e =>
    rw [outcome] at here
    exact weaker _ here
  | ok a =>
    rw [outcome] at here
    exact here

theorem ends_driver {c : DriverCall} {rest : c.Answer → Routine α}
    (mid : c.Answer → (Nat → Conditions) → DriverState → Prop)
    (call : ∀ choices s, pre choices s →
      AtEnd (fun a => mid a (later choices)) bad ((choices 0).answer s c) ((choices 0).next c s))
    (more : ∀ a, Ends (mid a) (rest a) good bad) : Ends pre (driver c >>= rest) good bad := by
  intro choices s start
  have here := call choices s start
  rw [returned_driver, stateAfter_driver]
  cases answer : (choices 0).answer s c with
  | error e =>
    rw [answer] at here
    exact here
  | ok a =>
    rw [answer] at here
    exact more a (later choices) _ here

theorem ends_attempt {c : DriverCall} {rest : Bool → Routine α}
    (mid : Bool → (Nat → Conditions) → DriverState → Prop)
    (call : ∀ choices s, pre choices s → AtEnd (fun _ => mid true (later choices))
      (mid false (later choices)) ((choices 0).answer s c) ((choices 0).next c s))
    (more : ∀ answered, Ends (mid answered) (rest answered) good bad) :
    Ends pre (attempt c >>= rest) good bad := by
  intro choices s start
  have here := call choices s start
  rw [returned_attempt, stateAfter_attempt]
  cases answer : (choices 0).answer s c with
  | error e =>
    rw [answer] at here
    exact more false (later choices) _ here
  | ok a =>
    rw [answer] at here
    exact more true (later choices) _ here

theorem ends_tryCatch {body : Routine α} {fallback : α}
    (ends : Ends pre body good (good fallback)) :
    Ends pre (tryCatch body fun _ => pure fallback) good bad := by
  intro choices s start
  have here := ends choices s start
  rw [returned_tryCatch, stateAfter_tryCatch]
  cases outcome : returned body choices s with
  | error e =>
    rw [outcome] at here
    exact here
  | ok a =>
    rw [outcome] at here
    exact here

theorem atEnd_reads {met : Conditions} {c : DriverCall} {s : DriverState}
    {good : c.Answer → DriverState → Prop} (same : met.next c s = s) (failed : bad s)
    (answered : ∀ a, met.answer s c = .ok a → good a s) :
    AtEnd good bad (met.answer s c) (met.next c s) := by
  rw [same]
  cases answer : met.answer s c with
  | error e => exact failed
  | ok a => exact answered a answer

end Rules

section Reads
variable [Collation] [TextComparison] (t : Tables)

def Sees (s : DriverState) : Prop := s.stored = t ∧ s.seen = t

/-- A body that only reads, and gives a good value unless a call raises. -/
def Reads (good : α → Prop) (body : Routine α) : Prop :=
  Ends (fun _ => Sees t) body (fun a s => good a ∧ s.stored = t) (fun s => s.stored = t)

def Quietly (c : DriverCall) : Prop :=
  ∀ (met : Conditions) s, Sees t s → Sees t (met.next c s)

variable {t} {good : α → Prop}

theorem reads_driver {c : DriverCall} {rest : c.Answer → Routine α} (keeps : Quietly t c)
    (more : ∀ a, (∃ (met : Conditions) (s : DriverState), s.seen = t ∧ met.answer s c = .ok a) →
      Reads t good (rest a)) : Reads t good (driver c >>= rest) := by
  apply ends_driver (fun a _ s => Sees t s ∧
    ∃ (met : Conditions) (s : DriverState), s.seen = t ∧ met.answer s c = .ok a)
  · intro choices s sees
    have kept := keeps (choices 0) s sees
    cases answer : (choices 0).answer s c with
    | error e => exact kept.1
    | ok a => exact ⟨kept, choices 0, s, sees.2, answer⟩
  · intro a choices s both
    exact more a both.2 choices s both.1

theorem reads_pure {a : α} (fine : good a) : Reads t good (pure a) :=
  ends_pure fun _ _ sees => ⟨fine, sees.1⟩

omit [TextComparison] in
theorem quietly_same {c : DriverCall} (same : ∀ (met : Conditions) s, met.next c s = s) :
    Quietly t c := by
  intro met s sees
  rw [same]
  exact sees

theorem reads_fetchRows {got rows : List α} {rest : List α → Routine β} {good : β → Prop}
    (more : Reads t good (rest (got ++ rows))) :
    Reads t good (fetchRows got rows >>= rest) := by
  induction rows generalizing got with
  | nil =>
    rw [List.append_nil] at more
    simp only [fetchRows, bind_assoc, pure_bind]
    exact reads_driver (c := .fetch) (quietly_same fun _ _ => rfl) fun _ _ => more
  | cons row others ih =>
    have next : Reads t good (rest ((got ++ [row]) ++ others)) := by
      rw [List.append_assoc]
      exact more
    simp only [fetchRows, bind_assoc]
    exact reads_driver (c := .fetch) (quietly_same fun _ _ => rfl) fun _ _ => ih next

theorem reads_row {query : Select} {rest : Option query.table.Row → Routine α}
    (more : ∀ rank, Reads t good (rest (selected query rank t).head?)) :
    Reads t good (driver (.exchange (.select query)) >>= rest) := by
  apply reads_driver (quietly_same fun _ _ => rfl)
  intro found answered
  obtain ⟨met, s, sees, answer⟩ := answered
  have first : found = (selected query met.rank t).head? := by
    simp only [Conditions.answer] at answer
    split at answer
    · cases answer
    · rw [← sees]
      exact (Except.ok.inj answer).symm
  rw [first]
  exact more met.rank

end Reads

section Statements
variable [Collation]

instance (outcome : Outcome) (q : Query) (t : Tables) : Decidable (Stored outcome q t) :=
  inferInstanceAs (Decidable (outcome.raises = none ∧ t.Admits q))

/-- What a statement meets, and whether an insert that fails uses up an id all the same. -/
structure Gaps where
  outcome : Outcome
  skips : Bool

instance : Inhabited Gaps := ⟨⟨⟨none, 0, fun _ => 0⟩, false⟩⟩

def skipped (t : Tables) : Query → Tables
  | .addUser _ => skipIdOf t .users
  | .addRoom _ => skipIdOf t .rooms
  | .addMessage _ => skipIdOf t .messages
  | _ => t

/-- The tables, with gaps between the ids. -/
def gapped : Environment where
  Store := Tables
  Choice := Gaps
  answer := fun g q t => database.answer g.outcome q t
  next := fun g q t =>
    if Stored g.outcome q t then database.next g.outcome q t
    else if g.skips then skipped t q else t

/-- The caller sees this answer and these tables after one statement. -/
def OneStep (q : Query) (t : Tables) (ends : Except DriverError q.Answer) (t' : Tables) : Prop :=
  ∃ g : Gaps, catchLadder q ends = catchLadder q (gapped.answer g q t) ∧ t' = gapped.next g q t

def Failed (q : Query) (t t' : Tables) : Prop := t' = t ∨ t' = skipped t q

variable {q : Query} {t t' : Tables}

theorem oneStep_stored (outcome : Outcome) (quiet : outcome.raises = none) (admits : t.Admits q) :
    OneStep q t (.ok (t.answer outcome q)) (t.apply outcome q admits) := by
  have stored : Stored outcome q t := ⟨quiet, admits⟩
  refine ⟨⟨outcome, false⟩, ?_, ?_⟩
  · simp [gapped, database, quiet, admits]
  · simp only [gapped, stored, if_true, next_stored stored]

theorem oneStep_failed (e : DriverError) (failed : Failed q t t') :
    OneStep q t (.error e) t' := by
  have refused : ¬ Stored ⟨some e, 0, fun _ => 0⟩ q t := fun stored => by cases stored.1
  rcases failed with same | gap
  · exact ⟨⟨⟨some e, 0, fun _ => 0⟩, false⟩, rfl, by simp [gapped, refused, same]⟩
  · exact ⟨⟨⟨some e, 0, fun _ => 0⟩, true⟩, rfl, by simp [gapped, refused, gap]⟩

theorem oneStep_fallback (failed : Failed q t t') : OneStep q t (.ok q.fallback) t' := by
  obtain ⟨g, answers, same⟩ := oneStep_failed (q := q) .noData failed
  exact ⟨g, answers, same⟩

variable [TextComparison]

def Settled (q : Query) (t : Tables) : Except DriverError q.Answer → Tables → Prop
  | .ok a, t' => OneStep q t (.ok a) t'
  | .error _, t' => Failed q t t'

omit [TextComparison] in
theorem oneStep_laddered {outcome : Except DriverError q.Answer}
    (settled : Settled q t outcome t') : OneStep q t (laddered q.fallback outcome) t' := by
  cases outcome with
  | ok a => exact settled
  | error e =>
    obtain ⟨g, answers, left⟩ := oneStep_failed e settled
    refine ⟨g, ?_, left⟩
    rw [← answers]
    cases e <;> rfl

theorem oneStep_wrapped {body : Routine q.Answer} (pre : (Nat → Conditions) → DriverState → Prop)
    (same : queryRoutine q = wrapped q.fallback body)
    (ends : Ends pre body (fun a s => OneStep q t (.ok a) s.stored)
      (fun s => Failed q t s.stored))
    {choices : Nat → Conditions} {s : DriverState} (start : pre (later choices) s) :
    OneStep q t (returned (queryRoutine q) choices s)
      (stateAfter (queryRoutine q) choices s).stored := by
  have here := ends (later choices) s start
  rw [same, returned_wrapped, stateAfter_wrapped]
  apply oneStep_laddered
  cases outcome : returned body (later choices) s with
  | ok a =>
    rw [outcome] at here
    exact here
  | error e =>
    rw [outcome] at here
    exact here

/-- A transaction that cannot begin has changed nothing, and a rollback stores nothing. -/
theorem oneStep_inTransaction {body : Routine (Leaving q.Answer)}
    (pre : (Nat → Conditions) → DriverState → Prop)
    (same : queryRoutine q = wrapped q.fallback (inTransaction body))
    (ends : Ends pre body (fun leaving s => OneStep q t (.ok leaving.value) s.stored)
      (fun s => Failed q t s.stored))
    {choices : Nat → Conditions} {lastId : Int}
    (start : pre (later (later choices)) ⟨t, some t, lastId⟩) :
    OneStep q t (returned (queryRoutine q) choices ⟨t, none, lastId⟩)
      (stateAfter (queryRoutine q) choices ⟨t, none, lastId⟩).stored := by
  have here := ends (later (later choices)) ⟨t, some t, lastId⟩ start
  rw [same, returned_wrapped, stateAfter_wrapped]
  apply oneStep_laddered
  rw [returned_inTransaction, stored_inTransaction]
  rcases transaction_cases (later choices 0) ⟨t, none, lastId⟩ with
    ⟨e, fails, same⟩ | ⟨begins, opened⟩
  · rw [fails, same]
    exact Or.inl rfl
  · rw [begins, opened]
    dsimp only
    cases outcome : returned body (later (later choices)) ⟨t, some t, lastId⟩ with
    | ok leaving =>
      rw [outcome] at here
      exact here
    | error e =>
      rw [outcome] at here
      exact here

end Statements

section Lookups
variable [Collation] [TextComparison] {t : Tables}

/-- Whatever the driver does, the function behind the query is one statement. -/
def Refined (t : Tables) (q : Query) : Prop :=
  ∀ choices lastId, OneStep q t (returned (queryRoutine q) choices ⟨t, none, lastId⟩)
    (stateAfter (queryRoutine q) choices ⟨t, none, lastId⟩).stored

theorem ends_of_reads {q : Query} (value : β → q.Answer) {body : Routine β}
    (admits : t.Admits q) (untouched : ∀ outcome, t.apply outcome q admits = t)
    (reads : Reads t (fun b => ∃ rank, value b = t.answer ⟨none, 0, rank⟩ q) body) :
    Ends (fun _ => Sees t) body (fun b s => OneStep q t (.ok (value b)) s.stored)
      (fun s => Failed q t s.stored) := by
  intro choices s sees
  have here := reads choices s sees
  cases outcome : returned body choices s with
  | error e =>
    rw [outcome] at here
    exact Or.inl here
  | ok b =>
    rw [outcome] at here
    obtain ⟨⟨rank, answer⟩, stored⟩ := here
    have step := oneStep_stored ⟨none, 0, rank⟩ rfl admits
    rw [untouched] at step
    simp only [AtEnd, answer, stored]
    exact step

theorem reads_row_last {query : Select} {good : Option query.table.Row → Prop}
    (fine : ∀ rank, good (selected query rank t).head?) :
    Reads t good (driver (.exchange (.select query))) := by
  rw [← bind_pure (driver (.exchange (.select query)))]
  exact reads_row fun rank => reads_pure (fine rank)

theorem reads_findRows (query : Select) (good : List query.table.Row → Prop)
    (fine : ∀ rank, good (selected query rank t)) :
    ∃ body, findRows query = wrapped [] body ∧ Reads t good body := by
  refine ⟨_, rfl, ?_⟩
  apply reads_driver (quietly_same fun _ _ => rfl)
  intro _ _
  apply reads_driver (quietly_same fun _ _ => rfl)
  intro rows answered
  obtain ⟨met, s, sees, answer⟩ := answered
  have all : rows = selected query met.rank t := by
    simp only [Conditions.answer] at answer
    split at answer
    · cases answer
    · rw [← sees]
      exact (Except.ok.inj answer).symm
  have fetched : Reads t good (fetchRows [] rows >>= pure) := by
    apply reads_fetchRows
    rw [List.nil_append, all]
    exact reads_pure (fine met.rank)
  rwa [bind_pure] at fetched

omit [TextComparison] in
theorem selected_name {α : Type} [Row α] (table : Table α) (name : String)
    (order : α → α → Prop) [DecidableRel order] :
    ((table.rows.filter (fun row => decide (SameName (Row.name row) name))).insertionSort
      order).head? = table.find name := by
  apply head_found
  intro a here b there same_a same_b
  exact same_name_same_row here there
    (Eq.trans (of_decide_eq_true same_a) (of_decide_eq_true same_b).symm)

omit [TextComparison] in
theorem selected_id {α : Type} [Row α] (table : Table α) (id : Int)
    (order : α → α → Prop) [DecidableRel order] :
    ((table.rows.filter (fun row => decide (Row.id row = id))).insertionSort order).head? =
      table.findId id := by
  apply head_found
  intro a here b there same_a same_b
  exact same_id_same_row here there
    (Eq.trans (of_decide_eq_true same_a) (of_decide_eq_true same_b).symm)

theorem refined_findByUsername (username : String) : Refined t (.findByUsername username) := by
  intro choices lastId
  apply oneStep_wrapped (q := .findByUsername username) (fun _ => Sees t) rfl
  · apply ends_of_reads (q := .findByUsername username) id trivial (fun _ => rfl)
    apply reads_row_last
    intro rank
    exact ⟨fun _ => 0,
      selected_name t.users username (Before .unordered .users (rank .users))⟩
  · exact ⟨rfl, rfl⟩

theorem refined_findByUserId (id : Int) : Refined t (.findByUserId id) := by
  intro choices lastId
  apply oneStep_inTransaction (q := .findByUserId id) (fun _ => Sees t) rfl
  · apply ends_of_reads (q := .findByUserId id) Leaving.value trivial (fun _ => rfl)
    apply reads_row
    intro rank
    apply reads_pure
    exact ⟨fun _ => 0, selected_id t.users id (Before .unordered .users (rank .users))⟩
  · exact ⟨rfl, rfl⟩

theorem refined_findByRoomName (name : String) : Refined t (.findByRoomName name) := by
  intro choices lastId
  apply oneStep_inTransaction (q := .findByRoomName name) (fun _ => Sees t) rfl
  · apply ends_of_reads (q := .findByRoomName name) Leaving.value trivial (fun _ => rfl)
    apply reads_driver (quietly_same fun _ _ => rfl)
    intro _ _
    apply reads_row
    intro rank
    apply reads_pure
    exact ⟨fun _ => 0,
      selected_name t.rooms name (Before .unordered .rooms (rank .rooms))⟩
  · exact ⟨rfl, rfl⟩

theorem refined_findLatestByRoomId (roomId limit : Int) :
    Refined t (.findLatestByRoomId roomId limit) := by
  obtain ⟨body, same, reads⟩ := reads_findRows (t := t)
    ⟨.messages, .equals "room_id" (.integer roomId), .descending "created_at", some limit⟩
    (fun a => ∃ rank, a = t.answer ⟨none, 0, rank⟩ (.findLatestByRoomId roomId limit))
    (fun rank => ⟨rank .messages, rfl⟩)
  intro choices lastId
  apply oneStep_wrapped (q := .findLatestByRoomId roomId limit) (fun _ => Sees t) same
  · exact ends_of_reads (q := .findLatestByRoomId roomId limit) id trivial (fun _ => rfl) reads
  · exact ⟨rfl, rfl⟩

end Lookups

section Inserts
variable [Collation] [TextComparison] {table : TableName} {values : List (String × Value)}
  {t : Tables}

def Left (t : Tables) (table : TableName) (s : DriverState) : Prop :=
  s.stored = t ∨ s.stored = skipIdOf t table

def Holds (t : Tables) (table : TableName) (values : List (String × Value)) (s : DriverState) :
    Prop :=
  ∃ now t', inserted table values now t = some t' ∧ s = holding t table t'

omit [TextComparison] in
theorem left_of_holds {s : DriverState} (holds : Holds t table values s) : Left t table s := by
  obtain ⟨now, t', _, same⟩ := holds
  rw [same]
  exact Or.inr rfl

theorem ends_insertThen_of {rest : Int → Routine (Leaving (Option Int))}
    {good : Leaving (Option Int) → DriverState → Prop}
    (tail : Ends (fun _ => Holds t table values) (rest (nextIdOf t table)) good (Left t table))
    (unknown : ∀ s, Left t table s → good (.uncommitted none) s) :
    Ends (fun _ s => s.stored = t ∧ s.working = some t) (insertThen table values rest) good
      (Left t table) := by
  apply ends_driver (fun _ _ => Holds t table values)
  · intro choices s start
    have seen : s.seen = t := by simp [DriverState.seen, start.2]
    rcases insert_cases (choices 0) s table values with
      ⟨e, fails, same⟩ | ⟨t', added, written, ends⟩
    · rw [fails, same]
      exact Or.inl start.1
    · have here : s.insert table t' = holding t table t' := by
        simp [DriverState.insert, DriverState.write, holding, start.1, start.2, seen]
      have holds : Holds t table values (s.insert table t') := ⟨_, t', seen ▸ added, here⟩
      rw [written]
      rcases ends with runs | ⟨e, fails⟩
      · rw [runs]
        exact holds
      · rw [fails]
        exact left_of_holds holds
  intro _
  apply ends_driver (fun found _ s => Holds t table values s ∧
    (found = none ∨ found = some (nextIdOf t table)))
  · intro choices s holds
    apply atEnd_reads rfl (left_of_holds holds)
    intro found answer
    obtain ⟨now, t', added, same⟩ := holds
    refine ⟨⟨now, t', added, same⟩, ?_⟩
    rcases lastInsertId_cases (choices 0) s table with ⟨e, fails⟩ | unknown | known
    · rw [answer] at fails
      cases fails
    · rw [answer] at unknown
      exact Or.inl (Except.ok.inj unknown)
    · rw [answer, same] at known
      exact Or.inr (Except.ok.inj known)
  intro found choices s there
  obtain ⟨holds, known⟩ := there
  cases found with
  | none => exact unknown s (left_of_holds holds)
  | some newId =>
    rcases known with nothing | same
    · cases nothing
    · cases same
      exact tail choices s holds

/-- A commit stores the row; one that raises has stored nothing. -/
theorem ends_commit {good : Leaving (Option Int) → DriverState → Prop}
    (stored : ∀ now t' lastId, inserted table values now t = some t' →
      good (.committed (some (nextIdOf t table))) ⟨t', none, lastId⟩) :
    Ends (fun _ => Holds t table values)
      (do driver .commit; pure (Leaving.committed (some (nextIdOf t table)))) good (Left t table) := by
  apply ends_driver (fun _ _ => good (.committed (some (nextIdOf t table))))
  · intro choices s holds
    rcases commit_cases (choices 0) s with ⟨e, fails, same⟩ | ⟨commits, after⟩
    · rw [fails, same]
      exact left_of_holds holds
    · obtain ⟨now, t', added, same⟩ := holds
      subst same
      rw [commits, after]
      exact stored now t' _ added
  · intro _
    exact ends_pure fun _ _ there => there

theorem ends_readThenCommit_of {good : Leaving (Option Int) → DriverState → Prop}
    (stored : ∀ now t' lastId, inserted table values now t = some t' →
      good (.committed (some (nextIdOf t table))) ⟨t', none, lastId⟩)
    (unknown : ∀ s, Left t table s → good (.uncommitted none) s) :
    Ends (fun _ => Holds t table values) (readThenCommit table (nextIdOf t table)) good
      (Left t table) := by
  apply ends_attempt (fun _ _ => Holds t table values)
  · intro choices s holds
    exact atEnd_reads rfl holds fun _ _ => holds
  intro answered
  cases answered with
  | true => exact ends_commit stored
  | false => exact ends_pure fun _ s holds => unknown s (left_of_holds holds)

theorem ends_readAndCommit_of {good : Leaving (Option Int) → DriverState → Prop}
    (stored : ∀ now t' lastId, inserted .users values now t = some t' →
      good (.committed (some (nextIdOf t .users))) ⟨t', none, lastId⟩)
    (unknown : ∀ s, Left t .users s → good (.uncommitted none) s) :
    Ends (fun _ => Holds t .users values) (readAndCommit (nextIdOf t .users)) good
      (Left t .users) := by
  have body : Ends (fun _ => Holds t .users values) (do
      let _ ← driver (.exchange (.selectCreatedAt .users (nextIdOf t .users)))
      driver .commit
      pure (Leaving.committed (some (nextIdOf t .users)))) good (Left t .users) := by
    apply ends_driver (fun _ _ => Holds t .users values)
    · intro choices s holds
      exact atEnd_reads rfl (left_of_holds holds) fun _ _ => holds
    · exact fun _ => ends_commit stored
  exact ends_tryCatch (ends_weaken body unknown)

section Statements
variable {q : Query}

omit [TextComparison] in
theorem inserted_oneStep {q : Query} {ends : Except DriverError q.Answer}
    (asks : ∀ now admits, ∃ admits', t.apply ⟨none, now, fun _ => 0⟩ (insertQuery values table)
      admits = t.apply ⟨none, now, fun _ => 0⟩ q admits')
    (answers : ∀ now, ends = .ok (t.answer ⟨none, now, fun _ => 0⟩ q)) {now : Int} {t' : Tables}
    (added : inserted table values now t = some t') : OneStep q t ends t' := by
  obtain ⟨admits, made⟩ := inserted_some added
  obtain ⟨admits', agree⟩ := asks now admits
  rw [made, agree, answers now]
  exact oneStep_stored _ rfl admits'

theorem refined_addUser (user : User) : Refined t (.addUser user) := by
  intro choices lastId
  apply oneStep_inTransaction (q := .addUser user) (fun _ s => s.stored = t ∧ s.working = some t)
    (addUser_eq user)
  · apply ends_insertThen_of
    · apply ends_readAndCommit_of
      · intro now t' lastId added
        refine inserted_oneStep (q := .addUser user) ?_ (fun _ => rfl) added
        exact fun _ admits => ⟨admits, rfl⟩
      · exact fun s left => oneStep_fallback (q := .addUser user) left
    · exact fun s left => oneStep_fallback (q := .addUser user) left
  · exact ⟨rfl, rfl⟩

theorem refined_addRoom (room : Room) : Refined t (.addRoom room) := by
  intro choices lastId
  apply oneStep_inTransaction (q := .addRoom room) (fun _ s => s.stored = t ∧ s.working = some t)
    (insertRow_eq .rooms _)
  · apply ends_insertThen_of
    · apply ends_readThenCommit_of
      · intro now t' lastId added
        refine inserted_oneStep (q := .addRoom room) ?_ (fun _ => rfl) added
        exact fun _ admits => ⟨admits, rfl⟩
      · exact fun s left => oneStep_fallback (q := .addRoom room) left
    · exact fun s left => oneStep_fallback (q := .addRoom room) left
  · exact ⟨rfl, rfl⟩

theorem refined_addMessage (message : Message) : Refined t (.addMessage message) := by
  intro choices lastId
  apply oneStep_inTransaction (q := .addMessage message) (fun _ s => s.stored = t ∧ s.working = some t)
    (insertRow_eq .messages _)
  · apply ends_insertThen_of
    · apply ends_readThenCommit_of
      · intro now t' lastId added
        refine inserted_oneStep (q := .addMessage message) ?_ (fun _ => rfl) added
        exact fun _ admits => ⟨admits, rfl⟩
      · exact fun s left => oneStep_fallback (q := .addMessage message) left
    · exact fun s left => oneStep_fallback (q := .addMessage message) left
  · exact ⟨rfl, rfl⟩

end Statements

end Inserts

section Update
variable [Collation] {user : User} {t : Tables}

/-- What the server makes of `UPDATE users`: a statement that does not raise has written the
    three columns, and the rows that are counted are those with the id. -/
structure Updates (user : User) (t : Tables) (exchanged counted : Conditions) : Prop where
  written : exchanged.raises = none → ∃ admits,
    exchanged.rewritten t = t.apply ⟨none, 0, fun _ => 0⟩ (.updateUser user) admits
  found : 0 < counted.affected ↔ (t.users.findId user.id).isSome = true

def Rewritten (user : User) (t : Tables) (s : DriverState) : Prop :=
  s.stored = t ∧ ∃ admits,
    s.working = some (t.apply ⟨none, 0, fun _ => 0⟩ (.updateUser user) admits)

variable [TextComparison]

theorem ends_update (values : List (String × Value)) :
    Ends (fun choices s => s.stored = t ∧ s.working = some t ∧
        Updates user t (choices 1) (choices 2)) (do
      driver (.prepare (.update .users values user.id))
      driver (.exchange (.update .users values user.id))
      if 0 < (← driver .affectedRows) then
        driver .commit
        pure (Leaving.committed true)
      else
        pure (Leaving.uncommitted false))
      (fun leaving s => OneStep (.updateUser user) t (.ok leaving.value) s.stored)
      (fun s => Failed (.updateUser user) t s.stored) := by
  apply ends_driver (fun _ choices s => s.stored = t ∧ s.working = some t ∧
    Updates user t (choices 0) (choices 1))
  · intro choices s there
    exact atEnd_reads rfl (Or.inl there.1) fun _ _ => there
  intro _
  apply ends_driver (fun _ choices s => Rewritten user t s ∧
    (0 < (choices 0).affected ↔ (t.users.findId user.id).isSome = true))
  · intro choices s there
    obtain ⟨stored, working, updates⟩ := there
    have next : (choices 0).next (.exchange (.update .users values user.id)) s =
        { s with working := some ((choices 0).rewritten t) } := by
      simp [Conditions.next, DriverState.write, DriverState.seen, working]
    rw [next]
    cases raised : (choices 0).raises with
    | some e =>
      have answer : (choices 0).answer s (.exchange (.update .users values user.id)) =
          .error e := by simp [Conditions.answer, raised]
      rw [answer]
      exact Or.inl stored
    | none =>
      have answer : (choices 0).answer s (.exchange (.update .users values user.id)) =
          .ok () := by simp [Conditions.answer, raised]
      obtain ⟨admits, written⟩ := updates.written raised
      rw [answer]
      exact ⟨⟨stored, admits, congrArg some written⟩, updates.found⟩
  intro _
  apply ends_driver (fun rows _ s => Rewritten user t s ∧
    (0 < rows ↔ (t.users.findId user.id).isSome = true))
  · intro choices s there
    apply atEnd_reads rfl (Or.inl there.1.1)
    intro rows answer
    have counted : rows = (choices 0).affected := by
      simp only [Conditions.answer] at answer
      split at answer
      · cases answer
      · exact (Except.ok.inj answer).symm
    rw [counted]
    exact there
  intro rows
  by_cases found : 0 < rows
  · simp only [found, if_true]
    apply ends_driver (fun _ _ s => OneStep (.updateUser user) t (.ok true) s.stored)
    · intro choices s there
      obtain ⟨⟨stored, admits, working⟩, known⟩ := there
      rcases commit_cases (choices 0) s with ⟨e, fails, same⟩ | ⟨commits, after⟩
      · rw [fails, same]
        exact Or.inl stored
      · have step := oneStep_stored (q := .updateUser user) ⟨none, 0, fun _ => 0⟩ rfl
          admits
        have answer : t.answer ⟨none, 0, fun _ => 0⟩ (.updateUser user) = true :=
          known.mp trivial
        have seen : s.seen = t.apply ⟨none, 0, fun _ => 0⟩ (.updateUser user) admits := by
          simp [DriverState.seen, working]
        rw [commits, after]
        simp only [AtEnd, seen]
        rw [answer] at step
        exact step
    · exact fun _ => ends_pure fun _ _ there => there
  · simp only [found, if_false]
    apply ends_pure
    intro choices s there
    exact oneStep_fallback (q := .updateUser user) (Or.inl there.1.1)

end Update

section Driven
variable [Collation] [TextComparison]

structure QueryChoice where
  met : Query → Tables → Nat → Conditions
  lastId : Int
  updates : ∀ user t, Updates user t (met (.updateUser user) t 3) (met (.updateUser user) t 4)

section Obliging

/-- A driver that never fails, and raises for an UPDATE only what the schema makes it raise. -/
def obligingMet (q : Query) (t : Tables) : Conditions where
  raises := if t.Admits q then none else some .otherCategory
  reached := true
  hasId := true
  createdAt := some 0
  now := 0
  rank := fun _ _ => 0
  rewritten := fun t' => if admits : t'.Admits q then t'.apply ⟨none, 0, fun _ => 0⟩ q admits else t'
  affected := match q with
    | .updateUser user => if (t.users.findId user.id).isSome then 1 else 0
    | _ => 0

omit [TextComparison] in
theorem obliging_updates (user : User) (t : Tables) :
    Updates user t (obligingMet (.updateUser user) t) (obligingMet (.updateUser user) t) := by
  constructor
  · intro quiet
    have admits : t.Admits (.updateUser user) := by
      by_contra refused
      simp [obligingMet, refused] at quiet
    refine ⟨admits, ?_⟩
    simp only [obligingMet, admits, dif_pos]
  · simp only [obligingMet]
    cases (t.users.findId user.id).isSome <;> simp

def obliging : QueryChoice where
  met := fun q t _ => obligingMet q t
  lastId := 0
  updates := obliging_updates

end Obliging

/-- The repositories on their connections: every query makes its calls into the driver. -/
def driven : Environment where
  Store := Tables
  Choice := QueryChoice
  answer := fun x q t => returned (queryRoutine q) (x.met q t) ⟨t, none, x.lastId⟩
  next := fun x q t => (stateAfter (queryRoutine q) (x.met q t) ⟨t, none, x.lastId⟩).stored

/-- Every query ends as one statement on the tables, whatever fails on the way. -/
theorem driven_oneStep (x : QueryChoice) (q : Query) (t : Tables) :
    OneStep q t (driven.answer x q t) (driven.next x q t) := by
  cases q with
  | findByUsername username => exact refined_findByUsername username _ _
  | findByUserId id => exact refined_findByUserId id _ _
  | addUser user => exact refined_addUser user _ _
  | updateUser user =>
    exact oneStep_inTransaction (q := .updateUser user) _ rfl
      (ends_update (MySQLUserRepository.columns user)) ⟨rfl, rfl, x.updates user t⟩
  | findByRoomName name => exact refined_findByRoomName name _ _
  | addRoom room => exact refined_addRoom room _ _
  | addMessage message => exact refined_addMessage message _ _
  | findLatestByRoomId roomId limit => exact refined_findLatestByRoomId roomId limit _ _

end Driven
end DrivenQueries
