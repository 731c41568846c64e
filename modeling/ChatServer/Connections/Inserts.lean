import ChatServer.Connections.Driver

/-!
The three inserts, from the first call into the driver to the end of the transaction.
-/
namespace AtomicInserts
open AtomicCalls ChatProtocol ChatCalls ChatDatabase Repositories TransactedTables

variable [Collation]

def SameRows (t t' : Tables) : Prop :=
  t'.users.rows = t.users.rows ∧ t'.rooms.rows = t.rooms.rows ∧ t'.messages = t.messages

theorem sameRows_skipId (t : Tables) (table : TableName) : SameRows t (skipIdOf t table) := by
  cases table <;> exact ⟨rfl, rfl, rfl⟩

/-- The row is stored, under the id that is returned. -/
def RowStored (table : TableName) (values : List (String × Value)) (t : Tables)
    (ends : Except DriverError (Option Int)) (t' : Tables) : Prop :=
  ends = .ok (some (nextIdOf t table)) ∧ ∃ now, inserted table values now t = some t'

def NothingStored (t : Tables) (ends : Except DriverError (Option Int)) (t' : Tables) : Prop :=
  (∀ id, ends ≠ .ok (some id)) ∧ SameRows t t'

def AllOrNothing (table : TableName) (values : List (String × Value)) (t : Tables)
    (ends : Except DriverError (Option Int)) (t' : Tables) : Prop :=
  RowStored table values t ends t' ∨ NothingStored t ends t'

def insertThen (table : TableName) (values : List (String × Value))
    (rest : Int → Routine (Leaving (Option Int))) : Routine (Leaving (Option Int)) := do
  driver (.exchange (.insert table values))
  match ← driver (.lastInsertId table) with
  | none => pure (.uncommitted none)
  | some newId => rest newId

def readThenCommit (table : TableName) (newId : Int) : Routine (Leaving (Option Int)) := do
  if ← attempt (.exchange (.selectCreatedAt table newId)) then
    driver .commit
    pure (.committed (some newId))
  else
    pure (.uncommitted none)

def readAndCommit (newId : Int) : Routine (Leaving (Option Int)) :=
  tryCatch (do
    let _ ← driver (.exchange (.selectCreatedAt .users newId))
    driver .commit
    pure (.committed (some newId))) (fun _ => pure (.uncommitted none))

omit [Collation] in
theorem insertRow_eq (table : TableName) (values : List (String × Value)) :
    insertRow table values =
      wrapped none (inTransaction (insertThen table values (readThenCommit table))) := rfl

omit [Collation] in
theorem addUser_eq (user : User) :
    MySQLUserRepository.addUser user = wrapped none (inTransaction
      (insertThen .users (MySQLUserRepository.columns user) readAndCommit)) := by
  apply congrArg fun body => wrapped none (inTransaction body)
  apply congrArg (driver (.exchange (.insert .users (MySQLUserRepository.columns user))) >>= ·)
  funext _
  apply congrArg (driver (.lastInsertId .users) >>= ·)
  funext found
  cases found <;> rfl

section Runs
variable [TextComparison] {table : TableName} {values : List (String × Value)} {t : Tables}

def holding (t : Tables) (table : TableName) (t' : Tables) : DriverState :=
  ⟨skipIdOf t table, some t', nextIdOf t table⟩

def BodyEnds (table : TableName) (values : List (String × Value)) (t : Tables)
    (body : Routine (Leaving (Option Int))) (choices : Nat → Conditions) (s : DriverState) : Prop :=
  AllOrNothing table values t ((returned body choices s).map Leaving.value)
    (stateAfter body choices s).stored

omit [TextComparison] in
theorem nothing_of_holding {t' : Tables} {ends : Except DriverError (Option Int)}
    (silent : ∀ id, ends ≠ .ok (some id)) :
    AllOrNothing table values t ends (holding t table t').stored :=
  Or.inr ⟨silent, sameRows_skipId t table⟩

theorem ends_insertThen {rest : Int → Routine (Leaving (Option Int))}
    (tail : ∀ choices now t', inserted table values now t = some t' →
      BodyEnds table values t (rest (nextIdOf t table)) choices (holding t table t'))
    (choices : Nat → Conditions) (lastId : Int) :
    BodyEnds table values t (insertThen table values rest) choices ⟨t, some t, lastId⟩ := by
  unfold BodyEnds insertThen
  rw [returned_driver, stateAfter_driver]
  rcases insert_cases (choices 0) ⟨t, some t, lastId⟩ table values with
    ⟨e, fails, same⟩ | ⟨t', added, written, runs | ⟨e, fails⟩⟩
  · rw [fails, same]
    exact Or.inr ⟨nofun, rfl, rfl, rfl⟩
  · rw [runs, written]
    dsimp only
    rw [returned_driver, stateAfter_driver]
    have here : DriverState.insert ⟨t, some t, lastId⟩ table t' = holding t table t' := rfl
    rw [here]
    rcases lastInsertId_cases (later choices 0) (holding t table t') table with
      ⟨e, fails⟩ | unknown | known
    · rw [fails]
      exact nothing_of_holding nofun
    · rw [unknown]
      exact nothing_of_holding nofun
    · rw [known]
      exact tail _ _ t' added
  · rw [fails, written]
    exact nothing_of_holding nofun

theorem ends_inTransaction {body : Routine (Leaving (Option Int))}
    (ends : ∀ choices lastId, BodyEnds table values t body choices ⟨t, some t, lastId⟩)
    (choices : Nat → Conditions) (lastId : Int) :
    AllOrNothing table values t (returned (inTransaction body) choices ⟨t, none, lastId⟩)
      (stateAfter (inTransaction body) choices ⟨t, none, lastId⟩).stored := by
  rw [returned_inTransaction, stored_inTransaction]
  rcases transaction_cases (choices 0) ⟨t, none, lastId⟩ with ⟨e, fails, same⟩ | ⟨begins, opened⟩
  · rw [fails, same]
    exact Or.inr ⟨nofun, rfl, rfl, rfl⟩
  · rw [begins, opened]
    exact ends (later choices) lastId

section Tails
variable {t' : Tables} (choices : Nat → Conditions) (newId : Int)

theorem commit_cases_holding :
    (∃ e, returned (do driver .commit; pure (Leaving.committed (some newId))) choices
          (holding t table t') = .error e ∧
        stateAfter (do driver .commit; pure (Leaving.committed (some newId))) choices
          (holding t table t') = holding t table t') ∨
      (returned (do driver .commit; pure (Leaving.committed (some newId))) choices
          (holding t table t') = .ok (.committed (some newId)) ∧
        (stateAfter (do driver .commit; pure (Leaving.committed (some newId))) choices
          (holding t table t')).stored = t') := by
  rw [returned_driver, stateAfter_driver]
  rcases commit_cases (choices 0) (holding t table t') with ⟨e, fails, same⟩ | ⟨commits, stored⟩
  · rw [fails, same]
    exact Or.inl ⟨e, rfl, rfl⟩
  · rw [commits, stored]
    exact Or.inr ⟨rfl, rfl⟩

theorem ends_readThenCommit (now : Int) (added : inserted table values now t = some t') :
    BodyEnds table values t (readThenCommit table (nextIdOf t table)) choices
      (holding t table t') := by
  unfold BodyEnds readThenCommit
  rw [returned_attempt, stateAfter_attempt]
  have same : (choices 0).next (.exchange (.selectCreatedAt table (nextIdOf t table)))
      (holding t table t') = holding t table t' := rfl
  cases (choices 0).answer (holding t table t')
    (.exchange (.selectCreatedAt table (nextIdOf t table))) with
  | error e => exact nothing_of_holding nofun
  | ok a =>
    dsimp only
    rw [same]
    simp only [if_true]
    rcases commit_cases_holding (later choices) (nextIdOf t table) with
      ⟨e, fails, same⟩ | ⟨commits, stored⟩
    · rw [fails, same]
      exact nothing_of_holding nofun
    · rw [commits, stored]
      exact Or.inl ⟨rfl, now, added⟩

theorem ends_readAndCommit (now : Int) (added : inserted .users values now t = some t') :
    BodyEnds .users values t (readAndCommit (nextIdOf t .users)) choices
      (holding t .users t') := by
  unfold BodyEnds readAndCommit
  rw [returned_tryCatch, stateAfter_tryCatch, returned_driver, stateAfter_driver]
  cases (choices 0).answer (holding t .users t')
    (.exchange (.selectCreatedAt .users (nextIdOf t .users))) with
  | error e => exact nothing_of_holding nofun
  | ok a =>
    have same : (choices 0).next (.exchange (.selectCreatedAt .users (nextIdOf t .users)))
        (holding t .users t') = holding t .users t' := rfl
    dsimp only
    rw [same]
    rcases commit_cases_holding (later choices) (nextIdOf t .users) with
      ⟨e, fails, same⟩ | ⟨commits, stored⟩
    · rw [fails, same]
      exact nothing_of_holding nofun
    · rw [commits, stored]
      exact Or.inl ⟨rfl, now, added⟩

end Tails

/-- The catch blocks hand a stored row on and turn no error into one. -/
theorem ends_wrapped {body : Routine (Option Int)} {choices : Nat → Conditions} {s : DriverState}
    (ends : AllOrNothing table values t (returned body (later choices) s)
      (stateAfter body (later choices) s).stored) :
    AllOrNothing table values t (returned (wrapped none body) choices s)
      (stateAfter (wrapped none body) choices s).stored := by
  rw [returned_wrapped, stateAfter_wrapped]
  rcases ends with ⟨success, stored⟩ | ⟨silent, same⟩
  · rw [success]
    exact Or.inl ⟨rfl, stored⟩
  · refine Or.inr ⟨?_, same⟩
    intro id returns
    cases outcome : returned body (later choices) s with
    | ok a =>
      rw [outcome] at returns
      exact silent id (outcome.trans returns)
    | error e =>
      rw [outcome] at returns
      cases e <;> cases returns

end Runs

inductive Insert where
  | addUser (user : User)
  | addRoom (room : Room)
  | addMessage (msg : Message)

def Insert.routine : Insert → Routine (Option Int)
  | .addUser user => MySQLUserRepository.addUser user
  | .addRoom room => MySQLRoomRepository.addRoom room
  | .addMessage msg => MySQLMessageRepository.addMessage msg

/-- The rows are those of before and the new one, which has the id. -/
def Insert.Committed (t : Tables) (id : Int) (t' : Tables) : Insert → Prop
  | .addUser user => t'.users.rows = t.users.rows ++ [{ user with id := id }] ∧
    t'.rooms.rows = t.rooms.rows ∧ t'.messages = t.messages
  | .addRoom room => t'.users.rows = t.users.rows ∧
    t'.rooms.rows = t.rooms.rows ++ [{ room with id := id }] ∧ t'.messages = t.messages
  | .addMessage msg => t'.users.rows = t.users.rows ∧ t'.rooms.rows = t.rooms.rows ∧
    ∃ now, t'.messages = t.messages ++ [{ msg with id := id, createdAt := now }]

theorem committed_unique {insert : Insert} {t t' : Tables} {id other : Int}
    (first : insert.Committed t id t') (second : insert.Committed t other t') : id = other := by
  cases insert with
  | addUser user =>
    have same := List.append_cancel_left (first.1.symm.trans second.1)
    exact congrArg User.id (List.head_eq_of_cons_eq same)
  | addRoom room =>
    have same := List.append_cancel_left (first.2.1.symm.trans second.2.1)
    exact congrArg Room.id (List.head_eq_of_cons_eq same)
  | addMessage msg =>
    obtain ⟨_, _, now, there⟩ := first
    obtain ⟨_, _, later, also⟩ := second
    have same := List.append_cancel_left (there.symm.trans also)
    exact congrArg Message.id (List.head_eq_of_cons_eq same)

theorem not_committed_same {insert : Insert} {t t' : Tables} {id : Int} (same : SameRows t t') :
    ¬ insert.Committed t id t' := by
  obtain ⟨users, rooms, messages⟩ := same
  intro committed
  cases insert with
  | addUser user =>
    have longer := committed.1
    rw [users] at longer
    exact List.cons_ne_nil _ _ (List.self_eq_append_right.mp longer)
  | addRoom room =>
    have longer := committed.2.1
    rw [rooms] at longer
    exact List.cons_ne_nil _ _ (List.self_eq_append_right.mp longer)
  | addMessage msg =>
    obtain ⟨_, _, now, longer⟩ := committed
    rw [messages] at longer
    exact List.cons_ne_nil _ _ (List.self_eq_append_right.mp longer)

section Ends
variable [TextComparison] {t : Tables} {ends : Except DriverError (Option Int)} {t' : Tables}

omit [TextComparison] in
theorem committed_of_stored {table : TableName} {values : List (String × Value)} {insert : Insert}
    (asks : ∀ now t', inserted table values now t = some t' →
      insert.Committed t (nextIdOf t table) t')
    (ended : AllOrNothing table values t ends t') :
    (∃ id, ends = .ok (some id) ∧ insert.Committed t id t') ∨ NothingStored t ends t' := by
  rcases ended with ⟨success, now, stored⟩ | nothing
  · exact Or.inl ⟨_, success, asks now t' stored⟩
  · exact Or.inr nothing

omit [TextComparison] in
theorem inserted_some {table : TableName} {values : List (String × Value)} {now : Int}
    (stored : inserted table values now t = some t') :
    ∃ admits, t' = t.apply ⟨none, now, fun _ => 0⟩ (insertQuery values table) admits := by
  unfold inserted at stored
  split at stored
  · rename_i admits
    cases stored
    exact ⟨admits, rfl⟩
  · cases stored

theorem insertRow_ends (table : TableName) (values : List (String × Value))
    (choices : Nat → Conditions) (t : Tables) (lastId : Int) :
    AllOrNothing table values t (returned (insertRow table values) choices ⟨t, none, lastId⟩)
      (stateAfter (insertRow table values) choices ⟨t, none, lastId⟩).stored := by
  rw [insertRow_eq]
  apply ends_wrapped
  apply ends_inTransaction
  exact ends_insertThen fun choices now t' added => ends_readThenCommit choices now added

theorem addUser_ends (user : User) (choices : Nat → Conditions) (t : Tables) (lastId : Int) :
    AllOrNothing .users (MySQLUserRepository.columns user) t
      (returned (MySQLUserRepository.addUser user) choices ⟨t, none, lastId⟩)
      (stateAfter (MySQLUserRepository.addUser user) choices ⟨t, none, lastId⟩).stored := by
  rw [addUser_eq]
  apply ends_wrapped
  apply ends_inTransaction
  exact ends_insertThen fun choices now t' added => ends_readAndCommit choices now added

theorem insert_ends (insert : Insert) (choices : Nat → Conditions) (t : Tables) (lastId : Int) :
    let ends := returned insert.routine choices ⟨t, none, lastId⟩
    let t' := (stateAfter insert.routine choices ⟨t, none, lastId⟩).stored
    (∃ id, ends = .ok (some id) ∧ insert.Committed t id t') ∨ NothingStored t ends t' := by
  cases insert with
  | addUser user =>
    apply committed_of_stored _ (addUser_ends user choices t lastId)
    intro now t' stored
    obtain ⟨admits, same⟩ := inserted_some stored
    subst same
    exact ⟨rfl, rfl, rfl⟩
  | addRoom room =>
    apply committed_of_stored _ (insertRow_ends .rooms _ choices t lastId)
    intro now t' stored
    obtain ⟨admits, same⟩ := inserted_some stored
    subst same
    exact ⟨rfl, rfl, rfl⟩
  | addMessage msg =>
    apply committed_of_stored _ (insertRow_ends .messages _ choices t lastId)
    intro now t' stored
    obtain ⟨admits, same⟩ := inserted_some stored
    subst same
    exact ⟨rfl, rfl, now, rfl⟩

def Insert.query : Insert → Query
  | .addUser user => .addUser user
  | .addRoom room => .addRoom room
  | .addMessage msg => .addMessage msg

omit [TextComparison] in
theorem outcome_of_ends {table : TableName} {values : List (String × Value)} {query : Query}
    (asks : ∀ now admits, ∃ admits', t.apply ⟨none, now, fun _ => 0⟩ (insertQuery values table)
      admits = t.apply ⟨none, now, fun _ => 0⟩ query admits')
    (ended : AllOrNothing table values t ends t') :
    ∃ outcome, ((∃ id, ends = .ok (some id)) ↔ Stored outcome query t) ∧
      SameRows (database.next outcome query t) t' := by
  rcases ended with ⟨success, now, added⟩ | ⟨silent, same⟩
  · obtain ⟨admits, made⟩ := inserted_some added
    obtain ⟨admits', agree⟩ := asks now admits
    have stored : Stored ⟨none, now, fun _ => 0⟩ query t := ⟨rfl, admits'⟩
    refine ⟨_, iff_of_true ⟨_, success⟩ stored, ?_⟩
    rw [next_stored stored, made, agree]
    exact ⟨rfl, rfl, rfl⟩
  · refine ⟨⟨some .otherCategory, 0, fun _ => 0⟩, iff_of_false ?_ ?_, same⟩
    · intro success
      obtain ⟨id, success⟩ := success
      exact silent id success
    · intro stored
      cases stored.1

/-- An insert on a connection is one statement of the tables that everything else is
    proved about: stored or not, with the same rows, ids that were skipped apart. -/
theorem insert_refines_database (insert : Insert) (choices : Nat → Conditions) (t : Tables)
    (lastId : Int) :
    ∃ outcome, ((∃ id, returned insert.routine choices ⟨t, none, lastId⟩ = .ok (some id)) ↔
        Stored outcome insert.query t) ∧
      SameRows (database.next outcome insert.query t)
        (stateAfter insert.routine choices ⟨t, none, lastId⟩).stored := by
  cases insert with
  | addUser user =>
    apply outcome_of_ends _ (addUser_ends user choices t lastId)
    intro now admits
    exact ⟨admits, rfl⟩
  | addRoom room =>
    apply outcome_of_ends _ (insertRow_ends .rooms _ choices t lastId)
    intro now admits
    exact ⟨admits, rfl⟩
  | addMessage msg =>
    apply outcome_of_ends _ (insertRow_ends .messages _ choices t lastId)
    intro now admits
    exact ⟨admits, rfl⟩

/-- For every insert, every failure at every step and all tables: it returns true, with the
    id, exactly when the new row was committed under that id; if it returns false or throws,
    the rows are as before. -/
theorem insert_all_or_nothing (insert : Insert) (choices : Nat → Conditions) (t : Tables)
    (lastId : Int) :
    let ends := returned insert.routine choices ⟨t, none, lastId⟩
    let t' := (stateAfter insert.routine choices ⟨t, none, lastId⟩).stored
    (∀ id, ends = .ok (some id) ↔ insert.Committed t id t') ∧
      ((∀ id, ends ≠ .ok (some id)) → SameRows t t') := by
  intro ends t'
  rcases insert_ends insert choices t lastId with ⟨id, success, committed⟩ | ⟨silent, same⟩
  · refine ⟨?_, fun silent => absurd success (silent id)⟩
    intro other
    constructor
    · intro also
      have it := success.symm.trans also
      cases it
      exact committed
    · intro also
      rw [committed_unique also committed]
      exact success
  · exact ⟨fun id => iff_of_false (silent id) (not_committed_same same), fun _ => same⟩

end Ends

section Success
variable [TextComparison] {table : TableName} {values : List (String × Value)} {t : Tables}
  {choices : Nat → Conditions} {lastId : Int}

/-- Nothing raises, the new id can be read, and keys and widths let the row in. -/
structure Succeeds (table : TableName) (values : List (String × Value))
    (choices : Nat → Conditions) (t : Tables) : Prop where
  quiet : ∀ n, 1 ≤ n → n ≤ 5 → (choices n).raises = none
  known : (choices 3).hasId = true
  admits : t.Admits (insertQuery values table)

theorem answered_quiet {met : Conditions} {s : DriverState} {c : DriverCall} {a : c.Answer}
    (answered : met.answer s c = .ok a) : met.raises = none := by
  cases raised : met.raises with
  | none => rfl
  | some e => simp [Conditions.answer, raised] at answered

theorem returned_ok {c : DriverCall} {rest : c.Answer → Routine α} {s : DriverState} {b : α}
    (success : returned (driver c >>= rest) choices s = .ok b) :
    ∃ a, (choices 0).answer s c = .ok a ∧
      returned (rest a) (later choices) ((choices 0).next c s) = .ok b := by
  rw [returned_driver] at success
  cases answer : (choices 0).answer s c with
  | error e =>
    rw [answer] at success
    cases success
  | ok a =>
    rw [answer] at success
    exact ⟨a, rfl, success⟩

theorem returned_of_ok {c : DriverCall} {rest : c.Answer → Routine α} {s : DriverState} {b : α}
    {a : c.Answer} (answer : (choices 0).answer s c = .ok a)
    (success : returned (rest a) (later choices) ((choices 0).next c s) = .ok b) :
    returned (driver c >>= rest) choices s = .ok b := by
  rw [returned_driver, answer]
  exact success

omit [Collation] [TextComparison] in
theorem laddered_some_iff {ends : Except DriverError (Option Int)} {id : Int} :
    laddered none ends = .ok (some id) ↔ ends = .ok (some id) := by
  cases ends with
  | ok a => rfl
  | error e => cases e <;> simp [laddered]

theorem inserted_of_answered {met : Conditions} {s : DriverState}
    {a : (DriverCall.exchange (.insert table values)).Answer}
    (answered : met.answer s (.exchange (.insert table values)) = .ok a) :
    ∃ t', inserted table values met.now s.seen = some t' := by
  have quiet := answered_quiet answered
  cases added : inserted table values met.now s.seen with
  | some t' => exact ⟨t', rfl⟩
  | none => simp [Conditions.answer, quiet, added] at answered

theorem transaction_returns_iff {body : Routine (Leaving α)} {b : α} :
    returned (inTransaction body) choices ⟨t, none, lastId⟩ = .ok b ↔
      (choices 0).raises = none ∧ ∃ leaving,
        returned body (later choices) ⟨t, some t, lastId⟩ = .ok leaving ∧ leaving.value = b := by
  rw [returned_inTransaction]
  cases raised : (choices 0).raises with
  | some e => simp [Conditions.answer, raised]
  | none =>
    have opened : (choices 0).next .transaction ⟨t, none, lastId⟩ = ⟨t, some t, lastId⟩ := by
      simp [Conditions.next, raised]
    have begins : (choices 0).answer ⟨t, none, lastId⟩ .transaction = .ok () := by
      simp [Conditions.answer, raised]
    rw [begins, opened]
    dsimp only
    cases returned body (later choices) ⟨t, some t, lastId⟩ with
    | error e => simp [Except.map]
    | ok leaving => simp [Except.map]

theorem readThenCommit_quiet {newId id : Int} {s : DriverState} {leaving : Leaving (Option Int)}
    (success : returned (readThenCommit table newId) choices s = .ok leaving)
    (known : leaving.value = some id) :
    (choices 0).raises = none ∧ (choices 1).raises = none := by
  unfold readThenCommit at success
  rw [returned_attempt] at success
  cases read : (choices 0).answer s (.exchange (.selectCreatedAt table newId)) with
  | error e =>
    rw [read] at success
    cases success
    cases known
  | ok a =>
    rw [read] at success
    obtain ⟨_, commits, _⟩ := returned_ok success
    exact ⟨answered_quiet read, answered_quiet commits⟩

variable (table values choices t lastId) in
theorem insertRow_succeeds_iff :
    (∃ id, returned (insertRow table values) choices ⟨t, none, lastId⟩ = .ok (some id)) ↔
      Succeeds table values choices t := by
  rw [insertRow_eq]
  simp only [returned_wrapped, laddered_some_iff, transaction_returns_iff]
  constructor
  · intro success
    obtain ⟨id, first, leaving, success, value⟩ := success
    obtain ⟨_, inserts, success⟩ := returned_ok success
    have second : (choices 2).raises = none := answered_quiet inserts
    obtain ⟨t', added⟩ := inserted_of_answered inserts
    obtain ⟨found, asks, success⟩ := returned_ok success
    have third : (choices 3).raises = none := answered_quiet asks
    cases found with
    | none =>
      cases success
      cases value
    | some newId =>
      have known : (choices 3).hasId = true := by
        by_contra unknown
        simp [Conditions.answer, third, unknown] at asks
      obtain ⟨fourth, fifth⟩ := readThenCommit_quiet success value
      refine ⟨?_, known, (inserted_some added).1⟩
      intro n from_one to_five
      have cases_n : n = 1 ∨ n = 2 ∨ n = 3 ∨ n = 4 ∨ n = 5 := by omega
      rcases cases_n with it | it | it | it | it <;> rw [it] <;> assumption
  · intro conditions
    obtain ⟨quiet, known, admits⟩ := conditions
    have added : ∃ t', inserted table values (choices 2).now t = some t' :=
      ⟨_, dif_pos admits⟩
    obtain ⟨t', added⟩ := added
    have written : (later (later choices) 0).next (.exchange (.insert table values))
        ⟨t, some t, lastId⟩ = holding t table t' := by
      simp [Conditions.next, quiet 2, DriverState.seen, added]
      rfl
    refine ⟨nextIdOf t table, quiet 1 (by omega) (by omega),
      .committed (some (nextIdOf t table)), ?_, rfl⟩
    unfold insertThen
    apply returned_of_ok (a := ()) (by simp [Conditions.answer, quiet 2, DriverState.seen, added])
    rw [written]
    apply returned_of_ok (a := some (nextIdOf t table))
      (by simp [Conditions.answer, quiet 3, known, holding])
    have read : (choices 4).answer (holding t table t')
        (.exchange (.selectCreatedAt table (nextIdOf t table))) = .ok (choices 4).createdAt := by
      simp [Conditions.answer, quiet 4]
    change returned (readThenCommit table (nextIdOf t table)) (later (later (later (later choices))))
      (holding t table t') = .ok (.committed (some (nextIdOf t table)))
    unfold readThenCommit
    rw [returned_attempt]
    simp only [later_apply, read]
    apply returned_of_ok (a := ()) (by simp [Conditions.answer, quiet 5])
    rfl

end Success

end AtomicInserts
