import ChatServer.Atomic.Runs

/-!
`ConnectionPool` and `ConnectionWrapper`. A connection is in the pool, in a live wrapper,
or given up for a replenish task that is to open another. Every operation moves one
connection between these places, except a replenish task that fails to open its session:
it only logs, and the pool is one connection smaller from then on.
-/
namespace ConnectionPools
open EventRuns

variable {Connection : Type}

structure ConnectionPool (Connection : Type) where
  conPool : List Connection
  poolSize : Int

/-- Every session of `init` is opened; one that throws ends the program. -/
def ConnectionPool.init (p : ConnectionPool Connection) (size : Int) (opens : Nat → Connection) :
    ConnectionPool Connection :=
  match p.conPool with
  | [] => ⟨(List.range size.toNat).map opens, size⟩
  | _ :: _ => p

/-- `none` while the caller waits for the condition variable. -/
def ConnectionPool.getConnection (p : ConnectionPool Connection) :
    Option (Connection × ConnectionPool Connection) :=
  match p.conPool.getLast? with
  | some connection => some (connection, { p with conPool := p.conPool.dropLast })
  | none => none

def ConnectionPool.returnConnection (p : ConnectionPool Connection) (connection : Connection) :
    ConnectionPool Connection := { p with conPool := p.conPool ++ [connection] }

/-- The task that `replenishConnectionAsync` posts, with the session it opens. -/
def ConnectionPool.replenish (p : ConnectionPool Connection) :
    Option Connection → ConnectionPool Connection
  | some opened => p.returnConnection opened
  | none => p

structure ConnectionWrapper (Connection : Type) where
  connection : Option Connection
  isValid : Bool

def ConnectionWrapper.new (connection : Connection) : ConnectionWrapper Connection :=
  ⟨some connection, true⟩

def ConnectionWrapper.markAsInvalid (w : ConnectionWrapper Connection) :
    ConnectionWrapper Connection := { w with isValid := false }

/-- The destructor: the pool after it, and whether it posts a replenish task. -/
def ConnectionWrapper.destroy (w : ConnectionWrapper Connection) (p : ConnectionPool Connection) :
    ConnectionPool Connection × Bool :=
  match w.connection with
  | some connection => if w.isValid then (p.returnConnection connection, false) else (p, true)
  | none => (p, false)

/-- Where the connections are: `posted` counts the replenish tasks that are posted and
    not yet finished. -/
structure Connections (Connection : Type) where
  pool : ConnectionPool Connection
  wrappers : List (ConnectionWrapper Connection)
  posted : Nat

def Connections.start (unset size : Int) (opens : Nat → Connection) : Connections Connection :=
  ⟨ConnectionPool.init ⟨[], unset⟩ size opens, [], 0⟩

inductive PoolEvent (Connection : Type) where
  | getConnection
  | markAsInvalid (wrapper : Nat)
  | destroy (wrapper : Nat)
  | replenish (opened : Option Connection)

def poolStep (s : Connections Connection) : PoolEvent Connection → Connections Connection
  | .getConnection => match s.pool.getConnection with
    | some (connection, pool) => ⟨pool, s.wrappers ++ [.new connection], s.posted⟩
    | none => s
  | .markAsInvalid wrapper => { s with
      wrappers := s.wrappers.modify wrapper ConnectionWrapper.markAsInvalid }
  | .destroy wrapper => match s.wrappers[wrapper]? with
    | some w =>
      ⟨(w.destroy s.pool).1, s.wrappers.eraseIdx wrapper,
        if (w.destroy s.pool).2 then s.posted + 1 else s.posted⟩
    | none => s
  | .replenish opened => match s.posted with
    | 0 => s
    | posted + 1 => { s with pool := s.pool.replenish opened, posted := posted }

def ConnectionWrapper.holds (w : ConnectionWrapper Connection) : Bool := w.connection.isSome

def Connections.held (s : Connections Connection) : Nat :=
  s.wrappers.countP ConnectionWrapper.holds

def Connections.total (s : Connections Connection) : Nat :=
  s.pool.conPool.length + s.held + s.posted

def Balanced (s : Connections Connection) : Prop := (s.total : Int) = s.pool.poolSize

/-- A replenish task runs and fails to open its session. -/
def FailsToOpen (s : Connections Connection) (e : PoolEvent Connection) : Prop :=
  e = .replenish none ∧ s.posted ≠ 0

theorem getConnection_some {p pool : ConnectionPool Connection} {connection : Connection}
    (got : p.getConnection = some (connection, pool)) :
    p.conPool = pool.conPool ++ [connection] ∧ pool.poolSize = p.poolSize := by
  unfold ConnectionPool.getConnection at got
  cases last : p.conPool.getLast? with
  | none => simp [last] at got
  | some back =>
    simp only [last, Option.some.injEq, Prod.mk.injEq] at got
    obtain ⟨same, rest⟩ := got
    subst same rest
    exact ⟨(List.dropLast_append_getLast? back last).symm, rfl⟩

@[simp] theorem length_returnConnection (p : ConnectionPool Connection) (connection : Connection) :
    (p.returnConnection connection).conPool.length = p.conPool.length + 1 := by
  simp [ConnectionPool.returnConnection]

theorem destroy_total (w : ConnectionWrapper Connection) (p : ConnectionPool Connection) :
    (w.destroy p).1.conPool.length + (if (w.destroy p).2 then 1 else 0) =
      p.conPool.length + (if w.holds then 1 else 0) := by
  obtain ⟨connection, isValid⟩ := w
  cases connection with
  | none => simp [ConnectionWrapper.destroy, ConnectionWrapper.holds]
  | some connection =>
    cases isValid <;> simp [ConnectionWrapper.destroy, ConnectionWrapper.holds]

theorem destroy_poolSize (w : ConnectionWrapper Connection) (p : ConnectionPool Connection) :
    (w.destroy p).1.poolSize = p.poolSize := by
  unfold ConnectionWrapper.destroy
  split
  · split <;> rfl
  · rfl

theorem poolSize_step (s : Connections Connection) (e : PoolEvent Connection) :
    (poolStep s e).pool.poolSize = s.pool.poolSize := by
  cases e with
  | getConnection =>
    simp only [poolStep]
    split
    · rename_i connection pool got
      exact (getConnection_some got).2
    · rfl
  | markAsInvalid wrapper => rfl
  | destroy wrapper =>
    simp only [poolStep]
    split
    · exact destroy_poolSize _ _
    · rfl
  | replenish opened =>
    simp only [poolStep]
    split
    · rfl
    · cases opened <;> rfl

theorem countP_modify_same {α : Type} (p : α → Bool) (f : α → α) (same : ∀ a, p (f a) = p a)
    (l : List α) (i : Nat) : (l.modify i f).countP p = l.countP p := by
  induction l generalizing i with
  | nil => simp
  | cons a rest ih =>
    cases i with
    | zero => simp [List.countP_cons, same]
    | succ i => simp [List.countP_cons, ih]

theorem countP_eraseIdx {α : Type} (p : α → Bool) {l : List α} {i : Nat} {a : α}
    (there : l[i]? = some a) :
    (l.eraseIdx i).countP p + (if p a then 1 else 0) = l.countP p := by
  induction l generalizing i with
  | nil => simp at there
  | cons b rest ih =>
    cases i with
    | zero =>
      simp only [List.getElem?_cons_zero, Option.some.injEq] at there
      simp [List.countP_cons, there]
    | succ i =>
      simp only [List.getElem?_cons_succ] at there
      have tail := ih there
      simp only [List.eraseIdx_cons_succ, List.countP_cons]
      omega

theorem countP_set_add {α : Type} (p : α → Bool) {l : List α} {i : Nat} {old : α}
    (there : l[i]? = some old) (new : α) :
    (l.set i new).countP p + (if p old then 1 else 0) =
      l.countP p + (if p new then 1 else 0) := by
  induction l generalizing i with
  | nil => simp at there
  | cons b rest ih =>
    cases i with
    | zero =>
      simp only [List.getElem?_cons_zero, Option.some.injEq] at there
      simp only [List.set_cons_zero, List.countP_cons, there]
      omega
    | succ i =>
      simp only [List.getElem?_cons_succ] at there
      have tail := ih there
      simp only [List.set_cons_succ, List.countP_cons]
      omega

/-- Every operation moves connections without losing one, but for a replenish that fails. -/
theorem total_step {s : Connections Connection} {e : PoolEvent Connection}
    (opens : ¬ FailsToOpen s e) : (poolStep s e).total = s.total := by
  cases e with
  | getConnection =>
    simp only [poolStep]
    split
    · rename_i connection pool got
      have moved := congrArg List.length (getConnection_some got).1
      simp [Connections.total, Connections.held, ConnectionWrapper.new, ConnectionWrapper.holds,
        List.countP_append] at moved ⊢
      omega
    · rfl
  | markAsInvalid wrapper =>
    have same : ∀ w : ConnectionWrapper Connection, w.markAsInvalid.holds = w.holds :=
      fun _ => rfl
    simp only [poolStep, Connections.total, Connections.held, countP_modify_same _ _ same]
  | destroy wrapper =>
    simp only [poolStep]
    split
    · rename_i w there
      have gone := countP_eraseIdx ConnectionWrapper.holds there
      have moved := destroy_total w s.pool
      simp only [Connections.total, Connections.held]
      cases posts : (w.destroy s.pool).2 <;> simp [posts] at moved ⊢ <;> omega
    · rfl
  | replenish opened =>
    simp only [poolStep]
    split
    · rfl
    · rename_i posted more
      cases opened with
      | none => exact absurd ⟨rfl, by omega⟩ opens
      | some connection =>
        simp only [Connections.total, Connections.held, ConnectionPool.replenish,
          length_returnConnection, more]
        omega

theorem total_fails {s : Connections Connection} {e : PoolEvent Connection}
    (fails : FailsToOpen s e) : (poolStep s e).total + 1 = s.total := by
  obtain ⟨asked, posted⟩ := fails
  subst asked
  obtain ⟨rest, more⟩ := Nat.exists_eq_succ_of_ne_zero posted
  simp only [poolStep, more, Connections.total, Connections.held, ConnectionPool.replenish]
  omega

theorem balanced_step {s : Connections Connection} (balanced : Balanced s)
    (e : PoolEvent Connection) : Balanced (poolStep s e) ↔ ¬ FailsToOpen s e := by
  unfold Balanced at balanced ⊢
  rw [poolSize_step]
  constructor
  · intro kept fails
    have lost := total_fails fails
    omega
  · intro opens
    rw [total_step opens]
    exact balanced

theorem balanced_start (unset size : Int) (opens : Nat → Connection) :
    Balanced (Connections.start unset size opens) ↔ 0 ≤ size := by
  simp [Balanced, Connections.start, ConnectionPool.init, Connections.total, Connections.held]

/-- The pool keeps its size in every state exactly when the size was not negative and no
    replenish task that runs fails to open its session. -/
theorem capacity_kept_iff (unset size : Int) (opens : Nat → Connection)
    (events : List (PoolEvent Connection)) :
    EveryState poolStep Balanced (.start unset size opens) events ↔
      0 ≤ size ∧ EveryStep poolStep (fun s e => ¬ FailsToOpen s e) (.start unset size opens)
        events := by
  have run := everyState_iff_everyStep (P := Balanced)
    (C := fun (s : Connections Connection) e => ¬ FailsToOpen s e)
    (fun _ e balanced => balanced_step balanced e) (s := .start unset size opens)
  constructor
  · intro states
    have start := everyState_start states
    exact ⟨(balanced_start unset size opens).mp start, (run start events).mp states⟩
  · intro ok
    have start := (balanced_start unset size opens).mpr ok.1
    exact (run start events).mpr ok.2

/-- A connection of the pool of ten breaks while the database is down. -/
def outage : List (PoolEvent Nat) := [.getConnection, .markAsInvalid 0, .destroy 0, .replenish none]

theorem nine_connections_left :
    ¬ EveryState poolStep Balanced (.start 0 10 id) outage := by
  intro states
  have last := everyState_last states
  have sum : (after poolStep (.start 0 10 id) outage).total = 9 := by decide
  have size : (after poolStep (.start 0 10 id) outage).pool.poolSize = 10 := by decide
  simp only [Balanced, sum, size] at last
  omega

end ConnectionPools
