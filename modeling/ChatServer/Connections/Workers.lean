import ChatServer.Atomic.RefillQueue
import ChatServer.Connections.Pool
import ChatServer.Model.Services

/-!
The threads of the io_context over the connection pool. A worker takes the posted tasks
in their order, runs a request call by call, and waits inside `getConnection` when it
comes to a repository function while the pool is empty. The task that brings a lost
connection back is posted to the same io_context. Other handlers of the io_context never
wait for a connection and are left out.
-/
namespace ConnectionWorkers
open AtomicCalls EventRuns ChatState ChatCalls ChatServices ConnectionPools RefillQueues

/-- The catch blocks of every repository function that call `markAsInvalid`. -/
def invalidates : DriverError → Bool
  | .connectionError => true
  | .systemError => true
  | .standardException => true
  | .noData => false
  | .otherCategory => false

inductive Task where
  | request (job : Job)
  | replenish
  deriving DecidableEq

/-- What a thread of the io_context does. A handler that throws ends its thread. -/
inductive Worker (Connection : Type) where
  | idle
  | running (rest : Handler)
  | waiting (q : Query) (rest : q.Answer → Handler)
  | querying (connection : Connection) (q : Query) (rest : q.Answer → Handler)
  | replenishing
  | stopped

structure System (E : Environment) (Connection : Type) where
  world : World E
  pool : ConnectionPool Connection
  queue : List Task
  workers : List (Worker Connection)

inductive SystemEvent (E : Environment) (Connection : Type) where
  | arrive (job : Job)
  | act (worker : Nat) (choice : Choice E) (opened : Option Connection)

variable {E : Environment} {Connection : Type}

def System.start (world : World E) (unset size : Int) (opens : Nat → Connection)
    (workers : Nat) : System E Connection :=
  ⟨world, ConnectionPool.init ⟨[], unset⟩ size opens, [], List.replicate workers .idle⟩

def System.setWorker (s : System E Connection) (worker : Nat) (now : Worker Connection) :
    System E Connection := { s with workers := s.workers.set worker now }

def resume {α : Type} (rest : α → Handler) : Except Exception α → Worker Connection
  | .ok a => .running (rest a)
  | .error _ => .stopped

/-- A repository function begins with `getConnection`; every other call runs at once. -/
def makeCall (s : System E Connection) (worker : Nat) (choice : Choice E) :
    (c : Call) → (c.Answer → Handler) → System E Connection
  | .repository q, rest => s.setWorker worker (.waiting q rest)
  | c, rest =>
    { s with world := (chat E).next choice c s.world }.setWorker worker
      (resume rest ((chat E).answer choice c s.world))

def endsInvalid (choice : Choice E) (q : Query) (w : World E) : Bool :=
  match E.answer choice.store q w.store with
  | .error e => invalidates e
  | .ok _ => false

def wrapperAfter (choice : Choice E) (q : Query) (w : World E) (connection : Connection) :
    ConnectionWrapper Connection :=
  if endsInvalid choice q w then (ConnectionWrapper.new connection).markAsInvalid
  else .new connection

def endQuery (s : System E Connection) (worker : Nat) (choice : Choice E)
    (connection : Connection) (q : Query) (rest : q.Answer → Handler) : System E Connection :=
  let destroyed := (wrapperAfter choice q s.world connection).destroy s.pool
  { s with
    world := (chat E).next choice (.repository q) s.world
    pool := destroyed.1
    queue := if destroyed.2 then s.queue ++ [Task.replenish] else s.queue
  }.setWorker worker (resume rest ((chat E).answer choice (.repository q) s.world))

section Steps
variable [Sha256]

def act (s : System E Connection) (worker : Nat) (choice : Choice E)
    (opened : Option Connection) : Worker Connection → System E Connection
  | .idle => match s.queue with
    | [] => s
    | .request job :: later => { s with queue := later }.setWorker worker (.running job.handler)
    | .replenish :: later => { s with queue := later }.setWorker worker .replenishing
  | .running (.done _) => s.setWorker worker .idle
  | .running (.call c rest) => makeCall s worker choice c rest
  | .waiting q rest => match s.pool.getConnection with
    | some (connection, pool) =>
      { s with pool := pool }.setWorker worker (.querying connection q rest)
    | none => s
  | .querying connection q rest => endQuery s worker choice connection q rest
  | .replenishing => { s with pool := s.pool.replenish opened }.setWorker worker .idle
  | .stopped => s

def systemStep (s : System E Connection) : SystemEvent E Connection → System E Connection
  | .arrive job => { s with queue := s.queue ++ [.request job] }
  | .act worker choice opened => match s.workers[worker]? with
    | some now => act s worker choice opened now
    | none => s

end Steps

def Worker.isWaiting : Worker Connection → Bool
  | .waiting _ _ => true
  | _ => false

def Worker.holds : Worker Connection → Bool
  | .querying _ _ _ => true
  | _ => false

def Worker.isReplenishing : Worker Connection → Bool
  | .replenishing => true
  | _ => false

def Worker.isBusy : Worker Connection → Bool
  | .idle => false
  | .replenishing => false
  | _ => true

def Task.isReplenish : Task → Bool
  | .replenish => true
  | .request _ => false

/-- Every worker waits in `getConnection`, there is no connection to get, and the tasks
    that would bring one are queued behind them. -/
structure Deadlocked (s : System E Connection) : Prop where
  blocked : ∀ w ∈ s.workers, w.isWaiting = true
  empty : s.pool.conPool = []
  unheld : ∀ w ∈ s.workers, w.holds = false
  queued : Task.replenish ∈ s.queue

/-- What counts for the queue: the connections in the pool and in use are its tokens. -/
def System.load (s : System E Connection) : Load Task where
  tokens := s.pool.conPool.length + s.workers.countP Worker.holds
  refilling := s.workers.countP Worker.isReplenishing
  busy := s.workers.countP Worker.isBusy
  queue := s.queue

def FailsToReopen (s : System E Connection) (e : SystemEvent E Connection) : Prop :=
  ∃ worker choice, e = .act worker choice none ∧ s.workers[worker]? = some .replenishing

/-- The statement of a query ends with an error that invalidates its connection. -/
def Breaks (s : System E Connection) (e : SystemEvent E Connection) : Prop :=
  ∃ worker choice opened connection q rest, e = .act worker choice opened ∧
    s.workers[worker]? = some (.querying connection q rest) ∧
    endsInvalid choice q s.world = true

theorem heldUp_of_deadlocked {s : System E Connection} (stuck : Deadlocked s) :
    HeldUp Task.isReplenish s.workers.length s.load := by
  have busy : ∀ w ∈ s.workers, w.isBusy = true := by
    intro w there
    have waits := stuck.blocked w there
    cases w <;> simp_all [Worker.isWaiting, Worker.isBusy]
  have quiet : ∀ w ∈ s.workers, ¬ w.isReplenishing = true := by
    intro w there
    have waits := stuck.blocked w there
    cases w <;> simp_all [Worker.isWaiting, Worker.isReplenishing]
  have unheld : ∀ w ∈ s.workers, ¬ w.holds = true := by
    intro w there
    simp [stuck.unheld w there]
  refine ⟨?_, List.countP_eq_zero.mpr quiet, ?_, .replenish, stuck.queued, rfl⟩
  · simp only [System.load, stuck.empty, List.length_nil, List.countP_eq_zero.mpr unheld]
  · exact le_of_eq (List.countP_eq_length.mpr busy).symm

theorem counts_setWorker (s : System E Connection) {worker : Nat} {old : Worker Connection}
    (there : s.workers[worker]? = some old) (new : Worker Connection) :
    (s.setWorker worker new).workers.countP Worker.holds + (if old.holds then 1 else 0) =
        s.workers.countP Worker.holds + (if new.holds then 1 else 0) ∧
      (s.setWorker worker new).workers.countP Worker.isReplenishing +
          (if old.isReplenishing then 1 else 0) =
        s.workers.countP Worker.isReplenishing + (if new.isReplenishing then 1 else 0) ∧
      (s.setWorker worker new).workers.countP Worker.isBusy + (if old.isBusy then 1 else 0) =
        s.workers.countP Worker.isBusy + (if new.isBusy then 1 else 0) :=
  ⟨countP_set_add _ there new, countP_set_add _ there new, countP_set_add _ there new⟩

theorem move_on {s s' : System E Connection} {worker : Nat} {old : Worker Connection}
    (new : Worker Connection) (there : s.workers[worker]? = some old)
    (pool : s'.pool = s.pool) (queue : s'.queue = s.queue)
    (workers : s'.workers = s.workers.set worker new) (held : old.holds = new.holds)
    (replenishes : old.isReplenishing = new.isReplenishing) (busy : old.isBusy = new.isBusy) :
    Move Task.isReplenish s.load s'.load .fine := by
  have counts := counts_setWorker s there new
  simp only [System.setWorker, held, replenishes, busy, Nat.add_right_cancel_iff] at counts
  apply Move.quiet
  · simp only [System.load, pool, workers, counts.1]
  · simp only [System.load, workers, counts.2.1]
  · simp only [System.load, workers, counts.2.2]
  · exact queue

variable (Connection) in
theorem resume_kind {α : Type} (rest : α → Handler) (answer : Except Exception α) :
    (resume rest answer : Worker Connection).holds = false ∧
      (resume rest answer : Worker Connection).isReplenishing = false ∧
      (resume rest answer : Worker Connection).isBusy = true := by
  cases answer <;> exact ⟨rfl, rfl, rfl⟩

theorem move_makeCall {s : System E Connection} {worker : Nat} (choice : Choice E) (c : Call)
    (rest : c.Answer → Handler) (there : s.workers[worker]? = some (.running (.call c rest))) :
    Move Task.isReplenish s.load (makeCall s worker choice c rest).load .fine := by
  cases c with
  | repository q =>
    exact move_on (.waiting q rest) there rfl rfl rfl rfl rfl rfl
  | _ =>
    obtain ⟨held, replenishes, busy⟩ :=
      resume_kind Connection rest ((chat E).answer choice _ s.world)
    exact move_on _ there rfl rfl rfl held.symm replenishes.symm busy.symm

theorem counts_queried {s : System E Connection} {worker : Nat} {connection : Connection}
    {q : Query} {rest : q.Answer → Handler}
    (there : s.workers[worker]? = some (.querying connection q rest)) {new : Worker Connection}
    (held : new.holds = false) (replenishes : new.isReplenishing = false)
    (busy : new.isBusy = true) :
    (s.workers.set worker new).countP Worker.holds + 1 = s.workers.countP Worker.holds ∧
      (s.workers.set worker new).countP Worker.isReplenishing =
        s.workers.countP Worker.isReplenishing ∧
      (s.workers.set worker new).countP Worker.isBusy = s.workers.countP Worker.isBusy := by
  have counts := counts_setWorker s there new
  rw [held, replenishes, busy] at counts
  simpa [System.setWorker, Worker.holds, Worker.isReplenishing, Worker.isBusy] using counts

theorem move_endQuery {s : System E Connection} {worker : Nat} (choice : Choice E)
    (connection : Connection) (q : Query) (rest : q.Answer → Handler)
    (there : s.workers[worker]? = some (.querying connection q rest)) :
    Move Task.isReplenish s.load (endQuery s worker choice connection q rest).load
      (if endsInvalid choice q s.world then .broken else .fine) := by
  obtain ⟨held, replenishes, busy⟩ := resume_kind Connection rest
    ((chat E).answer choice (.repository q) s.world)
  obtain ⟨holding, replenishing, working⟩ := counts_queried there held replenishes busy
  cases invalid : endsInvalid choice q s.world with
  | true =>
    have destroyed : (wrapperAfter choice q s.world connection).destroy s.pool =
        (s.pool, true) := by
      simp [wrapperAfter, invalid, ConnectionWrapper.destroy, ConnectionWrapper.markAsInvalid,
        ConnectionWrapper.new]
    apply Move.breakToken .replenish rfl
    · simp only [endQuery, System.load, System.setWorker, destroyed] at holding ⊢
      omega
    · simp only [endQuery, System.load, System.setWorker, working]
    · simp only [endQuery, System.load, System.setWorker, destroyed, ↓reduceIte]
  | false =>
    have destroyed : (wrapperAfter choice q s.world connection).destroy s.pool =
        (s.pool.returnConnection connection, false) := by
      simp [wrapperAfter, invalid, ConnectionWrapper.destroy, ConnectionWrapper.new]
    apply Move.quiet
    · simp only [endQuery, System.load, System.setWorker, destroyed, length_returnConnection]
        at holding ⊢
      omega
    · simp only [endQuery, System.load, System.setWorker, replenishing]
    · simp only [endQuery, System.load, System.setWorker, working]
    · simp [endQuery, System.load, System.setWorker, destroyed]

section Runs
variable [Sha256]

theorem load_act {s : System E Connection} {worker : Nat} {now : Worker Connection}
    (there : s.workers[worker]? = some now) (choice : Choice E) (opened : Option Connection) :
    ∃ outcome, Move Task.isReplenish s.load (act s worker choice opened now).load outcome ∧
      (outcome = .failed → FailsToReopen s (.act worker choice opened)) ∧
      (outcome = .broken → Breaks s (.act worker choice opened)) := by
  have fine : ∀ s' : System E Connection, Move Task.isReplenish s.load s'.load .fine →
      ∃ outcome, Move Task.isReplenish s.load s'.load outcome ∧
        (outcome = .failed → FailsToReopen s (.act worker choice opened)) ∧
        (outcome = .broken → Breaks s (.act worker choice opened)) := by
    intro s' move
    refine ⟨.fine, move, ?_, ?_⟩ <;> intro other <;> cases other
  cases now with
  | idle =>
    simp only [act]
    split
    · exact fine s (.quiet rfl rfl rfl rfl)
    · rename_i job later queued
      apply fine
      have counts := counts_setWorker s there (.running job.handler)
      simp [System.setWorker, Worker.holds, Worker.isReplenishing, Worker.isBusy] at counts
      apply Move.take (.request job) rfl
      · simp only [System.load, System.setWorker, counts.1]
      · simp only [System.load, System.setWorker, counts.2.1]
      · simp only [System.load, System.setWorker, counts.2.2]
      · exact queued
    · rename_i later queued
      apply fine
      have counts := counts_setWorker s there .replenishing
      simp [System.setWorker, Worker.holds, Worker.isReplenishing, Worker.isBusy] at counts
      apply Move.startRefill .replenish
      · simp only [System.load, System.setWorker, counts.1]
      · simp only [System.load, System.setWorker, counts.2.1]
      · simp only [System.load, System.setWorker, counts.2.2]
      · exact queued
  | running rest =>
    cases rest with
    | done a =>
      apply fine
      have counts := counts_setWorker s there .idle
      simp [System.setWorker, Worker.holds, Worker.isReplenishing, Worker.isBusy] at counts
      apply Move.finish
      · simp only [act, System.load, System.setWorker, counts.1]
      · simp only [act, System.load, System.setWorker, counts.2.1]
      · simp only [act, System.load, System.setWorker, counts.2.2]
      · rfl
    | call c rest => exact fine _ (move_makeCall choice c rest there)
  | waiting q rest =>
    simp only [act]
    split
    · rename_i connection pool got
      apply fine
      have counts := counts_setWorker s there (.querying connection q rest)
      simp [System.setWorker, Worker.holds, Worker.isReplenishing, Worker.isBusy] at counts
      have taken := congrArg List.length (getConnection_some got).1
      apply Move.quiet
      · simp only [System.load, System.setWorker, counts.1, taken, List.length_append,
          List.length_singleton]
        omega
      · simp only [System.load, System.setWorker, counts.2.1]
      · simp only [System.load, System.setWorker, counts.2.2]
      · rfl
    · exact fine s (.quiet rfl rfl rfl rfl)
  | querying connection q rest =>
    refine ⟨_, move_endQuery choice connection q rest there, ?_, ?_⟩
    · intro failed
      split at failed <;> cases failed
    · intro broken
      cases invalid : endsInvalid choice q s.world with
      | false => simp [invalid] at broken
      | true => exact ⟨worker, choice, opened, connection, q, rest, rfl, there, invalid⟩
  | replenishing =>
    cases opened with
    | none =>
      refine ⟨.failed, .failRefill, ?_, ?_⟩
      · intro _
        exact ⟨worker, choice, rfl, there⟩
      · intro other
        cases other
    | some connection =>
      apply fine
      have counts := counts_setWorker s there .idle
      simp [System.setWorker, Worker.holds, Worker.isReplenishing, Worker.isBusy] at counts
      apply Move.endRefill
      · simp only [act, System.load, System.setWorker, counts.1, ConnectionPool.replenish,
          length_returnConnection]
        omega
      · simp only [act, System.load, System.setWorker, counts.2.2]
      · rfl
  | stopped => exact fine s (.quiet rfl rfl rfl rfl)

theorem load_step (s : System E Connection) (e : SystemEvent E Connection) :
    ∃ outcome, Move Task.isReplenish s.load (systemStep s e).load outcome ∧
      (outcome = .failed → FailsToReopen s e) ∧ (outcome = .broken → Breaks s e) := by
  cases e with
  | arrive job =>
    refine ⟨.fine, .arrive (.request job) rfl rfl rfl rfl rfl, ?_, ?_⟩ <;>
      intro other <;> cases other
  | act worker choice opened =>
    simp only [systemStep]
    split
    · rename_i now there
      exact load_act there choice opened
    · refine ⟨.fine, .quiet rfl rfl rfl rfl, ?_, ?_⟩ <;> intro other <;> cases other

theorem workers_step (s : System E Connection) (e : SystemEvent E Connection) :
    (systemStep s e).workers.length = s.workers.length := by
  cases e with
  | arrive job => rfl
  | act worker choice opened =>
    simp only [systemStep]
    split
    · rename_i now there
      cases now with
      | idle =>
        simp only [act]
        split <;> simp [System.setWorker]
      | running rest =>
        cases rest with
        | done a => simp [act, System.setWorker]
        | call c rest => cases c <;> simp [act, makeCall, System.setWorker]
      | waiting q rest =>
        simp only [act]
        split <;> simp [System.setWorker]
      | querying connection q rest => simp [act, endQuery, System.setWorker]
      | replenishing => simp [act, System.setWorker]
      | stopped => rfl
    · rfl

theorem deadlocked_step {s : System E Connection} (stuck : Deadlocked s)
    (e : SystemEvent E Connection) : Deadlocked (systemStep s e) := by
  cases e with
  | arrive job => exact ⟨stuck.blocked, stuck.empty, stuck.unheld,
      List.mem_append_left _ stuck.queued⟩
  | act worker choice opened =>
    have same : systemStep s (.act worker choice opened) = s := by
      simp only [systemStep]
      cases there : s.workers[worker]? with
      | none => rfl
      | some now =>
        have waits := stuck.blocked now (List.mem_of_getElem? there)
        cases now with
        | waiting q rest => simp [act, ConnectionPool.getConnection, stuck.empty]
        | _ => cases waits
    rw [same]
    exact stuck

theorem deadlocked_forever {s : System E Connection} (stuck : Deadlocked s)
    (events : List (SystemEvent E Connection)) : EveryState systemStep Deadlocked s events := by
  have always : EveryStep systemStep (fun _ _ => True) s events :=
    everyStep_of_forall (fun _ _ => trivial) s events
  exact everyState_of_everyStep (P := Deadlocked) (fun _ e stuck _ => deadlocked_step stuck e)
    stuck always

end Runs

section Starvation
variable [Sha256]

def down : Choice anyAnswers := ⟨fun _ => .error .connectionError, none, ⟨0, 0⟩⟩

def login : Job := .dispatch 1 ⟨"", some (.loginRequest ⟨"ann", "pw"⟩)⟩

def goesOn (opened : Connection) (worker : Nat) : SystemEvent anyAnswers Connection :=
  .act worker down (some opened)

def losesOne (opened : Connection) : List (SystemEvent anyAnswers Connection) :=
  List.replicate 6 (goesOn opened 0)

def blocks (opened : Connection) (first : Nat) :
    Nat → List (SystemEvent anyAnswers Connection)
  | 0 => []
  | more + 1 => goesOn opened first :: goesOn opened first :: blocks opened (first + 1) more

/-- As many logins fail as there are connections, then one for each worker waits. -/
def starvation (opened : Connection) (size workers : Nat) :
    List (SystemEvent anyAnswers Connection) :=
  List.replicate (size + workers) (.arrive login) ++
    (List.replicate size (losesOne opened)).flatten ++ blocks opened 0 workers

theorem login_asks : ∃ rest : Option ChatProtocol.User → Handler,
    login.handler = .call (.repository (.findByUsername "ann")) rest ∧
      rest none = sendError 1 "User not found." := ⟨_, rfl, rfl⟩

variable (world : World anyAnswers) (opened : Connection)

theorem arrivals (p : ConnectionPool Connection) (queue : List Task)
    (workers : List (Worker Connection)) (n : Nat) :
    after systemStep ⟨world, p, queue, workers⟩ (List.replicate n (.arrive login)) =
      ⟨world, p, queue ++ List.replicate n (Task.request login), workers⟩ := by
  induction n generalizing queue with
  | zero => simp [after]
  | succ n ih =>
    have rest := ih (queue ++ [Task.request login])
    rw [List.append_assoc, List.singleton_append, ← List.replicate_succ] at rest
    rw [List.replicate_succ]
    exact rest

theorem lost_login (conPool : List Connection) (connection : Connection) (size : Int)
    (later : List Task) (others : List (Worker Connection)) :
    after systemStep ⟨world, ⟨conPool ++ [connection], size⟩, Task.request login :: later,
        Worker.idle :: others⟩ (losesOne opened) =
      ⟨world, ⟨conPool, size⟩, later ++ [Task.replenish], Worker.idle :: others⟩ := by
  obtain ⟨rest, asks, missing⟩ := login_asks
  have takes : systemStep ⟨world, ⟨conPool ++ [connection], size⟩, Task.request login :: later,
        Worker.idle :: others⟩ (goesOn opened 0) =
      ⟨world, ⟨conPool ++ [connection], size⟩, later, Worker.running login.handler :: others⟩ := rfl
  have waits : systemStep ⟨world, ⟨conPool ++ [connection], size⟩, later,
        Worker.running login.handler :: others⟩ (goesOn opened 0) =
      ⟨world, ⟨conPool ++ [connection], size⟩, later,
        Worker.waiting (.findByUsername "ann") rest :: others⟩ := by
    rw [asks]
    rfl
  have gets : systemStep ⟨world, ⟨conPool ++ [connection], size⟩, later,
        Worker.waiting (.findByUsername "ann") rest :: others⟩ (goesOn opened 0) =
      ⟨world, ⟨conPool, size⟩, later,
        Worker.querying connection (.findByUsername "ann") rest :: others⟩ := by
    simp [systemStep, goesOn, act, ConnectionPool.getConnection, System.setWorker]
  have fails : systemStep ⟨world, ⟨conPool, size⟩, later,
        Worker.querying connection (.findByUsername "ann") rest :: others⟩ (goesOn opened 0) =
      ⟨world, ⟨conPool, size⟩, later ++ [Task.replenish],
        Worker.running (rest none) :: others⟩ := rfl
  have answers : after systemStep ⟨world, ⟨conPool, size⟩, later ++ [Task.replenish],
        Worker.running (sendError 1 "User not found.") :: others⟩
        (List.replicate 2 (goesOn opened 0)) =
      ⟨world, ⟨conPool, size⟩, later ++ [Task.replenish], Worker.idle :: others⟩ := rfl
  simp only [losesOne, List.replicate_succ (n := 5), List.replicate_succ (n := 4),
    List.replicate_succ (n := 3), List.replicate_succ (n := 2), after, List.foldl_cons, takes,
    waits, gets, fails, missing]
  exact answers

theorem all_lost (size : Int) (others : List (Worker Connection)) (conPool : List Connection)
    (later : List Task) :
    after systemStep ⟨world, ⟨conPool, size⟩,
        List.replicate conPool.length (Task.request login) ++ later, Worker.idle :: others⟩
        (List.replicate conPool.length (losesOne opened)).flatten =
      ⟨world, ⟨[], size⟩, later ++ List.replicate conPool.length Task.replenish,
        Worker.idle :: others⟩ := by
  induction conPool using List.reverseRecOn generalizing later with
  | nil => simp [after]
  | append_singleton conPool connection ih =>
    have rest := ih (later ++ [Task.replenish])
    rw [List.append_assoc, List.singleton_append, ← List.replicate_succ] at rest
    simp only [List.length_append, List.length_singleton, List.replicate_succ, List.flatten_cons,
      List.cons_append] at rest ⊢
    rw [after_append, lost_login, List.append_assoc]
    exact rest

theorem all_blocked (pool : ConnectionPool Connection)
    {rest : Option ChatProtocol.User → Handler}
    (asks : login.handler = .call (.repository (.findByUsername "ann")) rest)
    (later : List Task) (n : Nat) (blocked : List (Worker Connection)) :
    after systemStep ⟨world, pool, List.replicate n (Task.request login) ++ later,
        blocked ++ List.replicate n Worker.idle⟩ (blocks opened blocked.length n) =
      ⟨world, pool, later,
        blocked ++ List.replicate n (Worker.waiting (.findByUsername "ann") rest)⟩ := by
  induction n generalizing blocked with
  | zero => simp [after, blocks]
  | succ n ih =>
    have more := ih (blocked ++ [Worker.waiting (.findByUsername "ann") rest])
    simp only [List.length_append, List.length_singleton, List.append_assoc,
      List.singleton_append] at more
    have takes : ∀ queue : List Task, systemStep ⟨world, pool, Task.request login :: queue,
          blocked ++ Worker.idle :: List.replicate n Worker.idle⟩
          (goesOn opened blocked.length) =
        ⟨world, pool, queue,
          blocked ++ Worker.running login.handler :: List.replicate n Worker.idle⟩ := by
      intro queue
      simp [systemStep, goesOn, act, System.setWorker]
    have waits : ∀ queue : List Task, systemStep ⟨world, pool, queue,
          blocked ++ Worker.running login.handler :: List.replicate n Worker.idle⟩
          (goesOn opened blocked.length) =
        ⟨world, pool, queue, blocked ++ Worker.waiting (.findByUsername "ann") rest ::
          List.replicate n Worker.idle⟩ := by
      intro queue
      rw [asks]
      simp [systemStep, goesOn, act, makeCall, System.setWorker]
    simp only [blocks, List.replicate_succ, List.cons_append, after, List.foldl_cons, takes, waits]
    exact more

/-- No number of workers and no pool size is safe: as many logins as there are connections
    fail while the database is down, and the next ones block every worker. -/
theorem starvation_deadlocks (unset : Int) (opens : Nat → Connection) (size workers : Nat) :
    Deadlocked (after systemStep (System.start world unset (size + 1) opens (workers + 1))
      (starvation opened (size + 1) (workers + 1))) := by
  obtain ⟨rest, asks, _⟩ := login_asks
  have count : ((size : Int) + 1).toNat = size + 1 := by omega
  have full : ((List.range (size + 1)).map opens).length = size + 1 := by simp
  have logins : List.replicate (size + 1 + (workers + 1)) (Task.request login) =
      List.replicate (size + 1) (Task.request login) ++
        List.replicate (workers + 1) (Task.request login) := List.replicate_add _ _ _
  have posted := arrivals world ⟨(List.range (size + 1)).map opens, (size : Int) + 1⟩ []
    (List.replicate (workers + 1) Worker.idle) (size + 1 + (workers + 1))
  have lost := all_lost world opened ((size : Int) + 1) (List.replicate workers Worker.idle)
    ((List.range (size + 1)).map opens) (List.replicate (workers + 1) (Task.request login))
  have blocked := all_blocked world opened ⟨[], (size : Int) + 1⟩ asks
    (List.replicate (size + 1) Task.replenish) (workers + 1) []
  rw [full] at lost
  simp only [List.nil_append, List.length_nil] at posted blocked
  have ends : after systemStep (System.start world unset (size + 1) opens (workers + 1))
      (starvation opened (size + 1) (workers + 1)) =
      ⟨world, ⟨[], (size : Int) + 1⟩, List.replicate (size + 1) Task.replenish,
        List.replicate (workers + 1) (Worker.waiting (.findByUsername "ann") rest)⟩ := by
    have then_blocked := congrArg (fun s => after systemStep s (blocks opened 0 (workers + 1))) lost
    simp only [System.start, ConnectionPool.init, count, starvation, after_append]
    rw [posted, logins]
    exact then_blocked.trans blocked
  rw [ends]
  constructor
  · intro w there
    rw [(List.mem_replicate.mp there).2]
    rfl
  · rfl
  · intro w there
    rw [(List.mem_replicate.mp there).2]
    rfl
  · exact List.mem_replicate.mpr ⟨by omega, rfl⟩

theorem starvation_replenishes (size workers : Nat) (s : System anyAnswers Connection) :
    EveryStep systemStep (fun s e => ¬ FailsToReopen s e) s
      (starvation opened size workers) := by
  have goes : ∀ (worker : Nat) (s : System anyAnswers Connection),
      ¬ FailsToReopen s (goesOn opened worker) := by
    intro worker s fails
    obtain ⟨_, _, closed, _⟩ := fails
    cases closed
  have blocking : ∀ n first, ∀ e ∈ blocks opened first n, ∃ worker, e = goesOn opened worker := by
    intro n
    induction n with
    | zero =>
      intro first e there
      cases there
    | succ n ih =>
      intro first e there
      simp only [blocks, List.mem_cons] at there
      rcases there with here | here | later
      · exact ⟨first, here⟩
      · exact ⟨first, here⟩
      · exact ih (first + 1) e later
  apply everyStep_of_mem
  intro e there s
  simp only [starvation, List.mem_append, List.mem_replicate, List.mem_flatten] at there
  rcases there with (arrives | loses) | waits
  · rw [arrives.2]
    intro fails
    obtain ⟨_, _, other, _⟩ := fails
    cases other
  · obtain ⟨run, which, inside⟩ := loses
    rw [which.2] at inside
    rw [(List.mem_replicate.mp inside).2]
    exact goes 0 s
  · obtain ⟨worker, which⟩ := blocking workers 0 e waits
    rw [which]
    exact goes worker s

end Starvation

section Safety
variable [Sha256]

/-- No run deadlocks in which every replenish task opens its session, and the last
    connection breaks only while the running requests and those queued before the first
    replenish task are fewer than the workers. -/
theorem never_deadlocked (world : World E) (unset size : Int) (opens : Nat → Connection)
    (workers : Nat) (events : List (SystemEvent E Connection))
    (replenished : EveryStep systemStep (fun s e => ¬ FailsToReopen s e)
      (System.start world unset size opens workers) events)
    (spare : EveryStep systemStep (fun s e => Breaks s e → s.load.tokens = 1 →
      s.load.ahead Task.isReplenish < s.workers.length)
      (System.start world unset size opens workers) events) :
    EveryState systemStep (fun s => ¬ Deadlocked s)
      (System.start world unset size opens workers) events := by
  have both := (everyStep_and (System.start world unset size opens workers) events).mpr
    ⟨replenished, spare⟩
  have start : Served Task.isReplenish
      (System.start world unset size opens workers).workers.length
      (System.start world unset size opens workers).load :=
    Or.inr (Or.inr (Or.inl (fun _ there => by cases there)))
  have kept : ∀ (s : System E Connection) e, Served Task.isReplenish s.workers.length s.load →
      (¬ FailsToReopen s e ∧ (Breaks s e → s.load.tokens = 1 →
        s.load.ahead Task.isReplenish < s.workers.length)) →
      Served Task.isReplenish (systemStep s e).workers.length (systemStep s e).load := by
    intro s e served ok
    obtain ⟨outcome, move, failed, broken⟩ := load_step s e
    rw [workers_step]
    exact served_move move served (fun it => ok.1 (failed it)) (fun it => ok.2 (broken it))
  have served := everyState_of_everyStep kept start both
  exact everyState_mono
    (fun _ served stuck => not_heldUp_of_served served (heldUp_of_deadlocked stuck)) served

end Safety

section Down

local instance : Sha256 := ⟨id⟩

def recovery : List (SystemEvent anyAnswers Nat) :=
  .arrive login :: losesOne 7 ++ [goesOn 7 1, goesOn 7 1]

theorem never_deadlocked_recovers : EveryState systemStep (fun s => ¬ Deadlocked s)
    (System.start ⟨.start, ()⟩ 0 1 id 2) recovery := by
  apply never_deadlocked ⟨.start, ()⟩ 0 1 id 2 recovery
  · apply everyStep_of_mem
    intro e there s fails
    obtain ⟨worker, choice, closed, _⟩ := fails
    subst closed
    simp [recovery, losesOne, goesOn] at there
  · exact ⟨fun _ _ => by decide, fun _ _ => by decide, fun _ _ => by decide,
      fun _ _ => by decide, fun _ _ => by decide, fun _ _ => by decide, fun _ _ => by decide,
      fun _ _ => by decide, fun _ _ => by decide, trivial⟩

def tenConnections : System anyAnswers Nat := .start ⟨.start, ()⟩ 0 10 id 1

theorem ten_connections_deadlock :
    EveryStep systemStep (fun s e => ¬ FailsToReopen s e) tenConnections (starvation 10 10 1) ∧
      ¬ EveryState systemStep (fun s => ¬ Deadlocked s) tenConnections (starvation 10 10 1) := by
  constructor
  · exact starvation_replenishes 10 10 1 tenConnections
  · intro states
    exact everyState_last states (starvation_deadlocks ⟨.start, ()⟩ 10 0 id 9 0)

end Down

end ConnectionWorkers
