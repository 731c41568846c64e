import ChatServer.Atomic.Program

/-!
Tasks on a pool of workers. Posted tasks wait in a queue; an idle worker takes the
front one and makes its calls one by one, and the calls of running tasks interleave in
any way. A call that fails ends its task and the worker it ran on. The log remembers
every call with the number its task was posted under.
-/
namespace WorkerPool
open AtomicCalls

variable {Call : Type} {Answer : Call → Type}

structure Task (M : Machine Call Answer) (Tag : Type) where
  number : Nat
  tag : Tag
  choices : Nat → M.Choice
  rest : Program Call Answer Unit

structure Entry (M : Machine Call Answer) (Tag : Type) where
  number : Nat
  tag : Tag
  event : Event M

structure Pool (M : Machine Call Answer) (Tag : Type) where
  state : M.State
  posted : Nat
  queue : List (Task M Tag)
  running : List (Task M Tag)
  lost : Nat
  log : List (Entry M Tag)

/-- `start` lets an idle worker take a task, `advance` is the next step of the running
    task at a place. -/
inductive Move (M : Machine Call Answer) (Tag : Type) where
  | post (tag : Tag) (choices : Nat → M.Choice)
  | start
  | advance (place : Nat)

variable {M : Machine Call Answer} {Tag : Type}

def Pool.idle (s : M.State) : Pool M Tag := ⟨s, 0, [], [], 0, []⟩

section Steps
variable (workers : Nat) (body : Tag → Program Call Answer Unit)

def Pool.start (p : Pool M Tag) : Pool M Tag :=
  match p.queue with
  | [] => p
  | t :: queue =>
    if p.running.length + p.lost < workers then
      { p with queue := queue, running := p.running ++ [t] }
    else p

def Task.made (t : Task M Tag) (c : Call) (s : M.State) : Entry M Tag :=
  ⟨t.number, t.tag, ⟨s, t.choices 0, c⟩⟩

def Task.after (t : Task M Tag) (rest : Program Call Answer Unit) : Task M Tag :=
  { t with choices := later t.choices, rest := rest }

def Pool.advance (p : Pool M Tag) (place : Nat) : Pool M Tag :=
  match p.running[place]? with
  | none => p
  | some t => match t.rest with
    | .done _ => { p with running := p.running.eraseIdx place }
    | .call c rest =>
      let state := M.next (t.choices 0) c p.state
      let log := p.log ++ [t.made c p.state]
      match M.answer (t.choices 0) c p.state with
      | .ok a =>
        { p with state := state, log := log, running := p.running.set place (t.after (rest a)) }
      | .error _ =>
        { p with
          state := state, log := log, running := p.running.eraseIdx place, lost := p.lost + 1 }

def Pool.step (p : Pool M Tag) : Move M Tag → Pool M Tag
  | .post tag choices =>
    { p with posted := p.posted + 1, queue := p.queue ++ [⟨p.posted, tag, choices, body tag⟩] }
  | .start => p.start workers
  | .advance place => p.advance place

def Pool.run (p : Pool M Tag) (moves : List (Move M Tag)) : Pool M Tag :=
  moves.foldl (Pool.step workers body) p

end Steps

section Advance
variable {p : Pool M Tag} {place : Nat} {t : Task M Tag} {c : Call}
  {rest : Answer c → Program Call Answer Unit}

theorem advance_idle (nobody : p.running[place]? = none) : p.advance place = p := by
  simp only [Pool.advance, nobody]

theorem advance_done (here : p.running[place]? = some t) (done : t.rest = .done ()) :
    p.advance place = { p with running := p.running.eraseIdx place } := by
  simp only [Pool.advance, here, done]

theorem advance_ok (here : p.running[place]? = some t) (calls : t.rest = .call c rest)
    {a : Answer c} (answer : M.answer (t.choices 0) c p.state = .ok a) :
    p.advance place = { p with
      state := M.next (t.choices 0) c p.state
      log := p.log ++ [t.made c p.state]
      running := p.running.set place (t.after (rest a)) } := by
  simp only [Pool.advance, here, calls, answer]

theorem advance_error (here : p.running[place]? = some t) (calls : t.rest = .call c rest)
    {e : M.Fault} (answer : M.answer (t.choices 0) c p.state = .error e) :
    p.advance place = { p with
      state := M.next (t.choices 0) c p.state
      log := p.log ++ [t.made c p.state]
      running := p.running.eraseIdx place
      lost := p.lost + 1 } := by
  simp only [Pool.advance, here, calls, answer]

end Advance

section Numbers

structure Numbered (p : Pool M Tag) : Prop where
  apart : ((p.running ++ p.queue).map Task.number).Nodup
  given : ∀ t ∈ p.running ++ p.queue, t.number < p.posted

theorem running_apart {p : Pool M Tag} (h : Numbered p) : (p.running.map Task.number).Nodup :=
  (List.nodup_append.mp (List.map_append ▸ h.apart)).1

theorem other_number {tasks : List (Task M Tag)} (apart : (tasks.map Task.number).Nodup)
    {i j : Nat} {t u : Task M Tag} (first : tasks[i]? = some t) (second : tasks[j]? = some u)
    (different : j ≠ i) : u.number ≠ t.number := by
  intro same
  have here : (tasks.map Task.number)[i]? = some t.number := by simp [first]
  have there : (tasks.map Task.number)[j]? = some t.number := by simp [second, same]
  obtain ⟨inside, _⟩ := List.getElem?_eq_some_iff.mp there
  exact different ((List.getElem?_inj inside apart).mp (there.trans here.symm))

theorem mem_set_number {tasks : List (Task M Tag)} (apart : (tasks.map Task.number).Nodup)
    {place : Nat} {t u v : Task M Tag} (here : tasks[place]? = some t)
    (member : u ∈ tasks.set place v) : u = v ∨ (u ∈ tasks ∧ u.number ≠ t.number) := by
  obtain ⟨i, found⟩ := List.mem_iff_getElem?.mp member
  rw [List.getElem?_set] at found
  by_cases same : place = i
  · rw [if_pos same] at found
    split at found
    · exact Or.inl (Option.some.inj found).symm
    · cases found
  · rw [if_neg same] at found
    exact Or.inr ⟨List.mem_of_getElem? found,
      other_number apart here found (fun back => same back.symm)⟩

theorem mem_eraseIdx_number {tasks : List (Task M Tag)} (apart : (tasks.map Task.number).Nodup)
    {place : Nat} {t u : Task M Tag} (here : tasks[place]? = some t)
    (member : u ∈ tasks.eraseIdx place) : u ∈ tasks ∧ u.number ≠ t.number := by
  obtain ⟨i, different, found⟩ := List.mem_eraseIdx_iff_getElem?.mp member
  exact ⟨List.mem_of_getElem? found, other_number apart here found different⟩

theorem mem_set_of_number_ne {tasks : List (Task M Tag)} {place : Nat} {t u v : Task M Tag}
    (here : tasks[place]? = some t) (member : u ∈ tasks) (different : u.number ≠ t.number) :
    u ∈ tasks.set place v := by
  obtain ⟨i, found⟩ := List.mem_iff_getElem?.mp member
  have apart : place ≠ i := by
    intro same
    rw [same, found] at here
    exact different (congrArg Task.number (Option.some.inj here))
  refine List.mem_iff_getElem?.mpr ⟨i, ?_⟩
  rw [List.getElem?_set_ne apart, found]

theorem mem_eraseIdx_of_number_ne {tasks : List (Task M Tag)} {place : Nat} {t u : Task M Tag}
    (here : tasks[place]? = some t) (member : u ∈ tasks) (different : u.number ≠ t.number) :
    u ∈ tasks.eraseIdx place := by
  obtain ⟨i, found⟩ := List.mem_iff_getElem?.mp member
  refine List.mem_eraseIdx_iff_getElem?.mpr ⟨i, ?_, found⟩
  intro same
  rw [← same, found] at here
  exact different (congrArg Task.number (Option.some.inj here))

theorem numbered_set {p : Pool M Tag} {place : Nat} {t v : Task M Tag}
    (here : p.running[place]? = some t) (same : v.number = t.number) :
    ((p.running.set place v ++ p.queue).map Task.number) =
      (p.running ++ p.queue).map Task.number := by
  have number : (p.running.map Task.number)[place]? = some v.number := by simp [here, same]
  obtain ⟨inside, value⟩ := List.getElem?_eq_some_iff.mp number
  rw [List.map_append, List.map_append, List.map_set, ← value, List.set_getElem_self]

theorem numbered_step {workers : Nat} {body : Tag → Program Call Answer Unit} {p : Pool M Tag}
    (h : Numbered p) (move : Move M Tag) : Numbered (p.step workers body move) := by
  cases move with
  | post tag choices =>
    constructor
    · simp only [Pool.step]
      rw [← List.append_assoc, List.map_append]
      refine List.nodup_append.mpr ⟨h.apart, by simp, ?_⟩
      intro a ha b hb
      obtain ⟨t, member, same⟩ := List.mem_map.mp ha
      have below := h.given t member
      simp only [List.map_cons, List.map_nil, List.mem_singleton] at hb
      omega
    · simp only [Pool.step, ← List.append_assoc]
      intro t member
      rcases List.mem_append.mp member with old | new
      · have below := h.given t old
        omega
      · rw [List.mem_singleton.mp new]
        exact Nat.lt_succ_self p.posted
  | start =>
    simp only [Pool.step, Pool.start]
    split
    · exact h
    · rename_i t queue waiting
      split
      · have same : (p.running ++ [t]) ++ queue = p.running ++ p.queue := by simp [waiting]
        exact ⟨same ▸ h.apart, same ▸ h.given⟩
      · exact h
  | advance place =>
    simp only [Pool.step]
    have shorter : ∀ place, Numbered { p with running := p.running.eraseIdx place } := by
      intro place
      have sub : (p.running.eraseIdx place ++ p.queue).Sublist (p.running ++ p.queue) :=
        (List.eraseIdx_sublist p.running place).append_right p.queue
      exact ⟨h.apart.sublist (sub.map Task.number), fun t member => h.given t (sub.subset member)⟩
    cases here : p.running[place]? with
    | none =>
      rw [advance_idle here]
      exact h
    | some t =>
      have member := List.mem_of_getElem? here
      cases program : t.rest with
      | done u =>
        rw [advance_done here program]
        exact shorter place
      | call c rest =>
        cases answer : M.answer (t.choices 0) c p.state with
        | ok a =>
          rw [advance_ok here program answer]
          constructor
          · simp only [numbered_set here (v := t.after (rest a)) rfl]
            exact h.apart
          · intro u present
            rcases List.mem_append.mp present with runs | waits
            · rcases List.mem_or_eq_of_mem_set runs with old | new
              · exact h.given u (List.mem_append_left _ old)
              · rw [new]
                exact h.given t (List.mem_append_left _ member)
            · exact h.given u (List.mem_append_right _ waits)
        | error e =>
          rw [advance_error here program answer]
          exact ⟨(shorter place).apart, (shorter place).given⟩

end Numbers

def Unrefused (workers : Nat) (body : Tag → Program Call Answer Unit) :
    Pool M Tag → List (Move M Tag) → Prop
  | _, [] => True
  | p, .start :: rest =>
    p.running.length + p.lost < workers ∧ Unrefused workers body (p.step workers body .start) rest
  | p, move :: rest => Unrefused workers body (p.step workers body move) rest

theorem run_more_workers {few many : Nat} (le : few ≤ many)
    {body : Tag → Program Call Answer Unit} {p : Pool M Tag} {moves : List (Move M Tag)}
    (free : Unrefused few body p moves) : p.run many body moves = p.run few body moves := by
  induction moves generalizing p with
  | nil => rfl
  | cons move rest ih =>
    cases move with
    | post tag choices => exact ih free
    | advance place => exact ih free
    | start =>
      obtain ⟨idle, later_free⟩ := free
      have same : p.step many body .start = p.step few body .start := by
        have more : p.running.length + p.lost < many := by omega
        simp only [Pool.step, Pool.start, idle, more]
      have tail := ih later_free
      rw [← same] at tail
      simp only [Pool.run, List.foldl_cons] at tail ⊢
      rw [tail, same]

section Serial

/-- The log of tasks run one after the other, each to its end. -/
def serialLog : List (Task M Tag) → M.State → List (Entry M Tag)
  | [], _ => []
  | t :: rest, s =>
    (t.rest.trace M t.choices s).map (fun e => ⟨t.number, t.tag, e⟩) ++
      serialLog rest (t.rest.final M t.choices s)

def serialState : List (Task M Tag) → M.State → M.State
  | [], s => s
  | t :: rest, s => serialState rest (t.rest.final M t.choices s)

theorem serialLog_append (first second : List (Task M Tag)) (s : M.State) :
    serialLog (first ++ second) s = serialLog first s ++ serialLog second (serialState first s) := by
  induction first generalizing s with
  | nil => rfl
  | cons t rest ih => simp only [List.cons_append, serialLog, serialState, ih, List.append_assoc]

theorem serialState_append (first second : List (Task M Tag)) (s : M.State) :
    serialState (first ++ second) s = serialState second (serialState first s) := by
  induction first generalizing s with
  | nil => rfl
  | cons t rest ih => simp only [List.cons_append, serialState, ih]

theorem mem_serialLog {tasks : List (Task M Tag)} {s : M.State} {e : Entry M Tag}
    (made : e ∈ serialLog tasks s) :
    ∃ before t rest, tasks = before ++ t :: rest ∧ e.number = t.number ∧ e.tag = t.tag ∧
      e.event ∈ t.rest.trace M t.choices (serialState before s) := by
  induction tasks generalizing s with
  | nil => cases made
  | cons t rest ih =>
    simp only [serialLog, List.mem_append, List.mem_map] at made
    rcases made with ⟨event, present, same⟩ | tail
    · subst same
      exact ⟨[], t, rest, rfl, rfl, rfl, present⟩
    · obtain ⟨before, u, after, split, number, tag, present⟩ := ih tail
      exact ⟨t :: before, u, after, by rw [split, List.cons_append], number, tag, present⟩

theorem serialLog_sorted {tasks : List (Task M Tag)}
    (sorted : tasks.Pairwise (fun t u => t.number < u.number)) (s : M.State) :
    (serialLog tasks s).Pairwise (fun a b => a.number ≤ b.number) := by
  induction tasks generalizing s with
  | nil => exact .nil
  | cons t rest ih =>
    obtain ⟨first, others⟩ := List.pairwise_cons.mp sorted
    simp only [serialLog]
    refine List.pairwise_append.mpr ⟨?_, ih others _, ?_⟩
    · rw [List.pairwise_map]
      exact List.pairwise_of_forall (fun _ _ => Nat.le_refl _)
    · intro a ha b hb
      obtain ⟨event, _, same⟩ := List.mem_map.mp ha
      obtain ⟨before, u, after, split, number, _, _⟩ := mem_serialLog hb
      have member : u ∈ rest := by simp [split]
      have earlier := first u member
      rw [← same, number]
      exact Nat.le_of_lt earlier

variable (workers : Nat) (body : Tag → Program Call Answer Unit)

/-- What has run so far is the beginning of `started` run one after the other: what the
    running task has left completes it. -/
structure SerialSoFar (s : M.State) (started : List (Task M Tag)) (p : Pool M Tag) : Prop where
  alone : p.running.length + p.lost ≤ 1
  numbers : (started ++ p.queue).map Task.number = List.range p.posted
  bodies : ∀ t ∈ started ++ p.queue, t.rest = body t.tag
  log : p.log ++ serialLog p.running p.state = serialLog started s
  state : serialState p.running p.state = serialState started s

variable {workers body}

theorem serialSoFar_post {s : M.State} {started : List (Task M Tag)} {p : Pool M Tag}
    (h : SerialSoFar body s started p) (tag : Tag) (choices : Nat → M.Choice) :
    SerialSoFar body s started (p.step workers body (.post tag choices)) where
  alone := h.alone
  numbers := by
    simp only [Pool.step]
    rw [← List.append_assoc, List.map_append, h.numbers, List.range_succ]
    rfl
  bodies := by
    simp only [Pool.step]
    intro t member
    rw [← List.append_assoc, List.mem_append] at member
    rcases member with old | new
    · exact h.bodies t old
    · rw [List.mem_singleton.mp new]
  log := h.log
  state := h.state

theorem serialSoFar_start (one : workers ≤ 1) {s : M.State} {started : List (Task M Tag)}
    {p : Pool M Tag} (h : SerialSoFar body s started p) :
    ∃ now, SerialSoFar body s now (p.start workers) := by
  unfold Pool.start
  split
  · exact ⟨started, h⟩
  · rename_i t queue waiting
    split
    · rename_i free
      have idle : p.running = [] := List.eq_nil_of_length_eq_zero (by omega)
      have log := h.log
      have state := h.state
      have numbers := h.numbers
      have bodies := h.bodies
      rw [idle] at log state
      rw [waiting] at numbers bodies
      simp only [serialLog, serialState, List.append_nil] at log state
      refine ⟨started ++ [t], ?_, ?_, ?_, ?_, ?_⟩
      · simp only [idle, List.nil_append, List.length_singleton]
        omega
      · simpa using numbers
      · simpa using bodies
      · simp only [idle, List.nil_append]
        rw [serialLog_append, ← log, ← state]
      · simp only [idle, List.nil_append]
        rw [serialState_append, ← state]
    · exact ⟨started, h⟩

theorem serialSoFar_advance {s : M.State} {started : List (Task M Tag)} {p : Pool M Tag}
    (h : SerialSoFar body s started p) (place : Nat) :
    SerialSoFar body s started (p.advance place) := by
  cases here : p.running[place]? with
  | none =>
    rw [advance_idle here]
    exact h
  | some t =>
    have inside := (List.getElem?_eq_some_iff.mp here).1
    have alone := h.alone
    have first : place = 0 := by omega
    subst first
    have running : p.running = [t] := by
      cases all : p.running with
      | nil => simp [all] at here
      | cons u rest =>
        simp only [all, List.getElem?_cons_zero, Option.some.injEq] at here
        rw [all, List.length_cons] at alone
        rw [here, List.eq_nil_of_length_eq_zero (l := rest) (by omega)]
    have log := h.log
    have state := h.state
    rw [running] at log state alone
    rw [List.length_singleton] at alone
    cases program : t.rest with
    | done u =>
      rw [advance_done here program, running]
      refine ⟨?_, h.numbers, h.bodies, ?_, ?_⟩
      · simp only [List.eraseIdx_zero, List.tail_cons, List.length_nil]
        omega
      · simpa [serialLog, program] using log
      · simpa [serialState, program] using state
    | call c rest =>
      simp only [serialLog, serialState, program, Program.trace, Program.final,
        List.append_nil] at log state
      cases answer : M.answer (t.choices 0) c p.state with
      | ok a =>
        rw [advance_ok here program answer, running]
        simp only [answer, List.map_cons] at log state
        refine ⟨?_, h.numbers, h.bodies, ?_, ?_⟩
        · simp only [List.set_cons_zero, List.length_singleton]
          omega
        · simpa [serialLog, Task.after, Task.made] using log
        · simpa [serialState, Task.after] using state
      | error e =>
        rw [advance_error here program answer, running]
        simp only [answer, List.map_cons, List.map_nil] at log state
        refine ⟨?_, h.numbers, h.bodies, ?_, ?_⟩
        · simp only [List.eraseIdx_zero, List.tail_cons, List.length_nil]
          omega
        · simpa [serialLog, Task.made] using log
        · simpa [serialState] using state

/-- One worker is no concurrency: whatever it has logged begins the serial log of the
    tasks it has started, in the order they were posted. -/
theorem one_worker_is_serial (one : workers ≤ 1) (s : M.State) (moves : List (Move M Tag)) :
    ∃ started, SerialSoFar body s started ((Pool.idle s).run workers body moves) := by
  have general : ∀ (p : Pool M Tag) (started : List (Task M Tag)), SerialSoFar body s started p →
      ∃ now, SerialSoFar body s now (p.run workers body moves) := by
    induction moves with
    | nil => exact fun p started h => ⟨started, h⟩
    | cons move rest ih =>
      intro p started h
      have next : ∃ now, SerialSoFar body s now (p.step workers body move) := by
        cases move with
        | post tag choices => exact ⟨started, serialSoFar_post h tag choices⟩
        | start => exact serialSoFar_start one h
        | advance place => exact ⟨started, serialSoFar_advance h place⟩
      obtain ⟨now, kept⟩ := next
      exact ih _ now kept
  refine general (Pool.idle s) [] ⟨?_, ?_, ?_, ?_, ?_⟩
  · simp [Pool.idle]
  · simp [Pool.idle]
  · simp [Pool.idle]
  · simp [Pool.idle, serialLog]
  · simp [Pool.idle, serialState]

end Serial

end WorkerPool
