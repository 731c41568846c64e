import ChatServer.Atomic.Program

/-!
Runs of a system that handles one event after the other. `EveryState` speaks about
all states a run passes through, `EveryStep` about all events in the states they
were handled in.
-/
namespace EventRuns
variable {State Event : Type}

def after (step : State → Event → State) (s : State) (events : List Event) : State :=
  events.foldl step s

def EveryState (step : State → Event → State) (P : State → Prop) :
    State → List Event → Prop
  | s, [] => P s
  | s, e :: rest => P s ∧ EveryState step P (step s e) rest

def EveryStep (step : State → Event → State) (C : State → Event → Prop) :
    State → List Event → Prop
  | _, [] => True
  | s, e :: rest => C s e ∧ EveryStep step C (step s e) rest

def SomeStep (step : State → Event → State) (C : State → Event → Prop) (s : State)
    (events : List Event) : Prop :=
  ∃ pre e later, events = pre ++ e :: later ∧ C (after step s pre) e

def outputs {Output : Type} (step : State → Event → State)
    (emit : State → Event → List Output) : State → List Event → List Output
  | _, [] => []
  | s, e :: rest => emit s e ++ outputs step emit (step s e) rest

variable {step : State → Event → State} {P Q : State → Prop} {C D : State → Event → Prop}

theorem after_append (s : State) (first second : List Event) :
    after step s (first ++ second) = after step (after step s first) second :=
  List.foldl_append

theorem after_snoc (s : State) (events : List Event) (e : Event) :
    after step s (events ++ [e]) = step (after step s events) e := by
  simp [after]

theorem not_someStep_nil (s : State) : ¬ SomeStep step C s [] := by
  intro some_step
  obtain ⟨pre, e, later, same, _⟩ := some_step
  simp at same

theorem someStep_snoc (s : State) (events : List Event) (e : Event) :
    SomeStep step C s (events ++ [e]) ↔ SomeStep step C s events ∨ C (after step s events) e := by
  constructor
  · intro some_step
    obtain ⟨pre, d, later, same, meets⟩ := some_step
    rcases List.eq_nil_or_concat later with last | more
    · subst last
      obtain ⟨same_events, same_last⟩ := List.append_inj' same rfl
      cases same_last
      subst same_events
      exact Or.inr meets
    · obtain ⟨front, last, snoc⟩ := more
      subst snoc
      rw [List.concat_eq_append, ← List.cons_append, ← List.append_assoc] at same
      obtain ⟨same_events, _⟩ := List.append_inj' same rfl
      exact Or.inl ⟨pre, d, front, same_events, meets⟩
  · intro either
    rcases either with before | now
    · obtain ⟨pre, d, later, same, meets⟩ := before
      exact ⟨pre, d, later ++ [e], by simp [same], meets⟩
    · exact ⟨events, e, [], rfl, now⟩

section Outputs
variable {Output : Type} {emit : State → Event → List Output}

theorem outputs_append (s : State) (first second : List Event) :
    outputs step emit s (first ++ second) =
      outputs step emit s first ++ outputs step emit (after step s first) second := by
  induction first generalizing s with
  | nil => rfl
  | cons e rest ih =>
    simp only [List.cons_append, outputs, ih, List.append_assoc]
    rfl

theorem outputs_snoc (s : State) (events : List Event) (e : Event) :
    outputs step emit s (events ++ [e]) =
      outputs step emit s events ++ emit (after step s events) e := by
  simp [outputs_append, outputs]

end Outputs

theorem everyStep_append (s : State) (first second : List Event) :
    EveryStep step C s (first ++ second) ↔
      EveryStep step C s first ∧ EveryStep step C (after step s first) second := by
  induction first generalizing s with
  | nil => simp [EveryStep, after]
  | cons e rest ih =>
    simp only [List.cons_append, EveryStep, ih, and_assoc]
    rfl

theorem everyStep_of_forall (always : ∀ s e, C s e) (s : State) (events : List Event) :
    EveryStep step C s events := by
  induction events generalizing s with
  | nil => trivial
  | cons e rest ih => exact ⟨always s e, ih (step s e)⟩

theorem everyStep_of_mem {events : List Event} (all : ∀ e ∈ events, ∀ s, C s e) (s : State) :
    EveryStep step C s events := by
  induction events generalizing s with
  | nil => trivial
  | cons e rest ih =>
    exact ⟨all e List.mem_cons_self s, ih (fun d there => all d (List.mem_cons_of_mem e there))
      (step s e)⟩

theorem everyStep_and (s : State) (events : List Event) :
    EveryStep step (fun s e => C s e ∧ D s e) s events ↔
      EveryStep step C s events ∧ EveryStep step D s events := by
  induction events generalizing s with
  | nil => simp [EveryStep]
  | cons e rest ih =>
    simp only [EveryStep, ih]
    tauto

theorem everyStep_iff_of_everyState (same : ∀ s e, P s → (C s e ↔ D s e)) {s : State}
    {events : List Event} (states : EveryState step P s events) :
    EveryStep step C s events ↔ EveryStep step D s events := by
  induction events generalizing s with
  | nil => exact Iff.rfl
  | cons e rest ih =>
    have here := same s e states.1
    have there := ih states.2
    simp only [EveryStep, here, there]

theorem everyState_start {s : State} {events : List Event}
    (h : EveryState step P s events) : P s := by
  cases events with
  | nil => exact h
  | cons e rest => exact h.1

/-- `EveryState` is what "in every reachable state" says, prefix by prefix. -/
theorem everyState_iff_prefixes (s : State) (events : List Event) :
    EveryState step P s events ↔ ∀ pre, pre <+: events → P (after step s pre) := by
  induction events generalizing s with
  | nil => simp [EveryState, after]
  | cons e rest ih =>
    rw [EveryState, ih]
    constructor
    · intro both pre hpre
      obtain ⟨start, later⟩ := both
      cases pre with
      | nil => exact start
      | cons d pre =>
        obtain ⟨same, tail⟩ := List.cons_prefix_cons.mp hpre
        subst same
        exact later pre tail
    · intro all
      exact ⟨all [] List.nil_prefix,
        fun pre hpre => all (e :: pre) (List.cons_prefix_cons.mpr ⟨rfl, hpre⟩)⟩

theorem everyState_last {s : State} {events : List Event}
    (h : EveryState step P s events) : P (after step s events) :=
  (everyState_iff_prefixes s events).mp h events List.prefix_rfl

theorem everyState_iff_everyStep (exact_step : ∀ s e, P s → (P (step s e) ↔ C s e))
    {s : State} (start : P s) (events : List Event) :
    EveryState step P s events ↔ EveryStep step C s events := by
  induction events generalizing s with
  | nil => simp [EveryState, EveryStep, start]
  | cons e rest ih =>
    constructor
    · intro states
      obtain ⟨_, later⟩ := states
      have kept : P (step s e) := everyState_start later
      exact ⟨(exact_step s e start).mp kept, (ih kept).mp later⟩
    · intro steps
      obtain ⟨ok, later⟩ := steps
      have kept : P (step s e) := (exact_step s e start).mpr ok
      exact ⟨start, (ih kept).mpr later⟩

/-- The same beside an invariant that every step keeps. -/
theorem everyState_iff_everyStep_beside {I : State → Prop} (keep : ∀ s e, I s → I (step s e))
    (exact_step : ∀ s e, I s → P s → (P (step s e) ↔ C s e)) {s : State} (inv : I s)
    (start : P s) (events : List Event) :
    EveryState step P s events ↔ EveryStep step C s events := by
  induction events generalizing s with
  | nil => simp [EveryState, EveryStep, start]
  | cons e rest ih =>
    constructor
    · intro states
      have kept : P (step s e) := everyState_start states.2
      exact ⟨(exact_step s e inv start).mp kept, (ih (keep s e inv) kept).mp states.2⟩
    · intro steps
      have kept : P (step s e) := (exact_step s e inv start).mpr steps.1
      exact ⟨start, (ih (keep s e inv) kept).mpr steps.2⟩

/-- The same for the runs whose steps all meet `D`, beside an invariant that is only kept
    where `P` holds. -/
theorem everyState_iff_everyStep_given {I : State → Prop}
    (keep : ∀ s e, D s e → I s → P s → I (step s e))
    (exact_step : ∀ s e, D s e → I s → P s → (P (step s e) ↔ C s e)) {s : State} (inv : I s)
    (start : P s) {events : List Event} (given : EveryStep step D s events) :
    EveryState step P s events ↔ EveryStep step C s events := by
  induction events generalizing s with
  | nil => simp [EveryState, EveryStep, start]
  | cons e rest ih =>
    have kept := keep s e given.1 inv start
    have here := exact_step s e given.1 inv start
    constructor
    · intro states
      have next : P (step s e) := everyState_start states.2
      exact ⟨here.mp next, (ih kept next given.2).mp states.2⟩
    · intro steps
      have next : P (step s e) := here.mpr steps.1
      exact ⟨start, (ih kept next given.2).mpr steps.2⟩

theorem everyState_of_everyStep (keep : ∀ s e, P s → C s e → P (step s e))
    {s : State} (start : P s) {events : List Event} (ok : EveryStep step C s events) :
    EveryState step P s events := by
  induction events generalizing s with
  | nil => exact start
  | cons e rest ih => exact ⟨start, ih (keep s e start ok.1) ok.2⟩

theorem everyState_mono (weaken : ∀ s, P s → Q s) {s : State} {events : List Event}
    (h : EveryState step P s events) : EveryState step Q s events := by
  induction events generalizing s with
  | nil => exact weaken s h
  | cons e rest ih => exact ⟨weaken s h.1, ih h.2⟩

theorem everyState_and {s : State} {events : List Event} (first : EveryState step P s events)
    (second : EveryState step Q s events) : EveryState step (fun s => P s ∧ Q s) s events := by
  induction events generalizing s with
  | nil => exact ⟨first, second⟩
  | cons e rest ih => exact ⟨⟨first.1, second.1⟩, ih first.2 second.2⟩

/-- Along a run that keeps the invariant `P`, the condition `C` of a step may be
    traded for what it implies in a state with `P`. -/
theorem everyStep_of_everyStep (keep : ∀ s e, P s → C s e → P (step s e))
    (use : ∀ s e, P s → C s e → D s e) {s : State} (start : P s) {events : List Event}
    (ok : EveryStep step C s events) : EveryStep step D s events := by
  induction events generalizing s with
  | nil => trivial
  | cons e rest ih => exact ⟨use s e start ok.1, ih (keep s e start ok.1) ok.2⟩

end EventRuns
