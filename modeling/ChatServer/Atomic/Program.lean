import Mathlib

/-!
Programs of atomic calls. A program is a tree: it either is finished or makes one
call and continues with the answer. A machine says what one call answers, how it
changes the state and what it sends out. The same tree is run here on its own;
`WorkerPool` runs many of them with their calls interleaved.
-/
namespace AtomicCalls

inductive Program (Call : Type) (Answer : Call → Type) (α : Type) where
  | done : α → Program Call Answer α
  | call (c : Call) (rest : Answer c → Program Call Answer α) : Program Call Answer α

variable {Call : Type} {Answer : Call → Type} {α β γ : Type}

def Program.bind (p : Program Call Answer α) (f : α → Program Call Answer β) :
    Program Call Answer β :=
  match p with
  | .done a => f a
  | .call c rest => .call c (fun a => (rest a).bind f)

instance : Monad (Program Call Answer) where
  pure := .done
  bind := .bind

/-- One atomic call, answered by whatever runs the program. -/
def perform (c : Call) : Program Call Answer (Answer c) := .call c .done

@[simp] theorem perform_bind (c : Call) (f : Answer c → Program Call Answer α) :
    perform c >>= f = .call c f := rfl

@[simp] theorem call_bind (c : Call) (rest : Answer c → Program Call Answer α)
    (f : α → Program Call Answer β) :
    Program.call c rest >>= f = .call c (fun a => rest a >>= f) := rfl

@[simp] theorem pure_eq_done (a : α) : (pure a : Program Call Answer α) = .done a := rfl

@[simp] theorem done_bind (a : α) (f : α → Program Call Answer β) :
    Program.done a >>= f = f a := rfl

theorem bind_done (p : Program Call Answer α) : p.bind .done = p := by
  induction p with
  | done a => rfl
  | call c rest ih => simp only [Program.bind, ih]

theorem bind_bind (p : Program Call Answer α) (f : α → Program Call Answer β)
    (g : β → Program Call Answer γ) :
    (p.bind f).bind g = p.bind (fun a => (f a).bind g) := by
  induction p with
  | done a => rfl
  | call c rest ih => simp only [Program.bind, ih]

instance : LawfulMonad (Program Call Answer) :=
  LawfulMonad.mk' _ bind_done (fun _ _ => rfl) bind_bind

/-- How single calls behave. A failed answer ends the program that made the call. -/
structure Machine (Call : Type) (Answer : Call → Type) where
  State : Type
  Choice : Type
  Fault : Type
  Output : Type
  answer : Choice → (c : Call) → State → Except Fault (Answer c)
  next : Choice → Call → State → State
  emit : Choice → Call → State → List Output

/-- One call of a run: where it was made, the choice it used and its answer. -/
structure Event (M : Machine Call Answer) where
  state : M.State
  choice : M.Choice
  call : Call

variable (M : Machine Call Answer)

def Event.answer {M : Machine Call Answer} (e : Event M) : Except M.Fault (Answer e.call) :=
  M.answer e.choice e.call e.state

def later {χ : Type} (choices : Nat → χ) : Nat → χ := fun n => choices (n + 1)

@[simp] theorem later_apply {χ : Type} (choices : Nat → χ) (n : Nat) :
    later choices n = choices (n + 1) := rfl

def Program.result : Program Call Answer α → (Nat → M.Choice) → M.State → Except M.Fault α
  | .done a, _, _ => .ok a
  | .call c rest, choices, s =>
    match M.answer (choices 0) c s with
    | .ok a => (rest a).result (later choices) (M.next (choices 0) c s)
    | .error e => .error e

def Program.final : Program Call Answer α → (Nat → M.Choice) → M.State → M.State
  | .done _, _, s => s
  | .call c rest, choices, s =>
    match M.answer (choices 0) c s with
    | .ok a => (rest a).final (later choices) (M.next (choices 0) c s)
    | .error _ => M.next (choices 0) c s

def Program.trace : Program Call Answer α → (Nat → M.Choice) → M.State → List (Event M)
  | .done _, _, _ => []
  | .call c rest, choices, s =>
    ⟨s, choices 0, c⟩ :: match M.answer (choices 0) c s with
      | .ok a => (rest a).trace (later choices) (M.next (choices 0) c s)
      | .error _ => []

attribute [simp] Program.result Program.final Program.trace

@[simp] theorem result_perform (c : Call) (choices : Nat → M.Choice) (s : M.State) :
    (perform c).result M choices s = M.answer (choices 0) c s := by
  simp only [perform, Program.result]
  cases M.answer (choices 0) c s <;> rfl

@[simp] theorem final_perform (c : Call) (choices : Nat → M.Choice) (s : M.State) :
    (perform c).final M choices s = M.next (choices 0) c s := by
  simp only [perform, Program.final]
  cases M.answer (choices 0) c s <;> rfl

@[simp] theorem trace_perform (c : Call) (choices : Nat → M.Choice) (s : M.State) :
    (perform c).trace M choices s = [⟨s, choices 0, c⟩] := by
  simp only [perform, Program.trace]
  cases M.answer (choices 0) c s <;> rfl

def Event.output {M : Machine Call Answer} (e : Event M) : List M.Output :=
  M.emit e.choice e.call e.state

def Program.output (p : Program Call Answer α) (choices : Nat → M.Choice) (s : M.State) :
    List M.Output :=
  (p.trace M choices s).flatMap Event.output

@[simp] theorem output_done (a : α) (choices : Nat → M.Choice) (s : M.State) :
    (Program.done a : Program Call Answer α).output M choices s = [] := rfl

@[simp] theorem output_call (c : Call) (rest : Answer c → Program Call Answer α)
    (choices : Nat → M.Choice) (s : M.State) :
    (Program.call c rest).output M choices s = M.emit (choices 0) c s ++
      match M.answer (choices 0) c s with
      | .ok a => (rest a).output M (later choices) (M.next (choices 0) c s)
      | .error _ => [] := by
  simp only [Program.output, Program.trace, List.flatMap_cons, Event.output]
  cases M.answer (choices 0) c s <;> rfl

@[simp] theorem output_perform (c : Call) (choices : Nat → M.Choice) (s : M.State) :
    (perform c).output M choices s = M.emit (choices 0) c s := by
  simp [Program.output, Event.output]

def Program.choicesAfter (p : Program Call Answer α) (choices : Nat → M.Choice) (s : M.State) :
    Nat → M.Choice := fun n => choices (n + (p.trace M choices s).length)

@[simp] theorem choices_after_done (a : α) (choices : Nat → M.Choice) (s : M.State) :
    (Program.done a : Program Call Answer α).choicesAfter M choices s = choices := rfl

theorem choices_after_call {c : Call} {rest : Answer c → Program Call Answer α}
    {choices : Nat → M.Choice} {s : M.State} {a : Answer c}
    (answer : M.answer (choices 0) c s = .ok a) :
    (Program.call c rest).choicesAfter M choices s =
      (rest a).choicesAfter M (later choices) (M.next (choices 0) c s) := by
  funext n
  simp only [Program.choicesAfter, Program.trace, answer, List.length_cons, later]
  rfl

theorem result_bind (p : Program Call Answer α) (f : α → Program Call Answer β)
    (choices : Nat → M.Choice) (s : M.State) :
    (p >>= f).result M choices s = match p.result M choices s with
      | .ok a => (f a).result M (p.choicesAfter M choices s) (p.final M choices s)
      | .error e => .error e := by
  induction p generalizing choices s with
  | done a => rfl
  | call c rest ih =>
    simp only [call_bind, Program.result, Program.final]
    cases answer : M.answer (choices 0) c s with
    | error e => rfl
    | ok a => simp only [ih, choices_after_call M answer]

theorem final_bind (p : Program Call Answer α) (f : α → Program Call Answer β)
    (choices : Nat → M.Choice) (s : M.State) :
    (p >>= f).final M choices s = match p.result M choices s with
      | .ok a => (f a).final M (p.choicesAfter M choices s) (p.final M choices s)
      | .error _ => p.final M choices s := by
  induction p generalizing choices s with
  | done a => rfl
  | call c rest ih =>
    simp only [call_bind, Program.result, Program.final]
    cases answer : M.answer (choices 0) c s with
    | error e => rfl
    | ok a => simp only [ih, choices_after_call M answer]

theorem trace_bind (p : Program Call Answer α) (f : α → Program Call Answer β)
    (choices : Nat → M.Choice) (s : M.State) :
    (p >>= f).trace M choices s = p.trace M choices s ++ match p.result M choices s with
      | .ok a => (f a).trace M (p.choicesAfter M choices s) (p.final M choices s)
      | .error _ => [] := by
  induction p generalizing choices s with
  | done a => rfl
  | call c rest ih =>
    simp only [call_bind, Program.result, Program.final, Program.trace]
    cases answer : M.answer (choices 0) c s with
    | error e => rfl
    | ok a => simp only [ih, choices_after_call M answer, List.cons_append]

/-- A sequence sends what its first part sends and then, if that returned, the rest. -/
theorem output_bind (p : Program Call Answer α) (f : α → Program Call Answer β)
    (choices : Nat → M.Choice) (s : M.State) :
    (p >>= f).output M choices s = p.output M choices s ++ match p.result M choices s with
      | .ok a => (f a).output M (p.choicesAfter M choices s) (p.final M choices s)
      | .error _ => [] := by
  simp only [Program.output, trace_bind, List.flatMap_append]
  cases p.result M choices s <;> rfl

/-- Every call the program can make, whatever it is answered, is allowed. -/
def Program.Uses (allowed : Call → Prop) : Program Call Answer α → Prop
  | .done _ => True
  | .call c rest => allowed c ∧ ∀ a, (rest a).Uses allowed

attribute [simp] Program.Uses

@[simp] theorem uses_perform (allowed : Call → Prop) (c : Call) :
    (perform c : Program Call Answer (Answer c)).Uses allowed ↔ allowed c := by
  simp [perform]

variable {M : Machine Call Answer} {allowed other : Call → Prop}

theorem uses_bind {p : Program Call Answer α} {f : α → Program Call Answer β}
    (first : p.Uses allowed) (then_uses : ∀ a, (f a).Uses allowed) : (p >>= f).Uses allowed := by
  induction p with
  | done a => exact then_uses a
  | call c rest ih => exact ⟨first.1, fun a => ih a (first.2 a)⟩

theorem uses_mono {p : Program Call Answer α} (weaken : ∀ c, allowed c → other c)
    (h : p.Uses allowed) : p.Uses other := by
  induction p with
  | done a => trivial
  | call c rest ih => exact ⟨weaken c h.1, fun a => ih a (h.2 a)⟩

theorem final_keeps (P : M.State → Prop)
    (keep : ∀ choice c s, allowed c → P s → P (M.next choice c s))
    {p : Program Call Answer α} (uses : p.Uses allowed) (choices : Nat → M.Choice)
    {s : M.State} (start : P s) : P (p.final M choices s) := by
  induction p generalizing choices s with
  | done a => exact start
  | call c rest ih =>
    have kept := keep (choices 0) c s uses.1 start
    simp only [Program.final]
    cases M.answer (choices 0) c s with
    | error e => exact kept
    | ok a => exact ih a (uses.2 a) (later choices) kept

theorem result_ok (P : M.State → Prop)
    (answers : ∀ choice c s, allowed c → P s → ∃ a, M.answer choice c s = .ok a)
    (keep : ∀ choice c s, allowed c → P s → P (M.next choice c s))
    {p : Program Call Answer α} (uses : p.Uses allowed) (choices : Nat → M.Choice)
    {s : M.State} (start : P s) : ∃ a, p.result M choices s = .ok a := by
  induction p generalizing choices s with
  | done a => exact ⟨a, rfl⟩
  | call c rest ih =>
    obtain ⟨a, answer⟩ := answers (choices 0) c s uses.1 start
    have kept := keep (choices 0) c s uses.1 start
    simp only [Program.result, answer]
    exact ih a (uses.2 a) (later choices) kept

theorem uses_anything (p : Program Call Answer α) : p.Uses (fun _ => True) := by
  induction p with
  | done a => trivial
  | call c rest ih => exact ⟨trivial, ih⟩

theorem final_since (P : M.State → Prop)
    (keep : ∀ choice c s, P s → P (M.next choice c s)) {p : Program Call Answer α}
    {choices : Nat → M.Choice} {s : M.State} {e : Event M} (made : e ∈ p.trace M choices s)
    (sets : P (M.next e.choice e.call e.state)) : P (p.final M choices s) := by
  induction p generalizing choices s with
  | done a => cases made
  | call c rest ih =>
    simp only [Program.trace, List.mem_cons] at made
    simp only [Program.final]
    cases answer : M.answer (choices 0) c s with
    | error fault =>
      simp only [answer, List.not_mem_nil, or_false] at made
      subst made
      exact sets
    | ok a =>
      simp only [answer] at made
      rcases made with first | tail
      · subst first
        exact final_keeps P (fun choice c s _ => keep choice c s) (uses_anything (rest a))
          (later choices) sets
      · exact ih a tail

theorem final_same (keep : ∀ choice c s, allowed c → M.next choice c s = s)
    {p : Program Call Answer α} (uses : p.Uses allowed) (choices : Nat → M.Choice)
    (s : M.State) : p.final M choices s = s :=
  final_keeps (· = s) (fun choice c t ok same => same ▸ keep choice c t ok) uses choices rfl

theorem trace_uses {p : Program Call Answer α} (uses : p.Uses allowed)
    (choices : Nat → M.Choice) (s : M.State) :
    ∀ e ∈ p.trace M choices s, allowed e.call := by
  induction p generalizing choices s with
  | done a => simp [Program.trace]
  | call c rest ih =>
    simp only [Program.trace]
    cases M.answer (choices 0) c s with
    | error e => simpa using uses.1
    | ok a =>
      simp only [List.mem_cons, forall_eq_or_imp]
      exact ⟨uses.1, ih a (uses.2 a) (later choices) (M.next (choices 0) c s)⟩

end AtomicCalls
