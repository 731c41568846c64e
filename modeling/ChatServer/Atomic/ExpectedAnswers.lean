import ChatServer.Atomic.Runs
import ChatServer.Atomic.WorkerPool

/-!
What a program does as long as its calls are answered as expected. A program meets its
contract when it then makes allowed calls only and gives a good result; on a pool every
task keeps its own contract, whatever the others do.
-/
namespace ExpectedAnswers
open AtomicCalls EventRuns WorkerPool

variable {Call : Type} {Answer : Call → Type} {α β : Type}

section Contracts
variable (expected : (c : Call) → Answer c → Prop) (allowed : Call → Prop)

def Meets (good : α → Prop) : Program Call Answer α → Prop
  | .done a => good a
  | .call c rest => allowed c ∧ ∀ a, expected c a → Meets good (rest a)

variable {expected allowed}

theorem meets_bind {good : α → Prop} {fine : β → Prop} {p : Program Call Answer α}
    {f : α → Program Call Answer β} (first : Meets expected allowed good p)
    (second : ∀ a, good a → Meets expected allowed fine (f a)) :
    Meets expected allowed fine (p >>= f) := by
  induction p with
  | done a => exact second a first
  | call c rest ih => exact ⟨first.1, fun a answer => ih a (first.2 a answer)⟩

theorem meets_of_uses {p : Program Call Answer α} (uses : p.Uses allowed) :
    Meets expected allowed (fun _ => True) p := by
  induction p with
  | done a => trivial
  | call c rest ih => exact ⟨uses.1, fun a _ => ih a (uses.2 a)⟩

end Contracts

variable {M : Machine Call Answer} {Tag : Type}

section Pools
variable (expected : (c : Call) → Answer c → Prop) (allowed : Tag → Call → Prop)
  (workers : Nat) (body : Tag → Program Call Answer Unit)

/-- A task is posted that meets its contract, or a call is answered as expected. -/
def MoveExpected (p : Pool M Tag) : Move M Tag → Prop
  | .post tag _ => Meets expected (allowed tag) (fun _ => True) (body tag)
  | .start => True
  | .advance place => ∀ t c rest a, p.running[place]? = some t → t.rest = .call c rest →
      M.answer (t.choices 0) c p.state = .ok a → expected c a

def KeepsContract (t : Task M Tag) : Prop :=
  Meets expected (allowed t.tag) (fun _ => True) t.rest

/-- Every task that waits or runs keeps its contract, and so did every call made. -/
structure Contracted (p : Pool M Tag) : Prop where
  waiting : ∀ t ∈ p.queue, KeepsContract expected allowed t
  running : ∀ t ∈ p.running, KeepsContract expected allowed t
  made : ∀ e ∈ p.log, allowed e.tag e.event.call

variable {expected allowed workers body}

theorem contracted_idle (s : M.State) : Contracted expected allowed (Pool.idle s : Pool M Tag) :=
  ⟨List.forall_mem_nil _, List.forall_mem_nil _, List.forall_mem_nil _⟩

theorem contracted_advance {p : Pool M Tag} (h : Contracted expected allowed p) {place : Nat}
    (ok : MoveExpected expected allowed body p (.advance place)) :
    Contracted expected allowed (p.advance place) := by
  cases here : p.running[place]? with
  | none =>
    rw [advance_idle here]
    exact h
  | some t =>
    have contract := h.running t (List.mem_of_getElem? here)
    cases program : t.rest with
    | done u =>
      rw [advance_done here program]
      exact ⟨h.waiting, fun u left => h.running u (List.mem_of_mem_eraseIdx left), h.made⟩
    | call c rest =>
      unfold KeepsContract at contract
      rw [program] at contract
      obtain ⟨permitted, next⟩ := contract
      have made : ∀ e ∈ p.log ++ [t.made c p.state], allowed e.tag e.event.call := by
        intro e there
        rcases List.mem_append.mp there with old | new
        · exact h.made e old
        · rw [List.mem_singleton.mp new]
          exact permitted
      cases answer : M.answer (t.choices 0) c p.state with
      | ok a =>
        rw [advance_ok here program answer]
        refine ⟨h.waiting, ?_, made⟩
        intro u present
        rcases List.mem_or_eq_of_mem_set present with old | new
        · exact h.running u old
        · rw [new]
          exact next a (ok t c rest a here program answer)
      | error e =>
        rw [advance_error here program answer]
        exact ⟨h.waiting, fun u left => h.running u (List.mem_of_mem_eraseIdx left), made⟩

theorem contracted_step {p : Pool M Tag} {move : Move M Tag} (h : Contracted expected allowed p)
    (ok : MoveExpected expected allowed body p move) :
    Contracted expected allowed (p.step workers body move) := by
  cases move with
  | post tag choices =>
    refine ⟨?_, h.running, h.made⟩
    intro t there
    rcases List.mem_append.mp there with old | new
    · exact h.waiting t old
    · rw [List.mem_singleton.mp new]
      exact ok
  | start =>
    simp only [Pool.step, Pool.start]
    split
    · exact h
    · rename_i t queue waiting
      split
      · refine ⟨?_, ?_, h.made⟩
        · intro u there
          exact h.waiting u (by rw [waiting]; exact List.mem_cons_of_mem t there)
        · intro u there
          rcases List.mem_append.mp there with old | new
          · exact h.running u old
          · rw [List.mem_singleton.mp new]
            exact h.waiting t (by simp [waiting])
      · exact h
  | advance place => exact contracted_advance h ok

theorem contracted_run {p : Pool M Tag} (h : Contracted expected allowed p)
    {moves : List (Move M Tag)}
    (ok : EveryStep (Pool.step workers body) (MoveExpected expected allowed body) p moves) :
    Contracted expected allowed (p.run workers body moves) := by
  induction moves generalizing p with
  | nil => exact h
  | cons move rest ih => exact ih (contracted_step h ok.1) ok.2

theorem made_of_uses {s : M.State} {moves : List (Move M Tag)}
    (uses : ∀ tag choices, Move.post tag choices ∈ moves → (body tag).Uses (allowed tag)) :
    ∀ e ∈ ((Pool.idle s).run workers body moves).log, allowed e.tag e.event.call := by
  have always : ∀ move ∈ moves, ∀ p : Pool M Tag,
      MoveExpected (fun _ _ => True) allowed body p move := by
    intro move there p
    cases move with
    | post tag choices => exact meets_of_uses (uses tag choices there)
    | start => trivial
    | advance place => exact fun _ _ _ _ _ _ _ => trivial
  exact (contracted_run (contracted_idle s) (everyStep_of_mem always _)).made

end Pools

section Upheld
variable (expected : (c : Call) → Answer c → Prop) (allowed : Tag → Call → Prop)
  (inv : M.State → Prop) (fine : M.Choice → Prop)

structure Upheld (p : Pool M Tag) : Prop where
  contracted : Contracted expected allowed p
  inv : inv p.state
  waiting : ∀ t ∈ p.queue, ∀ n, fine (t.choices n)
  running : ∀ t ∈ p.running, ∀ n, fine (t.choices n)

variable {expected allowed inv fine} {workers : Nat} {body : Tag → Program Call Answer Unit}

theorem upheld_idle {s : M.State} (start : inv s) :
    Upheld expected allowed inv fine (Pool.idle s : Pool M Tag) :=
  ⟨contracted_idle s, start, List.forall_mem_nil _, List.forall_mem_nil _⟩

def FinePost (expected : (c : Call) → Answer c → Prop) (allowed : Tag → Call → Prop)
    (fine : M.Choice → Prop) (body : Tag → Program Call Answer Unit) : Move M Tag → Prop
  | .post tag choices =>
    Meets expected (allowed tag) (fun _ => True) (body tag) ∧ ∀ n, fine (choices n)
  | _ => True

section Rule
variable
  (answers : ∀ choice c s a, inv s → fine choice → M.answer choice c s = .ok a → expected c a)
  (keeps : ∀ choice tag c s, inv s → fine choice → allowed tag c → inv (M.next choice c s))
include answers keeps

theorem upheld_advance {p : Pool M Tag} (h : Upheld expected allowed inv fine p) (place : Nat) :
    Upheld expected allowed inv fine (p.advance place) := by
  have expects : MoveExpected expected allowed (fun _ => .done ()) p (.advance place) := by
    intro t c rest a here _ answer
    exact answers _ _ _ _ h.inv (h.running t (List.mem_of_getElem? here) 0) answer
  have contracted := contracted_advance h.contracted expects
  cases here : p.running[place]? with
  | none =>
    rw [advance_idle here]
    exact h
  | some t =>
    have member := List.mem_of_getElem? here
    have supplied := h.running t member
    have contract := h.contracted.running t member
    cases program : t.rest with
    | done u =>
      rw [advance_done here program] at contracted ⊢
      exact ⟨contracted, h.inv, h.waiting,
        fun u left => h.running u (List.mem_of_mem_eraseIdx left)⟩
    | call c rest =>
      unfold KeepsContract at contract
      rw [program] at contract
      have next := keeps (t.choices 0) t.tag c p.state h.inv (supplied 0) contract.1
      cases answer : M.answer (t.choices 0) c p.state with
      | ok a =>
        rw [advance_ok here program answer] at contracted ⊢
        refine ⟨contracted, next, h.waiting, ?_⟩
        intro u there n
        rcases List.mem_or_eq_of_mem_set there with old | new
        · exact h.running u old n
        · rw [new]
          exact supplied (n + 1)
      | error e =>
        rw [advance_error here program answer] at contracted ⊢
        exact ⟨contracted, next, h.waiting,
          fun u left => h.running u (List.mem_of_mem_eraseIdx left)⟩

theorem upheld_step {p : Pool M Tag} (h : Upheld expected allowed inv fine p) {move : Move M Tag}
    (ok : FinePost expected allowed fine body move) :
    Upheld expected allowed inv fine (p.step workers body move) := by
  cases move with
  | post tag choices =>
    have contracted : Contracted expected allowed (p.step workers body (.post tag choices)) :=
      contracted_step h.contracted ok.1
    refine ⟨contracted, h.inv, ?_, h.running⟩
    intro t there
    rcases List.mem_append.mp there with old | new
    · exact h.waiting t old
    · rw [List.mem_singleton.mp new]
      exact ok.2
  | start =>
    have contracted : Contracted expected allowed (p.step workers body .start) :=
      contracted_step h.contracted trivial
    simp only [Pool.step, Pool.start] at contracted ⊢
    split
    · exact h
    · rename_i t queue waiting
      split
      · rename_i free
        simp only [waiting, free, if_true] at contracted
        refine ⟨contracted, h.inv, ?_, ?_⟩
        · intro u there
          exact h.waiting u (by rw [waiting]; exact List.mem_cons_of_mem t there)
        · intro u there
          rcases List.mem_append.mp there with old | new
          · exact h.running u old
          · rw [List.mem_singleton.mp new]
            exact h.waiting t (by simp [waiting])
      · exact h
  | advance place => exact upheld_advance answers keeps h place

theorem upheld_run {p : Pool M Tag} (h : Upheld expected allowed inv fine p)
    {moves : List (Move M Tag)} (ok : ∀ move ∈ moves, FinePost expected allowed fine body move) :
    EveryState (Pool.step workers body) (Upheld expected allowed inv fine) p moves :=
  everyState_of_everyStep (P := Upheld expected allowed inv fine)
    (C := fun _ move => FinePost expected allowed fine body move)
    (fun _ _ here fits => upheld_step answers keeps here fits) h
    (everyStep_of_mem (fun move there _ => ok move there) p)

end Rule
end Upheld

end ExpectedAnswers
