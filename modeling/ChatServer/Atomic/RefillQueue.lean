import Mathlib

/-!
Tokens that are refilled from the queue of the workers that wait for them. Workers take
tasks from one queue in its order; most tasks need a token at times, and a token that
breaks is replaced by a refill, queued as a task like any other. With no token left, all
depends on a worker reaching the first refill: enough tasks before it, and every worker
ends up waiting for what only that refill can bring.
-/
namespace RefillQueues
variable {α : Type}

/-- `busy` counts the workers that run a task other than a refill. -/
structure Load (α : Type) where
  tokens : Nat
  refilling : Nat
  busy : Nat
  queue : List α

inductive Outcome where
  | fine
  | broken
  | failed
  deriving DecidableEq

inductive Move (refill : α → Bool) (l l' : Load α) : Outcome → Prop where
  | quiet (tokens : l'.tokens = l.tokens) (refilling : l'.refilling = l.refilling)
      (busy : l'.busy = l.busy) (queue : l'.queue = l.queue) : Move refill l l' .fine
  | arrive (a : α) (work : refill a = false) (tokens : l'.tokens = l.tokens)
      (refilling : l'.refilling = l.refilling) (busy : l'.busy = l.busy)
      (queue : l'.queue = l.queue ++ [a]) : Move refill l l' .fine
  | take (a : α) (work : refill a = false) (tokens : l'.tokens = l.tokens)
      (refilling : l'.refilling = l.refilling) (busy : l'.busy = l.busy + 1)
      (queue : l.queue = a :: l'.queue) : Move refill l l' .fine
  | finish (tokens : l'.tokens = l.tokens) (refilling : l'.refilling = l.refilling)
      (busy : l'.busy + 1 = l.busy) (queue : l'.queue = l.queue) : Move refill l l' .fine
  | startRefill (a : α) (tokens : l'.tokens = l.tokens)
      (refilling : l'.refilling = l.refilling + 1) (busy : l'.busy = l.busy)
      (queue : l.queue = a :: l'.queue) : Move refill l l' .fine
  | endRefill (tokens : l'.tokens = l.tokens + 1) (busy : l'.busy = l.busy)
      (queue : l'.queue = l.queue) : Move refill l l' .fine
  | failRefill : Move refill l l' .failed
  | breakToken (a : α) (again : refill a = true) (tokens : l'.tokens + 1 = l.tokens)
      (busy : l'.busy = l.busy) (queue : l'.queue = l.queue ++ [a]) : Move refill l l' .broken

def Load.ahead (refill : α → Bool) (l : Load α) : Nat :=
  l.busy + (l.queue.takeWhile (fun a => !refill a)).length

/-- A token is there, or a refill is running, or none is queued, or some worker will
    still be free when the first refill comes up. -/
def Served (refill : α → Bool) (workers : Nat) (l : Load α) : Prop :=
  0 < l.tokens ∨ 0 < l.refilling ∨ (∀ a ∈ l.queue, refill a = false) ∨
    l.ahead refill < workers

theorem takeWhile_all (refill : α → Bool) {queue : List α}
    (work : ∀ a ∈ queue, refill a = false) (a : α) (again : refill a = true) :
    ((queue ++ [a]).takeWhile (fun b => !refill b)).length =
      (queue.takeWhile (fun b => !refill b)).length := by
  induction queue with
  | nil => simp [again]
  | cons b rest ih =>
    have here : refill b = false := work b List.mem_cons_self
    have tail := ih (fun c there => work c (List.mem_cons_of_mem b there))
    simp only [List.cons_append, List.takeWhile_cons, here, Bool.not_false, ↓reduceIte,
      List.length_cons, tail]

theorem takeWhile_some (refill : α → Bool) {queue : List α} {r : α} (there : r ∈ queue)
    (queued : refill r = true) (more : List α) :
    (queue ++ more).takeWhile (fun b => !refill b) = queue.takeWhile (fun b => !refill b) := by
  induction queue with
  | nil => cases there
  | cons b rest ih =>
    cases here : refill b with
    | true => simp [here]
    | false =>
      rcases List.mem_cons.mp there with first | later
      · rw [first, here] at queued
        cases queued
      · simp only [List.cons_append, List.takeWhile_cons, here, Bool.not_false, ↓reduceIte,
          ih later]

theorem ahead_append (refill : α → Bool) (queue : List α) (a : α) (again : refill a = true) :
    ((queue ++ [a]).takeWhile (fun b => !refill b)).length =
      (queue.takeWhile (fun b => !refill b)).length := by
  by_cases work : ∀ b ∈ queue, refill b = false
  · exact takeWhile_all refill work a again
  · simp only [not_forall] at work
    obtain ⟨r, there, queued⟩ := work
    rw [takeWhile_some refill there (by simpa using queued)]

/-- A step keeps the load served, unless a refill fails or the last token breaks with
    enough tasks ahead to hold up every worker. -/
theorem served_move {refill : α → Bool} {workers : Nat} {l l' : Load α} {outcome : Outcome}
    (move : Move refill l l' outcome) (served : Served refill workers l)
    (opens : outcome ≠ .failed)
    (spare : outcome = .broken → l.tokens = 1 → l.ahead refill < workers) :
    Served refill workers l' := by
  unfold Served Load.ahead at *
  cases move with
  | quiet tokens refilling busy queue =>
    rw [tokens, refilling, busy, queue]
    exact served
  | arrive a work tokens refilling busy queue =>
    rw [tokens, refilling, busy, queue]
    rcases served with token | running | none | room
    · exact Or.inl token
    · exact Or.inr (Or.inl running)
    · refine Or.inr (Or.inr (Or.inl ?_))
      intro b there
      rcases List.mem_append.mp there with old | new
      · exact none b old
      · rw [List.mem_singleton.mp new]
        exact work
    · by_cases none : ∀ b ∈ l.queue ++ [a], refill b = false
      · exact Or.inr (Or.inr (Or.inl none))
      · simp only [not_forall] at none
        obtain ⟨r, there, queued⟩ := none
        rcases List.mem_append.mp there with old | new
        · rw [takeWhile_some refill old (by simpa using queued)]
          exact Or.inr (Or.inr (Or.inr room))
        · rw [List.mem_singleton.mp new, work] at queued
          exact absurd rfl queued
  | take a work tokens refilling busy queue =>
    rw [queue] at served
    rw [tokens, refilling, busy]
    simp only [List.takeWhile_cons, work, Bool.not_false, ↓reduceIte, List.length_cons,
      List.mem_cons, forall_eq_or_imp, true_and] at served
    rcases served with token | running | none | room
    · exact Or.inl token
    · exact Or.inr (Or.inl running)
    · exact Or.inr (Or.inr (Or.inl none))
    · exact Or.inr (Or.inr (Or.inr (by omega)))
  | finish tokens refilling busy queue =>
    rw [tokens, refilling, queue]
    rcases served with token | running | none | room
    · exact Or.inl token
    · exact Or.inr (Or.inl running)
    · exact Or.inr (Or.inr (Or.inl none))
    · exact Or.inr (Or.inr (Or.inr (by omega)))
  | startRefill a tokens refilling busy queue =>
    exact Or.inr (Or.inl (by omega))
  | endRefill tokens busy queue => exact Or.inl (by omega)
  | failRefill => exact absurd rfl opens
  | breakToken a again tokens busy queue =>
    rw [busy, queue, ahead_append refill l.queue a again]
    by_cases last : l.tokens = 1
    · exact Or.inr (Or.inr (Or.inr (spare rfl last)))
    · exact Or.inl (by omega)

def HeldUp (refill : α → Bool) (workers : Nat) (l : Load α) : Prop :=
  l.tokens = 0 ∧ l.refilling = 0 ∧ workers ≤ l.busy ∧ ∃ a ∈ l.queue, refill a = true

theorem not_heldUp_of_served {refill : α → Bool} {workers : Nat} {l : Load α}
    (served : Served refill workers l) : ¬ HeldUp refill workers l := by
  intro held
  obtain ⟨empty, idle, busy, a, there, queued⟩ := held
  rcases served with token | running | none | room
  · omega
  · omega
  · rw [none a there] at queued
    cases queued
  · unfold Load.ahead at room
    omega

end RefillQueues
