import ChatServer.Atomic.Runs
import ChatServer.Atomic.WorkerPool

/-!
Rely and guarantee for tasks on a pool. An assertion may speak of the state and of the
log. A program is guarded when each call it makes is permitted there and then, whatever
the others did in between as far as the rely lets them. If permitted calls keep an
invariant and stay within the rely, the invariant holds through every run.
-/
namespace RelyGuarantee
open AtomicCalls EventRuns WorkerPool

variable {Call : Type} {Answer : Call → Type} {M : Machine Call Answer} {Tag : Type}

abbrev View (M : Machine Call Answer) (Tag : Type) := M.State × List (Entry M Tag)

def view (p : Pool M Tag) : View M Tag := (p.state, p.log)

def called (v : View M Tag) (number : Nat) (tag : Tag) (choice : M.Choice) (c : Call) :
    View M Tag :=
  (M.next choice c v.1, v.2 ++ [⟨number, tag, ⟨v.1, choice, c⟩⟩])

variable (rely : View M Tag → View M Tag → Prop) (permit : Tag → View M Tag → Call → Prop)

def Guarded (number : Nat) (tag : Tag) : Program Call Answer α → View M Tag → Prop
  | .done _, _ => True
  | .call c rest, v => ∀ now, rely v now → permit tag now c ∧
      ∀ choice a, M.answer choice c now.1 = .ok a →
        Guarded number tag (rest a) (called now number tag choice c)

variable {rely permit} {number : Nat} {tag : Tag}

theorem guarded_rely (trans : ∀ u v w, rely u v → rely v w → rely u w)
    {p : Program Call Answer α} {v w : View M Tag} (h : Guarded rely permit number tag p v)
    (meanwhile : rely v w) : Guarded rely permit number tag p w := by
  cases p with
  | done a => trivial
  | call c rest =>
    intro now since
    exact h now (trans v w now meanwhile since)

theorem guarded_of_uses {free : Call → Prop} (permitted : ∀ v c, free c → permit tag v c)
    {p : Program Call Answer α} (uses : p.Uses free) (v : View M Tag) :
    Guarded rely permit number tag p v := by
  induction p generalizing v with
  | done a => trivial
  | call c rest ih =>
    intro now _
    exact ⟨permitted now c uses.1, fun choice a _ => ih a (uses.2 a) _⟩

theorem guarded_mono {other : Tag → View M Tag → Call → Prop}
    (weaken : ∀ v c, permit tag v c → other tag v c) {p : Program Call Answer α} {v : View M Tag}
    (h : Guarded rely permit number tag p v) : Guarded rely other number tag p v := by
  induction p generalizing v with
  | done a => trivial
  | call c rest ih =>
    intro now since
    obtain ⟨permitted, next⟩ := h now since
    exact ⟨weaken now c permitted, fun choice a answer => ih a (next choice a answer)⟩

theorem kept_alone {inv : M.State → Prop} (refl : ∀ v, rely v v)
    (keep : ∀ v choice c, inv v.1 → permit tag v c → inv (M.next choice c v.1))
    {p : Program Call Answer α} {v : View M Tag} (h : Guarded rely permit number tag p v)
    (start : inv v.1) (choices : Nat → M.Choice) : inv (p.final M choices v.1) := by
  induction p generalizing v choices with
  | done a => exact start
  | call c rest ih =>
    obtain ⟨permitted, next⟩ := h v (refl v)
    have kept := keep v (choices 0) c start permitted
    simp only [Program.final]
    cases answer : M.answer (choices 0) c v.1 with
    | error e => exact kept
    | ok a => exact ih a (next (choices 0) a answer) kept (later choices)

variable (workers : Nat) (body : Tag → Program Call Answer Unit)
  (safe : View M Tag → Call → Prop)

def SafeMove (p : Pool M Tag) (move : Move M Tag) : Prop :=
  ∀ place t c rest, move = .advance place → p.running[place]? = some t →
    t.rest = .call c rest → safe (view p) c

section SafeMove
variable {safe : View M Tag → Call → Prop} {p : Pool M Tag} {place : Nat} {t : Task M Tag}

theorem safeMove_call {c : Call} {rest : Answer c → Program Call Answer Unit}
    (here : p.running[place]? = some t) (calls : t.rest = .call c rest) (ok : safe (view p) c) :
    SafeMove safe p (.advance place) := by
  intro place' t' c' rest' move here' calls'
  cases move
  rw [here] at here'
  cases here'
  rw [calls] at calls'
  cases calls'
  exact ok

theorem safeMove_iff {c : Call} {rest : Answer c → Program Call Answer Unit}
    (here : p.running[place]? = some t) (calls : t.rest = .call c rest) :
    SafeMove safe p (.advance place) ↔ safe (view p) c := by
  constructor
  · intro move
    exact move place t c rest rfl here calls
  · exact safeMove_call here calls

theorem safeMove_done (here : p.running[place]? = some t) (done : t.rest = .done ()) :
    SafeMove safe p (.advance place) := by
  intro place' t' c' rest' move here' calls'
  cases move
  rw [here] at here'
  cases here'
  rw [done] at calls'
  cases calls'

theorem safeMove_post (tag : Tag) (choices : Nat → M.Choice) :
    SafeMove safe p (.post tag choices) := by
  intro place' t' c' rest' move
  cases move

theorem safeMove_of_forall (always : ∀ v c, safe v c) (p : Pool M Tag) (move : Move M Tag) :
    SafeMove safe p move := by
  intro place t c rest _ _ _
  exact always (view p) c

theorem safeMove_start : SafeMove safe p .start := by
  intro place' t' c' rest' move
  cases move

end SafeMove

/-- The invariant, with every task waiting as it was posted or guarded as it runs. -/
structure Sound (rely : View M Tag → View M Tag → Prop)
    (permit : Tag → View M Tag → Call → Prop) (body : Tag → Program Call Answer Unit)
    (inv : View M Tag → Prop) (p : Pool M Tag) : Prop where
  inv : inv (view p)
  waiting : ∀ t ∈ p.queue, t.rest = body t.tag
  running : ∀ t ∈ p.running, Guarded rely permit t.number t.tag t.rest (view p)

variable {workers body safe} {inv : View M Tag → Prop}

/-- A move leaves the view alone or makes one permitted call. -/
theorem sound_step_cases {p : Pool M Tag} (refl : ∀ v, rely v v)
    (h : Sound rely permit body inv p) (move : Move M Tag) :
    (view (p.step workers body move) = view p ∧
        ∀ safe : View M Tag → Call → Prop, SafeMove safe p move) ∨
      ∃ (t : Task M Tag) (c : Call), permit t.tag (view p) c ∧
        view (p.step workers body move) = called (view p) t.number t.tag (t.choices 0) c ∧
        ∀ safe : View M Tag → Call → Prop, SafeMove safe p move ↔ safe (view p) c := by
  cases move with
  | post tag choices => exact Or.inl ⟨rfl, fun _ => safeMove_post tag choices⟩
  | start =>
    refine Or.inl ⟨?_, fun _ => safeMove_start⟩
    simp only [Pool.step, Pool.start]
    split
    · rfl
    · split <;> rfl
  | advance place =>
    simp only [Pool.step]
    cases here : p.running[place]? with
    | none =>
      refine Or.inl ⟨by rw [advance_idle here], ?_⟩
      intro safe place' t c rest move here'
      cases move
      rw [here] at here'
      cases here'
    | some t =>
      cases program : t.rest with
      | done u =>
        exact Or.inl ⟨by rw [advance_done here program]; rfl, fun _ => safeMove_done here program⟩
      | call c rest =>
        have guarded := h.running t (List.mem_of_getElem? here)
        rw [program] at guarded
        have permitted := (guarded (view p) (refl _)).1
        refine Or.inr ⟨t, c, permitted, ?_, fun _ => safeMove_iff here program⟩
        cases answer : M.answer (t.choices 0) c p.state with
        | ok a =>
          rw [advance_ok here program answer]
          rfl
        | error e =>
          rw [advance_error here program answer]
          rfl

section Calls
variable (workers : Nat) (body : Tag → Program Call Answer Unit)

theorem everyState_of_called (inv : View M Tag → Prop)
    (keep : ∀ v number tag choice c, inv v → inv (called v number tag choice c)) {p : Pool M Tag}
    (start : inv (view p)) (moves : List (Move M Tag)) :
    EveryState (Pool.step workers body) (fun q => inv (view q)) p moves := by
  have step : ∀ (p : Pool M Tag) (move : Move M Tag), inv (view p) →
      inv (view (p.step workers body move)) := by
    intro p move here
    cases move with
    | post tag choices => exact here
    | start =>
      simp only [Pool.step, Pool.start]
      split
      · exact here
      · split <;> exact here
    | advance place =>
      simp only [Pool.step]
      cases found : p.running[place]? with
      | none =>
        rw [advance_idle found]
        exact here
      | some t =>
        cases program : t.rest with
        | done u =>
          rw [advance_done found program]
          exact here
        | call c rest =>
          have next := keep (view p) t.number t.tag (t.choices 0) c here
          cases answer : M.answer (t.choices 0) c p.state with
          | ok a =>
            rw [advance_ok found program answer]
            exact next
          | error e =>
            rw [advance_error found program answer]
            exact next
  exact everyState_of_everyStep (C := fun _ _ => True) (fun p move here _ => step p move here) start
    (everyStep_of_forall (fun _ _ => trivial) p moves)

end Calls

theorem sound_elsewhere {p : Pool M Tag} (trans : ∀ u v w, rely u v → rely v w → rely u w)
    (h : Sound rely permit body inv p) {s : M.State} (within : rely (view p) (s, p.log))
    (kept : inv (s, p.log)) : Sound rely permit body inv { p with state := s } :=
  ⟨kept, h.waiting, fun t present => guarded_rely trans (h.running t present) within⟩

section Rule
variable (trans : ∀ u v w, rely u v → rely v w → rely u w)
  (keep : ∀ v number tag choice c, inv v → permit tag v c → safe v c →
    inv (called v number tag choice c) ∧ rely v (called v number tag choice c))
  (refl : ∀ v, rely v v)
  (bodies : ∀ number tag v, Guarded rely permit number tag (body tag) v)
include trans keep refl bodies

theorem sound_step {p : Pool M Tag} {move : Move M Tag} (h : Sound rely permit body inv p)
    (ok : SafeMove safe p move) : Sound rely permit body inv (p.step workers body move) := by
  cases move with
  | post tag choices =>
    refine ⟨h.inv, ?_, h.running⟩
    intro t member
    rcases List.mem_append.mp member with old | new
    · exact h.waiting t old
    · rw [List.mem_singleton.mp new]
  | start =>
    simp only [Pool.step, Pool.start]
    split
    · exact h
    · rename_i t queue waiting
      split
      · refine ⟨h.inv, ?_, ?_⟩
        · intro u member
          exact h.waiting u (by rw [waiting]; exact List.mem_cons_of_mem t member)
        · intro u member
          rcases List.mem_append.mp member with old | new
          · exact h.running u old
          · rw [List.mem_singleton.mp new, h.waiting t (by simp [waiting])]
            exact bodies t.number t.tag (view p)
      · exact h
  | advance place =>
    simp only [Pool.step]
    cases here : p.running[place]? with
    | none =>
      rw [advance_idle here]
      exact h
    | some t =>
      have member := List.mem_of_getElem? here
      cases program : t.rest with
      | done u =>
        rw [advance_done here program]
        exact ⟨h.inv, h.waiting, fun u left => h.running u (List.mem_of_mem_eraseIdx left)⟩
      | call c rest =>
        have guarded := h.running t member
        rw [program] at guarded
        obtain ⟨permitted, next⟩ := guarded (view p) (refl _)
        obtain ⟨kept, within⟩ := keep (view p) t.number t.tag (t.choices 0) c h.inv permitted
          (ok place t c rest rfl here program)
        have others : ∀ u ∈ p.running, Guarded rely permit u.number u.tag u.rest
            (called (view p) t.number t.tag (t.choices 0) c) :=
          fun u present => guarded_rely trans (h.running u present) within
        cases answer : M.answer (t.choices 0) c p.state with
        | ok a =>
          rw [advance_ok here program answer]
          refine ⟨kept, h.waiting, ?_⟩
          intro u present
          rcases List.mem_or_eq_of_mem_set present with old | new
          · exact others u old
          · rw [new]
            exact next (t.choices 0) a answer
        | error e =>
          rw [advance_error here program answer]
          exact ⟨kept, h.waiting, fun u left => others u (List.mem_of_mem_eraseIdx left)⟩

/-- The rule: a run of safe moves keeps the invariant throughout. -/
theorem invariant_of_safe_moves {s : M.State} (start : inv (s, []))
    {moves : List (Move M Tag)}
    (ok : EveryStep (Pool.step workers body) (SafeMove safe) (Pool.idle s) moves) :
    EveryState (Pool.step workers body) (fun p => inv (view p)) (Pool.idle s) moves := by
  have sound : Sound rely permit body inv (Pool.idle s) := by
    refine ⟨start, ?_, ?_⟩
    · intro t member
      cases member
    · intro t member
      cases member
  exact everyState_mono (fun p h => h.inv)
    (everyState_of_everyStep (fun p move h step => sound_step trans keep refl bodies h step)
      sound ok)

end Rule

end RelyGuarantee
