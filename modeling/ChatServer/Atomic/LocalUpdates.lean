import ChatServer.Atomic.Runs

/-!
States that are made of one part for each owner. A step that reads and writes the part
of one owner leaves every part as the steps of its own owner alone would, so runs that
agree on the steps of each owner end in the same state.
-/
namespace LocalUpdates
open EventRuns
variable {State Event Owner Part : Type} [DecidableEq Owner]

/-- In the states of `I` a step of `ok` changes its owner's part from that part alone,
    and the parts determine the state. -/
structure Local (step : State → Event → State) (I : State → Prop) (ok : Event → Prop)
    (parts : State → Owner → Part) (owner : Event → Owner) (change : Event → Part → Part) :
    Prop where
  keep : ∀ s e, I s → ok e → I (step s e)
  update : ∀ s e, I s → ok e →
    parts (step s e) = Function.update (parts s) (owner e) (change e (parts s (owner e)))
  whole : ∀ s t, I s → I t → parts s = parts t → s = t

def own (owner : Event → Owner) (who : Owner) (events : List Event) : List Event :=
  events.filter (fun e => owner e = who)

variable {step : State → Event → State} {I : State → Prop} {ok : Event → Prop}
  {parts : State → Owner → Part} {owner : Event → Owner} {change : Event → Part → Part}

theorem kept_after (h : Local step I ok parts owner change) {events : List Event}
    (all : ∀ e ∈ events, ok e) {s : State} (start : I s) : I (after step s events) := by
  induction events generalizing s with
  | nil => exact start
  | cons e rest ih =>
    exact ih (fun d later => all d (List.mem_cons_of_mem e later))
      (h.keep s e start (all e List.mem_cons_self))

theorem part_after (h : Local step I ok parts owner change) {events : List Event}
    (all : ∀ e ∈ events, ok e) {s : State} (start : I s) (who : Owner) :
    parts (after step s events) who =
      (own owner who events).foldl (fun part e => change e part) (parts s who) := by
  induction events generalizing s with
  | nil => rfl
  | cons e rest ih =>
    have first := all e List.mem_cons_self
    have later := ih (fun d member => all d (List.mem_cons_of_mem e member))
      (h.keep s e start first)
    rw [h.update s e start first] at later
    by_cases mine : owner e = who
    · subst mine
      rw [Function.update_self] at later
      simp only [own, List.filter_cons, decide_true, ↓reduceIte, List.foldl_cons]
      exact later
    · rw [Function.update_of_ne (Ne.symm mine)] at later
      simp only [own, List.filter_cons, mine, decide_false, Bool.false_eq_true, ↓reduceIte]
      exact later

theorem reordered (h : Local step I ok parts owner change) {first second : List Event}
    (all_first : ∀ e ∈ first, ok e) (all_second : ∀ e ∈ second, ok e)
    (same : ∀ who, own owner who first = own owner who second) {s : State} (start : I s) :
    after step s first = after step s second := by
  apply h.whole _ _ (kept_after h all_first start) (kept_after h all_second start)
  funext who
  rw [part_after h all_first start, part_after h all_second start, same who]

theorem own_swap {a b : Event} (apart : owner a ≠ owner b) (who : Owner) :
    own owner who [a, b] = own owner who [b, a] := by
  unfold own
  by_cases first : owner a = who
  · have second : owner b ≠ who := fun same => apart (first.trans same.symm)
    simp [first, second]
  · simp [List.filter_cons, first]

end LocalUpdates
