import ChatServer.Atomic.WorkerPool

/-!
Two runs side by side. Programs are alike when they make like calls and stay alike after
like answers. On a machine that answers like calls alike, pools that are given the same
moves stay alike, and what they send out is the same.
-/
namespace TwoRuns
open AtomicCalls WorkerPool

variable {Call : Type} {Answer : Call → Type} {α β : Type}

/-- What passes for the same in the two runs. -/
structure Likeness (Call : Type) (Answer : Call → Type) where
  call : Call → Call → Prop
  answer : (c c' : Call) → Answer c → Answer c' → Prop

section Programs
variable (L : Likeness Call Answer)

inductive Alike : Program Call Answer α → Program Call Answer α → Prop where
  | done (a : α) : Alike (.done a) (.done a)
  | call {c c' : Call} {rest : Answer c → Program Call Answer α}
      {rest' : Answer c' → Program Call Answer α} (same : L.call c c')
      (next : ∀ a a', L.answer c c' a a' → Alike (rest a) (rest' a')) :
      Alike (.call c rest) (.call c' rest')

variable {L}

theorem alike_bind {p p' : Program Call Answer α} {f f' : α → Program Call Answer β}
    (first : Alike L p p') (second : ∀ a, Alike L (f a) (f' a)) :
    Alike L (p >>= f) (p' >>= f') := by
  induction first with
  | done a => exact second a
  | call same _ ih => exact .call same ih

theorem alike_of_uses {plain : Call → Prop} (calls : ∀ c, plain c → L.call c c)
    (answers : ∀ c a a', plain c → L.answer c c a a' → a = a') {p : Program Call Answer α}
    (uses : p.Uses plain) : Alike L p p := by
  induction p with
  | done a => exact .done a
  | call c rest ih =>
    refine .call (calls c uses.1) ?_
    intro a a' same
    rw [← answers c a a' uses.1 same]
    exact ih a (uses.2 a)

end Programs

section Places
variable {γ : Type} {R : α → γ → Prop} {xs : List α} {ys : List γ}

theorem forall₂_place (h : List.Forall₂ R xs ys) (place : Nat) :
    (xs[place]? = none ∧ ys[place]? = none) ∨
      ∃ x y, xs[place]? = some x ∧ ys[place]? = some y ∧ R x y := by
  induction h generalizing place with
  | nil => exact Or.inl ⟨rfl, rfl⟩
  | @cons x y _ _ first _ ih =>
    cases place with
    | zero => exact Or.inr ⟨x, y, rfl, rfl, first⟩
    | succ n => simpa using ih n

theorem forall₂_set (h : List.Forall₂ R xs ys) (place : Nat) {x : α} {y : γ} (new : R x y) :
    List.Forall₂ R (xs.set place x) (ys.set place y) := by
  induction h generalizing place with
  | nil => exact .nil
  | cons first others ih =>
    cases place with
    | zero => exact .cons new others
    | succ n => exact .cons first (ih n)

theorem forall₂_eraseIdx (h : List.Forall₂ R xs ys) (place : Nat) :
    List.Forall₂ R (xs.eraseIdx place) (ys.eraseIdx place) := by
  induction h generalizing place with
  | nil => exact .nil
  | cons first others ih =>
    cases place with
    | zero => exact others
    | succ n => exact .cons first (ih n)

theorem forall₂_all (h : List.Forall₂ R xs ys) {P : α → Prop} {Q : γ → Prop}
    (same : ∀ x y, R x y → (P x ↔ Q y)) : (∀ x ∈ xs, P x) ↔ ∀ y ∈ ys, Q y := by
  induction h with
  | nil => simp
  | cons first _ ih => simp only [List.forall_mem_cons, same _ _ first, ih]

theorem forall₂_find (h : List.Forall₂ R xs ys) {p : α → Bool} {q : γ → Bool}
    (same : ∀ x y, R x y → p x = q y) : Option.Rel R (xs.find? p) (ys.find? q) := by
  induction h with
  | nil => exact .none
  | @cons x y _ _ first _ ih =>
    cases here : p x with
    | true =>
      have there : q y = true := (same x y first).symm.trans here
      rw [List.find?_cons_of_pos here, List.find?_cons_of_pos there]
      exact .some first
    | false =>
      have elsewhere : ¬ q y = true := by simp [← same x y first, here]
      rw [List.find?_cons_of_neg (by simp [here]), List.find?_cons_of_neg elsewhere]
      exact ih

end Places

section Pools
variable {M : Machine Call Answer} {Tag : Type}

inductive SameEnd (L : Likeness Call Answer) (M : Machine Call Answer) (c c' : Call) :
    Except M.Fault (Answer c) → Except M.Fault (Answer c') → Prop where
  | ok {a : Answer c} {a' : Answer c'} (same : L.answer c c' a a') :
      SameEnd L M c c' (.ok a) (.ok a')
  | error (e : M.Fault) : SameEnd L M c c' (.error e) (.error e)

/-- The machine does not tell like calls apart. -/
structure Lockstep (M : Machine Call Answer) (L : Likeness Call Answer) where
  state : M.State → M.State → Prop
  choice : M.Choice → M.Choice → Prop
  ends : ∀ {s s' x x' c c'}, state s s' → choice x x' → L.call c c' →
    SameEnd L M c c' (M.answer x c s) (M.answer x' c' s')
  emits : ∀ {s s' x x' c c'}, state s s' → choice x x' → L.call c c' →
    M.emit x c s = M.emit x' c' s'
  next : ∀ {s s' x x' c c'}, state s s' → choice x x' → L.call c c' →
    state (M.next x c s) (M.next x' c' s')

variable {L : Likeness Call Answer} (K : Lockstep M L)

structure SameTask (t t' : Task M Tag) : Prop where
  number : t'.number = t.number
  tag : t'.tag = t.tag
  choices : ∀ n, K.choice (t.choices n) (t'.choices n)
  rest : Alike L t.rest t'.rest

structure SameEntry (e e' : Entry M Tag) : Prop where
  number : e'.number = e.number
  tag : e'.tag = e.tag
  call : L.call e.event.call e'.event.call
  output : e'.event.output = e.event.output

structure SamePool (p p' : Pool M Tag) : Prop where
  state : K.state p.state p'.state
  posted : p'.posted = p.posted
  queue : List.Forall₂ (SameTask K) p.queue p'.queue
  running : List.Forall₂ (SameTask K) p.running p'.running
  lost : p'.lost = p.lost
  log : List.Forall₂ (SameEntry (L := L)) p.log p'.log

variable (body : Tag → Program Call Answer Unit)

inductive SameMove : Move M Tag → Move M Tag → Prop where
  | post (tag : Tag) {choices choices' : Nat → M.Choice}
      (same : ∀ n, K.choice (choices n) (choices' n)) (alike : Alike L (body tag) (body tag)) :
      SameMove (.post tag choices) (.post tag choices')
  | start : SameMove .start .start
  | advance (place : Nat) : SameMove (.advance place) (.advance place)

variable {K body} {p p' : Pool M Tag}

theorem samePool_idle {s s' : M.State} (same : K.state s s') :
    SamePool K (Pool.idle s : Pool M Tag) (Pool.idle s') :=
  ⟨same, rfl, .nil, .nil, rfl, .nil⟩

theorem samePool_advance (h : SamePool K p p') (place : Nat) :
    SamePool K (p.advance place) (p'.advance place) := by
  rcases forall₂_place h.running place with ⟨nobody, nobody'⟩ | ⟨t, t', here, here', same⟩
  · rw [advance_idle nobody, advance_idle nobody']
    exact h
  · obtain ⟨number, tag, choices, rest⟩ := same
    cases program : t.rest with
    | done u =>
      rw [program] at rest
      cases program' : t'.rest with
      | call c' rest' =>
        rw [program'] at rest
        cases rest
      | done u' =>
        rw [advance_done here program, advance_done here' program']
        exact { h with running := forall₂_eraseIdx h.running place }
    | call c next =>
      rw [program] at rest
      cases program' : t'.rest with
      | done u' =>
        rw [program'] at rest
        cases rest
      | call c' next' =>
        rw [program'] at rest
        cases rest with
        | call like goes =>
          have first := choices 0
          have state := K.next h.state first like
          have made : SameEntry (L := L) (t.made c p.state) (t'.made c' p'.state) :=
            ⟨number, tag, like, (K.emits h.state first like).symm⟩
          have log := List.rel_append h.log (.cons made .nil)
          have ends := K.ends h.state first like
          cases answer : M.answer (t.choices 0) c p.state with
          | ok a =>
            cases answer' : M.answer (t'.choices 0) c' p'.state with
            | error e =>
              rw [answer, answer'] at ends
              cases ends
            | ok a' =>
              rw [answer, answer'] at ends
              cases ends with
              | ok alike =>
                rw [advance_ok here program answer, advance_ok here' program' answer']
                have task : SameTask K (t.after (next a)) (t'.after (next' a')) :=
                  ⟨number, tag, fun n => choices (n + 1), goes a a' alike⟩
                exact ⟨state, h.posted, h.queue, forall₂_set h.running place task, h.lost, log⟩
          | error e =>
            cases answer' : M.answer (t'.choices 0) c' p'.state with
            | ok a' =>
              rw [answer, answer'] at ends
              cases ends
            | error e' =>
              rw [advance_error here program answer, advance_error here' program' answer']
              exact ⟨state, h.posted, h.queue, forall₂_eraseIdx h.running place,
                congrArg (· + 1) h.lost, log⟩

theorem samePool_start (h : SamePool K p p') (workers : Nat) :
    SamePool K (p.start workers) (p'.start workers) := by
  have length := h.running.length_eq
  have lost := h.lost
  unfold Pool.start
  cases queue : p.queue with
  | nil =>
    have empty := h.queue
    rw [queue, List.forall₂_nil_left_iff] at empty
    rw [empty]
    exact h
  | cons t others =>
    have both := h.queue
    rw [queue, List.forall₂_cons_left_iff] at both
    obtain ⟨t', others', same, rest, queue'⟩ := both
    have room : p'.running.length + p'.lost = p.running.length + p.lost := by
      rw [← length, lost]
    rw [queue']
    dsimp only
    by_cases free : p.running.length + p.lost < workers
    · have free' : p'.running.length + p'.lost < workers := by omega
      rw [if_pos free, if_pos free']
      exact { h with queue := rest, running := List.rel_append h.running (.cons same .nil) }
    · have busy : ¬ p'.running.length + p'.lost < workers := by omega
      rw [if_neg free, if_neg busy]
      exact h

variable (workers : Nat)

theorem samePool_step (h : SamePool K p p') {move move' : Move M Tag}
    (same : SameMove K body move move') :
    SamePool K (p.step workers body move) (p'.step workers body move') := by
  cases same with
  | post tag choices alike =>
    have task : SameTask K ⟨p.posted, tag, _, body tag⟩ ⟨p'.posted, tag, _, body tag⟩ :=
      ⟨h.posted, rfl, choices, alike⟩
    exact { h with
      posted := congrArg (· + 1) h.posted
      queue := List.rel_append h.queue (.cons task .nil) }
  | start => exact samePool_start h workers
  | advance place => exact samePool_advance h place

/-- The rule: pools that are given the same moves stay alike. -/
theorem samePool_run (h : SamePool K p p') {moves moves' : List (Move M Tag)}
    (same : List.Forall₂ (SameMove K body) moves moves') :
    SamePool K (p.run workers body moves) (p'.run workers body moves') := by
  induction same generalizing p p' with
  | nil => exact h
  | cons first _ ih => exact ih (samePool_step workers h first)

end Pools

theorem same_outputs {M : Machine Call Answer} {Tag : Type} {L : Likeness Call Answer}
    {log log' : List (Entry M Tag)} (same : List.Forall₂ (SameEntry (L := L)) log log') :
    log'.flatMap (fun e => e.event.output) = log.flatMap (fun e => e.event.output) := by
  induction same with
  | nil => rfl
  | cons first _ ih => simp only [List.flatMap_cons, first.output, ih]

end TwoRuns
