import ChatServer.Atomic.Runs
import ChatServer.Atomic.WorkerPool

/-!
The history of one task in an interleaved log. What the log holds under a task's number
is a run of that task's program: the calls it made, each answered in the state it was
made in, whatever the others did in between.
-/
namespace TaskHistories
open AtomicCalls EventRuns WorkerPool

variable {Call : Type} {Answer : Call → Type} {M : Machine Call Answer} {Tag : Type} {α : Type}

def own (log : List (Entry M Tag)) (n : Nat) : List (Event M) :=
  (log.filter (fun e => e.number = n)).map Entry.event

theorem mem_own {log : List (Entry M Tag)} {n : Nat} {event : Event M} :
    event ∈ own log n ↔ ∃ e ∈ log, e.number = n ∧ e.event = event := by
  simp [own, and_assoc]

theorem own_append (log : List (Entry M Tag)) (e : Entry M Tag) (n : Nat) :
    own (log ++ [e]) n = own log n ++ if e.number = n then [e.event] else [] := by
  by_cases same : e.number = n <;> simp [own, same]

def EveryEntry (P : List (Entry M Tag) → Entry M Tag → Prop) (log : List (Entry M Tag)) : Prop :=
  ∀ before e after, log = before ++ e :: after → P before e

theorem everyEntry_append {P : List (Entry M Tag) → Entry M Tag → Prop}
    {log : List (Entry M Tag)} {e : Entry M Tag} :
    EveryEntry P (log ++ [e]) ↔ EveryEntry P log ∧ P log e := by
  constructor
  · intro h
    constructor
    · intro before x after split
      exact h before x (after ++ [e]) (by rw [split, List.append_assoc]; rfl)
    · exact h log e [] rfl
  · intro h before x after split
    rcases List.eq_nil_or_concat after with nothing | ⟨rest, last, more⟩
    · rw [nothing] at split
      obtain ⟨same, here⟩ := List.append_inj' split rfl
      cases here
      exact same ▸ h.2
    · rw [more, List.concat_eq_append, ← List.cons_append, ← List.append_assoc] at split
      exact h.1 before x rest (List.append_inj' split rfl).1

def Begins (p : Program Call Answer α) (events : List (Event M)) : Prop :=
  match events, p with
  | [], _ => True
  | _ :: _, .done _ => False
  | event :: events, .call c rest => ∃ s choice, event = ⟨s, choice, c⟩ ∧
    (events = [] ∨ ∃ a, M.answer choice c s = .ok a ∧ Begins (rest a) events)
termination_by structural events

/-- After these events the program has `q` left. -/
def Leads (p : Program Call Answer α) (events : List (Event M))
    (q : Program Call Answer α) : Prop :=
  match events, p with
  | [], p => p = q
  | _ :: _, .done _ => False
  | event :: events, .call c rest => ∃ s choice a, event = ⟨s, choice, c⟩ ∧
    M.answer choice c s = .ok a ∧ Leads (rest a) events q
termination_by structural events

section Programs
variable {p q : Program Call Answer α} {events : List (Event M)} {c : Call}
  {rest : Answer c → Program Call Answer α} {choice : M.Choice} {s : M.State}

theorem leads_ok (leads : Leads p events (.call c rest)) {a : Answer c}
    (answer : M.answer choice c s = .ok a) : Leads p (events ++ [⟨s, choice, c⟩]) (rest a) := by
  induction events generalizing p with
  | nil =>
    rw [show p = .call c rest from leads]
    exact ⟨s, choice, a, rfl, answer, rfl⟩
  | cons event events ih =>
    cases p with
    | done b => exact leads.elim
    | call d more =>
      obtain ⟨s', choice', b, same, answered, later⟩ := leads
      exact ⟨s', choice', b, same, answered, ih later⟩

theorem begins_of_leads (leads : Leads p events (.call c rest)) :
    Begins p (events ++ [⟨s, choice, c⟩]) := by
  induction events generalizing p with
  | nil =>
    rw [show p = .call c rest from leads]
    exact ⟨s, choice, rfl, Or.inl rfl⟩
  | cons event events ih =>
    cases p with
    | done b => exact leads.elim
    | call d more =>
      obtain ⟨s', choice', b, same, answered, later⟩ := leads
      exact ⟨s', choice', same, Or.inr ⟨b, answered, ih later⟩⟩

theorem leads_of_begins {before after : List (Event M)} {event : Event M}
    (begins : Begins p (before ++ event :: after)) :
    ∃ rest, Leads p before (.call event.call rest) := by
  induction before generalizing p with
  | nil =>
    cases p with
    | done b => exact begins.elim
    | call c rest =>
      obtain ⟨s, choice, same, _⟩ := begins
      rw [same]
      exact ⟨rest, rfl⟩
  | cons first before ih =>
    cases p with
    | done b => exact begins.elim
    | call c rest =>
      obtain ⟨s, choice, same, next⟩ := begins
      rcases next with nothing | ⟨a, answer, begins⟩
      · simp at nothing
      · obtain ⟨more, leads⟩ := ih begins
        exact ⟨more, s, choice, a, same, answer, leads⟩

theorem leads_later {d : Call} {more : Answer d → Program Call Answer α}
    (leads : Leads (.call c rest) events (.call d more)) (other : d ≠ c) :
    ∃ s choice a later, events = ⟨s, choice, c⟩ :: later ∧ M.answer choice c s = .ok a ∧
      Leads (rest a) later (.call d more) := by
  cases events with
  | nil =>
    cases leads
    exact absurd rfl other
  | cons first later =>
    obtain ⟨s, choice, a, same, answer, leads⟩ := leads
    exact ⟨s, choice, a, later, by rw [same], answer, leads⟩

theorem leads_uses {allowed : Call → Prop} (uses : p.Uses allowed) (leads : Leads p events q) :
    q.Uses allowed := by
  induction events generalizing p with
  | nil => exact (show p = q from leads) ▸ uses
  | cons first events ih =>
    cases p with
    | done b => exact leads.elim
    | call c rest =>
      obtain ⟨_, _, a, _, _, leads⟩ := leads
      exact ih (uses.2 a) leads

end Programs

section Pools
variable {workers : Nat} {body : Tag → Program Call Answer Unit} {p : Pool M Tag}

/-- The log, read task by task. -/
structure Histories (body : Tag → Program Call Answer Unit) (p : Pool M Tag) : Prop where
  numbered : Numbered p
  waiting : ∀ t ∈ p.queue, t.rest = body t.tag ∧ ∀ e ∈ p.log, e.number ≠ t.number
  running : ∀ t ∈ p.running, Leads (body t.tag) (own p.log t.number) t.rest ∧
    ∀ e ∈ p.log, e.number = t.number → e.tag = t.tag
  logged : ∀ e ∈ p.log, e.number < p.posted ∧ Begins (body e.tag) (own p.log e.number)

theorem histories_idle (s : M.State) : Histories body (Pool.idle s) := by
  constructor
  · constructor
    · exact List.nodup_nil
    · simp [Pool.idle]
  · simp [Pool.idle]
  · simp [Pool.idle]
  · simp [Pool.idle]

theorem own_fresh {log : List (Entry M Tag)} {n : Nat} (fresh : ∀ e ∈ log, e.number ≠ n) :
    own log n = [] := by
  simp only [own, List.map_eq_nil_iff, List.filter_eq_nil_iff, decide_eq_true_eq]
  exact fresh

theorem histories_start (h : Histories body p) : Histories body (p.step workers body .start) := by
  have numbered : Numbered (p.step workers body .start) := numbered_step h.numbered .start
  simp only [Pool.step, Pool.start] at numbered ⊢
  split
  · exact h
  · rename_i t queue waiting
    split
    · rename_i free
      simp only [waiting, free, ↓reduceIte] at numbered
      obtain ⟨whole, fresh⟩ := h.waiting t (by simp [waiting])
      constructor
      · exact numbered
      · intro u member
        exact h.waiting u (by rw [waiting]; exact List.mem_cons_of_mem t member)
      · intro u member
        rcases List.mem_append.mp member with old | new
        · exact h.running u old
        · rw [List.mem_singleton.mp new, own_fresh fresh]
          exact ⟨whole.symm, fun e made same => absurd same (fresh e made)⟩
      · exact h.logged
    · exact h

theorem histories_call (h : Histories body p) {q : Pool M Tag} {place : Nat} {t : Task M Tag}
    {c : Call} {rest : Answer c → Program Call Answer Unit} (here : p.running[place]? = some t)
    (calls : t.rest = .call c rest) (numbered : Numbered q) (posted : q.posted = p.posted)
    (queue : q.queue = p.queue) (log : q.log = p.log ++ [t.made c p.state])
    (running : ∀ u ∈ q.running, (u ∈ p.running ∧ u.number ≠ t.number) ∨
      ∃ a, M.answer (t.choices 0) c p.state = .ok a ∧ u = t.after (rest a)) :
    Histories body q := by
  have member := List.mem_of_getElem? here
  obtain ⟨leads, tagged⟩ := h.running t member
  rw [calls] at leads
  have others : ∀ n, n ≠ t.number → own q.log n = own p.log n := by
    intro n other
    rw [log, own_append, if_neg (fun same => other same.symm), List.append_nil]
  have mine : own q.log t.number = own p.log t.number ++ [⟨p.state, t.choices 0, c⟩] := by
    rw [log, own_append, if_pos (show (t.made c p.state).number = t.number from rfl)]
    rfl
  have made : ∀ e ∈ q.log, (e ∈ p.log ∨ (e.number = t.number ∧ e.tag = t.tag)) := by
    intro e present
    rw [log] at present
    rcases List.mem_append.mp present with old | new
    · exact Or.inl old
    · rw [List.mem_singleton.mp new]
      exact Or.inr ⟨rfl, rfl⟩
  constructor
  · exact numbered
  · rw [queue]
    intro u waits
    obtain ⟨whole, fresh⟩ := h.waiting u waits
    refine ⟨whole, ?_⟩
    intro e present same
    rcases made e present with old | ⟨number, _⟩
    · exact fresh e old same
    · have apart := List.map_append ▸ h.numbered.apart
      exact (List.nodup_append.mp apart).2.2 t.number (List.mem_map_of_mem member) u.number
        (List.mem_map_of_mem waits) (number.symm.trans same)
  · intro u present
    rcases running u present with ⟨old, other⟩ | ⟨a, answer, same⟩
    · obtain ⟨before, tags⟩ := h.running u old
      rw [others u.number other]
      refine ⟨before, ?_⟩
      intro e logged number
      rcases made e logged with earlier | ⟨its, _⟩
      · exact tags e earlier number
      · exact absurd (number.symm.trans its) other
    · subst same
      constructor
      · simp only [Task.after, mine]
        exact leads_ok leads answer
      · intro e logged number
        rcases made e logged with earlier | ⟨_, tag⟩
        · exact tagged e earlier number
        · exact tag
  · intro e present
    rw [posted]
    by_cases same : e.number = t.number
    · have tag : e.tag = t.tag := by
        rcases made e present with old | ⟨_, tag⟩
        · exact tagged e old same
        · exact tag
      rw [same, tag, mine]
      exact ⟨h.numbered.given t (List.mem_append_left _ member), begins_of_leads leads⟩
    · rw [others e.number same]
      rcases made e present with old | ⟨number, _⟩
      · exact h.logged e old
      · exact absurd number same

theorem histories_step (h : Histories body p) (move : Move M Tag) :
    Histories body (p.step workers body move) := by
  cases move with
  | start => exact histories_start h
  | post tag choices =>
    refine { h with numbered := numbered_step h.numbered _, waiting := ?_, logged := ?_ }
    · intro t member
      rcases List.mem_append.mp member with old | new
      · exact h.waiting t old
      · rw [List.mem_singleton.mp new]
        exact ⟨rfl, fun e made => Nat.ne_of_lt (h.logged e made).1⟩
    · intro e made
      exact ⟨Nat.lt_succ_of_lt (h.logged e made).1, (h.logged e made).2⟩
  | advance place =>
    have numbered : Numbered (p.step workers body (.advance place)) :=
      numbered_step h.numbered (.advance place)
    have apart := running_apart h.numbered
    simp only [Pool.step] at numbered ⊢
    cases here : p.running[place]? with
    | none =>
      rw [advance_idle here]
      exact h
    | some t =>
      cases program : t.rest with
      | done u =>
        rw [advance_done here program] at numbered ⊢
        exact ⟨numbered, h.waiting, fun u left => h.running u (List.mem_of_mem_eraseIdx left),
          h.logged⟩
      | call c rest =>
        cases answer : M.answer (t.choices 0) c p.state with
        | ok a =>
          rw [advance_ok here program answer] at numbered ⊢
          apply histories_call h here program numbered rfl rfl rfl
          intro u present
          rcases mem_set_number apart here present with new | old
          · exact Or.inr ⟨a, answer, new⟩
          · exact Or.inl old
        | error e =>
          rw [advance_error here program answer] at numbered ⊢
          apply histories_call h here program numbered rfl rfl rfl
          intro u present
          exact Or.inl (mem_eraseIdx_number apart here present)

theorem histories_run (workers : Nat) (s : M.State) (moves : List (Move M Tag)) :
    EveryState (Pool.step workers body) (Histories body) (Pool.idle s) moves := by
  have anyway : EveryStep (Pool.step workers body) (fun _ _ => True) (Pool.idle s) moves :=
    everyStep_of_forall (fun _ _ => trivial) (Pool.idle s) moves
  exact everyState_of_everyStep (P := Histories body) (fun _ move h _ => histories_step h move)
    (histories_idle s) anyway

end Pools

end TaskHistories
