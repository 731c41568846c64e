import Mathlib

/-!
The newest rows of a list that grows at its end, asked for by a descending sort key with a
limit. The sort may order equal keys as it likes, so it gives the last rows back in their
order exactly when each of them is newer than all before it, or looks the same.
-/
namespace NewestRows

variable {Row Shown : Type} (key : Shown → Int)

def Descending (order : List Shown) : Prop := order.Pairwise (fun a b => key b ≤ key a)

/-- Each of the last rows is newer than every row before it, or looks like it. -/
def Newest (shown : List Shown) (limit : Nat) : Prop :=
  ∀ earlier row later, shown = earlier ++ row :: later → later.length < limit →
    ∀ old ∈ earlier, key old < key row ∨ old = row

variable {key}

theorem newest_snoc {front : List Shown} {last : Shown} {limit : Nat} :
    Newest key (front ++ [last]) (limit + 1) ↔
      (∀ old ∈ front, key old < key last ∨ old = last) ∧ Newest key front limit := by
  constructor
  · intro newest
    constructor
    · exact newest front last [] rfl (by simp)
    · intro earlier row later same few
      exact newest earlier row (later ++ [last]) (by simp [same]) (by simpa using few)
  · intro both
    obtain ⟨on_top, below⟩ := both
    intro earlier row later same few
    rcases List.eq_nil_or_concat later with none_later | more
    · subst none_later
      obtain ⟨same_front, same_last⟩ := List.append_inj' same rfl
      cases same_last
      subst same_front
      exact on_top
    · obtain ⟨others, end_row, snoc⟩ := more
      subst snoc
      rw [List.concat_eq_append, ← List.cons_append, ← List.append_assoc] at same
      obtain ⟨same_front, _⟩ := List.append_inj' same rfl
      have fewer : others.length < limit := by simpa using few
      exact below earlier row others same_front fewer

theorem exists_descending (key : Shown → Int) (shown : List Shown) :
    ∃ order : List Shown, order.Perm shown ∧ Descending key order := by
  let newer : Shown → Shown → Prop := fun a b => key b ≤ key a
  have total : Std.Total newer := ⟨fun a b => le_total (key b) (key a)⟩
  have trans : IsTrans Shown newer := ⟨fun a b c ab bc => le_trans bc ab⟩
  have decides : DecidableRel newer := fun a b => inferInstanceAs (Decidable (key b ≤ key a))
  exact ⟨shown.insertionSort newer, List.perm_insertionSort newer shown,
    List.pairwise_insertionSort newer shown⟩

theorem descending_head {shown : List Shown} {first : Shown} (there : first ∈ shown)
    (greatest : ∀ row ∈ shown, key row ≤ key first) :
    ∃ others, (first :: others).Perm shown ∧ Descending key (first :: others) := by
  obtain ⟨before, behind, same⟩ := List.append_of_mem there
  obtain ⟨others, perm, sorted⟩ := exists_descending key (before ++ behind)
  have whole : (first :: others).Perm shown := by
    rw [same]
    exact (perm.cons first).trans List.perm_middle.symm
  refine ⟨others, whole, List.pairwise_cons.mpr ⟨?_, sorted⟩⟩
  intro row member
  exact greatest row (whole.mem_iff.mp (List.mem_cons_of_mem first member))

theorem descending_cons {first : Shown} {others : List Shown}
    (sorted : Descending key (first :: others)) {row : Shown} (there : row ∈ first :: others) :
    key row ≤ key first := by
  rcases List.mem_cons.mp there with here | later
  · rw [here]
  · exact (List.pairwise_cons.mp sorted).1 row later

/-- Every order that the sort may give ends, reversed, in the last rows. -/
theorem newest_iff (shown : List Shown) (limit : Nat) :
    (∀ order, order.Perm shown → Descending key order →
      (order.take limit).reverse = shown.drop (shown.length - limit)) ↔
      Newest key shown limit := by
  induction shown using List.reverseRecOn generalizing limit with
  | nil =>
    constructor
    · intro _ earlier row later same
      simp at same
    · intro _ order perm _
      simp [perm.eq_nil]
  | append_singleton front last ih =>
    cases limit with
    | zero =>
      constructor
      · intro _ earlier row later _ few
        exact absurd few (Nat.not_lt_zero _)
      · intro _ order _ _
        simp
    | succ limit =>
      have last_rows : (front ++ [last]).drop ((front ++ [last]).length - (limit + 1)) =
          front.drop (front.length - limit) ++ [last] := by
        rw [List.length_append, List.length_singleton, Nat.add_sub_add_right,
          List.drop_append_of_le_length (by omega)]
      have front_last : (front ++ [last]).Perm (last :: front) := List.perm_append_singleton last front
      rw [newest_snoc, ← ih, last_rows]
      constructor
      · intro gives
        have heads : ∀ first others, (first :: others).Perm (front ++ [last]) →
            Descending key (first :: others) →
            first = last ∧ (others.take limit).reverse = front.drop (front.length - limit) := by
          intro first others perm sorted
          have given := gives _ perm sorted
          rw [List.take_succ_cons, List.reverse_cons] at given
          obtain ⟨same_front, same_last⟩ := List.append_inj' given rfl
          exact ⟨List.singleton_inj.mp same_last, same_front⟩
        have greatest : ∀ row ∈ front ++ [last], key row ≤ key last := by
          obtain ⟨order, perm, sorted⟩ := exists_descending key (front ++ [last])
          cases order with
          | nil => exact absurd perm.length_eq (by simp)
          | cons first others =>
            obtain ⟨same, _⟩ := heads first others perm sorted
            intro row there
            rw [← same]
            exact descending_cons sorted (perm.mem_iff.mpr there)
        constructor
        · intro old member
          have there : old ∈ front ++ [last] := List.mem_append_left [last] member
          rcases lt_or_eq_of_le (greatest old there) with older | tie
          · exact Or.inl older
          · obtain ⟨others, perm, sorted⟩ := descending_head there
              (fun row inside => (greatest row inside).trans tie.ge)
            exact Or.inr (heads old others perm sorted).1
        · intro order perm sorted
          have whole : (last :: order).Perm (front ++ [last]) :=
            (perm.cons last).trans front_last.symm
          have on_top : Descending key (last :: order) := List.pairwise_cons.mpr
            ⟨fun row inside => greatest row (List.mem_append_left [last] (perm.mem_iff.mp inside)),
              sorted⟩
          exact (heads last order whole on_top).2
      · intro both order perm sorted
        obtain ⟨on_top, below⟩ := both
        cases order with
        | nil => exact absurd perm.length_eq (by simp)
        | cons first others =>
          have newest_first : first = last := by
            have there : first ∈ front ++ [last] := perm.mem_iff.mp List.mem_cons_self
            rcases List.mem_append.mp there with old | end_row
            · rcases on_top first old with older | same
              · have not_older : key last ≤ key first :=
                  descending_cons sorted (perm.mem_iff.mpr (by simp))
                omega
              · exact same
            · exact List.mem_singleton.mp end_row
          subst newest_first
          have rest : others.Perm front := (perm.trans front_last).cons_inv
          rw [List.take_succ_cons, List.reverse_cons,
            below others rest (List.pairwise_cons.mp sorted).2]

theorem newest_view_iff (view : Row → Shown) (stored : List Row) (limit : Nat) :
    (∀ order : List Row, order.Perm stored → Descending key (order.map view) →
      ((order.take limit).reverse).map view =
        (stored.drop (stored.length - limit)).map view) ↔
      Newest key (stored.map view) limit := by
  rw [← newest_iff]
  constructor
  · intro gives order perm sorted
    have related : List.Forall₂ (fun shown row => shown = view row) (stored.map view) stored :=
      List.forall₂_map_left_iff.mpr (List.forall₂_same.mpr (fun _ _ => rfl))
    obtain ⟨rows, shown, rows_perm⟩ := List.perm_comp_forall₂ perm related
    have same : order = rows.map view := by
      have mapped := List.forall₂_map_right_iff.mpr shown
      exact List.forall₂_eq_eq_eq ▸ mapped
    subst same
    have given := gives rows rows_perm sorted
    rw [List.map_reverse, List.map_take, List.map_drop] at given
    rw [given, List.length_map]
  · intro gives order perm sorted
    have given := gives (order.map view) (perm.map view) sorted
    rw [List.map_reverse, List.map_take, List.map_drop, given, List.length_map]

end NewestRows
