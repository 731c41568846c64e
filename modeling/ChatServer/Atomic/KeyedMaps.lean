import Mathlib

/-!
Ordered maps read by decidable equality of keys rather than by `compare`, for
rewriting with a split on two keys being the same.
-/
namespace KeyedMaps
variable {K V : Type}

theorem count_values [DecidableEq V] {l : List (K × V)} (keys : (l.map Prod.fst).Nodup)
    {k : K} {v : V} (here : (k, v) ∈ l) :
    (l.map Prod.snd).count v = 1 ↔ ∀ other, (other, v) ∈ l → other = k := by
  induction l with
  | nil => cases here
  | cons p rest ih =>
    obtain ⟨first, value⟩ := p
    obtain ⟨fresh, keys'⟩ := List.nodup_cons.mp keys
    have absent : ∀ w, (first, w) ∉ rest := by
      intro w listed
      exact fresh (List.mem_map.mpr ⟨_, listed, rfl⟩)
    simp only [List.map_cons, List.count_cons, beq_iff_eq, List.mem_cons, Prod.mk.injEq]
    by_cases same : value = v
    · subst same
      rw [if_pos rfl]
      have only : (rest.map Prod.snd).count value = 0 ↔ ∀ other, (other, value) ∉ rest := by
        rw [List.count_eq_zero]
        simp
      constructor
      · intro one
        have none_left := only.mp (by omega)
        rcases List.mem_cons.mp here with head | tail
        · cases head
          intro other listed
          rcases listed with it | later
          · exact it.1
          · exact absurd later (none_left other)
        · exact absurd tail (none_left k)
      · intro unique
        have here' : first = k := unique first (Or.inl ⟨rfl, rfl⟩)
        have none_left : ∀ other, (other, value) ∉ rest := by
          intro other listed
          have it := unique other (Or.inr listed)
          rw [it, ← here'] at listed
          exact absent value listed
        rw [only.mpr none_left]
    · rw [if_neg same, Nat.add_zero]
      rcases List.mem_cons.mp here with head | tail
      · cases head
        exact absurd rfl same
      · rw [ih keys' tail]
        constructor
        · intro unique other listed
          rcases listed with it | later
          · exact absurd it.2.symm same
          · exact unique other later
        · intro unique other listed
          exact unique other (Or.inr listed)

variable [Ord K] [Std.TransOrd K]

theorem find_of_isEmpty {map : Std.ExtTreeMap K V} (h : map.isEmpty = true) (key : K) :
    map[key]? = none := by
  rw [Std.ExtTreeMap.isEmpty_iff] at h
  simp [h]

variable [Std.LawfulEqOrd K] [DecidableEq K]

theorem find_erase (map : Std.ExtTreeMap K V) (key other : K) :
    (map.erase key)[other]? = if other = key then none else map[other]? := by
  rw [Std.ExtTreeMap.getElem?_erase]
  by_cases same : other = key
  · simp [same]
  · simp [same, Ne.symm same]

theorem find_insert (map : Std.ExtTreeMap K V) (key other : K) (value : V) :
    (map.insert key value)[other]? = if other = key then some value else map[other]? := by
  rw [Std.ExtTreeMap.getElem?_insert]
  by_cases same : other = key
  · simp [same]
  · simp [same, Ne.symm same]

end KeyedMaps
