import Mathlib

/-!
Matching a whole text against a sequence of pieces: single elements, and runs of one or
more. A run is tried at its longest and given back element by element, as a backtracking
matcher does. What is found fits; and where no run could go on into the next part, it is
the split into those parts.
-/
namespace GreedyRuns
variable {α β : Type}

inductive Piece (α : Type) where
  | one (ok : α → Bool)
  | plus (ok : α → Bool)

def Piece.Fits : Piece α → List α → Prop
  | .one ok, part => ∃ a, part = [a] ∧ ok a = true
  | .plus ok, part => part ≠ [] ∧ ∀ a ∈ part, ok a = true

/-- The first success among the attempts with `n`, `n - 1` down to 1. -/
def longestFirst (attempt : Nat → Option β) : Nat → Option β
  | 0 => none
  | n + 1 => match attempt (n + 1) with
    | some b => some b
    | none => longestFirst attempt n

def matchAll : List (Piece α) → List α → Option (List (List α))
  | [], [] => some []
  | [], _ :: _ => none
  | .one _ :: _, [] => none
  | .one ok :: pieces, a :: text =>
    if ok a then (matchAll pieces text).map ([a] :: ·) else none
  | .plus ok :: pieces, text =>
    longestFirst (fun n => (matchAll pieces (text.drop n)).map (text.take n :: ·))
      (text.takeWhile ok).length

theorem longestFirst_some {attempt : Nat → Option β} {n : Nat} {b : β}
    (found : longestFirst attempt n = some b) : ∃ k, 0 < k ∧ k ≤ n ∧ attempt k = some b := by
  induction n with
  | zero => cases found
  | succ n ih =>
    unfold longestFirst at found
    cases top : attempt (n + 1) with
    | some c =>
      rw [top] at found
      cases found
      exact ⟨n + 1, Nat.succ_pos n, le_rfl, top⟩
    | none =>
      rw [top] at found
      obtain ⟨k, positive, below, here⟩ := ih found
      exact ⟨k, positive, Nat.le_succ_of_le below, here⟩

theorem longestFirst_top {attempt : Nat → Option β} {n : Nat} {b : β} (positive : 0 < n)
    (top : attempt n = some b) : longestFirst attempt n = some b := by
  cases n with
  | zero => cases positive
  | succ n => simp only [longestFirst, top]

theorem take_run {ok : α → Bool} {text : List α} {n : Nat}
    (below : n ≤ (text.takeWhile ok).length) : ∀ a ∈ text.take n, ok a = true := by
  intro a member
  have inside : text.take n = (text.takeWhile ok).take n := by
    conv_lhs => rw [← List.takeWhile_append_dropWhile (p := ok) (l := text)]
    exact List.take_append_of_le_length below
  rw [inside] at member
  exact List.mem_takeWhile_imp (List.mem_of_mem_take member)

theorem matchAll_sound {pieces : List (Piece α)} {text : List α} {parts : List (List α)}
    (found : matchAll pieces text = some parts) :
    parts.flatten = text ∧ List.Forall₂ Piece.Fits pieces parts := by
  induction pieces generalizing text parts with
  | nil =>
    cases text with
    | nil =>
      cases found
      exact ⟨rfl, .nil⟩
    | cons a text => cases found
  | cons piece pieces ih =>
    cases piece with
    | one ok =>
      cases text with
      | nil => cases found
      | cons a text =>
        simp only [matchAll] at found
        split at found
        · rename_i fits
          obtain ⟨rest, later, same⟩ := Option.map_eq_some_iff.mp found
          obtain ⟨whole, all⟩ := ih later
          subst same
          exact ⟨congrArg (a :: ·) whole, .cons ⟨a, rfl, fits⟩ all⟩
        · cases found
    | plus ok =>
      simp only [matchAll] at found
      obtain ⟨n, positive, below, here⟩ := longestFirst_some found
      obtain ⟨rest, later, same⟩ := Option.map_eq_some_iff.mp here
      obtain ⟨whole, all⟩ := ih later
      subst same
      have shorter : (text.takeWhile ok).length ≤ text.length :=
        (List.takeWhile_prefix ok).length_le
      have nonempty : text.take n ≠ [] := by
        intro empty
        have length := congrArg List.length empty
        rw [List.length_take, List.length_nil] at length
        omega
      refine ⟨?_, .cons ⟨nonempty, take_run below⟩ all⟩
      rw [List.flatten_cons, whole, List.take_append_drop]

theorem matchAll_one {ok : α → Bool} {pieces : List (Piece α)} {a : α} {rest : List α}
    {parts : List (List α)} (fits : ok a = true) (later : matchAll pieces rest = some parts) :
    matchAll (.one ok :: pieces) (a :: rest) = some ([a] :: parts) := by
  simp only [matchAll, fits, ↓reduceIte, later, Option.map_some]

section Run
variable {ok : α → Bool} {run rest : List α} (inside : ∀ a ∈ run, ok a = true)
  (stops : ∀ a ∈ rest.head?, ok a = false)
include inside stops

theorem takeWhile_run : (run ++ rest).takeWhile ok = run := by
  rw [List.takeWhile_append_of_pos inside]
  cases rest with
  | nil => simp
  | cons a rest => simp [stops a (by simp)]

theorem dropWhile_run : (run ++ rest).dropWhile ok = rest := by
  rw [List.dropWhile_append_of_pos inside]
  cases rest with
  | nil => rfl
  | cons a rest => simp [stops a (by simp)]

theorem run_unique {run' rest' : List α} (inside' : ∀ a ∈ run', ok a = true)
    (stops' : ∀ a ∈ rest'.head?, ok a = false) (same : run ++ rest = run' ++ rest') :
    run = run' ∧ rest = rest' := by
  constructor
  · rw [← takeWhile_run inside stops, same, takeWhile_run inside' stops']
  · rw [← dropWhile_run inside stops, same, dropWhile_run inside' stops']

/-- A run that cannot go on is taken as it stands, if the rest then matches. -/
theorem matchAll_run {pieces : List (Piece α)} {parts : List (List α)} (nonempty : run ≠ [])
    (later : matchAll pieces rest = some parts) :
    matchAll (.plus ok :: pieces) (run ++ rest) = some (run :: parts) := by
  simp only [matchAll, takeWhile_run inside stops]
  apply longestFirst_top (List.length_pos_iff.mpr nonempty)
  rw [List.drop_left, later, List.take_left]
  rfl

end Run

end GreedyRuns
