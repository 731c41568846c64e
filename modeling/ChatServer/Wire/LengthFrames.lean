import Mathlib

/-!
Frames with a length in front: four bytes of big-endian length, then a body of that many
bytes that a parser accepts. A byte stream has one longest prefix made of whole valid
frames, because no valid frame starts inside or beyond another at the same place.
-/
namespace LengthFrames

def bigEndian (bytes : List UInt8) : Nat := bytes.foldl (fun n b => 256 * n + b.toNat) 0

/-- A 32-bit length; a longer one loses its high part. -/
def lengthBytes (n : Nat) : List UInt8 :=
  [(n / 2 ^ 24).toUInt8, (n / 2 ^ 16).toUInt8, (n / 2 ^ 8).toUInt8, n.toUInt8]

@[simp] theorem length_bytes_length (n : Nat) : (lengthBytes n).length = 4 := rfl

theorem big_endian_length_bytes (n : Nat) : bigEndian (lengthBytes n) = n % 2 ^ 32 := by
  simp [bigEndian, lengthBytes]
  omega

variable {α : Type} (limit : Nat) (parse : List UInt8 → Option α)

structure Frame (header body : List UInt8) (a : α) : Prop where
  four : header.length = 4
  size : bigEndian header = body.length
  positive : 0 < body.length
  short : body.length < limit
  parsed : parse body = some a

inductive Frames : List UInt8 → List α → Prop where
  | nil : Frames [] []
  | cons {header body rest : List UInt8} {a : α} {others : List α}
      (first : Frame limit parse header body a) (more : Frames rest others) :
      Frames (header ++ (body ++ rest)) (a :: others)

def NoFrame (bytes : List UInt8) : Prop :=
  ∀ header body rest a, bytes = header ++ (body ++ rest) → ¬ Frame limit parse header body a

/-- What the longest prefix made of whole valid frames holds. -/
def Longest (stream : List UInt8) (as : List α) : Prop :=
  ∃ pre, pre <+: stream ∧ Frames limit parse pre as ∧
    ∀ other bs, other <+: stream → Frames limit parse other bs → other.length ≤ pre.length

variable {limit : Nat} {parse : List UInt8 → Option α}

theorem same_first_frame {header body rest header' body' rest' : List UInt8} {a a' : α}
    (first : Frame limit parse header body a) (second : Frame limit parse header' body' a')
    (same : header ++ (body ++ rest) = header' ++ (body' ++ rest')) :
    header = header' ∧ body = body' ∧ rest = rest' ∧ a = a' := by
  have headers := List.append_inj same (first.four.trans second.four.symm)
  obtain ⟨same_header, tails⟩ := headers
  have lengths : body.length = body'.length := by
    rw [← first.size, ← second.size, same_header]
  obtain ⟨same_body, same_rest⟩ := List.append_inj tails lengths
  have parsed : some a = some a' := by
    rw [← first.parsed, ← second.parsed, same_body]
  exact ⟨same_header, same_body, same_rest, Option.some.inj parsed⟩

theorem frame_not_empty {header body rest : List UInt8} {a : α}
    (frame : Frame limit parse header body a) : header ++ (body ++ rest) ≠ [] := by
  intro empty
  have lengths := congrArg List.length empty
  simp only [List.length_append, frame.four, List.length_nil] at lengths
  omega

theorem frames_unique {bytes : List UInt8} {as bs : List α} (one : Frames limit parse bytes as)
    (other : Frames limit parse bytes bs) : as = bs := by
  induction one generalizing bs with
  | nil =>
    generalize same : ([] : List UInt8) = bytes at other
    cases other with
    | nil => rfl
    | cons first more => exact absurd same.symm (frame_not_empty first)
  | @cons header body rest a others first more ih =>
    generalize same : header ++ (body ++ rest) = bytes at other
    cases other with
    | nil => exact absurd same (frame_not_empty first)
    | cons second rest_frames =>
      obtain ⟨_, _, same_rest, same_value⟩ := same_first_frame first second same
      subst same_rest same_value
      rw [ih rest_frames]

theorem frames_prefix {bytes other : List UInt8} {as bs : List α}
    (one : Frames limit parse bytes as) (inside : bytes <+: other)
    (all : Frames limit parse other bs) : as <+: bs := by
  induction one generalizing other bs with
  | nil => exact List.nil_prefix
  | @cons header body rest a others first more ih =>
    obtain ⟨tail, same⟩ := inside
    rw [List.append_assoc, List.append_assoc] at same
    cases all with
    | nil => exact absurd same (frame_not_empty first)
    | cons second rest_frames =>
      obtain ⟨_, _, same_rest, same_value⟩ := same_first_frame first second same
      subst same_value
      exact List.cons_prefix_cons.mpr ⟨rfl, ih ⟨tail, same_rest⟩ rest_frames⟩

theorem frames_append {first second : List UInt8} {as bs : List α}
    (one : Frames limit parse first as) (other : Frames limit parse second bs) :
    Frames limit parse (first ++ second) (as ++ bs) := by
  induction one with
  | nil => exact other
  | cons head more ih =>
    simp only [List.append_assoc, List.cons_append]
    exact .cons head ih

theorem frames_single {header body : List UInt8} {a : α}
    (frame : Frame limit parse header body a) : Frames limit parse (header ++ body) [a] := by
  have alone := Frames.cons frame Frames.nil
  rwa [List.append_nil] at alone

theorem frames_before_stuck {pre rest other : List UInt8} {as bs : List α}
    (frames : Frames limit parse pre as) (stuck : NoFrame limit parse rest)
    (inside : other <+: pre ++ rest) (others : Frames limit parse other bs) :
    other.length ≤ pre.length := by
  induction frames generalizing other bs with
  | nil =>
    cases others with
    | nil => simp
    | cons first more =>
      obtain ⟨tail, same⟩ := inside
      simp only [List.nil_append, List.append_assoc] at same
      exact absurd first (stuck _ _ _ _ same.symm)
  | @cons header body after a values first more ih =>
    cases others with
    | nil => simp
    | @cons header' body' after' b values' second more' =>
      obtain ⟨tail, same⟩ := inside
      simp only [List.append_assoc] at same
      obtain ⟨same_header, same_body, same_rest, _⟩ := same_first_frame second first same
      have shorter := ih ⟨tail, same_rest⟩ more'
      simp only [List.length_append, same_header, same_body]
      omega

theorem longest_of_stuck {pre rest : List UInt8} {as : List α}
    (frames : Frames limit parse pre as) (stuck : NoFrame limit parse rest) :
    Longest limit parse (pre ++ rest) as :=
  ⟨pre, List.prefix_append pre rest, frames,
    fun _ _ inside others => frames_before_stuck frames stuck inside others⟩

theorem longest_unique {stream : List UInt8} {as bs : List α}
    (one : Longest limit parse stream as) (other : Longest limit parse stream bs) : as = bs := by
  obtain ⟨pre, inside, frames, most⟩ := one
  obtain ⟨pre', inside', frames', most'⟩ := other
  have lengths : pre.length = pre'.length :=
    le_antisymm (most' pre as inside frames) (most pre' bs inside' frames')
  have same : pre = pre' :=
    (List.prefix_of_prefix_length_le inside inside' lengths.le).eq_of_length lengths
  subst same
  exact frames_unique frames frames'

/-- Whatever frames were found so far, the longest prefix has them too. -/
theorem prefix_of_longest {stream bytes : List UInt8} {as bs : List α}
    (frames : Frames limit parse bytes as) (inside : bytes <+: stream)
    (longest : Longest limit parse stream bs) : as <+: bs := by
  obtain ⟨pre, pre_inside, pre_frames, most⟩ := longest
  have shorter := most bytes as inside frames
  exact frames_prefix frames (List.prefix_of_prefix_length_le inside pre_inside shorter) pre_frames

theorem no_frame_short {bytes : List UInt8} (short : bytes.length < 4) :
    NoFrame limit parse bytes := by
  intro header body rest a same frame
  have lengths := congrArg List.length same
  simp only [List.length_append, frame.four] at lengths
  omega

theorem no_frame_header {header rest : List UInt8} (four : header.length = 4)
    (bad : ¬ (0 < bigEndian header ∧ bigEndian header < limit)) :
    NoFrame limit parse (header ++ rest) := by
  intro header' body rest' a same frame
  obtain ⟨same_header, _⟩ := List.append_inj same (four.trans frame.four.symm)
  apply bad
  rw [same_header, frame.size]
  exact ⟨frame.positive, frame.short⟩

theorem no_frame_unfinished {header rest : List UInt8} (four : header.length = 4)
    (few : rest.length < bigEndian header) : NoFrame limit parse (header ++ rest) := by
  intro header' body rest' a same frame
  obtain ⟨same_header, same_rest⟩ := List.append_inj same (four.trans frame.four.symm)
  have lengths := congrArg List.length same_rest
  rw [List.length_append, ← frame.size, ← same_header] at lengths
  omega

theorem no_frame_body {header body rest : List UInt8} (four : header.length = 4)
    (size : body.length = bigEndian header) (bad : parse body = none) :
    NoFrame limit parse (header ++ (body ++ rest)) := by
  intro header' body' rest' a same frame
  obtain ⟨same_header, same_rest⟩ := List.append_inj same (four.trans frame.four.symm)
  have lengths : body.length = body'.length := by rw [size, same_header, frame.size]
  obtain ⟨same_body, _⟩ := List.append_inj same_rest lengths
  rw [same_body, frame.parsed] at bad
  cases bad

theorem frames_written {serialize : α → List UInt8} (bound : limit ≤ 2 ^ 32) {as : List α}
    (fit : ∀ a ∈ as, 0 < (serialize a).length ∧ (serialize a).length < limit)
    (inverts : ∀ a ∈ as, parse (serialize a) = some a) :
    Frames limit parse
      (as.flatMap (fun a => lengthBytes (serialize a).length ++ serialize a)) as := by
  induction as with
  | nil => exact .nil
  | cons a rest ih =>
    have here := fit a List.mem_cons_self
    have frame : Frame limit parse (lengthBytes (serialize a).length) (serialize a) a := by
      constructor
      · rfl
      · rw [big_endian_length_bytes]
        exact Nat.mod_eq_of_lt (by omega)
      · exact here.1
      · exact here.2
      · exact inverts a List.mem_cons_self
    have tail := ih (fun b there => fit b (List.mem_cons_of_mem a there))
      (fun b there => inverts b (List.mem_cons_of_mem a there))
    simp only [List.flatMap_cons, List.append_assoc]
    exact .cons frame tail

end LengthFrames
