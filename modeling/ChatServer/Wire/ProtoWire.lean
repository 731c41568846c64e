import Mathlib

/-!
The wire format of proto3 messages, as far as writing goes: base-128 varints, and fields
that hold an integer, a string or another message. An integer or string field without
presence is left out when it holds its default. Sizes are exact for bodies below 2^14.
-/
namespace ProtoWire

abbrev Bytes := List UInt8

/-- Seven bits a byte, the lowest first; every byte but the last has its high bit set. -/
def varint (n : Nat) : Bytes :=
  if n < 128 then [n.toUInt8] else (n % 128 + 128).toUInt8 :: varint (n / 128)
termination_by n
decreasing_by omega

def lengthDelimited (number : Nat) (body : Bytes) : Bytes :=
  varint (8 * number + 2) ++ (varint body.length ++ body)

def utf8 (s : String) : Bytes := s.toUTF8.data.toList

def stringField (number : Nat) (s : String) : Bytes :=
  if s = "" then [] else lengthDelimited number (utf8 s)

/-- A string field with presence is written even when it is empty. -/
def optionalString (number : Nat) : Option String → Bytes
  | none => []
  | some s => lengthDelimited number (utf8 s)

/-- A bool, an enum, an int32 or an int64: all are sign-extended to 64 bits. -/
def integerField (number : Nat) (v : Int) : Bytes :=
  if v = 0 then [] else varint (8 * number) ++ varint (v % 2 ^ 64).toNat

theorem varint_length_one {n : Nat} (small : n < 128) : (varint n).length = 1 := by
  rw [varint, if_pos small, List.length_singleton]

theorem varint_length_step {n : Nat} (large : 128 ≤ n) :
    (varint n).length = (varint (n / 128)).length + 1 := by
  rw [varint, if_neg (by omega), List.length_cons]

theorem varint_length_pos (n : Nat) : 0 < (varint n).length := by
  by_cases small : n < 128
  · rw [varint_length_one small]
    omega
  · rw [varint_length_step (by omega)]
    omega

theorem varint_length_two {n : Nat} (large : 128 ≤ n) (small : n < 16384) :
    (varint n).length = 2 := by
  rw [varint_length_step large, varint_length_one (by omega)]

theorem varint_length_three {n : Nat} (large : 16384 ≤ n) : 3 ≤ (varint n).length := by
  have rest := varint_length_pos (n / 128 / 128)
  rw [varint_length_step (by omega), varint_length_step (by omega)]
  omega

@[simp] theorem utf8_length (s : String) : (utf8 s).length = s.utf8ByteSize := rfl

def blockSize (n : Nat) : Nat := 1 + ((varint n).length + n)

def stringSize (n : Nat) : Nat := if n = 0 then 0 else blockSize n

def integerSize (v : Int) : Nat := if v = 0 then 0 else 1 + (varint (v % 2 ^ 64).toNat).length

@[simp] theorem string_size_zero : stringSize 0 = 0 := rfl

@[simp] theorem integer_size_zero : integerSize 0 = 0 := rfl

theorem integer_size_small {v : Int} (positive : 0 < v) (small : v < 128) :
    integerSize v = 2 := by
  have low : (v % 2 ^ 64).toNat < 128 := by omega
  rw [integerSize, if_neg (by omega), varint_length_one low]

theorem block_size_small {n : Nat} (small : n < 128) : blockSize n = n + 2 := by
  rw [blockSize, varint_length_one small]
  omega

theorem block_size_medium {n : Nat} (large : 128 ≤ n) (small : n < 16384) :
    blockSize n = n + 3 := by
  rw [blockSize, varint_length_two large small]
  omega

theorem block_size_large {n : Nat} (large : 16384 ≤ n) : n + 4 ≤ blockSize n := by
  have three := varint_length_three large
  unfold blockSize
  omega

/-- Around a bound of this order, a block costs three bytes. -/
theorem block_size_le_iff {n bound : Nat} (low : 130 ≤ bound) (high : bound < 16387) :
    blockSize n ≤ bound ↔ n + 3 ≤ bound := by
  by_cases small : n < 128
  · rw [block_size_small small]
    omega
  · by_cases medium : n < 16384
    · rw [block_size_medium (by omega) medium]
    · have four := block_size_large (n := n) (by omega)
      omega

theorem string_size_cases (n : Nat) :
    (n = 0 ∧ stringSize n = 0) ∨ (0 < n ∧ stringSize n = blockSize n) := by
  unfold stringSize
  split <;> omega

theorem string_size_le_iff {n bound : Nat} (low : 130 ≤ bound) (high : bound < 16387) :
    stringSize n ≤ bound ↔ n + 3 ≤ bound := by
  have block : blockSize n ≤ bound ↔ n + 3 ≤ bound := block_size_le_iff low high
  have cases := string_size_cases n
  omega

theorem string_sizes_le_iff {n more bound : Nat} (short : more ≤ 100) (low : 600 ≤ bound)
    (high : bound < 16387) :
    stringSize n + stringSize (n + more) ≤ bound ↔ 2 * n + more + 6 ≤ bound := by
  have first := string_size_cases n
  have second := string_size_cases (n + more)
  by_cases small : n < 128
  · have block := block_size_small small
    have longer : stringSize (n + more) ≤ 400 ↔ n + more + 3 ≤ 400 :=
      string_size_le_iff (by omega) (by omega)
    omega
  · by_cases medium : n + more < 16384
    · have block := block_size_medium (n := n) (by omega) (by omega)
      have longer := block_size_medium (n := n + more) (by omega) medium
      omega
    · have longer := block_size_large (n := n + more) (by omega)
      omega

theorem length_delimited_length {number : Nat} (small : number < 16) (body : Bytes) :
    (lengthDelimited number body).length = blockSize body.length := by
  simp only [lengthDelimited, List.length_append, varint_length_one (n := 8 * number + 2) (by omega),
    blockSize]

theorem length_delimited_length_two {number : Nat} (large : 16 ≤ number) (small : number < 2048)
    (body : Bytes) : (lengthDelimited number body).length = blockSize body.length + 1 := by
  simp only [lengthDelimited, List.length_append,
    varint_length_two (n := 8 * number + 2) (by omega) (by omega), blockSize]
  omega

theorem string_field_length {number : Nat} (small : number < 16) (s : String) :
    (stringField number s).length = stringSize s.utf8ByteSize := by
  unfold stringField stringSize
  by_cases empty : s = ""
  · simp [empty]
  · have positive : s.utf8ByteSize ≠ 0 := by simpa using empty
    rw [if_neg empty, if_neg positive, length_delimited_length small, utf8_length]

theorem integer_field_length {number : Nat} (small : number < 16) (v : Int) :
    (integerField number v).length = integerSize v := by
  unfold integerField integerSize
  by_cases zero : v = 0
  · simp [zero]
  · rw [if_neg zero, if_neg zero, List.length_append, varint_length_one (by omega)]

end ProtoWire
