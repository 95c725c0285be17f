import Mathlib.Algebra.Order.Ring.Nat
import Mathlib.Tactic.Ring

/-!
Numbers in a buffer of bytes, the most significant byte first, and reads that
fail where they would leave the buffer.
-/

namespace Greetup.Data

/-! ### The bytes of a number -/

/-- The last `width` bytes of a number. -/
def bytesBE : ℕ → ℕ → List UInt8
  | 0, _ => []
  | width + 1, n => UInt8.ofNat (n / 256 ^ width) :: bytesBE width n

def ofBytesBE (bytes : List UInt8) : ℕ := bytes.foldl (fun n byte => n * 256 + byte.toNat) 0

@[simp] theorem length_bytesBE (width n : ℕ) : (bytesBE width n).length = width := by
  induction width with
  | zero => rfl
  | succ width ih => rw [bytesBE, List.length_cons, ih]

theorem foldl_bytesBE (width n start : ℕ) :
    (bytesBE width n).foldl (fun n byte => n * 256 + byte.toNat) start =
      start * 256 ^ width + n % 256 ^ width := by
  induction width generalizing start with
  | zero => simp [bytesBE, Nat.mod_one]
  | succ width ih =>
      have hbyte : (UInt8.ofNat (n / 256 ^ width)).toNat = n / 256 ^ width % 256 := by simp
      rw [bytesBE, List.foldl_cons, ih, hbyte, Nat.mod_pow_succ, pow_succ]
      ring

theorem ofBytesBE_bytesBE {width n : ℕ} (h : n < 256 ^ width) :
    ofBytesBE (bytesBE width n) = n := by
  rw [ofBytesBE, foldl_bytesBE, Nat.zero_mul, Nat.zero_add, Nat.mod_eq_of_lt h]

theorem length_flatMap_bytesBE {α : Type} (width : ℕ) (f : α → ℕ) (l : List α) :
    (l.flatMap fun a => bytesBE width (f a)).length = l.length * width := by
  induction l with
  | nil => simp
  | cons a l ih =>
      rw [List.flatMap_cons, List.length_append, length_bytesBE, ih, List.length_cons]
      ring

/-! ### Reads -/

/-- A read at an index that the buffer does not have. -/
structure OutOfRange where
  index : ℕ
  deriving DecidableEq

abbrev Read := Except OutOfRange

def readByte (buf : List UInt8) (index : ℕ) : Read ℕ :=
  match buf[index]? with
  | some byte => .ok byte.toNat
  | none => .error ⟨index⟩

/-- A number of `width` bytes. -/
def readUIntBE (width : ℕ) (buf : List UInt8) (offset : ℕ) : Read ℕ :=
  if offset + width ≤ buf.length then .ok (ofBytesBE ((buf.drop offset).take width))
  else .error ⟨offset + width - 1⟩

section Reads

variable {width offset n : ℕ} {buf front back : List UInt8}

theorem readByte_of_lt (h : offset < buf.length) : readByte buf offset = .ok buf[offset].toNat := by
  rw [readByte, List.getElem?_eq_getElem h]

theorem readUIntBE_of_le (h : offset + width ≤ buf.length) :
    readUIntBE width buf offset = .ok (ofBytesBE ((buf.drop offset).take width)) := if_pos h

/-- What was written is read where it stands. -/
theorem readUIntBE_bytesBE (hbuf : buf = front ++ (bytesBE width n ++ back))
    (hoffset : front.length = offset) (hn : n < 256 ^ width) :
    readUIntBE width buf offset = .ok n := by
  subst hbuf hoffset
  have hle : front.length + width ≤ (front ++ (bytesBE width n ++ back)).length := by
    simp only [List.length_append, length_bytesBE]
    omega
  have htake : (bytesBE width n ++ back).take width = bytesBE width n :=
    List.take_left' (length_bytesBE width n)
  rw [readUIntBE_of_le hle, List.drop_left, htake, ofBytesBE_bytesBE hn]

end Reads

end Greetup.Data
