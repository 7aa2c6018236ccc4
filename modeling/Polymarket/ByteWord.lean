import Mathlib.Tactic.Ring

/-! Fixed-width unsigned integers as byte lists, least significant byte first,
and the schoolbook step that multiplies one by a small factor and adds a
carry. -/

set_option autoImplicit false

namespace Polymarket

/-- The number a byte list spells, least significant byte first. -/
def byteValue : List UInt8 → Nat
  | [] => 0
  | byte :: rest => byte.toNat + 256 * byteValue rest

/-- Multiply every byte in place and pass the carry on; the carry that leaves the
last byte comes first. -/
def multiplyAdd (factor : Nat) : Nat → List UInt8 → Nat × List UInt8
  | carry, [] => (carry, [])
  | carry, byte :: rest =>
      let next := byte.toNat * factor + carry
      let shifted := multiplyAdd factor (next / 256) rest
      (shifted.1, UInt8.ofNat (next % 256) :: shifted.2)

theorem byteValue_lt (bytes : List UInt8) : byteValue bytes < 256 ^ bytes.length := by
  induction bytes with
  | nil => simp [byteValue]
  | cons byte rest ih =>
      have small : byte.toNat < 256 := byte.toNat_lt
      simp only [byteValue, List.length_cons, Nat.pow_succ]
      omega

/-- A width and a value determine the bytes. -/
theorem byteValue_injective {left right : List UInt8} (width : left.length = right.length)
    (same : byteValue left = byteValue right) : left = right := by
  induction left generalizing right with
  | nil => exact (List.eq_nil_of_length_eq_zero width.symm).symm
  | cons byte rest ih =>
      cases right with
      | nil => simp at width
      | cons other others =>
          have small : byte.toNat < 256 := byte.toNat_lt
          have smallOther : other.toNat < 256 := other.toNat_lt
          simp only [byteValue] at same
          have head : byte = other := UInt8.toNat_inj.mp (by omega)
          have tail : rest = others := ih (by simpa using width) (by omega)
          rw [head, tail]

@[simp] theorem length_multiplyAdd (factor carry : Nat) (bytes : List UInt8) :
    (multiplyAdd factor carry bytes).2.length = bytes.length := by
  induction bytes generalizing carry with
  | nil => rfl
  | cons byte rest ih => simp [multiplyAdd, ih]

/-- Nothing is lost: the carry out weighs one more byte. -/
theorem byteValue_multiplyAdd (factor carry : Nat) (bytes : List UInt8) :
    byteValue (multiplyAdd factor carry bytes).2 +
        256 ^ bytes.length * (multiplyAdd factor carry bytes).1 =
      byteValue bytes * factor + carry := by
  induction bytes generalizing carry with
  | nil => simp [multiplyAdd, byteValue]
  | cons byte rest ih =>
      have lower := ih ((byte.toNat * factor + carry) / 256)
      have split := Nat.mod_add_div (byte.toNat * factor + carry) 256
      have kept : (UInt8.ofNat ((byte.toNat * factor + carry) % 256)).toNat =
          (byte.toNat * factor + carry) % 256 := by
        rw [UInt8.toNat_ofNat']
        exact Nat.mod_mod _ _
      simp only [multiplyAdd, byteValue, List.length_cons, kept]
      calc (byte.toNat * factor + carry) % 256 +
              256 * byteValue (multiplyAdd factor ((byte.toNat * factor + carry) / 256) rest).2 +
            256 ^ (rest.length + 1) *
              (multiplyAdd factor ((byte.toNat * factor + carry) / 256) rest).1
          = (byte.toNat * factor + carry) % 256 +
              256 * (byteValue (multiplyAdd factor ((byte.toNat * factor + carry) / 256) rest).2 +
                256 ^ rest.length *
                  (multiplyAdd factor ((byte.toNat * factor + carry) / 256) rest).1) := by ring
        _ = (byte.toNat * factor + carry) % 256 +
              256 * (byteValue rest * factor + (byte.toNat * factor + carry) / 256) := by rw [lower]
        _ = (byte.toNat + 256 * byteValue rest) * factor + carry := by
              rw [Nat.mul_add, Nat.add_left_comm, split]
              ring

/-- No carry leaves the word exactly when the result fits it. -/
theorem multiplyAdd_carry (factor carry : Nat) (bytes : List UInt8) :
    (multiplyAdd factor carry bytes).1 = 0 ↔
      byteValue bytes * factor + carry < 256 ^ bytes.length := by
  have total := byteValue_multiplyAdd factor carry bytes
  have small := byteValue_lt (multiplyAdd factor carry bytes).2
  rw [length_multiplyAdd] at small
  constructor
  · intro none
    rw [none, Nat.mul_zero, Nat.add_zero] at total
    rwa [← total]
  · intro fits
    rw [← total] at fits
    by_contra some
    have one : 256 ^ bytes.length ≤ 256 ^ bytes.length * (multiplyAdd factor carry bytes).1 :=
      Nat.le_mul_of_pos_right _ (Nat.pos_of_ne_zero some)
    omega

theorem byteValue_replicate_zero (width : Nat) : byteValue (List.replicate width 0) = 0 := by
  induction width with
  | zero => rfl
  | succ width ih => simp [List.replicate_succ, byteValue, ih]

end Polymarket
