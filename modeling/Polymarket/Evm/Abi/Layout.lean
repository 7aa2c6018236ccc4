import Mathlib.Tactic.NormNum
import Polymarket.ByteWord

/-! Head and tail of a sequence of encoded members, and how a reader that knows the
members' widths finds each of them again. -/

set_option autoImplicit false

namespace Polymarket.Evm.Abi

/-! ## Words -/

/-- The big-endian bytes of `uint256_word`. -/
def uint256Bytes (value : UInt64) : List UInt8 :=
  List.replicate 24 0 ++
    ((List.range 8).map fun index => (value >>> UInt64.ofNat (8 * index) &&& 0xff).toUInt8).reverse

@[simp] theorem length_uint256Bytes (value : UInt64) : (uint256Bytes value).length = 32 := by
  simp [uint256Bytes]

/-- The number in the first word. -/
def readWord (input : List UInt8) : Option Nat :=
  if input.length < 32 then none else some (byteValue (input.take 32).reverse)

theorem byteValue_append (front back : List UInt8) :
    byteValue (front ++ back) = byteValue front + 256 ^ front.length * byteValue back := by
  induction front with
  | nil => simp [byteValue]
  | cons byte rest ih =>
      simp only [List.cons_append, byteValue, ih, List.length_cons, pow_succ]
      ring

/-- The low bytes of a number, one by one. -/
theorem byteValue_digits (value count : Nat) :
    byteValue ((List.range count).map fun index => UInt8.ofNat (value / 256 ^ index)) = value % 256 ^ count := by
  induction count with
  | zero => simp [byteValue, Nat.mod_one]
  | succ count ih =>
      rw [List.range_succ, List.map_append, byteValue_append, ih]
      simp only [List.map_cons, List.map_nil, byteValue, List.length_map, List.length_range, mul_zero, add_zero,
        UInt8.toNat_ofNat']
      exact (Nat.mod_pow_succ ..).symm

theorem readWord_uint256Bytes (value : UInt64) (suffix : List UInt8) :
    readWord (uint256Bytes value ++ suffix) = some value.toNat := by
  have digit (index : Nat) (small : index ∈ List.range 8) :
      (value >>> UInt64.ofNat (8 * index) &&& 0xff).toUInt8 = UInt8.ofNat (value.toNat / 256 ^ index) := by
    have below := List.mem_range.mp small
    apply UInt8.toNat_inj.mp
    have shift : (UInt64.ofNat (8 * index)).toNat = 8 * index :=
      UInt64.toNat_ofNat_of_lt' (by simp [UInt64.size]; omega)
    have mask : UInt64.toNat 0xff = 2 ^ 8 - 1 := rfl
    have whole : 8 * index % 64 = 8 * index := Nat.mod_eq_of_lt (by omega)
    rw [UInt64.toNat_toUInt8, UInt64.toNat_and, UInt64.toNat_shiftRight, shift, whole, mask,
      Nat.and_two_pow_sub_one_eq_mod, Nat.shiftRight_eq_div_pow, UInt8.toNat_ofNat', pow_mul, Nat.mod_mod]
    rfl
  have taken : (uint256Bytes value ++ suffix).take 32 = uint256Bytes value :=
    List.take_left' (length_uint256Bytes value)
  unfold readWord
  rw [if_neg (by simp), taken]
  congr 1
  rw [uint256Bytes, List.reverse_append, List.reverse_reverse, List.reverse_replicate, byteValue_append,
    byteValue_replicate_zero, List.map_congr_left digit, byteValue_digits, mul_zero, add_zero]
  exact Nat.mod_eq_of_lt value.toNat_lt

/-! ## Heads and tails -/

/-- A member of a sequence: its encoding, and whether the head only points to it. -/
structure EncodedMember where
  dynamic : Bool
  bytes : List UInt8

def EncodedMember.headWidth (member : EncodedMember) : Nat :=
  if member.dynamic then 32 else member.bytes.length

def EncodedMember.tail (member : EncodedMember) : List UInt8 := if member.dynamic then member.bytes else []

def headSize (members : List EncodedMember) : Nat := (members.map EncodedMember.headWidth).sum

def heads (tailOffset : Nat) : List EncodedMember → List UInt8
  | [] => []
  | member :: rest =>
      if member.dynamic then
        uint256Bytes (UInt64.ofNat tailOffset) ++ heads (tailOffset + member.bytes.length) rest
      else member.bytes ++ heads tailOffset rest

def tails (members : List EncodedMember) : List UInt8 := members.flatMap EncodedMember.tail

/-- Static members inline, dynamic members as an offset into the tail. -/
def layOut (members : List EncodedMember) : List UInt8 := heads (headSize members) members ++ tails members

@[simp] theorem headSize_nil : headSize [] = 0 := rfl

@[simp] theorem headSize_cons (member : EncodedMember) (rest : List EncodedMember) :
    headSize (member :: rest) = member.headWidth + headSize rest := by
  simp [headSize]

@[simp] theorem headSize_append (front back : List EncodedMember) :
    headSize (front ++ back) = headSize front + headSize back := by
  simp [headSize]

@[simp] theorem tails_cons (member : EncodedMember) (rest : List EncodedMember) :
    tails (member :: rest) = member.tail ++ tails rest :=
  List.flatMap_cons ..

@[simp] theorem tails_append (front back : List EncodedMember) : tails (front ++ back) = tails front ++ tails back :=
  List.flatMap_append ..

@[simp] theorem length_heads (tailOffset : Nat) (members : List EncodedMember) :
    (heads tailOffset members).length = headSize members := by
  induction members generalizing tailOffset with
  | nil => rfl
  | cons member rest ih =>
      unfold heads
      rw [headSize_cons, EncodedMember.headWidth]
      split
      · rw [List.length_append, length_uint256Bytes, ih]
      · rw [List.length_append, ih]

theorem length_layOut (members : List EncodedMember) :
    (layOut members).length = headSize members + (tails members).length := by
  rw [layOut, List.length_append, length_heads]

theorem heads_append (tailOffset : Nat) (front back : List EncodedMember) :
    heads tailOffset (front ++ back) =
      heads tailOffset front ++ heads (tailOffset + (tails front).length) back := by
  induction front generalizing tailOffset with
  | nil => rfl
  | cons member rest ih =>
      rw [List.cons_append, heads, heads, tails_cons, EncodedMember.tail]
      split
      · rw [ih, List.append_assoc, List.length_append, Nat.add_assoc]
      · rw [ih, List.append_assoc, List.nil_append]

theorem length_le_layOut {member : EncodedMember} {members : List EncodedMember} (listed : member ∈ members) :
    member.bytes.length ≤ (layOut members).length := by
  rw [length_layOut]
  obtain ⟨front, back, rfl⟩ := List.append_of_mem listed
  rw [headSize_append, headSize_cons, tails_append, tails_cons, List.length_append, List.length_append,
    EncodedMember.headWidth, EncodedMember.tail]
  split
  · omega
  · omega

/-- The word of a dynamic member is its place in the sequence, behind all heads. -/
theorem layOut_offset {front back : List EncodedMember} {member : EncodedMember} (dynamic : member.dynamic = true)
    (fits : (layOut (front ++ member :: back)).length < 2 ^ 64) :
    ∃ offset, readWord ((layOut (front ++ member :: back)).drop (headSize front)) = some offset ∧
      headSize (front ++ member :: back) ≤ offset ∧
      (layOut (front ++ member :: back)).drop offset = member.bytes ++ tails back := by
  use headSize (front ++ member :: back) + (tails front).length
  rw [length_layOut, tails_append, List.length_append] at fits
  have tail : member.tail = member.bytes := if_pos dynamic
  have below : headSize (front ++ member :: back) + (tails front).length < UInt64.size := by
    rw [UInt64.size]
    omega
  constructor
  · rw [layOut, heads_append, heads, if_pos dynamic, List.append_assoc, List.drop_left' (length_heads ..),
      List.append_assoc, readWord_uint256Bytes, UInt64.toNat_ofNat_of_lt' below]
  constructor
  · exact Nat.le_add_right ..
  · rw [layOut, tails_append, tails_cons, tail, ← List.append_assoc]
    apply List.drop_left'
    rw [List.length_append, length_heads]

/-! ## Reading a sequence back -/

/-- What a reader knows of a member before it reads it. -/
structure MemberReader (α : Type) where
  dynamic : Bool
  width : Nat
  read : List UInt8 → Option α

variable {α : Type}

/-- Read members one after the other; offsets count from the start of the sequence. -/
def readMembers (start : List UInt8) : List (MemberReader α) → Nat → Option (List α)
  | [], _ => some []
  | member :: rest, position => do
      let value ←
        if member.dynamic then do
          let offset ← readWord (start.drop position)
          member.read (start.drop offset)
        else member.read (start.drop position)
      let values ← readMembers start rest (position + if member.dynamic then 32 else member.width)
      some (value :: values)

/-- A reader finds a value in front of whatever follows its encoding. -/
structure Reads (reader : MemberReader α) (member : EncodedMember) (value : α) : Prop where
  dynamic : reader.dynamic = member.dynamic
  width : member.dynamic = false → reader.width = member.bytes.length
  read : ∀ suffix, reader.read (member.bytes ++ suffix) = some value

inductive ReadsAll : List (MemberReader α) → List EncodedMember → List α → Prop where
  | nil : ReadsAll [] [] []
  | cons {reader member value readers members values} :
      Reads reader member value → ReadsAll readers members values →
      ReadsAll (reader :: readers) (member :: members) (value :: values)

/-- Members are read in place: behind the heads already read, and behind the tails. -/
theorem readMembers_heads {readers : List (MemberReader α)} {members : List EncodedMember} {values : List α}
    (reads : ReadsAll readers members values) {start front between suffix : List UInt8} {tailOffset : Nat}
    (whole : start = front ++ heads tailOffset members ++ between ++ tails members ++ suffix)
    (place : tailOffset = front.length + headSize members + between.length)
    (fits : tailOffset + (tails members).length < 2 ^ 64) :
    readMembers start readers front.length = some values := by
  induction reads generalizing front between tailOffset with
  | nil => rfl
  | @cons reader member value readers members values first _ ih =>
      have isDynamic := first.dynamic
      rw [headSize_cons, EncodedMember.headWidth] at place
      rw [tails_cons, EncodedMember.tail] at whole fits
      rw [heads] at whole
      rw [readMembers, isDynamic]
      cases dynamic : member.dynamic with
      | true =>
          rw [dynamic] at whole place fits
          simp only [↓reduceIte] at whole place fits ⊢
          rw [List.length_append] at fits
          have word : readWord (start.drop front.length) = some tailOffset := by
            rw [whole]
            simp only [List.append_assoc]
            rw [List.drop_left, readWord_uint256Bytes, UInt64.toNat_ofNat_of_lt' (by rw [UInt64.size]; omega)]
          have there : start.drop tailOffset = member.bytes ++ (tails members ++ suffix) := by
            have apart : start = (front ++ uint256Bytes (UInt64.ofNat tailOffset) ++
                heads (tailOffset + member.bytes.length) members ++ between) ++
                  (member.bytes ++ (tails members ++ suffix)) := by
              rw [whole]
              simp only [List.append_assoc]
            rw [apart]
            apply List.drop_left'
            simp only [List.length_append, length_uint256Bytes, length_heads]
            omega
          have onward : start = (front ++ uint256Bytes (UInt64.ofNat tailOffset)) ++
              heads (tailOffset + member.bytes.length) members ++ (between ++ member.bytes) ++ tails members ++
                suffix := by
            rw [whole]
            simp only [List.append_assoc]
          have next := ih onward (by simp only [List.length_append, length_uint256Bytes]; omega) (by omega)
          rw [List.length_append, length_uint256Bytes] at next
          rw [word, Option.bind_eq_bind, Option.bind_some, there, first.read, Option.bind_eq_bind, Option.bind_some, next]
          rfl
      | false =>
          rw [dynamic] at whole place fits
          simp only [Bool.false_eq_true, ↓reduceIte, List.nil_append] at whole place fits ⊢
          have here : start.drop front.length =
              member.bytes ++ (heads tailOffset members ++ between ++ tails members ++ suffix) := by
            rw [whole]
            simp only [List.append_assoc]
            rw [List.drop_left]
          have onward : start =
              (front ++ member.bytes) ++ heads tailOffset members ++ between ++ tails members ++ suffix := by
            rw [whole]
            simp only [List.append_assoc]
          have next := ih onward (by rw [List.length_append]; omega) fits
          rw [List.length_append] at next
          rw [here, first.read, Option.bind_eq_bind, Option.bind_some, first.width dynamic, next]
          rfl

theorem readMembers_layOut {readers : List (MemberReader α)} {members : List EncodedMember} {values : List α}
    (reads : ReadsAll readers members values) (fits : (layOut members).length < 2 ^ 64) (suffix : List UInt8) :
    readMembers (layOut members ++ suffix) readers 0 = some values := by
  rw [length_layOut] at fits
  have whole : layOut members ++ suffix =
      [] ++ heads (headSize members) members ++ [] ++ tails members ++ suffix := by
    rw [layOut, List.nil_append, List.append_nil]
  exact readMembers_heads reads whole (by simp) fits

end Polymarket.Evm.Abi
