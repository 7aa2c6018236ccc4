import Polymarket.Evm.Abi.Layout
import Polymarket.Orders.Signing

/-! Solidity ABI values, how they are made from texts and numbers, and their encoding. -/

set_option autoImplicit false

namespace Polymarket.Evm.Abi

open Orders (Bytes fromHex)

/-- The 32 bytes of a word. -/
def Word := { bytes : Bytes // bytes.length = 32 }

instance : DecidableEq Word := inferInstanceAs (DecidableEq { bytes : Bytes // bytes.length = 32 })

/-- A word, a byte string, a dynamic array or a tuple. -/
inductive EvmAbiValue where
  | word (data : Word)
  | bytes (data : Bytes)
  | array (elements : List EvmAbiValue)
  | tuple (members : List EvmAbiValue)

/-! ## Factories -/

def zeroWord : Word := ⟨List.replicate 32 0, List.length_replicate ..⟩

def uint256Word (value : UInt64) : Word := ⟨uint256Bytes value, length_uint256Bytes value⟩

/-- Up to 32 bytes at the right or at the left end of a word. -/
def wordFromBytes (bytes : Bytes) (fits : bytes.length ≤ 32) (leftPad : Bool) : Word :=
  if leftPad then ⟨List.replicate (32 - bytes.length) 0 ++ bytes, by simp; omega⟩
  else ⟨bytes ++ List.replicate (32 - bytes.length) 0, by simp; omega⟩

def parseHexBytes (hex label : String) : Except CppError Bytes :=
  match fromHex hex with
  | .ok bytes => .ok bytes
  | .error (.invalidArgument _) => .error (.invalidArgument (label ++ " is not valid hex"))
  | .error error => .error error

def checkBits (bits : Nat) : Except CppError Unit :=
  if bits = 0 ∨ 256 < bits ∨ bits % 8 ≠ 0 then
    .error (.invalidArgument "unsigned integer width must be 8..256 in steps of 8")
  else .ok ()

def checkFits (word : Word) (bits : Nat) : Except CppError Unit :=
  if (word.val.take (32 - bits / 8)).all (· == 0) then .ok ()
  else .error (.invalidArgument ("unsigned integer exceeds uint" ++ toString bits))

/-- One step of `decimal_to_word`: ten times the word and a digit. -/
def appendDigit (word : Word) (digit : Nat) : Nat × Word :=
  let shifted := multiplyAdd 10 digit word.val.reverse
  (shifted.1, ⟨shifted.2.reverse, by
    rw [List.length_reverse, length_multiplyAdd, List.length_reverse, word.property]⟩)

def decimalToWord : List Char → Word → Except CppError Word
  | [], word => .ok word
  | character :: rest, word =>
      if character < '0' ∨ '9' < character then
        .error (.invalidArgument "unsigned integer must be base-10 digits or 0x-hex")
      else
        let next := appendDigit word (Orders.digitValue character)
        if next.1 ≠ 0 then .error (.invalidArgument "unsigned integer exceeds uint256")
        else decimalToWord rest next.2

def hexToWord (digits : List Char) : Except CppError Word :=
  let significant := digits.dropWhile (· == '0')
  if 64 < significant.length then .error (.invalidArgument "unsigned integer exceeds uint256")
  else
    let even := if significant.length % 2 ≠ 0 then '0' :: significant else significant
    match fromHex (String.ofList even) with
    | .ok bytes =>
        -- At most 64 digits make at most 32 bytes.
        if fits : bytes.length ≤ 32 then .ok (wordFromBytes bytes fits true)
        else .error (.invalidArgument "unsigned integer exceeds uint256")
    | .error (.invalidArgument _) => .error (.invalidArgument "unsigned integer is not valid hex")
    | .error error => .error error

def parseUint256Word (text : String) : Except CppError Word :=
  match text.toList with
  | [] => .error (.invalidArgument "unsigned integer is empty")
  | '0' :: 'x' :: digits | '0' :: 'X' :: digits =>
      if digits = [] then .error (.invalidArgument "unsigned integer is empty") else hexToWord digits
  | digits => decimalToWord digits zeroWord

def EvmAbiValue.address (hex : String) : Except CppError EvmAbiValue := do
  let bytes ← parseHexBytes hex "address"
  if size : bytes.length = 20 then .ok (.word (wordFromBytes bytes (by omega) true))
  else .error (.invalidArgument "address must be 20 bytes")

def EvmAbiValue.unsignedInteger (text : String) (bits : Nat) : Except CppError EvmAbiValue := do
  checkBits bits
  let word ← parseUint256Word text
  checkFits word bits
  .ok (.word word)

/-- `unsigned_integer` of a number. -/
def EvmAbiValue.unsignedNumber (number : UInt64) (bits : Nat) : Except CppError EvmAbiValue := do
  checkBits bits
  checkFits (uint256Word number) bits
  .ok (.word (uint256Word number))

def EvmAbiValue.boolean (flag : Bool) : Except CppError EvmAbiValue :=
  unsignedNumber (if flag then 1 else 0) 8

def EvmAbiValue.fixedBytes (hex : String) (size : Nat) : Except CppError EvmAbiValue := do
  if sized : size = 0 ∨ 32 < size then .error (.invalidArgument "fixed bytes size must be 1..32")
  else
    let bytes ← parseHexBytes hex "fixed bytes"
    if same : bytes.length = size then .ok (.word (wordFromBytes bytes (by omega) false))
    else .error (.invalidArgument
      ("bytes" ++ toString size ++ " value must be " ++ toString size ++ " bytes"))

/-! ## Encoding -/

mutual

def EvmAbiValue.isDynamic : EvmAbiValue → Bool
  | .word _ => false
  | .bytes _ => true
  | .array _ => true
  | .tuple members => anyDynamic members

def anyDynamic : List EvmAbiValue → Bool
  | [] => false
  | member :: rest => member.isDynamic || anyDynamic rest

end

/-- A byte string with zeros up to a whole number of words. -/
def padded (data : Bytes) : Bytes :=
  if data.length % 32 ≠ 0 then data ++ List.replicate (32 - data.length % 32) 0 else data

mutual

/-- What `append_encoding` appends. -/
def EvmAbiValue.encoding : EvmAbiValue → Bytes
  | .word data => data.val
  | .bytes data => uint256Bytes (UInt64.ofNat data.length) ++ padded data
  | .array elements => uint256Bytes (UInt64.ofNat elements.length) ++ layOut (encodedMembers elements)
  | .tuple members => layOut (encodedMembers members)

def encodedMembers : List EvmAbiValue → List EncodedMember
  | [] => []
  | member :: rest => ⟨member.isDynamic, member.encoding⟩ :: encodedMembers rest

end

def evmAbiEncode (values : List EvmAbiValue) : Bytes := layOut (encodedMembers values)

/-! ## Trees -/

/-- Induction over a tree, with the hypothesis for every element or member. -/
theorem EvmAbiValue.treeInduction {motive : EvmAbiValue → Prop} (word : ∀ data, motive (.word data))
    (bytes : ∀ data, motive (.bytes data))
    (array : ∀ elements, (∀ element ∈ elements, motive element) → motive (.array elements))
    (tuple : ∀ members, (∀ member ∈ members, motive member) → motive (.tuple members))
    (value : EvmAbiValue) : motive value := by
  refine @EvmAbiValue.rec motive (fun values => ∀ value ∈ values, motive value) word bytes array tuple ?_ ?_ value
  · intro value impossible
    cases impossible
  · intro first rest firstHolds restHolds value member
    obtain rfl | later := List.mem_cons.mp member
    · exact firstHolds
    · exact restHolds value later

theorem encodedMembers_eq_map (values : List EvmAbiValue) :
    encodedMembers values = values.map fun value => ⟨value.isDynamic, value.encoding⟩ := by
  induction values with
  | nil => simp [encodedMembers]
  | cons value rest ih => simp [encodedMembers, ih]

@[simp] theorem encodedMembers_append (front back : List EvmAbiValue) :
    encodedMembers (front ++ back) = encodedMembers front ++ encodedMembers back := by
  simp [encodedMembers_eq_map]

theorem length_le_evmAbiEncode {value : EvmAbiValue} {values : List EvmAbiValue} (member : value ∈ values) :
    value.encoding.length ≤ (evmAbiEncode values).length := by
  have listed : (⟨value.isDynamic, value.encoding⟩ : EncodedMember) ∈ encodedMembers values := by
    rw [encodedMembers_eq_map]
    exact List.mem_map_of_mem member
  exact length_le_layOut listed

/-! ## Whole words -/

theorem padded_whole (data : Bytes) : 32 ∣ (padded data).length := by
  unfold padded
  split
  · rw [List.length_append, List.length_replicate]
    omega
  · omega

theorem layOut_whole {members : List EncodedMember} (whole : ∀ member ∈ members, 32 ∣ member.bytes.length) :
    32 ∣ (layOut members).length := by
  rw [length_layOut]
  induction members with
  | nil => simp [tails]
  | cons member rest ih =>
      have rests := ih fun other listed => whole other (List.mem_cons_of_mem _ listed)
      have own := whole member List.mem_cons_self
      rw [headSize_cons, tails_cons, List.length_append, EncodedMember.headWidth, EncodedMember.tail]
      split
      · omega
      · rw [List.length_nil]
        omega

theorem EvmAbiValue.encoding_whole (value : EvmAbiValue) : 32 ∣ value.encoding.length := by
  have members (values : List EvmAbiValue) (whole : ∀ value ∈ values, 32 ∣ value.encoding.length) :
      32 ∣ (layOut (encodedMembers values)).length := by
    apply layOut_whole
    rw [encodedMembers_eq_map]
    intro member listed
    obtain ⟨value, known, rfl⟩ := List.mem_map.mp listed
    exact whole value known
  induction value using EvmAbiValue.treeInduction with
  | word data => rw [EvmAbiValue.encoding, data.property]
  | bytes data =>
      rw [EvmAbiValue.encoding, List.length_append, length_uint256Bytes]
      exact Nat.dvd_add dvd_rfl (padded_whole data)
  | array elements ih =>
      rw [EvmAbiValue.encoding, List.length_append, length_uint256Bytes]
      exact Nat.dvd_add dvd_rfl (members elements ih)
  | tuple values ih =>
      rw [EvmAbiValue.encoding]
      exact members values ih

theorem evmAbiEncode_whole (values : List EvmAbiValue) : 32 ∣ (evmAbiEncode values).length :=
  EvmAbiValue.encoding_whole (.tuple values)

end Polymarket.Evm.Abi
