import Polymarket.Orders.Accumulators
import Polymarket.Orders.HexText

/-! The texts of ABI words: numbers in decimal, and arrays of them. The functions
that compute with `size_t` run on words where wrapping is a failure, and so is an
index outside a vector. -/

set_option autoImplicit false

namespace Polymarket.Evm

open Orders (strip0x wrapFree)

/-! ## Numbers -/

def hexValue (character : Char) : Except CppError Nat :=
  if '0' ≤ character ∧ character ≤ '9' then .ok (character.toNat - '0'.toNat)
  else if 'a' ≤ character ∧ character ≤ 'f' then .ok (10 + character.toNat - 'a'.toNat)
  else if 'A' ≤ character ∧ character ≤ 'F' then .ok (10 + character.toNat - 'A'.toNat)
  else .error (.invalidArgument "invalid hex character")

def canonicalAbiWordHex (word : String) : Except CppError String :=
  let hex := strip0x word
  if hex.toList.length ≠ 64 then .error (.invalidArgument "ABI value must occupy one word")
  else do
    let _ ← hex.toList.mapM hexValue
    .ok hex

def decimalDigit (value : Nat) : Char := Char.ofNat ('0'.toNat + value)

/-- The digits of a carry that leaves the number, least significant first. -/
def carryDigits (carry : Nat) : List Char :=
  if carry = 0 then [] else decimalDigit (carry % 10) :: carryDigits (carry / 10)

/-- The loop of `decimal_mul_add`, over the digits from the least significant one. -/
def mulAddDigits (mul : Nat) : Nat → List Char → List Char
  | carry, [] => carryDigits carry
  | carry, digit :: rest =>
      let next := (digit.toNat - '0'.toNat) * mul + carry
      decimalDigit (next % 10) :: mulAddDigits mul (next / 10) rest

def withoutLeadingZeros (digits : List Char) : List Char :=
  match digits.dropWhile (· == '0') with
  | [] => ['0']
  | significant => significant

def decimalMulAdd (decimal : List Char) (mul add : Nat) : List Char :=
  withoutLeadingZeros (mulAddDigits mul add decimal.reverse).reverse

def positiveHexToDecimal (hex : String) : Except CppError String := do
  let result ← (strip0x hex).toList.foldlM (fun result character => do
    let value ← hexValue character
    .ok (decimalMulAdd result 16 value)) ['0']
  .ok (String.ofList result)

def hexChar (value : Nat) : Char :=
  if value < 10 then Char.ofNat ('0'.toNat + value) else Char.ofNat ('a'.toNat + value - 10)

/-- Add a carry to digits, least significant first, until none is left. -/
def addCarry : Nat → List Char → Except CppError (List Char)
  | _, [] => .ok []
  | 0, digits => .ok digits
  | carry, digit :: rest => do
      let value ← hexValue digit
      let next := value + carry
      let others ← addCarry (next / 16) rest
      .ok (hexChar (next % 16) :: others)

def twosComplementAbs (hex : String) : Except CppError String := do
  let digits := (strip0x hex).toList
  let wide := if digits.length < 64 then List.replicate (64 - digits.length) '0' ++ digits else digits
  let inverted ← wide.mapM fun character => do
    let value ← hexValue character
    .ok (hexChar (15 - value))
  let sum ← addCarry 1 inverted.reverse
  .ok (String.ofList sum.reverse)

def evmUintWordToDecimal (word : String) : Except CppError String := do
  let hex ← canonicalAbiWordHex word
  positiveHexToDecimal hex

def evmIntWordToDecimal (word : String) : Except CppError String := do
  let hex ← canonicalAbiWordHex word
  let top ← hexValue (hex.toList.headD '0')
  if top < 8 then positiveHexToDecimal hex
  else do
    let magnitude ← twosComplementAbs hex
    let decimal ← positiveHexToDecimal magnitude
    .ok ("-" ++ decimal)

/-! ## Arrays -/

/-- A call that can throw; it is `none` where a `size_t` wraps or an index is outside its vector. -/
abbrev Checked := ExceptT CppError Option

namespace Checked

variable {α : Type}

def outcome (result : Except CppError α) : Checked α := ExceptT.mk (some result)

def throws (what : String) : Checked α := outcome (.error (.invalidArgument what))

def add (left right : UInt64) : Checked UInt64 := ExceptT.lift (wrapFree.add left right)

def subtract (left right : UInt64) : Checked UInt64 := ExceptT.lift (wrapFree.subtract left right)

def multiply (left right : UInt64) : Checked UInt64 := ExceptT.lift (wrapFree.multiply left right)

/-- A quotient; there is none by zero. -/
def divide (left right : UInt64) : Checked UInt64 := ExceptT.lift (if right = 0 then none else some (left / right))

def remainder (left right : UInt64) : Checked UInt64 := ExceptT.lift (if right = 0 then none else some (left % right))

/-- `values[index]`. -/
def element (values : List α) (index : UInt64) : Checked α := ExceptT.lift values[index.toNat]?

end Checked

open Checked

/-! ## Steps that do not fail -/

section Steps

variable {α β : Type}

theorem outcome_ok (value : α) : outcome (.ok value) = pure value := rfl

theorem add_pure {left right : UInt64} (fits : left.toNat + right.toNat < 2 ^ 64) : add left right = pure (left + right) := by
  unfold add
  rw [Orders.wrapFree_add fits]
  rfl

theorem subtract_pure {left right : UInt64} (fits : right.toNat ≤ left.toNat) :
    subtract left right = pure (left - right) := by
  unfold subtract
  rw [Orders.wrapFree_subtract fits]
  rfl

theorem multiply_pure {left right : UInt64} (fits : left.toNat * right.toNat < 2 ^ 64) :
    multiply left right = pure (left * right) := by
  unfold multiply
  rw [Orders.wrapFree_multiply fits]
  rfl

theorem element_pure {values : List α} {index : UInt64} {value : α} (there : values[index.toNat]? = some value) :
    element values index = pure value := by
  unfold element
  rw [there]
  rfl

theorem divide_pure {left right : UInt64} (nonzero : right ≠ 0) : divide left right = pure (left / right) := by
  unfold divide
  rw [if_neg nonzero]
  rfl

theorem remainder_pure {left right : UInt64} (nonzero : right ≠ 0) : remainder left right = pure (left % right) := by
  unfold remainder
  rw [if_neg nonzero]
  rfl

end Steps

/-! ## The array decoder -/

/-- One digit of `abi_word_to_size`. -/
def appendHexDigit (value : UInt64) (character : Char) : Checked UInt64 := do
  let digit ← outcome (hexValue character)
  let room ← subtract uint64Max (UInt64.ofNat digit)
  if room / 16 < value then throws "ABI integer exceeds host size"
  else do
    let shifted ← multiply value 16
    add shifted (UInt64.ofNat digit)

def abiWordToSize (word : String) : Checked UInt64 := do
  let hex ← outcome (canonicalAbiWordHex word)
  hex.toList.foldlM appendHexDigit 0

/-- The loop of `evm_data_words` from one index on. -/
def dataWordsFrom (hex : List Char) : Nat → UInt64 → Checked (List String)
  | 0, _ => ExceptT.lift none
  | fuel + 1, index =>
      if UInt64.ofNat hex.length ≤ index then pure []
      else do
        let word := "0x" ++ String.ofList ((hex.drop index.toNat).take 64)
        let next ← add index 64
        let words ← dataWordsFrom hex fuel next
        pure (word :: words)

def evmDataWords (data : String) : Checked (List String) :=
  let hex := (strip0x data).toList
  if hex.length % 64 ≠ 0 then throws "ABI data is not word-aligned"
  else dataWordsFrom hex (hex.length / 64 + 1) 0

/-- The elements behind the length word. -/
def decodeElements (words : List String) (lengthIndex length : UInt64) : Checked (List String) :=
  (List.range length.toNat).mapM fun index => do
    let first ← add lengthIndex 1
    let place ← add first (UInt64.ofNat index)
    let word ← element words place
    outcome (evmUintWordToDecimal word)

/-- The end of the array decoder, from the index of the length word on. -/
def decodeArrayAt (words : List String) (lengthIndex : UInt64) : Checked (List String) :=
  let size := UInt64.ofNat words.length
  if size ≤ lengthIndex then throws "array length word is missing"
  else do
    let lengthWord ← element words lengthIndex
    let length ← abiWordToSize lengthWord
    let behind ← subtract size lengthIndex
    let available ← subtract behind 1
    if available < length then throws "array data is truncated"
    else decodeElements words lengthIndex length

/-- The array decoder, once it has the words of the data. -/
def decodeArrayIn (words : List String) (offsetWordIndex headWordCount : UInt64) : Checked (List String) :=
  let size := UInt64.ofNat words.length
  if size ≤ offsetWordIndex then throws "array offset word is missing"
  else if headWordCount ≤ offsetWordIndex ∨ size < headWordCount then throws "ABI static head is invalid"
  else do
    let offsetWord ← element words offsetWordIndex
    let offsetBytes ← abiWordToSize offsetWord
    if offsetBytes % 32 ≠ 0 then throws "array offset is not word-aligned"
    else if offsetBytes / 32 < headWordCount then throws "array offset points into ABI static head"
    else decodeArrayAt words (offsetBytes / 32)

def evmDecodeUintArray (data : String) (offsetWordIndex headWordCount : UInt64) : Checked (List String) := do
  let words ← evmDataWords data
  decodeArrayIn words offsetWordIndex headWordCount

/-- The array decoder without a head count: the head ends with the offset word. -/
def evmDecodeUintArrayAt (data : String) (offsetWordIndex : UInt64) : Checked (List String) :=
  if offsetWordIndex = uint64Max then throws "array offset word index is too large"
  else do
    let headWordCount ← add offsetWordIndex 1
    evmDecodeUintArray data offsetWordIndex headWordCount

end Polymarket.Evm
