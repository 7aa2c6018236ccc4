import Mathlib.Algebra.Order.Field.Rat
import Mathlib.Algebra.Order.Group.Abs
import Polymarket.Json

/-! The number readers of the standard library: `std::stoll`, and `std::strtod`
with exact values. -/

set_option autoImplicit false

namespace Polymarket

def isSpace (character : Char) : Bool :=
  character = ' ' || ('\t' ≤ character && character ≤ '\r')

/-- An optional sign: whether it is a minus, and what follows it. -/
def readSign : List Char → Bool × List Char
  | '-' :: rest => (true, rest)
  | '+' :: rest => (false, rest)
  | rest => (false, rest)

/-- `std::stoll` in base ten: leading white space, a sign, then digits; whatever
follows the digits is ignored. -/
def stoll (text : String) : Except CppError Int :=
  let signed := readSign (text.toList.dropWhile isSpace)
  let digits := signed.2.takeWhile Char.isDigit
  let magnitude : Int := Nat.ofDigitChars 10 digits 0
  let value := if signed.1 then -magnitude else magnitude
  if digits = [] then .error (.invalidArgument "stoll")
  else if value < -2 ^ 63 ∨ 2 ^ 63 ≤ value then .error (.outOfRange "stoll")
  else .ok value

/-! ## Floating point numerals -/

/-- What `strtod` reads; a finite value is exact. -/
inductive Reading where
  | finite (value : ℚ)
  | infinite
  | notANumber

/-- `errno == ERANGE`: the value overflows, or is too small for a normal double. -/
def Reading.outOfRange : Reading → Bool
  | .finite value => value ≠ 0 ∧ (|value| < 1 / 2 ^ 1022 ∨ 2 ^ 1024 ≤ |value|)
  | _ => false

def hexDigitValue (character : Char) : Nat :=
  if character.isDigit then character.toNat - '0'.toNat
  else character.toLower.toNat - 'a'.toNat + 10

def isHexDigit (character : Char) : Bool :=
  character.isDigit || ('a' ≤ character.toLower && character.toLower ≤ 'f')

def digitsValue (base : Nat) (digits : List Char) : ℚ :=
  (digits.foldl (fun value digit => base * value + hexDigitValue digit) 0 : Nat)

/-- Digits around an optional point. -/
def readMantissa (base : Nat) (isDigit : Char → Bool) (text : List Char) : Option (ℚ × List Char) :=
  let whole := text.takeWhile isDigit
  match text.dropWhile isDigit with
  | '.' :: tail =>
      let fraction := tail.takeWhile isDigit
      if whole = [] ∧ fraction = [] then none
      else some (digitsValue base whole + digitsValue base fraction / base ^ fraction.length,
        tail.dropWhile isDigit)
  | rest => if whole = [] then none else some (digitsValue base whole, rest)

/-- The scale of an optional exponent; a mark without digits is not one. -/
def readExponent (mark : Char) (radix : ℚ) (text : List Char) : ℚ × List Char :=
  match text with
  | first :: rest =>
      let signed := readSign rest
      let digits := signed.2.takeWhile Char.isDigit
      let size := Nat.ofDigitChars 10 digits 0
      if first.toLower = mark ∧ digits ≠ [] then
        (if signed.1 then 1 / radix ^ size else radix ^ size, signed.2.dropWhile Char.isDigit)
      else (1, text)
  | [] => (1, [])

/-- A word in any case at the start of the text: what follows it. -/
def readWord : List Char → List Char → Option (List Char)
  | [], text => some text
  | letter :: word, first :: rest => if first.toLower = letter then readWord word rest else none
  | _ :: _, [] => none

def readNumeral (text : List Char) : Option (ℚ × List Char) :=
  let decimal := match readMantissa 10 Char.isDigit text with
    | some (mantissa, rest) =>
        let scaled := readExponent 'e' 10 rest
        some (mantissa * scaled.1, scaled.2)
    | none => none
  match readWord ['0', 'x'] text with
  | none => decimal
  | some digits =>
      match readMantissa 16 isHexDigit digits with
      | some (mantissa, rest) =>
          let scaled := readExponent 'p' 2 rest
          some (mantissa * scaled.1, scaled.2)
      | none => decimal

/-- The optional characters in brackets after `nan`. -/
def skipBracketed (text : List Char) : List Char :=
  match text with
  | '(' :: rest =>
      match rest.dropWhile fun character => character.isAlphanum || character = '_' with
      | ')' :: after => after
      | _ => text
  | _ => text

/-- `std::strtod`: the value and the text it leaves, nothing when no numeral
starts the text. -/
def strtod (text : String) : Option (Reading × List Char) :=
  let signed := readSign (text.toList.dropWhile isSpace)
  match readWord ['i', 'n', 'f', 'i', 'n', 'i', 't', 'y'] signed.2,
      readWord ['i', 'n', 'f'] signed.2, readWord ['n', 'a', 'n'] signed.2 with
  | some rest, _, _ => some (.infinite, rest)
  | none, some rest, _ => some (.infinite, rest)
  | none, none, some rest => some (.notANumber, skipBracketed rest)
  | none, none, none =>
      match readNumeral signed.2 with
      | some (magnitude, rest) =>
          some (.finite (if signed.1 then -magnitude else magnitude), rest)
      | none => none

end Polymarket
