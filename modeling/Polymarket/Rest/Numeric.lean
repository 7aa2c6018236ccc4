import Polymarket.Rounding

/-! Numbers of REST responses: decimal texts read as doubles, and JSON members that are
numbers or spell one. -/

set_option autoImplicit false

namespace Polymarket.Rest

/-- How `nlohmann::json` reads a text and writes a number. -/
structure JsonText where
  parse : String → Except CppError Json
  dump : Json → String

/-- Optional sign, digits with an optional fraction (or a fraction alone), and an
optional exponent. -/
def isDecimalNumber (text : String) : Bool :=
  let unsigned := (readSign text.toList).2
  let whole := unsigned.takeWhile Char.isDigit
  let fractional := match unsigned.dropWhile Char.isDigit with
    | '.' :: rest => (rest.takeWhile Char.isDigit, rest.dropWhile Char.isDigit)
    | rest => ([], rest)
  if whole = [] ∧ fractional.1 = [] then false
  else match fractional.2 with
    | [] => true
    | mark :: rest =>
        let exponent := (readSign rest).2
        (mark = 'e' || mark = 'E') && exponent.takeWhile Char.isDigit ≠ [] && exponent.dropWhile Char.isDigit = []

def decimalStringToDouble (text : String) : Except CppError Reading :=
  let incomplete := .error (.invalidArgument "number must be a complete decimal representation")
  if isDecimalNumber text then
    match strtod text with
    | some (reading, []) =>
        if reading.outOfRange || reading.rounded.outOfRange then incomplete else .ok reading.rounded
    | _ => incomplete
  else incomplete

/-- `get<double>()`. -/
def getDouble : Json → Except CppError ℚ
  | .integer value => .ok (toDouble value)
  | .unsigned value => .ok (toDouble value.toNat)
  | .float value => .ok value
  | _ => .error (.jsonTypeError 302)

/-- `get<int>()`, which takes a boolean too. A number that an `int` does not hold wraps; the
language leaves open what becomes of a floating point number of that size. -/
def getInt : Json → Except CppError Int32
  | .integer value => .ok (Int32.ofInt value)
  | .unsigned value => .ok (Int32.ofInt value.toNat)
  | .float value => .ok (Int32.ofInt (if 0 ≤ value then ⌊value⌋ else ⌈value⌉))
  | .bool value => .ok (if value then 1 else 0)
  | _ => .error (.jsonTypeError 302)

def strictJsonNumber (value : Json) : Except CppError ℚ := do
  let number ← match value with
    | .string text => decimalStringToDouble text
    | .integer _ | .unsigned _ | .float _ => Reading.finite <$> getDouble value
    | _ => .error (.invalidArgument "number must be a JSON number or numeric string")
  match number with
  | .finite number => .ok number
  | _ => .error (.invalidArgument "number must be finite")

def jsonOrderbookPrice (value : Json) : Except CppError ℚ := do
  let number ← strictJsonNumber value
  if number ≤ 0 ∨ 1 ≤ number then .error (.outOfRange "orderbook price must be in (0, 1)")
  else .ok number

end Polymarket.Rest
