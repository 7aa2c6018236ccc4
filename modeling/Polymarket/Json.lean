import Mathlib.Data.Rat.Defs

/-! Thrown exceptions and JSON values as `nlohmann::json` presents them: which
accessors throw, with which exception, and how a container is iterated. The
texts of the library's own exceptions are not part of the client. -/

set_option autoImplicit false

namespace Polymarket

/-- A thrown C++ object, with its `what()` text where the client writes it. -/
inductive CppError where
  | invalidArgument (what : String)
  | outOfRange (what : String)
  | runtimeError (what : String)
  | logicError (what : String)
  | jsonTypeError (id : Nat)
  | jsonOutOfRange (id : Nat)
  | jsonParseError
  | notAnException
deriving DecidableEq, Repr

namespace CppError

/-- Caught by a handler for `const std::exception &`. -/
def isStandard : CppError → Bool
  | .notAnException => false
  | _ => true

def what : CppError → String
  | .invalidArgument text => text
  | .outOfRange text => text
  | .runtimeError text => text
  | .logicError text => text
  | .jsonTypeError id => "[json.exception.type_error." ++ toString id ++ "]"
  | .jsonOutOfRange id => "[json.exception.out_of_range." ++ toString id ++ "]"
  | .jsonParseError => "[json.exception.parse_error]"
  | .notAnException => ""

end CppError

/-- A computation that succeeds has succeeded in its first part. -/
theorem bind_ok {ε α β : Type} {source : Except ε α} {continuation : α → Except ε β} {result : β}
    (success : (source >>= continuation) = .ok result) :
    ∃ value, source = .ok value ∧ continuation value = .ok result := by
  cases source with
  | error error => cases success
  | ok value => exact ⟨value, rfl, success⟩

theorem exists_ok {ε α : Type} (source : Except ε α) (succeeds : source.isOk = true) : ∃ value, source = .ok value := by
  cases source with
  | error error => cases succeeds
  | ok value => exact ⟨value, rfl⟩

/-- A computation that throws has thrown in its first part or in the rest. -/
theorem bind_error {ε α β : Type} {source : Except ε α} {continuation : α → Except ε β} {error : ε}
    (failed : (source >>= continuation) = .error error) :
    source = .error error ∨ ∃ value, source = .ok value ∧ continuation value = .error error := by
  cases source with
  | error thrown =>
      cases failed
      exact .inl rfl
  | ok value => exact .inr ⟨value, rfl, failed⟩

@[simp] theorem ok_bind {ε α β : Type} (value : α) (continuation : α → Except ε β) :
    (Except.ok value >>= continuation) = continuation value := rfl

@[simp] theorem error_bind {ε α β : Type} (error : ε) (continuation : α → Except ε β) :
    (Except.error error >>= continuation) = .error error := rfl

/-- A parsed JSON value. Numbers keep the library's three kinds; a floating
point number is the exact value of a finite double. -/
inductive Json where
  | null
  | bool (value : Bool)
  | integer (value : Int)
  | unsigned (value : UInt64)
  | float (value : ℚ)
  | string (value : String)
  | array (items : List Json)
  | object (members : List (String × Json))

namespace Json

def isObject : Json → Bool
  | object _ => true
  | _ => false

def isArray : Json → Bool
  | array _ => true
  | _ => false

/-- `find(key)`: the member of an object, nothing for any other value. -/
def find? (key : String) : Json → Option Json
  | object members => members.lookup key
  | _ => none

def contains (value : Json) (key : String) : Bool := (value.find? key).isSome

/-- `at(key)`. -/
def at! (value : Json) (key : String) : Except CppError Json :=
  match value with
  | object members =>
      match members.lookup key with
      | some member => .ok member
      | none => .error (.jsonOutOfRange 403)
  | _ => .error (.jsonTypeError 304)

/-- `get<std::string>()`. -/
def getString : Json → Except CppError String
  | string value => .ok value
  | _ => .error (.jsonTypeError 302)

/-- `get_ref<const std::string &>()`. -/
def getStringRef : Json → Except CppError String
  | string value => .ok value
  | _ => .error (.jsonTypeError 303)

/-- `get<std::int64_t>()` of an integer. -/
def getInteger : Json → Except CppError Int
  | integer value => .ok value
  | unsigned value => .ok value.toNat
  | _ => .error (.jsonTypeError 302)

/-- `get<bool>()`. -/
def getBool : Json → Except CppError Bool
  | bool value => .ok value
  | _ => .error (.jsonTypeError 302)

/-- `value(key, default)`: throws on a value that is not an object, and on a
member of another type than the default. -/
def value {α : Type} (get : Json → Except CppError α) (item : Json) (key : String)
    (default : α) : Except CppError α :=
  match item with
  | object members =>
      match members.lookup key with
      | some member => get member
      | none => .ok default
  | _ => .error (.jsonTypeError 306)

/-- What a range-based `for` over the value visits. -/
def elements : Json → List Json
  | null => []
  | array items => items
  | object members => members.map Prod.snd
  | primitive => [primitive]

end Json

/-- `data[key] = value` on the members of an object. -/
def setMember {α : Type} (key : String) (value : α) : List (String × α) → List (String × α)
  | [] => [(key, value)]
  | (candidate, old) :: rest =>
      if candidate = key then (key, value) :: rest
      else (candidate, old) :: setMember key value rest

@[simp] theorem lookup_setMember_self {α : Type} (key : String) (value : α)
    (members : List (String × α)) : (setMember key value members).lookup key = some value := by
  induction members with
  | nil => simp [setMember]
  | cons entry rest ih =>
      obtain ⟨candidate, old⟩ := entry
      by_cases same : candidate = key
      · simp [setMember, same]
      · have skipped : (key == candidate) = false := by simpa using Ne.symm same
        simp [setMember, same, List.lookup_cons, skipped, ih]

theorem lookup_setMember_of_ne {α : Type} {key other : String} (different : other ≠ key)
    (value : α) (members : List (String × α)) :
    (setMember key value members).lookup other = members.lookup other := by
  have skipped : (other == key) = false := by simpa using different
  induction members with
  | nil => simp [setMember, List.lookup_cons, skipped]
  | cons entry rest ih =>
      obtain ⟨candidate, old⟩ := entry
      by_cases same : candidate = key
      · simp [setMember, same, List.lookup_cons, skipped]
      · simp [setMember, same, List.lookup_cons, ih]

end Polymarket
