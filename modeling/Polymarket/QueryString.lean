import Mathlib.Data.List.Basic

/-! Query strings: percent-decoding, and the pairs behind `?`, between `&` and around the
first `=`. -/

set_option autoImplicit false

namespace Polymarket.QueryString

def percentSign : UInt8 := '%'.toUInt8

def hexValue (digit : UInt8) : Option Nat :=
  if '0'.toUInt8 ≤ digit ∧ digit ≤ '9'.toUInt8 then some (digit.toNat - '0'.toNat)
  else if 'A'.toUInt8 ≤ digit ∧ digit ≤ 'F'.toUInt8 then some (digit.toNat - 'A'.toNat + 10)
  else if 'a'.toUInt8 ≤ digit ∧ digit ≤ 'f'.toUInt8 then some (digit.toNat - 'a'.toNat + 10)
  else none

def percentDecode : List UInt8 → Option (List UInt8)
  | [] => some []
  | byte :: rest =>
      if byte = percentSign then
        match rest with
        | upper :: lower :: rest => do
            let high ← hexValue upper
            let low ← hexValue lower
            let decoded ← percentDecode rest
            some (UInt8.ofNat (16 * high + low) :: decoded)
        | _ => none
      else (percentDecode rest).map (byte :: ·)

theorem percentDecode_plain {byte : UInt8} (plain : byte ≠ percentSign) (rest : List UInt8) :
    percentDecode (byte :: rest) = (percentDecode rest).map (byte :: ·) := by
  rw [percentDecode.eq_def (byte :: rest)]
  exact if_neg plain

/-- The text before the first separator and the text behind it. -/
def splitFirst (separator : UInt8) (text : List UInt8) : List UInt8 × List UInt8 :=
  (text.takeWhile (· != separator), (text.dropWhile (· != separator)).tail)

theorem splitFirst_append {separator : UInt8} {front : List UInt8} (clean : separator ∉ front) (back : List UInt8) :
    splitFirst separator (front ++ separator :: back) = (front, back) := by
  have passes : ∀ byte ∈ front, (byte != separator) = true := by
    intro byte member
    rw [bne_iff_ne]
    rintro rfl
    exact clean member
  rw [splitFirst, List.takeWhile_append_of_pos passes, List.dropWhile_append_of_pos passes]
  simp

def readPair (part : List UInt8) : Option (List UInt8 × List UInt8) :=
  (percentDecode (splitFirst '='.toUInt8 part).2).map ((splitFirst '='.toUInt8 part).1, ·)

/-- The pairs of a query, which is empty or begins with `?`. -/
def queryPairs : List UInt8 → Option (List (List UInt8 × List UInt8))
  | [] => some []
  | mark :: text => if mark = '?'.toUInt8 then (text.splitOn '&'.toUInt8).mapM readPair else none

theorem queryPairs_single {part : List UInt8} {pair : List UInt8 × List UInt8} (clean : '&'.toUInt8 ∉ part)
    (read : readPair part = some pair) : queryPairs ('?'.toUInt8 :: part) = some [pair] := by
  rw [queryPairs, if_pos rfl, List.splitOn_eq_singleton clean]
  simp [read]

/-- One more pair behind a query that has some. -/
theorem queryPairs_append {query part : List UInt8} {pairs : List (List UInt8 × List UInt8)}
    {pair : List UInt8 × List UInt8} (started : query ≠ []) (before : queryPairs query = some pairs)
    (clean : '&'.toUInt8 ∉ part) (read : readPair part = some pair) :
    queryPairs (query ++ '&'.toUInt8 :: part) = some (pairs ++ [pair]) := by
  cases query with
  | nil => exact absurd rfl started
  | cons mark text =>
      rw [queryPairs] at before
      split at before
      · next marked =>
        rw [List.cons_append, queryPairs, if_pos marked, List.splitOn_append_cons_self, List.splitOn_eq_singleton clean,
          List.mapM_append, before]
        simp [read]
      · cases before

end Polymarket.QueryString
