import Mathlib.Data.List.Induction
import Polymarket.Orders.Signing
import Polymarket.QueryString

/-! The query strings of the REST clients: every value is percent-encoded, so that a query
splits into the pairs that were added. Strings are their bytes. -/

set_option autoImplicit false

namespace Polymarket.Rest

open Orders (Bytes)
open QueryString (percentSign percentDecode queryPairs readPair splitFirst)

/-! ## Encoding -/

def hexDigits : Bytes := "0123456789ABCDEF".toList.map Char.toUInt8

def unreserved (character : UInt8) : Bool :=
  ('A'.toUInt8 ≤ character && character ≤ 'Z'.toUInt8) || ('a'.toUInt8 ≤ character && character ≤ 'z'.toUInt8) ||
    ('0'.toUInt8 ≤ character && character ≤ '9'.toUInt8) || character == '-'.toUInt8 || character == '.'.toUInt8 ||
    character == '_'.toUInt8 || character == '~'.toUInt8

def percentEncodeQueryValue : Bytes → Bytes
  | [] => []
  | character :: rest =>
      (if unreserved character then [character]
        else ['%'.toUInt8, hexDigits.getD (character >>> 4).toNat 0, hexDigits.getD (character &&& 0x0F).toNat 0]) ++
      percentEncodeQueryValue rest

/-! ## Building -/

/-- A key of unreserved characters. -/
abbrev QueryKey := { key : Bytes // ∀ character ∈ key, unreserved character = true }

def decimalText (value : Int) : Bytes := (toString value).toList.map Char.toUInt8

def append (query : Bytes) (key : QueryKey) (value : Bytes) : Bytes :=
  query ++ (if query.isEmpty then '?'.toUInt8 else '&'.toUInt8) :: (key.val ++ '='.toUInt8 :: percentEncodeQueryValue value)

/-- The values that the overloads of `add` take. -/
inductive QueryValue where
  | boolean (value : Option Bool)
  | integer (value : Option Int64)
  | string (value : Bytes)
  | strings (values : List Bytes)
  | integers (values : List Int64)

/-- `QueryBuilder::add`. -/
def add (query : Bytes) (key : QueryKey) : QueryValue → Bytes
  | .boolean (some value) => append query key ((if value then "true" else "false").toList.map Char.toUInt8)
  | .boolean none => query
  | .integer (some value) => append query key (decimalText value.toInt)
  | .integer none => query
  | .string value => if value.isEmpty then query else append query key value
  | .strings values => values.foldl (fun query value => append query key value) query
  | .integers values => values.foldl (fun query value => append query key (decimalText value.toInt)) query

/-- `str` after calls of `add`. -/
def queryText (additions : List (QueryKey × QueryValue)) : Bytes :=
  additions.foldl (fun query addition => add query addition.1 addition.2) []

/-- The path that `keyset_pager` requests. -/
def keysetPath (endpoint query : Bytes) (pageSize : UInt64) (cursorParam : QueryKey) (cursor : Bytes) : Bytes :=
  let pathPrefix := endpoint ++ ((if query.isEmpty then ['?'.toUInt8] else query ++ ['&'.toUInt8]) ++
    ("limit=".toList.map Char.toUInt8 ++ decimalText pageSize.toNat))
  if cursor.isEmpty then pathPrefix
  else pathPrefix ++ '&'.toUInt8 :: (cursorParam.val ++ '='.toUInt8 :: percentEncodeQueryValue cursor)

/-! ## Encoded values -/

/-- Unreserved characters and triples of a percent sign and two hexadecimal digits. -/
inductive Escaped : Bytes → Prop where
  | nil : Escaped []
  | plain {character : UInt8} {rest : Bytes} : unreserved character = true → Escaped rest → Escaped (character :: rest)
  | triple {upper lower : UInt8} {rest : Bytes} : upper ∈ hexDigits → lower ∈ hexDigits → Escaped rest →
      Escaped ('%'.toUInt8 :: upper :: lower :: rest)

theorem hexDigits_mem {value : Nat} (small : value < 16) :
    hexDigits.getD value 0 ∈ hexDigits ∧ QueryString.hexValue (hexDigits.getD value 0) = some value := by
  have table : ∀ value < 16, hexDigits.getD value 0 ∈ hexDigits ∧
      QueryString.hexValue (hexDigits.getD value 0) = some value := by
    decide
  exact table value small

theorem nibbles (character : UInt8) :
    (character >>> 4).toNat = character.toNat / 16 ∧ (character &&& 0x0F).toNat = character.toNat % 16 := by
  constructor
  · rw [UInt8.toNat_shiftRight]
    exact Nat.shiftRight_eq_div_pow _ 4
  · rw [UInt8.toNat_and]
    exact Nat.and_two_pow_sub_one_eq_mod character.toNat 4

theorem nibbles_lt (character : UInt8) : (character >>> 4).toNat < 16 ∧ (character &&& 0x0F).toNat < 16 := by
  have below := character.toNat_lt
  obtain ⟨high, low⟩ := nibbles character
  omega

theorem escaped_percentEncode (value : Bytes) : Escaped (percentEncodeQueryValue value) := by
  induction value with
  | nil => exact .nil
  | cons character rest ih =>
      obtain ⟨high, low⟩ := nibbles_lt character
      rw [percentEncodeQueryValue]
      split
      · next plain => exact .plain plain ih
      · exact .triple (hexDigits_mem high).1 (hexDigits_mem low).1 ih

theorem percentSign_reserved : unreserved percentSign = false := by decide

/-- Decoding takes every encoded value back. -/
theorem percentDecode_percentEncode (value : Bytes) : percentDecode (percentEncodeQueryValue value) = some value := by
  induction value with
  | nil => rfl
  | cons character rest ih =>
      obtain ⟨high, low⟩ := nibbles_lt character
      rw [percentEncodeQueryValue]
      split
      · next plain =>
        have letter : character ≠ percentSign := by
          rintro rfl
          rw [percentSign_reserved] at plain
          cases plain
        rw [List.singleton_append, QueryString.percentDecode_plain letter, ih]
        rfl
      · have whole : UInt8.ofNat (16 * (character >>> 4).toNat + (character &&& 0x0F).toNat) = character := by
          rw [(nibbles character).1, (nibbles character).2, Nat.div_add_mod, UInt8.ofNat_toNat]
        change percentDecode (percentSign :: _ :: _ :: percentEncodeQueryValue rest) = _
        rw [percentDecode, if_pos rfl, (hexDigits_mem high).2, (hexDigits_mem low).2, ih]
        change some (UInt8.ofNat _ :: rest) = _
        rw [whole]

theorem escaped_clean {text : Bytes} (escaped : Escaped text) : '&'.toUInt8 ∉ text := by
  induction escaped with
  | nil => exact List.not_mem_nil
  | @plain character rest unreserved _ ih =>
      rw [List.mem_cons, not_or]
      constructor
      · rintro rfl
        cases unreserved
      · exact ih
  | @triple upper lower rest high low _ ih =>
      have foreign : '&'.toUInt8 ∉ hexDigits := by decide
      simp only [List.mem_cons, not_or]
      exact ⟨by decide, fun same => foreign (same ▸ high), fun same => foreign (same ▸ low), ih⟩

/-! ## Pairs -/

def QueryValue.texts : QueryValue → List Bytes
  | .boolean (some value) => [(if value then "true" else "false").toList.map Char.toUInt8]
  | .boolean none => []
  | .integer (some value) => [decimalText value.toInt]
  | .integer none => []
  | .string value => if value.isEmpty then [] else [value]
  | .strings values => values
  | .integers values => values.map fun value => decimalText value.toInt

/-- The pairs that additions stand for. -/
def addedPairs (additions : List (QueryKey × QueryValue)) : List (Bytes × Bytes) :=
  additions.flatMap fun addition => addition.2.texts.map (addition.1.val, ·)

theorem key_clean (key : QueryKey) {separator : UInt8} (reserved : unreserved separator = false) :
    separator ∉ key.val := by
  intro member
  rw [key.property separator member] at reserved
  cases reserved

/-- One pair of a query text. -/
theorem readPair_pair (key : QueryKey) {text value : Bytes} (read : percentDecode text = some value) :
    readPair (key.val ++ '='.toUInt8 :: text) = some (key.val, value) := by
  rw [readPair, QueryString.splitFirst_append (key_clean key (by decide)), read]
  rfl

theorem pair_clean (key : QueryKey) {text : Bytes} (clean : '&'.toUInt8 ∉ text) :
    '&'.toUInt8 ∉ key.val ++ '='.toUInt8 :: text := by
  rw [List.mem_append, List.mem_cons, not_or, not_or]
  exact ⟨key_clean key (by decide), by decide, clean⟩

/-- A pair is appended, whatever the text before holds. -/
theorem queryPairs_next {query text value : Bytes} {pairs : List (Bytes × Bytes)} (before : queryPairs query = some pairs)
    (key : QueryKey) (clean : '&'.toUInt8 ∉ text) (read : percentDecode text = some value) :
    queryPairs (query ++ (if query.isEmpty then '?'.toUInt8 else '&'.toUInt8) :: (key.val ++ '='.toUInt8 :: text)) =
      some (pairs ++ [(key.val, value)]) := by
  cases query with
  | nil =>
      cases before
      exact QueryString.queryPairs_single (pair_clean key clean) (readPair_pair key read)
  | cons mark rest =>
      exact QueryString.queryPairs_append (List.cons_ne_nil mark rest) before (pair_clean key clean) (readPair_pair key read)

theorem queryPairs_append {query : Bytes} {pairs : List (Bytes × Bytes)} (before : queryPairs query = some pairs)
    (key : QueryKey) (value : Bytes) : queryPairs (append query key value) = some (pairs ++ [(key.val, value)]) :=
  queryPairs_next before key (escaped_clean (escaped_percentEncode value)) (percentDecode_percentEncode value)

/-- One pair for each element of a list. -/
theorem queryPairs_foldl {α : Type} (text : α → Bytes) (key : QueryKey) {query : Bytes} {pairs : List (Bytes × Bytes)}
    (before : queryPairs query = some pairs) (values : List α) :
    queryPairs (values.foldl (fun query value => append query key (text value)) query) =
      some (pairs ++ values.map fun value => (key.val, text value)) := by
  induction values generalizing query pairs with
  | nil => rw [List.foldl_nil, List.map_nil, List.append_nil, before]
  | cons value rest ih =>
      rw [List.foldl_cons, ih (queryPairs_append before key (text value)), List.append_assoc]
      rfl

theorem queryPairs_add {query : Bytes} {pairs : List (Bytes × Bytes)} (before : queryPairs query = some pairs)
    (key : QueryKey) (value : QueryValue) :
    queryPairs (add query key value) = some (pairs ++ value.texts.map (key.val, ·)) := by
  have nothing : queryPairs query = some (pairs ++ [].map (key.val, ·)) := by
    rw [List.map_nil, List.append_nil, before]
  cases value with
  | boolean value =>
      cases value with
      | none => exact nothing
      | some value => exact queryPairs_append before key _
  | integer value =>
      cases value with
      | none => exact nothing
      | some value => exact queryPairs_append before key _
  | string value =>
      rw [add, QueryValue.texts]
      split
      · exact nothing
      · exact queryPairs_append before key value
  | strings values => exact queryPairs_foldl id key before values
  | integers values =>
      rw [QueryValue.texts, List.map_map]
      exact queryPairs_foldl (fun value : Int64 => decimalText value.toInt) key before values

theorem queryPairs_queryText (additions : List (QueryKey × QueryValue)) :
    queryPairs (queryText additions) = some (addedPairs additions) := by
  induction additions using List.reverseRecOn with
  | nil => rfl
  | append_singleton front addition ih =>
      rw [queryText, List.foldl_append, addedPairs, List.flatMap_append, List.flatMap_singleton]
      exact queryPairs_add ih addition.1 addition.2

/-! ## Pages -/

theorem percentDecode_unreserved {text : Bytes} (plain : ∀ character ∈ text, unreserved character = true) :
    percentDecode text = some text ∧ '&'.toUInt8 ∉ text := by
  have clean : '&'.toUInt8 ∉ text := key_clean ⟨text, plain⟩ (by decide)
  have same : percentEncodeQueryValue text = text := by
    clear clean
    induction text with
    | nil => rfl
    | cons character rest ih =>
        rw [List.forall_mem_cons] at plain
        rw [percentEncodeQueryValue, if_pos plain.1, ih plain.2, List.singleton_append]
  constructor
  · have decoded := percentDecode_percentEncode text
    rwa [same] at decoded
  · exact clean

theorem unreserved_digit {digit : Char} (isDigit : digit.isDigit = true) : unreserved digit.toUInt8 = true := by
  simp only [Char.isDigit, Bool.and_eq_true, decide_eq_true_eq, ge_iff_le, UInt32.le_iff_toNat_le] at isDigit
  have value : digit.toUInt8.toNat = digit.val.toNat := Nat.mod_eq_of_lt (lt_of_le_of_lt isDigit.2 (by decide))
  have low : '0'.toUInt8 ≤ digit.toUInt8 := by
    rw [UInt8.le_iff_toNat_le, value]
    exact isDigit.1
  have high : digit.toUInt8 ≤ '9'.toUInt8 := by
    rw [UInt8.le_iff_toNat_le, value]
    exact isDigit.2
  simp [unreserved, low, high]

theorem decimalText_unreserved (number : Nat) : ∀ character ∈ decimalText number, unreserved character = true := by
  intro character member
  obtain ⟨digit, written, rfl⟩ := List.mem_map.mp member
  have digits : (toString (number : Int)).toList = Nat.toDigits 10 number := by
    change (toString number).toList = _
    simp
  rw [digits] at written
  exact unreserved_digit (Nat.isDigit_of_mem_toDigits (by decide) (by decide) written)

def limitKey : QueryKey := ⟨"limit".toList.map Char.toUInt8, List.all_eq_true.mp (by decide)⟩

/-- The page parameters are two more pairs, the second only behind the first page. -/
theorem queryPairs_keysetPath {query : Bytes} {pairs : List (Bytes × Bytes)} (before : queryPairs query = some pairs)
    (endpoint : Bytes) (pageSize : UInt64) (cursorParam : QueryKey) (cursor : Bytes) :
    ∃ paged, keysetPath endpoint query pageSize cursorParam cursor = endpoint ++ paged ∧
      queryPairs paged = some (pairs ++ ("limit".toList.map Char.toUInt8, decimalText pageSize.toNat) ::
        if cursor.isEmpty then [] else [(cursorParam.val, cursor)]) := by
  obtain ⟨decoded, clean⟩ := percentDecode_unreserved (decimalText_unreserved pageSize.toNat)
  have limited := queryPairs_next before limitKey clean decoded
  have started : query ++ (if query.isEmpty then '?'.toUInt8 else '&'.toUInt8) ::
        (limitKey.val ++ '='.toUInt8 :: decimalText pageSize.toNat) =
      (if query.isEmpty then ['?'.toUInt8] else query ++ ['&'.toUInt8]) ++
        ("limit=".toList.map Char.toUInt8 ++ decimalText pageSize.toNat) := by
    cases query with
    | nil => rfl
    | cons mark rest => simp [limitKey]
  rw [started] at limited
  cases cursor with
  | nil => exact ⟨_, rfl, limited⟩
  | cons byte rest =>
      have resumed := queryPairs_next limited cursorParam (escaped_clean (escaped_percentEncode (byte :: rest)))
        (percentDecode_percentEncode (byte :: rest))
      have marked : ((if query.isEmpty then ['?'.toUInt8] else query ++ ['&'.toUInt8]) ++
          ("limit=".toList.map Char.toUInt8 ++ decimalText pageSize.toNat)).isEmpty = false := by
        simp
      rw [marked] at resumed
      refine ⟨_, List.append_assoc endpoint _ _, resumed.trans ?_⟩
      rw [List.append_assoc]
      rfl

/-- Whatever bytes a value holds, it is found again in the query, which holds nothing but
the pairs that were added, in their order, and a page adds its own behind them. -/
theorem query_decodes :
    (∀ value, Escaped (percentEncodeQueryValue value) ∧ percentDecode (percentEncodeQueryValue value) = some value) ∧
      Function.Injective percentEncodeQueryValue ∧
      (∀ additions, queryPairs (queryText additions) = some (addedPairs additions)) ∧
      ∀ additions endpoint pageSize (cursorParam : QueryKey) cursor, ∃ query,
        keysetPath endpoint (queryText additions) pageSize cursorParam cursor = endpoint ++ query ∧
        queryPairs query = some (addedPairs additions ++
          ("limit".toList.map Char.toUInt8, decimalText pageSize.toNat) ::
            if cursor.isEmpty then [] else [(cursorParam.val, cursor)]) := by
  constructor
  · exact fun value => ⟨escaped_percentEncode value, percentDecode_percentEncode value⟩
  constructor
  · intro value other same
    have decoded := percentDecode_percentEncode value
    rw [same, percentDecode_percentEncode other] at decoded
    exact (Option.some.inj decoded).symm
  constructor
  · exact queryPairs_queryText
  · intro additions endpoint pageSize cursorParam cursor
    exact queryPairs_keysetPath (queryPairs_queryText additions) endpoint pageSize cursorParam cursor

end Polymarket.Rest
