import Mathlib.Algebra.Group.Nat.Defs
import Mathlib.Data.List.DropRight
import Polymarket.Evm.Quantity

/-! Searching, cutting and separating `std::string`s. Positions are of type `size_t`: `npos` is the
largest, and the position behind it is zero. -/

set_option autoImplicit false

namespace Polymarket.StdString

section Operations

variable {α : Type}

def npos : UInt64 := 0xffffffffffffffff

def size (text : List α) : UInt64 := UInt64.ofNat text.length

def substr (text : List α) (position count : UInt64) : Except CppError (List α) :=
  if size text < position then .error (.outOfRange "basic_string::substr")
  else .ok ((text.drop position.toNat).take count.toNat)

def erase (text : List α) (position count : UInt64) : Except CppError (List α) :=
  if size text < position then .error (.outOfRange "basic_string::erase")
  else .ok (text.take position.toNat ++ (text.drop position.toNat).drop count.toNat)

variable [DecidableEq α]

/-- The first position that holds none of the characters. -/
def findFirstNotOf (text characters : List α) : UInt64 :=
  let leading := (text.takeWhile fun character => decide (character ∈ characters)).length
  if leading = text.length then npos else UInt64.ofNat leading

/-- The last position that holds none of the characters. -/
def findLastNotOf (text characters : List α) : UInt64 :=
  match (text.rdropWhile fun character => decide (character ∈ characters)).length with
  | 0 => npos
  | before + 1 => UInt64.ofNat before

end Operations

/-! ## Texts that `size_t` can count -/

section Counted

variable {α : Type} {text : List α}

theorem toNat_npos : npos.toNat = 2 ^ 64 - 1 := rfl

theorem toNat_size (counted : text.length < 2 ^ 64) : (size text).toNat = text.length :=
  UInt64.toNat_ofNat_of_lt' counted

theorem substr_ok {position : UInt64} (counted : text.length < 2 ^ 64) (within : position.toNat ≤ text.length)
    (count : UInt64) : substr text position count = .ok ((text.drop position.toNat).take count.toNat) := by
  apply if_neg
  rw [UInt64.not_lt, UInt64.le_iff_toNat_le, toNat_size counted]
  exact within

theorem erase_front (text : List α) (count : UInt64) : erase text 0 count = .ok (text.drop count.toNat) := by
  have within : ¬size text < 0 := by
    rw [UInt64.not_lt, UInt64.le_iff_toNat_le]
    exact Nat.zero_le _
  rw [erase, if_neg within]
  rfl

theorem erase_behind {position : UInt64} (counted : text.length < 2 ^ 64) (within : position.toNat ≤ text.length) :
    erase text position npos = .ok (text.take position.toNat) := by
  have inside : ¬size text < position := by
    rw [UInt64.not_lt, UInt64.le_iff_toNat_le, toNat_size counted]
    exact within
  have nothing : (text.drop position.toNat).drop npos.toNat = [] := by
    rw [List.drop_eq_nil_iff, List.length_drop, toNat_npos]
    omega
  rw [erase, if_neg inside, nothing, List.append_nil]

theorem takeWhile_length_eq_iff (holds : α → Bool) :
    (text.takeWhile holds).length = text.length ↔ ∀ character ∈ text, holds character = true := by
  rw [← List.takeWhile_eq_self_iff]
  constructor
  · exact (List.takeWhile_prefix holds).eq_of_length
  · exact congrArg List.length

variable [DecidableEq α]

theorem findFirstNotOf_eq_npos_iff (counted : text.length < 2 ^ 64) (characters : List α) :
    findFirstNotOf text characters = npos ↔ ∀ character ∈ text, character ∈ characters := by
  have all := @takeWhile_length_eq_iff α text fun character => decide (character ∈ characters)
  simp only [decide_eq_true_eq] at all
  have shorter := (List.takeWhile_prefix (l := text) fun character => decide (character ∈ characters)).length_le
  unfold findFirstNotOf
  dsimp only
  rw [← all]
  split
  · next whole => exact iff_of_true rfl whole
  · next part =>
    apply iff_of_false
    · intro last
      have position := congrArg UInt64.toNat last
      rw [UInt64.toNat_ofNat_of_lt' (by rw [UInt64.size]; omega), toNat_npos] at position
      omega
    · exact part

/-- A text without the characters it starts with; the last character stays. -/
theorem erase_leading (counted : text.length < 2 ^ 64) (nonempty : text ≠ []) (character : α) :
    erase text 0 (min (findFirstNotOf text [character]) (size text - 1)) =
      .ok (if text.dropWhile (· == character) = [] then [character] else text.dropWhile (· == character)) := by
  have positive := List.length_pos_iff.mpr nonempty
  have last : (size text - 1).toNat = text.length - 1 := by
    have one : (1 : UInt64) ≤ size text := by
      rw [UInt64.le_iff_toNat_le, toNat_size counted]
      exact positive
    rw [UInt64.toNat_sub_of_le _ _ one, toNat_size counted, UInt64.toNat_one]
  have only : (fun other : α => decide (other ∈ [character])) = (· == character) := by
    funext other
    rw [Bool.eq_iff_iff, decide_eq_true_eq, List.mem_singleton, beq_iff_eq]
  have split := List.takeWhile_append_dropWhile (p := (· == character)) (l := text)
  have lengths := congrArg List.length split
  rw [List.length_append] at lengths
  rw [erase_front, Except.ok.injEq]
  by_cases all : text.dropWhile (· == character) = []
  · have every : ∀ other ∈ text, other ∈ [character] := by
      intro other member
      rw [all, List.append_nil, List.takeWhile_eq_self_iff] at split
      exact List.mem_singleton.mpr (eq_of_beq (split other member))
    have none_ := (findFirstNotOf_eq_npos_iff counted [character]).mpr every
    have smaller : size text - 1 ≤ npos := by
      rw [UInt64.le_iff_toNat_le, last, toNat_npos]
      omega
    rw [if_pos all, none_, min_eq_right smaller, last]
    obtain ⟨front, ending, same⟩ := List.eq_nil_or_concat text |>.resolve_left nonempty
    have found := every ending (by rw [same]; simp)
    rw [List.mem_singleton] at found
    rw [same, found]
    simp
  · have remains := List.length_pos_iff.mpr all
    have first : findFirstNotOf text [character] = UInt64.ofNat (text.takeWhile (· == character)).length := by
      rw [findFirstNotOf, only, if_neg (by omega)]
    have position : (findFirstNotOf text [character]).toNat = (text.takeWhile (· == character)).length := by
      rw [first, UInt64.toNat_ofNat_of_lt' (by rw [UInt64.size]; omega)]
    have smaller : findFirstNotOf text [character] ≤ size text - 1 := by
      rw [UInt64.le_iff_toNat_le, last, position]
      omega
    rw [if_neg all, min_eq_left smaller, position]
    have dropped := @List.drop_left α (text.takeWhile (· == character)) (text.dropWhile (· == character))
    rwa [split] at dropped

/-- A text without the characters it ends with. -/
theorem erase_trailing (counted : text.length < 2 ^ 64) (characters : List α) :
    erase text (findLastNotOf text characters + 1) npos =
      .ok (text.rdropWhile fun character => decide (character ∈ characters)) := by
  have shorter := List.rdropWhile_prefix (fun character => decide (character ∈ characters)) (l := text)
  have length := shorter.length_le
  have position : (findLastNotOf text characters + 1).toNat =
      (text.rdropWhile fun character => decide (character ∈ characters)).length := by
    unfold findLastNotOf
    split
    · next none_ =>
      rw [none_]
      rfl
    · next before some_ =>
      rw [some_] at length ⊢
      rw [UInt64.toNat_add, UInt64.toNat_ofNat_of_lt' (by rw [UInt64.size]; omega), UInt64.toNat_one]
      exact Nat.mod_eq_of_lt (by omega)
  rw [erase_behind counted (by omega), position, ← List.prefix_iff_eq_take.mp shorter]

end Counted

end Polymarket.StdString

namespace Polymarket

/-! ## Separators -/

/-- The text before a separator and the text behind it. -/
theorem separated_injective {α : Type} {separator : α} {front other back rest : List α} (clean : separator ∉ front)
    (alsoClean : separator ∉ other) (same : front ++ separator :: back = other ++ separator :: rest) :
    front = other ∧ back = rest := by
  induction front generalizing other with
  | nil =>
      cases other with
      | nil => exact ⟨rfl, (List.cons.inj same).2⟩
      | cons first others =>
          obtain ⟨rfl, -⟩ := List.cons.inj same
          exact absurd List.mem_cons_self alsoClean
  | cons first front ih =>
      cases other with
      | nil =>
          obtain ⟨rfl, -⟩ := List.cons.inj same
          exact absurd List.mem_cons_self clean
      | cons second others =>
          obtain ⟨rfl, tails⟩ := List.cons.inj same
          obtain ⟨rfl, rfl⟩ := ih (fun member => clean (List.mem_cons_of_mem _ member))
            (fun member => alsoClean (List.mem_cons_of_mem _ member)) tails
          exact ⟨rfl, rfl⟩

end Polymarket
