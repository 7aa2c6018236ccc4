import Mathlib.Data.List.Forall2
import Polymarket.Evm.Abi.Values

/-! A decoder that knows what a tree looks like except for array lengths and the
contents of words and byte strings. It recovers every tree from its encoding. -/

set_option autoImplicit false

namespace Polymarket.Evm.Abi

open Orders (Bytes)

/-! ## Shapes -/

/-- The type of a value. An array has a shape for every index, and no length; for an
array of one Solidity type they are all the same. -/
inductive AbiShape where
  | word
  | bytes
  | array (element : Nat → AbiShape)
  | tuple (members : List AbiShape)

mutual

def AbiShape.isDynamic : AbiShape → Bool
  | .word => false
  | .bytes => true
  | .array _ => true
  | .tuple members => anyDynamicShape members

def anyDynamicShape : List AbiShape → Bool
  | [] => false
  | member :: rest => member.isDynamic || anyDynamicShape rest

end

mutual

/-- The width of a static value of the shape. -/
def AbiShape.width : AbiShape → Nat
  | .word => 32
  | .bytes => 0
  | .array _ => 0
  | .tuple members => widths members

def widths : List AbiShape → Nat
  | [] => 0
  | member :: rest => member.width + widths rest

end

mutual

def AbiShape.decode : AbiShape → Bytes → Option EvmAbiValue
  | .word, input =>
      if sized : (input.take 32).length = 32 then some (.word ⟨input.take 32, sized⟩) else none
  | .bytes, input => do
      let length ← readWord input
      if (input.drop 32).length < length then none else some (.bytes ((input.drop 32).take length))
  | .array element, input => do
      let length ← readWord input
      let elements ← readMembers (input.drop 32)
        ((List.range length).map fun index => ⟨(element index).isDynamic, (element index).width, (element index).decode⟩) 0
      some (.array elements)
  | .tuple members, input => do
      let values ← readMembers input (memberReaders members) 0
      some (.tuple values)

def memberReaders : List AbiShape → List (MemberReader EvmAbiValue)
  | [] => []
  | member :: rest => ⟨member.isDynamic, member.width, member.decode⟩ :: memberReaders rest

end

/-- Decode a parameter list, as if it were one tuple. -/
def abiDecode (shapes : List AbiShape) (input : Bytes) : Option (List EvmAbiValue) :=
  readMembers input (memberReaders shapes) 0

theorem memberReaders_eq_map (shapes : List AbiShape) :
    memberReaders shapes = shapes.map fun shape => ⟨shape.isDynamic, shape.width, shape.decode⟩ := by
  induction shapes with
  | nil => simp [memberReaders]
  | cons shape rest ih => simp [memberReaders, ih]

/-- A value of a shape. -/
inductive HasShape : EvmAbiValue → AbiShape → Prop where
  | word {data} : HasShape (.word data) .word
  | bytes {data} : HasShape (.bytes data) .bytes
  | array {elements element} :
      List.Forall₂ HasShape elements ((List.range elements.length).map element) →
      HasShape (.array elements) (.array element)
  | tuple {members shapes} : List.Forall₂ HasShape members shapes → HasShape (.tuple members) (.tuple shapes)

/-- The numbers of elements fit `size_t`, as those of a `std::vector` do. -/
inductive Vectors : EvmAbiValue → Prop where
  | word {data} : Vectors (.word data)
  | bytes {data} : Vectors (.bytes data)
  | array {elements} : elements.length < 2 ^ 64 → (∀ element ∈ elements, Vectors element) → Vectors (.array elements)
  | tuple {members} : (∀ member ∈ members, Vectors member) → Vectors (.tuple members)

/-- Every tree has a shape. -/
theorem EvmAbiValue.exists_shape (value : EvmAbiValue) : ∃ shape, HasShape value shape := by
  have members (values : List EvmAbiValue) (each : ∀ value ∈ values, ∃ shape, HasShape value shape) :
      ∃ shapes, List.Forall₂ HasShape values shapes := by
    induction values with
    | nil => exact ⟨[], .nil⟩
    | cons value rest ih =>
        obtain ⟨shape, typed⟩ := each value List.mem_cons_self
        obtain ⟨shapes, typedRest⟩ := ih fun other member => each other (List.mem_cons_of_mem _ member)
        exact ⟨shape :: shapes, .cons typed typedRest⟩
  induction value using EvmAbiValue.treeInduction with
  | word data => exact ⟨.word, .word⟩
  | bytes data => exact ⟨.bytes, .bytes⟩
  | array elements ih =>
      obtain ⟨shapes, typed⟩ := members elements ih
      use .array fun index => shapes.getD index .word
      apply HasShape.array
      have indexed : (List.range elements.length).map (fun index => shapes.getD index .word) = shapes := by
        rw [typed.length_eq]
        apply List.ext_getElem
        · simp
        · intro index _ below
          simp [below]
      rw [indexed]
      exact typed
  | tuple values ih =>
      obtain ⟨shapes, typed⟩ := members values ih
      exact ⟨.tuple shapes, .tuple typed⟩

/-! ## What a shape knows -/

theorem length_layOut_static {member : EncodedMember} (static : member.dynamic = false)
    (rest : List EncodedMember) :
    (layOut (member :: rest)).length = member.bytes.length + (layOut rest).length := by
  rw [length_layOut, length_layOut, headSize_cons, tails_cons, EncodedMember.headWidth, EncodedMember.tail, static]
  simp
  omega

theorem members_known {values : List EvmAbiValue} {shapes : List AbiShape}
    (typed : List.Forall₂ HasShape values shapes)
    (each : ∀ value ∈ values, ∀ shape, HasShape value shape →
      shape.isDynamic = value.isDynamic ∧ (value.isDynamic = false → shape.width = value.encoding.length)) :
    anyDynamicShape shapes = anyDynamic values ∧
      (anyDynamic values = false → widths shapes = (layOut (encodedMembers values)).length) := by
  induction typed with
  | nil =>
      constructor
      · simp [anyDynamicShape, anyDynamic]
      · intro _
        simp [widths, encodedMembers, layOut, heads, tails]
  | @cons value shape values shapes first _ ih =>
      obtain ⟨sameFirst, widthFirst⟩ := each value List.mem_cons_self shape first
      obtain ⟨sameRest, widthRest⟩ := ih fun other member => each other (List.mem_cons_of_mem _ member)
      rw [anyDynamicShape, anyDynamic, sameFirst, sameRest]
      constructor
      · rfl
      · intro static
        rw [Bool.or_eq_false_iff] at static
        rw [widths, encodedMembers, length_layOut_static static.1, widthFirst static.1, widthRest static.2]

/-- A shape knows which values are dynamic, and how wide the static ones are. -/
theorem shape_known (value : EvmAbiValue) : ∀ shape, HasShape value shape →
    shape.isDynamic = value.isDynamic ∧ (value.isDynamic = false → shape.width = value.encoding.length) := by
  induction value using EvmAbiValue.treeInduction with
  | word data =>
      intro shape typed
      cases typed
      constructor
      · simp [AbiShape.isDynamic, EvmAbiValue.isDynamic]
      · intro _
        rw [AbiShape.width, EvmAbiValue.encoding, data.property]
  | bytes data =>
      intro shape typed
      cases typed
      constructor
      · simp [AbiShape.isDynamic, EvmAbiValue.isDynamic]
      · intro impossible
        simp [EvmAbiValue.isDynamic] at impossible
  | array elements =>
      intro shape typed
      cases typed
      constructor
      · simp [AbiShape.isDynamic, EvmAbiValue.isDynamic]
      · intro impossible
        simp [EvmAbiValue.isDynamic] at impossible
  | tuple values ih =>
      intro shape typed
      cases typed with
      | tuple typed =>
          rw [AbiShape.isDynamic, EvmAbiValue.isDynamic, AbiShape.width, EvmAbiValue.encoding]
          exact members_known typed ih

/-! ## Round trip -/

theorem readsAll {values : List EvmAbiValue} {shapes : List AbiShape} (typed : List.Forall₂ HasShape values shapes)
    (each : ∀ value ∈ values, ∀ shape, HasShape value shape →
      ∀ suffix, shape.decode (value.encoding ++ suffix) = some value) :
    ReadsAll (memberReaders shapes) (encodedMembers values) values := by
  induction typed with
  | nil =>
      rw [memberReaders, encodedMembers]
      exact .nil
  | @cons value shape values shapes first _ ih =>
      obtain ⟨same, width⟩ := shape_known value shape first
      rw [memberReaders, encodedMembers]
      apply ReadsAll.cons
      · constructor
        · exact same
        · exact width
        · exact each value List.mem_cons_self shape first
      · exact ih fun other member => each other (List.mem_cons_of_mem _ member)

/-- A decoder of the shape recovers a value from the front of any input. -/
theorem decode_encoding (value : EvmAbiValue) : ∀ shape, HasShape value shape → Vectors value →
    value.encoding.length < 2 ^ 64 → ∀ suffix, shape.decode (value.encoding ++ suffix) = some value := by
  have below {values : List EvmAbiValue} {outer : Nat} (fits : (evmAbiEncode values).length ≤ outer)
      (outerFits : outer < 2 ^ 64) : ∀ value ∈ values, value.encoding.length < 2 ^ 64 :=
    fun value member => lt_of_le_of_lt ((length_le_evmAbiEncode member).trans fits) outerFits
  induction value using EvmAbiValue.treeInduction with
  | word data =>
      intro shape typed _ _ suffix
      cases typed
      have taken : (data.val ++ suffix).take 32 = data.val := List.take_left' data.property
      rw [AbiShape.decode, EvmAbiValue.encoding, dif_pos (by rw [taken, data.property])]
      congr 2
      exact Subtype.ext taken
  | bytes data =>
      intro shape typed _ fits suffix
      cases typed
      rw [EvmAbiValue.encoding, List.length_append, length_uint256Bytes] at fits
      have starts : ∃ pad, padded data = data ++ pad := by
        unfold padded
        split
        · exact ⟨_, rfl⟩
        · exact ⟨[], (List.append_nil _).symm⟩
      obtain ⟨pad, starts⟩ := starts
      rw [starts, List.length_append] at fits
      have length : (UInt64.ofNat data.length).toNat = data.length := UInt64.toNat_ofNat_of_lt' (by
        rw [UInt64.size]
        omega)
      rw [AbiShape.decode, EvmAbiValue.encoding, List.append_assoc, readWord_uint256Bytes, length,
        List.drop_left' (length_uint256Bytes _), starts, List.append_assoc]
      simp
  | array elements ih =>
      intro shape typed vectors fits suffix
      cases typed with
      | @array _ element typed =>
          cases vectors with
          | array few vectors =>
              rw [EvmAbiValue.encoding, List.length_append, length_uint256Bytes] at fits
              have length : (UInt64.ofNat elements.length).toNat = elements.length :=
                UInt64.toNat_ofNat_of_lt' few
              have readers : (List.range elements.length).map (fun index =>
                    (⟨(element index).isDynamic, (element index).width, (element index).decode⟩ :
                      MemberReader EvmAbiValue)) =
                  memberReaders ((List.range elements.length).map element) := by
                rw [memberReaders_eq_map, List.map_map]
                rfl
              have small := below (Nat.le_add_left (evmAbiEncode elements).length 32) fits
              have reads := readsAll typed fun value member shape typed =>
                ih value member shape typed (vectors value member) (small value member)
              have back := readMembers_layOut reads (by omega) suffix
              rw [AbiShape.decode, EvmAbiValue.encoding, List.append_assoc, readWord_uint256Bytes, length,
                List.drop_left' (length_uint256Bytes _), Option.bind_eq_bind, Option.bind_some, readers, back]
              rfl
  | tuple values ih =>
      intro shape typed vectors fits suffix
      cases typed with
      | tuple typed =>
          cases vectors with
          | tuple vectors =>
              rw [EvmAbiValue.encoding] at fits
              have small := below (le_refl (evmAbiEncode values).length) fits
              have reads := readsAll typed fun value member shape typed =>
                ih value member shape typed (vectors value member) (small value member)
              rw [AbiShape.decode, EvmAbiValue.encoding, readMembers_layOut reads fits suffix]
              rfl

/-! ## Sequences at every level -/

/-- A sequence of a parameter list: the list itself, or the children of an array or a
tuple in one. -/
inductive SequenceIn : List EvmAbiValue → List EvmAbiValue → Prop where
  | here {values} : SequenceIn values values
  | array {values elements inner} : .array elements ∈ values → SequenceIn elements inner → SequenceIn values inner
  | tuple {values members inner} : .tuple members ∈ values → SequenceIn members inner → SequenceIn values inner

theorem SequenceIn.length_le {values inner : List EvmAbiValue} (within : SequenceIn values inner) :
    (evmAbiEncode inner).length ≤ (evmAbiEncode values).length := by
  induction within with
  | here => exact le_rfl
  | array listed _ ih =>
      have outer := length_le_evmAbiEncode listed
      rw [EvmAbiValue.encoding, List.length_append] at outer
      exact ih.trans ((Nat.le_add_left ..).trans outer)
  | tuple listed _ ih =>
      have outer := length_le_evmAbiEncode listed
      rw [EvmAbiValue.encoding] at outer
      exact ih.trans outer

theorem sequence_offset {front back : List EvmAbiValue} {member : EvmAbiValue} (dynamic : member.isDynamic = true)
    (fits : (evmAbiEncode (front ++ member :: back)).length < 2 ^ 64) :
    ∃ offset, readWord ((evmAbiEncode (front ++ member :: back)).drop (headSize (encodedMembers front))) =
        some offset ∧
      headSize (encodedMembers (front ++ member :: back)) ≤ offset ∧
      member.encoding <+: (evmAbiEncode (front ++ member :: back)).drop offset := by
  have split : encodedMembers (front ++ member :: back) =
      encodedMembers front ++ ⟨member.isDynamic, member.encoding⟩ :: encodedMembers back := by
    rw [encodedMembers_append, encodedMembers]
  unfold evmAbiEncode at fits ⊢
  rw [split] at fits ⊢
  obtain ⟨offset, word, past, there⟩ := layOut_offset dynamic fits
  exact ⟨offset, word, past, _, there.symm⟩

theorem abiDecode_evmAbiEncode {values : List EvmAbiValue} {shapes : List AbiShape}
    (typed : List.Forall₂ HasShape values shapes) (vectors : ∀ value ∈ values, Vectors value)
    (fits : (evmAbiEncode values).length < 2 ^ 64) : abiDecode shapes (evmAbiEncode values) = some values := by
  have reads := readsAll typed fun value member shape typed =>
    decode_encoding value shape typed (vectors value member)
      (lt_of_le_of_lt (length_le_evmAbiEncode member) fits)
  have back := readMembers_layOut reads fits []
  rw [List.append_nil] at back
  exact back

/-- Encoding is decodable: the tree comes back from the bytes and its shape, the bytes
are whole words, the offsets of every sequence point past its head to the members, and
no other tree of the shape has the same encoding. -/
theorem evmAbiEncode_decodable {values : List EvmAbiValue} {shapes : List AbiShape}
    (typed : List.Forall₂ HasShape values shapes) (vectors : ∀ value ∈ values, Vectors value)
    (fits : (evmAbiEncode values).length < 2 ^ 64) :
    abiDecode shapes (evmAbiEncode values) = some values ∧
    32 ∣ (evmAbiEncode values).length ∧
    (∀ front member back, SequenceIn values (front ++ member :: back) → member.isDynamic = true →
      ∃ offset, readWord ((evmAbiEncode (front ++ member :: back)).drop (headSize (encodedMembers front))) =
          some offset ∧
        headSize (encodedMembers (front ++ member :: back)) ≤ offset ∧
        member.encoding <+: (evmAbiEncode (front ++ member :: back)).drop offset) ∧
    (∀ other, List.Forall₂ HasShape other shapes → (∀ value ∈ other, Vectors value) →
      evmAbiEncode other = evmAbiEncode values → other = values) := by
  have back := abiDecode_evmAbiEncode typed vectors fits
  constructor
  · exact back
  constructor
  · exact evmAbiEncode_whole values
  constructor
  · intro front member back within dynamic
    exact sequence_offset dynamic (lt_of_le_of_lt within.length_le fits)
  · intro other otherTyped otherVectors same
    have otherBack := abiDecode_evmAbiEncode otherTyped otherVectors (by rw [same]; exact fits)
    rw [same, back] at otherBack
    exact (Option.some.inj otherBack).symm

/-- A tuple of a word, an array of byte strings and an empty tuple. -/
theorem evmAbiEncode_decodable_nested :
    abiDecode [.tuple [.word, .array fun _ => .bytes, .tuple []]]
        (evmAbiEncode [.tuple [.word zeroWord, .array [.bytes [1, 2], .bytes []], .tuple []]]) =
      some [.tuple [.word zeroWord, .array [.bytes [1, 2], .bytes []], .tuple []]] := by
  have element {data : Bytes} : HasShape (.bytes data) .bytes := .bytes
  have typed : List.Forall₂ HasShape [.tuple [.word zeroWord, .array [.bytes [1, 2], .bytes []], .tuple []]]
      [.tuple [.word, .array fun _ => .bytes, .tuple []]] := by
    apply List.Forall₂.cons _ .nil
    apply HasShape.tuple
    apply List.Forall₂.cons .word
    apply List.Forall₂.cons (.array (.cons element (.cons element .nil)))
    exact .cons (.tuple .nil) .nil
  have vectors : ∀ value ∈ [EvmAbiValue.tuple [.word zeroWord, .array [.bytes [1, 2], .bytes []], .tuple []]],
      Vectors value := by
    intro value member
    rw [List.mem_singleton.mp member]
    apply Vectors.tuple
    intro part listed
    simp only [List.mem_cons, List.not_mem_nil, or_false] at listed
    obtain rfl | rfl | rfl := listed
    · exact .word
    · apply Vectors.array (by decide)
      intro part listed
      simp only [List.mem_cons, List.not_mem_nil, or_false] at listed
      obtain rfl | rfl := listed
      · exact .bytes
      · exact .bytes
    · apply Vectors.tuple
      intro part impossible
      cases impossible
  exact (evmAbiEncode_decodable typed vectors (by decide +kernel)).1

end Polymarket.Evm.Abi
