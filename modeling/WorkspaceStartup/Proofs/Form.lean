import WorkspaceStartup.Proofs.Utf8
import WorkspaceStartup.Text.Split
import WorkspaceStartup.Url.Percent

/-!
# Forms that are read back

Form-encoded text is a sequence of fields with ampersands between them.  The
first equals sign of a field parts its name from its value; in either a plus sign
stands for a space, and a percent code for a byte of the text in UTF-8.  Encoded
names and values contain neither mark, so they are read back as they were.
-/

namespace WorkspaceStartup

namespace Text

variable {α : Type} [BEq α] [LawfulBEq α] {mark : α}

theorem pieces_of_not_mem {piece : List α} (free : mark ∉ piece) :
    pieces mark piece = [piece] := by
  induction piece with
  | nil => rfl
  | cons first others induction =>
      simp only [List.mem_cons, not_or] at free
      obtain ⟨different, free⟩ := free
      have other : (first == mark) = false := beq_false_of_ne (Ne.symm different)
      simp only [pieces, other, induction free]
      rfl

theorem pieces_append {piece : List α} (free : mark ∉ piece)
    (rest : List α) :
    pieces mark (piece ++ mark :: rest) = piece :: pieces mark rest := by
  induction piece with
  | nil => simp [pieces]
  | cons first others induction =>
      simp only [List.mem_cons, not_or] at free
      obtain ⟨different, free⟩ := free
      have other : (first == mark) = false := beq_false_of_ne (Ne.symm different)
      simp only [List.cons_append, pieces, other, induction free]
      rfl

/-- A text is cut at the first occurrence of a character, if it has one. -/
theorem cutFirst?_eq_some_iff {text before behind : List α} :
    cutFirst? [mark] text = some (before, behind) ↔
      text = before ++ mark :: behind ∧ mark ∉ before := by
  induction text generalizing before with
  | nil => simp [cutFirst?, after?]
  | cons first others induction =>
      by_cases isMark : first = mark
      · subst isMark
        simp only [cutFirst?, after?, beq_self_eq_true, if_true,
          Option.some.injEq, Prod.mk.injEq]
        constructor
        · rintro ⟨rfl, rfl⟩
          exact ⟨rfl, List.not_mem_nil⟩
        · rintro ⟨split, free⟩
          cases before with
          | nil => exact ⟨rfl, (List.cons.inj split).2⟩
          | cons _ _ =>
              cases (List.cons.inj split).1
              exact (free List.mem_cons_self).elim
      · have other : (mark == first) = false :=
          beq_false_of_ne (Ne.symm isMark)
        simp only [cutFirst?, after?, other, Bool.false_eq_true, if_false,
          Option.map_eq_some_iff]
        constructor
        · rintro ⟨⟨front, back⟩, cut, same⟩
          cases same
          obtain ⟨rfl, free⟩ := induction.mp cut
          exact ⟨rfl, by simpa [Ne.symm isMark] using free⟩
        · rintro ⟨split, free⟩
          cases before with
          | nil => exact (isMark (List.cons.inj split).1).elim
          | cons _ front =>
              obtain ⟨rfl, rest⟩ := List.cons.inj split
              simp only [List.mem_cons, not_or] at free
              exact ⟨(front, behind), induction.mpr ⟨rest, free.2⟩, rfl⟩

end Text

namespace Url

/-! ## Reading forms -/

/-- A plus sign stands for a space. -/
def unplus (character : Char) : Char :=
  if character = '+' then ' ' else character

/-- The text that a part of a form stands for. -/
def formText (part : List Char) : String :=
  Text.shownTextOfBytes (decodeBytes (part.map unplus))

/-- The name and the value of a field; without an equals sign all is name. -/
def formField (field : List Char) : String × String :=
  match Text.cutFirst? ['='] field with
  | some parts => (formText parts.1, formText parts.2)
  | none => (formText field, formText [])

/-- The names and the values in form-encoded text, in order. -/
def formDecode (text : String) : List (String × String) :=
  ((Text.pieces '&' text.toList).filter fun field => !field.isEmpty).map
    formField

/-! ## Reading what was encoded -/

/-- The characters that mean something in a form. -/
def isFormMark (character : Char) : Bool :=
  ['+', '%', '&', '='].contains character

theorem hexadecimal_eq {number : Nat} (isByte : number < 256) :
    Text.hexadecimal 2 number =
      [Nat.digitChar (number / 16), Nat.digitChar (number % 16)] := by
  by_cases small : number < 16
  · have quotient : number / 16 = 0 := by omega
    have remainder : number % 16 = number := by omega
    rw [Text.hexadecimal, Nat.toDigits_of_lt_base small, quotient, remainder]
    rfl
  · rw [Text.hexadecimal, Nat.toDigits_of_base_le (by omega) (by omega),
      Nat.toDigits_of_lt_base (by omega)]
    rfl

theorem upperDigit : ∀ digit < 16,
    Text.digitOf? 16 (Nat.digitChar digit).toUpper = some digit ∧
      isFormMark (Nat.digitChar digit).toUpper = false := by
  decide

/-- The digits of a byte write it, and are no marks. -/
theorem exists_upperHexByte (byte : UInt8) :
    ∃ high low, Text.upperHexByte byte = [high, low] ∧
      Text.digitOf? 16 high = some (byte.toNat / 16) ∧
      Text.digitOf? 16 low = some (byte.toNat % 16) ∧
      isFormMark high = false ∧ isFormMark low = false := by
  have isByte := byte.toNat_lt
  obtain ⟨high, highPlain⟩ := upperDigit (byte.toNat / 16) (by omega)
  obtain ⟨low, lowPlain⟩ := upperDigit (byte.toNat % 16) (by omega)
  refine ⟨_, _, ?_, high, low, highPlain, lowPlain⟩
  rw [Text.upperHexByte, hexadecimal_eq isByte]
  rfl

theorem unplus_of_plain {character : Char}
    (plain : isFormMark character = false) : unplus character = character := by
  refine if_neg ?_
  rintro rfl
  cases plain

theorem decodeBytes_percentByte (byte : UInt8) (rest : List Char) :
    decodeBytes ((percentByte byte).map unplus ++ rest) =
      byte :: decodeBytes rest := by
  obtain ⟨high, low, digits, highValue, lowValue, highPlain, lowPlain⟩ :=
    exists_upperHexByte byte
  have whole : byte.toNat / 16 * 16 + byte.toNat % 16 = byte.toNat := by omega
  have percent : unplus '%' = '%' := rfl
  rw [percentByte, digits]
  simp only [List.map_cons, List.map_nil, List.cons_append, List.nil_append,
    percent, unplus_of_plain highPlain, unplus_of_plain lowPlain, decodeBytes,
    highValue, lowValue, whole, UInt8.ofNat_toNat]

theorem decodeBytes_cons {character : Char} (plain : character ≠ '%')
    (rest : List Char) :
    decodeBytes (character :: rest) =
      String.utf8EncodeChar character ++ decodeBytes rest := by
  rw [decodeBytes]
  intro high low others isPercent
  exact (plain isPercent).elim

theorem toNat_lt_of_isFormSafe {byte : UInt8} (safe : isFormSafe byte = true) :
    byte.toNat < 0x80 := by
  simp [isFormSafe] at safe
  omega

theorem toNat_ofNat_of_isFormSafe {byte : UInt8}
    (safe : isFormSafe byte = true) :
    (Char.ofNat byte.toNat).toNat = byte.toNat := by
  have ascii := toNat_lt_of_isFormSafe safe
  have valid : byte.toNat.isValidChar := .inl (by omega)
  rw [Char.ofNat, dif_pos valid]
  rfl

/-- A byte that is left as it is is no character that is not safe. -/
theorem ofNat_ne_of_isFormSafe {byte : UInt8} {mark : Char}
    (safe : isFormSafe byte = true)
    (unsafeMark : isFormSafe (UInt8.ofNat mark.toNat) = false) :
    Char.ofNat byte.toNat ≠ mark := by
  rintro rfl
  rw [toNat_ofNat_of_isFormSafe safe, UInt8.ofNat_toNat, safe] at unsafeMark
  cases unsafeMark

/-- A byte that is left as it is stands for itself. -/
theorem plain_of_isFormSafe {byte : UInt8} (safe : isFormSafe byte = true) :
    isFormMark (Char.ofNat byte.toNat) = false ∧
      String.utf8EncodeChar (Char.ofNat byte.toNat) = [byte] := by
  have different {mark : Char}
      (unsafeMark : isFormSafe (UInt8.ofNat mark.toNat) = false) :
      Char.ofNat byte.toNat ≠ mark :=
    ofNat_ne_of_isFormSafe safe unsafeMark
  constructor
  · have plus : Char.ofNat byte.toNat ≠ '+' := different rfl
    have percent : Char.ofNat byte.toNat ≠ '%' := different rfl
    have ampersand : Char.ofNat byte.toNat ≠ '&' := different rfl
    have equals : Char.ofNat byte.toNat ≠ '=' := different rfl
    simp [isFormMark, plus, percent, ampersand, equals]
  · have same : (Char.ofNat byte.toNat).val.toNat = byte.toNat :=
      toNat_ofNat_of_isFormSafe safe
    have single : byte.toNat ≤ 127 :=
      Nat.le_of_lt_succ (toNat_lt_of_isFormSafe safe)
    simp only [String.utf8EncodeChar, same, single, if_true, UInt8.ofNat_toNat]

theorem decodeBytes_formByte (byte : UInt8) (rest : List Char) :
    decodeBytes ((formByte byte).map unplus ++ rest) =
      byte :: decodeBytes rest := by
  unfold formByte
  split
  · next safe =>
      obtain ⟨plain, itself⟩ := plain_of_isFormSafe safe
      have notPercent : Char.ofNat byte.toNat ≠ '%' := by
        intro isPercent
        rw [isPercent] at plain
        cases plain
      rw [List.map_singleton, unplus_of_plain plain, List.singleton_append,
        decodeBytes_cons notPercent, itself]
      rfl
  · split
    · next isSpace =>
        have space : byte = 0x20 := UInt8.toNat_inj.mp isSpace
        subst space
        exact decodeBytes_cons (by decide) rest
    · exact decodeBytes_percentByte byte rest

theorem decodeBytes_formBytes (bytes : List UInt8) :
    decodeBytes ((bytes.flatMap formByte).map unplus) = bytes := by
  induction bytes with
  | nil => rfl
  | cons byte bytes induction =>
      rw [List.flatMap_cons, List.map_append, decodeBytes_formByte, induction]

/-- An encoded part is read back as it was. -/
theorem formText_formEncode (text : String) :
    formText (formEncode text).toList = text := by
  rw [formEncode, String.toList_ofList, formText, decodeBytes_formBytes,
    Text.shownTextOfBytes_bytesOf, String.ofList_toList]

/-- A character that is neither safe nor part of a code. -/
def isAbsent (mark : Char) : Bool :=
  !isFormSafe (UInt8.ofNat mark.toNat) && mark != '+' && mark != '%' &&
    (Text.digitOf? 16 mark).isNone

theorem not_mem_formByte {mark : Char} (absent : isAbsent mark = true)
    (byte : UInt8) : mark ∉ formByte byte := by
  simp only [isAbsent, Bool.and_eq_true, Bool.not_eq_true', bne_iff_ne,
    Option.isNone_iff_eq_none] at absent
  obtain ⟨⟨⟨unsafeMark, noPlus⟩, noPercent⟩, noDigit⟩ := absent
  unfold formByte
  split
  · next safe =>
      rw [List.mem_singleton]
      exact (ofNat_ne_of_isFormSafe safe unsafeMark).symm
  · split
    · simpa using noPlus
    · obtain ⟨high, low, digits, highValue, lowValue, -, -⟩ :=
        exists_upperHexByte byte
      have noHigh : mark ≠ high := by
        rintro rfl
        cases noDigit.symm.trans highValue
      have noLow : mark ≠ low := by
        rintro rfl
        cases noDigit.symm.trans lowValue
      simp [percentByte, digits, noPercent, noHigh, noLow]

/-- An encoded part contains no mark that parts fields, names or values. -/
theorem not_mem_formEncode {mark : Char} (absent : isAbsent mark = true)
    (text : String) : mark ∉ (formEncode text).toList := by
  simp [formEncode, not_mem_formByte absent]

/-! ## Encoding that changes nothing -/

/-- Characters that form encoding leaves as they are. -/
def isPlain (character : Char) : Bool :=
  character.toNat < 0x80 && isFormSafe (UInt8.ofNat character.toNat)

theorem formBytes_of_isPlain {character : Char}
    (plain : isPlain character = true) :
    (String.utf8EncodeChar character).flatMap formByte = [character] := by
  rw [isPlain, Bool.and_eq_true, decide_eq_true_eq] at plain
  obtain ⟨ascii, safe⟩ := plain
  have single : character.val.toNat ≤ 127 := Nat.le_of_lt_succ ascii
  have byte : (UInt8.ofNat character.toNat).toNat = character.toNat :=
    Text.toNat_ofNat_of_lt (by omega)
  rw [String.utf8EncodeChar]
  simp only [single, if_true, List.flatMap_singleton]
  change formByte (UInt8.ofNat character.toNat) = [character]
  rw [formByte, if_pos safe, byte, Char.ofNat_toNat]

theorem formEncode_of_isPlain {text : String}
    (plain : text.toList.all isPlain = true) : formEncode text = text := by
  have same : ∀ characters : List Char,
      (∀ character ∈ characters, isPlain character = true) →
      (Text.bytesOf characters).flatMap formByte = characters := by
    intro characters plain
    induction characters with
    | nil => rfl
    | cons character characters induction =>
        obtain ⟨first, others⟩ := List.forall_mem_cons.mp plain
        rw [Text.bytesOf, List.flatMap_cons, List.flatMap_append,
          formBytes_of_isPlain first, ← Text.bytesOf, induction others]
        rfl
  rw [formEncode, same _ (List.all_eq_true.mp plain), String.ofList_toList]

/-! ## Fields -/

/-- A field with its name and its value encoded. -/
def encodedField (field : String × String) : List Char :=
  (formEncode field.1).toList ++ '=' :: (formEncode field.2).toList

theorem formField_encodedField (field : String × String) :
    formField (encodedField field) = field := by
  have cut : Text.cutFirst? ['='] (encodedField field) =
      some ((formEncode field.1).toList, (formEncode field.2).toList) :=
    Text.cutFirst?_eq_some_iff.mpr
      ⟨rfl, not_mem_formEncode rfl field.1⟩
  rw [formField, cut]
  simp only [formText_formEncode]

theorem ampersand_not_mem_encodedField (field : String × String) :
    '&' ∉ encodedField field := by
  have absent (text : String) : '&' ∉ (formEncode text).toList :=
    not_mem_formEncode rfl text
  simp [encodedField, absent]

theorem pieces_encodedField (first : String × String)
    (others : List (String × String)) :
    Text.pieces '&' (encodedField first ++
      others.flatMap fun field => '&' :: encodedField field) =
        (first :: others).map encodedField := by
  induction others generalizing first with
  | nil =>
      rw [List.flatMap_nil, List.append_nil]
      exact Text.pieces_of_not_mem (ampersand_not_mem_encodedField first)
  | cons second others induction =>
      rw [List.flatMap_cons, List.cons_append,
        Text.pieces_append (ampersand_not_mem_encodedField first), induction]
      rfl

theorem map_formField_encodedField (fields : List (String × String)) :
    (fields.map encodedField).map formField = fields := by
  induction fields with
  | nil => rfl
  | cons field fields induction =>
      rw [List.map_cons, List.map_cons, formField_encodedField, induction]

/-- Fields that are parted by ampersands are read back in their order. -/
theorem formDecode_fields (first : String × String)
    (others : List (String × String)) :
    formDecode (String.ofList (encodedField first ++
      others.flatMap fun field => '&' :: encodedField field)) =
        first :: others := by
  have filled (fields : List (String × String)) :
      (fields.map encodedField).filter (fun field => !field.isEmpty) =
        fields.map encodedField := by
    rw [List.filter_eq_self]
    intro part member
    obtain ⟨field, -, rfl⟩ := List.mem_map.mp member
    simp [encodedField]
  rw [formDecode, String.toList_ofList, pieces_encodedField, filled,
    map_formField_encodedField]

end Url

end WorkspaceStartup
