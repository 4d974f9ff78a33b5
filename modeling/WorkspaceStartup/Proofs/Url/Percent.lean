import WorkspaceStartup.Proofs.Form

/-!
# Percent codes

Percent encoding replaces a character by codes of its bytes and leaves percent
signs and digits alone.  So the characters still stand for the same bytes, a text
without percent codes is known from its encoding, and encoding makes no dot
segment out of another segment.
-/

namespace WorkspaceStartup.Url

variable {mustEncode : Char → Bool} {characters rest : List Char}
  {character : Char}

/-- Neither percent signs nor hexadecimal digits are to be encoded. -/
def SparesCodes (mustEncode : Char → Bool) : Prop :=
  mustEncode '%' = false ∧
    ∀ character, mustEncode character = true →
      Text.digitOf? 16 character = none

theorem digitOf?_eq_none_of_isControl (control : isControl character = true) :
    Text.digitOf? 16 character = none := by
  simp only [isControl, Bool.or_eq_true, decide_eq_true_eq] at control
  have noValue : Text.digitValue? character = none := by
    simp only [Text.digitValue?, Bool.and_eq_true, decide_eq_true_eq]
    rw [if_neg (by omega), if_neg (by omega), if_neg (by omega)]
  rw [Text.digitOf?, noValue]
  rfl

theorem digitOf?_eq_none_of_mem {marks : List Char}
    (noDigits : marks.all (fun mark => (Text.digitOf? 16 mark).isNone) = true)
    (member : marks.contains character = true) :
    Text.digitOf? 16 character = none := by
  have none := List.all_eq_true.mp noDigits character
    (List.contains_iff_mem.mp member)
  exact Option.isNone_iff_eq_none.mp none

theorem sparesCodes_path : SparesCodes mustEncodeInPath := by
  refine ⟨rfl, fun character must => ?_⟩
  simp only [mustEncodeInPath, mustEncodeInFragment, Bool.or_eq_true] at must
  rcases must with (control | mark) | mark
  · exact digitOf?_eq_none_of_isControl control
  · exact digitOf?_eq_none_of_mem rfl mark
  · exact digitOf?_eq_none_of_mem rfl mark

theorem sparesCodes_query (special : Bool) :
    SparesCodes (mustEncodeInQuery special) := by
  refine ⟨by cases special <;> rfl, fun character must => ?_⟩
  simp only [mustEncodeInQuery, Bool.or_eq_true, Bool.and_eq_true,
    beq_iff_eq] at must
  rcases must with (control | mark) | ⟨-, rfl⟩
  · exact digitOf?_eq_none_of_isControl control
  · exact digitOf?_eq_none_of_mem rfl mark
  · rfl

theorem SparesCodes.spares (spares : SparesCodes mustEncode) {digit : Nat}
    (isDigit : Text.digitOf? 16 character = some digit) :
    mustEncode character = false := by
  rw [Bool.eq_false_iff]
  intro must
  rw [spares.2 character must] at isDigit
  cases isDigit

/-! ## Encoded characters -/

theorem encode_cons (mustEncode : Char → Bool) (character : Char)
    (rest : List Char) :
    encode mustEncode (character :: rest) =
      encodeChar mustEncode character ++ encode mustEncode rest :=
  List.flatMap_cons

theorem encode_append (mustEncode : Char → Bool) (first second : List Char) :
    encode mustEncode (first ++ second) =
      encode mustEncode first ++ encode mustEncode second :=
  List.flatMap_append

theorem encodeChar_of_free (free : mustEncode character = false) :
    encodeChar mustEncode character = [character] := by
  rw [encodeChar, free]
  rfl

theorem encode_of_free
    (free : ∀ character ∈ characters, mustEncode character = false) :
    encode mustEncode characters = characters := by
  induction characters with
  | nil => rfl
  | cons character rest induction =>
      obtain ⟨first, others⟩ := List.forall_mem_cons.mp free
      rw [encode_cons, encodeChar_of_free first, induction others]
      rfl

theorem exists_utf8EncodeChar (character : Char) :
    ∃ byte bytes, String.utf8EncodeChar character = byte :: bytes := by
  unfold String.utf8EncodeChar
  dsimp only
  split
  · exact ⟨_, _, rfl⟩
  · split
    · exact ⟨_, _, rfl⟩
    · split
      · exact ⟨_, _, rfl⟩
      · exact ⟨_, _, rfl⟩

theorem encode_cons_of_free (free : mustEncode character = false)
    (rest : List Char) :
    encode mustEncode (character :: rest) =
      character :: encode mustEncode rest := by
  rw [encode_cons, encodeChar_of_free free]
  rfl

/-- What is encoded starts with a percent sign. -/
theorem exists_encode_cons (must : mustEncode character = true)
    (rest : List Char) :
    ∃ codes, encode mustEncode (character :: rest) = '%' :: codes := by
  obtain ⟨byte, bytes, encoded⟩ := exists_utf8EncodeChar character
  rw [encode_cons, encodeChar, must, if_pos rfl, encoded]
  exact ⟨_, rfl⟩

/-! ## Bytes of encoded characters -/

theorem decodeBytes_percentByte_append (byte : UInt8) (rest : List Char) :
    decodeBytes (percentByte byte ++ rest) = byte :: decodeBytes rest := by
  obtain ⟨high, low, digits, highValue, lowValue, -, -⟩ :=
    exists_upperHexByte byte
  have whole : byte.toNat / 16 * 16 + byte.toNat % 16 = byte.toNat := by omega
  rw [percentByte, digits]
  simp only [List.cons_append, List.nil_append, decodeBytes, highValue,
    lowValue, whole, UInt8.ofNat_toNat]

theorem decodeBytes_encodeChar (must : mustEncode character = true)
    (rest : List Char) :
    decodeBytes (encodeChar mustEncode character ++ rest) =
      String.utf8EncodeChar character ++ decodeBytes rest := by
  rw [encodeChar, must, if_pos rfl]
  induction String.utf8EncodeChar character with
  | nil => rfl
  | cons byte bytes induction =>
      rw [List.flatMap_cons, List.append_assoc, decodeBytes_percentByte_append,
        induction]
      rfl

/-- The characters start with two digits, as those after the percent sign of a
code do. -/
def startsWithDigits : List Char → Bool
  | high :: low :: _ =>
      (Text.digitOf? 16 high).isSome && (Text.digitOf? 16 low).isSome
  | _ => false

theorem startsWithDigits_eq_false {high low : Char}
    (noDigits : ∀ highValue lowValue,
      Text.digitOf? 16 high = some highValue →
        Text.digitOf? 16 low = some lowValue → False) (rest : List Char) :
    startsWithDigits (high :: low :: rest) = false := by
  rw [startsWithDigits, Bool.and_eq_false_iff]
  cases isHigh : Text.digitOf? 16 high with
  | none => exact .inl rfl
  | some highValue =>
      cases isLow : Text.digitOf? 16 low with
      | none => exact .inr rfl
      | some lowValue => exact (noDigits _ _ isHigh isLow).elim

/-- A percent sign without digits behind it stands for itself. -/
theorem decodeBytes_percent (bare : startsWithDigits rest = false) :
    decodeBytes ('%' :: rest) = 0x25 :: decodeBytes rest := by
  match rest with
  | [] => rfl
  | [_] => rfl
  | high :: low :: rest =>
      rw [decodeBytes]
      split
      · next highDigit lowDigit =>
          rw [startsWithDigits, highDigit, lowDigit] at bare
          cases bare
      · rfl

theorem startsWithDigits_percent (rest : List Char) :
    startsWithDigits ('%' :: rest) = false := by
  cases rest <;> rfl

theorem startsWithDigits_of_none (high : Char)
    (noDigit : Text.digitOf? 16 character = none) (rest : List Char) :
    startsWithDigits (character :: rest) = false ∧
      startsWithDigits (high :: character :: rest) = false := by
  constructor
  · cases rest with
    | nil => rfl
    | cons => rw [startsWithDigits, noDigit]; rfl
  · rw [startsWithDigits, noDigit]
    exact Bool.and_false _

theorem startsWithDigits_encode (spares : SparesCodes mustEncode)
    (characters : List Char) :
    startsWithDigits (encode mustEncode characters) =
      startsWithDigits characters := by
  cases characters with
  | nil => rfl
  | cons high rest =>
      cases mustHigh : mustEncode high with
      | true =>
          obtain ⟨codes, encoded⟩ := exists_encode_cons mustHigh rest
          rw [encoded, startsWithDigits_percent, (startsWithDigits_of_none high
            (spares.2 high mustHigh) rest).1]
      | false =>
          rw [encode_cons_of_free mustHigh]
          cases rest with
          | nil => rfl
          | cons low rest =>
              cases mustLow : mustEncode low with
              | true =>
                  obtain ⟨codes, encoded⟩ := exists_encode_cons mustLow rest
                  rw [encoded, (startsWithDigits_of_none high rfl codes).2,
                    (startsWithDigits_of_none high
                      (spares.2 low mustLow) rest).2]
              | false =>
                  rw [encode_cons_of_free mustLow]
                  rfl

/-- Encoded characters stand for the same bytes as before. -/
theorem decodeBytes_encode (spares : SparesCodes mustEncode)
    (characters : List Char) :
    decodeBytes (encode mustEncode characters) = decodeBytes characters := by
  fun_induction decodeBytes characters with
  | case1 => rfl
  | case2 high low rest highValue lowValue isLow isHigh induction =>
      rw [encode_cons_of_free spares.1,
        encode_cons_of_free (spares.spares isHigh),
        encode_cons_of_free (spares.spares isLow)]
      simp only [decodeBytes, isHigh, isLow, induction]
  | case3 high low rest noDigits induction =>
      have bare := startsWithDigits_eq_false noDigits rest
      rw [encode_cons_of_free spares.1,
        decodeBytes_percent ((startsWithDigits_encode spares _).trans bare),
        induction]
      rfl
  | case4 character rest noCode induction =>
      cases must : mustEncode character with
      | true =>
          rw [encode_cons, decodeBytes_encodeChar must, induction]
      | false =>
          rw [encode_cons_of_free must]
          by_cases percent : character = '%'
          · -- There is not enough behind the sign for a code.
            subst percent
            have bare : startsWithDigits rest = false := by
              cases rest with
              | nil => rfl
              | cons high rest =>
                  cases rest with
                  | nil => rfl
                  | cons low others =>
                      exact (noCode high low others rfl rfl).elim
            rw [decodeBytes_percent
              ((startsWithDigits_encode spares rest).trans bare), induction]
            rfl
          · rw [decodeBytes_cons percent, induction]

/-- Without percent codes, a text stands for its own bytes. -/
def IsCodeFree (characters : List Char) : Prop :=
  decodeBytes characters = Text.bytesOf characters

theorem bytesOf_inj {first second : List Char} :
    Text.bytesOf first = Text.bytesOf second ↔ first = second := by
  constructor
  · intro same
    have read := congrArg Text.readUtf8 same
    rw [Text.readUtf8_bytesOf, Text.readUtf8_bytesOf] at read
    exact (List.map_inj_right fun _ _ => Option.some.inj).mp read
  · exact congrArg _

/-- Texts without percent codes are known from their encodings. -/
theorem eq_of_encode_eq (spares : SparesCodes mustEncode)
    {first second : List Char} (firstFree : IsCodeFree first)
    (secondFree : IsCodeFree second)
    (same : encode mustEncode first = encode mustEncode second) :
    first = second := by
  rw [← bytesOf_inj, ← firstFree, ← secondFree, ← decodeBytes_encode spares,
    ← decodeBytes_encode spares second, same]

/-! ## Dots -/

/-- Only the character of an ASCII byte starts with this byte. -/
theorem eq_of_utf8EncodeChar_eq_cons {byte : UInt8} {bytes : List UInt8}
    (ascii : byte.toNat < 0x80)
    (encoded : String.utf8EncodeChar character = byte :: bytes) :
    character.toNat = byte.toNat ∧ bytes = [] := by
  have same : character.val.toNat = character.toNat := rfl
  simp only [String.utf8EncodeChar, same] at encoded
  split at encoded
  · next small =>
      obtain ⟨rfl, rfl⟩ := List.cons.inj encoded
      exact ⟨(Text.toNat_ofNat_of_lt (by omega)).symm, rfl⟩
  · -- A longer character starts with a byte beyond ASCII.
    exfalso
    split at encoded
    · obtain ⟨rfl, -⟩ := List.cons.inj encoded
      rw [Text.toNat_ofNat_of_lt (by omega)] at ascii
      omega
    · split at encoded
      · obtain ⟨rfl, -⟩ := List.cons.inj encoded
        rw [Text.toNat_ofNat_of_lt (by omega)] at ascii
        omega
      · obtain ⟨rfl, -⟩ := List.cons.inj encoded
        rw [Text.toNat_ofNat_of_lt (by omega)] at ascii
        omega

theorem toNat_of_digitOf? {digit : Nat}
    (isDigit : Text.digitOf? 16 character = some digit) :
    character.toNat = digit + 48 ∧ digit < 10 ∨
      character.toNat = digit + 87 ∧ 10 ≤ digit ∧ digit < 16 ∨
      character.toNat = digit + 55 ∧ 10 ≤ digit ∧ digit < 16 := by
  simp only [Text.digitOf?, Text.digitValue?, Option.filter_eq_some_iff,
    Bool.and_eq_true, decide_eq_true_eq] at isDigit
  obtain ⟨value, below⟩ := isDigit
  split at value
  · cases value
    omega
  · split at value
    · cases value
      omega
    · split at value
      · cases value
        omega
      · cases value

/-- A dot, or its code in letters of either size, and what follows it. -/
def DotBefore (characters rest : List Char) : Prop :=
  characters = '.' :: rest ∨ characters = '%' :: '2' :: 'e' :: rest ∨
    characters = '%' :: '2' :: 'E' :: rest

theorem decodeBytes_of_dotBefore (dot : DotBefore characters rest) :
    decodeBytes characters = 0x2E :: decodeBytes rest := by
  rcases dot with rfl | rfl | rfl
  · exact decodeBytes_cons (by decide) rest
  · rfl
  · rfl

/-- What stands for the byte of a dot is the dot or its code. -/
theorem exists_dotBefore {bytes : List UInt8}
    (dot : decodeBytes characters = 0x2E :: bytes) :
    ∃ rest, DotBefore characters rest ∧ decodeBytes rest = bytes := by
  have known {character mark : Char}
      (code : character.toNat = mark.toNat) : character = mark :=
    Char.toNat_inj.mp code
  fun_cases decodeBytes characters with
  | case1 => cases dot
  | case2 high low rest highValue lowValue isLow isHigh =>
      simp only [decodeBytes, isHigh, isLow, List.cons.injEq] at dot
      obtain ⟨code, further⟩ := dot
      have highDigit := toNat_of_digitOf? isHigh
      have lowDigit := toNat_of_digitOf? isLow
      have value : highValue * 16 + lowValue = 46 :=
        (Text.toNat_ofNat_of_lt (by omega)).symm.trans
          (congrArg UInt8.toNat code)
      have two : high = '2' := by
        apply known
        change high.toNat = 50
        omega
      have letter : low.toNat = 101 ∨ low.toNat = 69 := by omega
      subst two
      rcases letter with small | capital
      · have isLetter : low = 'e' := known small
        exact ⟨rest, .inr (.inl (by rw [isLetter])), further⟩
      · have isLetter : low = 'E' := known capital
        exact ⟨rest, .inr (.inr (by rw [isLetter])), further⟩
  | case3 high low rest noDigits =>
      have bare := decodeBytes_percent (startsWithDigits_eq_false noDigits rest)
      rw [bare] at dot
      cases dot
  | case4 character rest noCode =>
      rw [decodeBytes] at dot
      · obtain ⟨byte, more, encoded⟩ := exists_utf8EncodeChar character
        rw [encoded] at dot
        obtain ⟨rfl, further⟩ := List.cons.inj dot
        obtain ⟨code, rfl⟩ := eq_of_utf8EncodeChar_eq_cons (by decide) encoded
        exact ⟨rest, .inl (congrArg (· :: rest) (known code)), further⟩
      · exact noCode

theorem decodeBytes_eq_dot_cons_iff {bytes : List UInt8} :
    decodeBytes characters = 0x2E :: bytes ↔
      ∃ rest, DotBefore characters rest ∧ decodeBytes rest = bytes := by
  constructor
  · exact exists_dotBefore
  · rintro ⟨rest, dot, rfl⟩
    exact decodeBytes_of_dotBefore dot

theorem decodeBytes_eq_nil_iff : decodeBytes characters = [] ↔ characters = [] := by
  constructor
  · intro nothing
    fun_cases decodeBytes characters with
    | case1 => rfl
    | case2 high low rest _ _ isLow isHigh =>
        simp [decodeBytes, isHigh, isLow] at nothing
    | case3 high low rest noDigits =>
        have bare :=
          decodeBytes_percent (startsWithDigits_eq_false noDigits rest)
        rw [bare] at nothing
        cases nothing
    | case4 character rest noCode =>
        rw [decodeBytes] at nothing
        · obtain ⟨byte, bytes, encoded⟩ := exists_utf8EncodeChar character
          rw [encoded] at nothing
          cases nothing
        · exact noCode
  · rintro rfl
    rfl

end WorkspaceStartup.Url
