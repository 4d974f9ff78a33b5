import WorkspaceStartup.Text.Utf8

/-!
# Bytes that are read back

The bytes of a character are read as this character, whatever follows them.  So
the bytes of a text are read as the text, without any unreadable place.
-/

namespace WorkspaceStartup.Text

variable {number value missing lowest highest : Nat} {rest : List UInt8}

theorem toNat_ofNat_of_lt {byte : Nat} (isByte : byte < 256) :
    (UInt8.ofNat byte).toNat = byte := by
  rw [UInt8.toNat_ofNat']
  exact Nat.mod_eq_of_lt isByte

/-! ## Bytes after the first -/

/-- The last byte of a character ends it. -/
theorem readUtf8From_last (inBounds : lowest ≤ number % 64 + 128 ∧
      number % 64 + 128 ≤ highest) :
    readUtf8From (some ⟨value, 1, lowest, highest⟩)
        (UInt8.ofNat (number % 64 + 128) :: rest) =
      some (Char.ofNat (value * 64 + number % 64)) ::
        readUtf8From none rest := by
  have byte : (UInt8.ofNat (number % 64 + 128)).toNat = number % 64 + 128 :=
    toNat_ofNat_of_lt (by omega)
  have low : (number % 64 + 128) % 64 = number % 64 := by omega
  simp only [readUtf8From, readByte, byte, inBounds, low]
  rfl

/-- Any other byte after the first adds to what has been read. -/
theorem readUtf8From_between (inBounds : lowest ≤ number % 64 + 128 ∧
      number % 64 + 128 ≤ highest) :
    readUtf8From (some ⟨value, missing + 2, lowest, highest⟩)
        (UInt8.ofNat (number % 64 + 128) :: rest) =
      readUtf8From (some ⟨value * 64 + number % 64, missing + 1, 0x80, 0xBF⟩)
        rest := by
  have byte : (UInt8.ofNat (number % 64 + 128)).toNat = number % 64 + 128 :=
    toNat_ofNat_of_lt (by omega)
  have low : (number % 64 + 128) % 64 = number % 64 := by omega
  have more : ¬ missing + 2 ≤ 1 := by omega
  simp only [readUtf8From, readByte, byte, inBounds, low, more, if_false]
  rfl

/-! ## The first byte -/

/-- What the first byte of a character of several bytes begins. -/
theorem readUtf8From_first {byte : Nat} {begun : PartialCharacter}
    (isByte : byte < 256) (first : firstByte byte = ⟨[], some begun⟩) :
    readUtf8From none (UInt8.ofNat byte :: rest) =
      readUtf8From (some begun) rest := by
  simp only [readUtf8From, readByte, toNat_ofNat_of_lt isByte, first]
  rfl

theorem firstByte_two (atLeast : 2 ≤ value) (below : value < 32) :
    firstByte (value + 192) = ⟨[], some ⟨value, 1, 0x80, 0xBF⟩⟩ := by
  simp only [firstByte]
  rw [if_neg (by omega), if_neg (by omega), if_pos (by omega)]
  simp

theorem firstByte_three (below : value < 16) :
    firstByte (value + 224) =
      ⟨[], some ⟨value, 2, if value = 0 then 0xA0 else 0x80,
        if value = 13 then 0x9F else 0xBF⟩⟩ := by
  simp only [firstByte]
  rw [if_neg (by omega), if_neg (by omega), if_neg (by omega)]
  by_cases isFirst : value = 0
  · subst isFirst
    rfl
  · by_cases isSurrogate : value = 13
    · subst isSurrogate
      rfl
    · rw [if_neg (by omega), if_neg (by omega), if_pos (by omega),
        if_neg isFirst, if_neg isSurrogate]
      simp

theorem firstByte_four (below : value < 5) :
    firstByte (value + 240) =
      ⟨[], some ⟨value, 3, if value = 0 then 0x90 else 0x80,
        if value = 4 then 0x8F else 0xBF⟩⟩ := by
  simp only [firstByte]
  rw [if_neg (by omega), if_neg (by omega), if_neg (by omega),
    if_neg (by omega), if_neg (by omega), if_neg (by omega)]
  by_cases isFirst : value = 0
  · subst isFirst
    rfl
  · by_cases isLast : value = 4
    · subst isLast
      rfl
    · rw [if_neg (by omega), if_pos (by omega), if_neg isFirst, if_neg isLast]
      simp

/-! ## Characters -/

theorem toNat_cases (character : Char) :
    character.toNat < 0xD800 ∨
      0xDFFF < character.toNat ∧ character.toNat < 0x110000 :=
  character.valid

/-- The bytes of a character are read as the character. -/
theorem readUtf8From_encoded (character : Char) (rest : List UInt8) :
    readUtf8From none (String.utf8EncodeChar character ++ rest) =
      some character :: readUtf8From none rest := by
  have valid := toNat_cases character
  have known : Char.ofNat character.toNat = character := character.ofNat_toNat
  have same : character.val.toNat = character.toNat := rfl
  simp only [String.utf8EncodeChar, same]
  -- The bytes depend on the code alone, and the code gives the character back.
  generalize character.toNat = code at known valid ⊢
  rw [← known]
  split
  · have byte : (UInt8.ofNat code).toNat = code := toNat_ofNat_of_lt (by omega)
    have first : firstByte code = ⟨[some (Char.ofNat code)], none⟩ := by
      simp only [firstByte]
      rw [if_pos (by omega)]
    simp only [List.cons_append, List.nil_append, readUtf8From, readByte, byte,
      first]
  · split
    · have lead : firstByte (code / 64 % 32 + 192) = _ :=
        firstByte_two (by omega) (by omega)
      simp only [List.cons_append, List.nil_append]
      rw [readUtf8From_first (by omega) lead, readUtf8From_last (by omega)]
      congr 3
      omega
    · split
      · have lead : firstByte (code / 4096 % 16 + 224) = _ :=
          firstByte_three (by omega)
        have inBounds : (if code / 4096 % 16 = 0 then 0xA0 else 0x80) ≤
              code / 64 % 64 + 128 ∧
            code / 64 % 64 + 128 ≤
              if code / 4096 % 16 = 13 then 0x9F else 0xBF := by
          constructor <;> split <;> omega
        simp only [List.cons_append, List.nil_append]
        rw [readUtf8From_first (by omega) lead, readUtf8From_between inBounds,
          readUtf8From_last (by omega)]
        congr 3
        omega
      · have lead : firstByte (code / 262144 % 8 + 240) = _ :=
          firstByte_four (by omega)
        have inBounds : (if code / 262144 % 8 = 0 then 0x90 else 0x80) ≤
              code / 4096 % 64 + 128 ∧
            code / 4096 % 64 + 128 ≤
              if code / 262144 % 8 = 4 then 0x8F else 0xBF := by
          constructor <;> split <;> omega
        simp only [List.cons_append, List.nil_append]
        rw [readUtf8From_first (by omega) lead, readUtf8From_between inBounds,
          readUtf8From_between (by omega), readUtf8From_last (by omega)]
        congr 3
        omega

theorem readUtf8_bytesOf (characters : List Char) :
    readUtf8 (bytesOf characters) = characters.map some := by
  induction characters with
  | nil => rfl
  | cons character characters induction =>
      rw [readUtf8, bytesOf, List.flatMap_cons, readUtf8From_encoded]
      exact congrArg (some character :: ·) induction

theorem textOfBytes?_bytesOf (text : String) :
    textOfBytes? (bytesOf text.toList) = some text := by
  have readable (characters : List Char) :
      (characters.map some).mapM id = some characters := by
    induction characters with
    | nil => rfl
    | cons character characters induction =>
        rw [List.map_cons, List.mapM_cons, induction]
        rfl
  rw [textOfBytes?, readUtf8_bytesOf, readable, Option.map_some,
    String.ofList_toList]

/-- A text is what its bytes are read as. -/
theorem shownTextOfBytes_bytesOf (characters : List Char) :
    shownTextOfBytes (bytesOf characters) = String.ofList characters := by
  simp [shownTextOfBytes, readUtf8_bytesOf, Function.comp_def]

end WorkspaceStartup.Text
