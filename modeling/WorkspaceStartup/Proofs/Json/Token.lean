import WorkspaceStartup.Json.Double
import WorkspaceStartup.Json.Printer

/-!
# Printed texts and integers as tokens

The characters that write a quoted text are cut back into the token of that
text, for every text.  The digits of an integer are cut back into a numeral,
provided that something follows which no number goes on with, and the numeral
of an integer of sixty-four bits has that integer for its value.
-/

namespace WorkspaceStartup.Json

variable {rest : List Char}

/-! ## Quoted texts -/

namespace TextReading

/-- A text whose characters so far, the latest first, are all in order. -/
def reached (characters : List Char) : TextReading :=
  ⟨.plain, none, .ok characters⟩

@[simp] theorem push_reached (characters : List Char) (character : Char) :
    (reached characters).push character = reached (character :: characters) :=
  rfl

theorem pushUnit_reached (characters : List Char) {unit : Nat}
    (below : unit < 0x20) :
    (reached characters).pushUnit unit =
      reached (Char.ofNat unit :: characters) := by
  have notLower : ¬ (0xDC00 ≤ unit ∧ unit ≤ 0xDFFF) := by omega
  have notUpper : ¬ (0xD800 ≤ unit ∧ unit ≤ 0xDBFF) := by omega
  unfold pushUnit
  simp only [reached, notLower, notUpper, decide_false, Bool.false_eq_true,
    if_false]
  rfl

end TextReading

open TextReading

/-- The four digits of a control character are read as its code. -/
theorem tokensFrom_unit (characters rest : List Char) {code : Nat}
    (control : code < 0x20) :
    tokensFrom (.text (reached characters))
        ('\\' :: 'u' :: (Text.hexadecimal 4 code ++ rest)) =
      tokensFrom (.text (reached (Char.ofNat code :: characters))) rest := by
  have digits : Text.hexadecimal 4 code =
      ['0', '0', Nat.digitChar (code / 16), Nat.digitChar (code % 16)] := by
    revert code
    decide
  have high : Text.digitOf? 16 (Nat.digitChar (code / 16)) =
      some (code / 16) := by
    revert code
    decide
  have low : Text.digitOf? 16 (Nat.digitChar (code % 16)) =
      some (code % 16) := by
    revert code
    decide
  have zero : Text.digitOf? 16 '0' = some 0 := by decide
  have whole : code / 16 * 16 + code % 16 = code := by omega
  have pushed := pushUnit_reached characters control
  rw [digits, ← pushed]
  simp [tokensFrom, reached, high, low, zero, whole, pushUnit, push]

theorem tokensFrom_escape (characters : List Char) (character : Char) :
    tokensFrom (.text (reached characters)) (escape character ++ rest) =
      tokensFrom (.text (reached (character :: characters))) rest := by
  unfold escape
  split
  · next equality => subst equality; rfl
  split
  · next equality => subst equality; rfl
  split
  · next equality => subst equality; rfl
  split
  · next equality => subst equality; rfl
  split
  · next equality => subst equality; rfl
  split
  · next equality => subst equality; rfl
  split
  · next equality => subst equality; rfl
  split
  · next control =>
      have read := tokensFrom_unit characters rest control
      rw [Char.ofNat_toNat] at read
      exact read
  · next notMark notBackslash _ _ _ _ _ printable =>
      rw [← push_reached]
      simp [tokensFrom, reached, notMark, notBackslash, printable]

theorem tokensFrom_flatMap_escape (text characters : List Char) :
    tokensFrom (.text (reached characters))
        (text.flatMap escape ++ '"' :: rest) =
      .text (.ok (String.ofList (characters.reverse ++ text))) ::
        tokensFrom .between rest := by
  induction text generalizing characters with
  | nil => simp [tokensFrom, reached, token, Except.map]
  | cons character text induction =>
      rw [List.flatMap_cons, List.append_assoc, tokensFrom_escape, induction]
      simp

/-- A quoted text is one token, whatever follows. -/
theorem tokensFrom_quote (text : String) :
    tokensFrom .between (quote text ++ rest) =
      .text (.ok text) :: tokensFrom .between rest := by
  have opened : tokensFrom .between (quote text ++ rest) =
      tokensFrom (.text (reached []))
        (text.toList.flatMap escape ++ '"' :: rest) := by
    simp [quote, tokensFrom, enter, isSpace, reached, start]
  rw [opened, tokensFrom_flatMap_escape]
  simp

/-! ## Integers -/

/-- What follows a value in an array, in an object or at the end of a text. -/
def Closes (rest : List Char) : Prop :=
  ∀ character ∈ rest.head?, character = ',' ∨ character = ']' ∨ character = '}'

/-- The numeral of a natural number and a sign. -/
def Numeral.ofNatural (negative : Bool) (magnitude : Nat) : Numeral :=
  { Numeral.empty negative with
    whole := (Nat.toDigits 10 magnitude).map fun digit => digit.toNat - 48 }

/-- The digits after the first one of a whole number. -/
theorem tokensFrom_digits (opening : Char) (digits : List Char)
    (areDigits : ∀ digit ∈ digits, digit.isDigit = true) (numeral : Numeral) :
    tokensFrom (.number opening .whole numeral) (digits ++ rest) =
      tokensFrom (.number opening .whole
        { numeral with
          whole := (digits.map fun digit => digit.toNat - 48).reverse ++
            numeral.whole }) rest := by
  induction digits generalizing numeral with
  | nil => rfl
  | cons digit digits induction =>
      have isDigit := areDigits digit List.mem_cons_self
      have others : ∀ other ∈ digits, other.isDigit = true := by
        intro other member
        exact areDigits other (List.mem_cons_of_mem digit member)
      simp [tokensFrom, NumberPlace.next, isDigit, Numeral.extend,
        induction others]

/-- A number that may end does so where the value around it goes on. -/
theorem tokensFrom_number_closes (opening : Char) {place : NumberPlace}
    (numeral : Numeral) (ending : place = .zero ∨ place = .whole)
    (closes : Closes rest) :
    tokensFrom (.number opening place numeral) rest =
      .number numeral.inOrder :: tokensFrom .between rest := by
  cases rest with
  | nil => rcases ending with rfl | rfl <;> rfl
  | cons character rest =>
      rcases closes character rfl with rfl | rfl | rfl <;>
        rcases ending with rfl | rfl <;> rfl

theorem exists_toDigits_of_pos {number : Nat} (positive : 0 < number) :
    ∃ digit others, Nat.toDigits 10 number = digit.digitChar :: others ∧
      0 < digit ∧ digit < 10 := by
  induction number using Nat.strongRecOn with
  | ind number induction =>
      by_cases small : number < 10
      · exact ⟨number, [], Nat.toDigits_of_lt_base small, positive, small⟩
      · obtain ⟨digit, others, digits, bounds⟩ :=
          induction (number / 10) (by omega) (by omega)
        refine ⟨digit, others ++ [(number % 10).digitChar], ?_, bounds⟩
        rw [Nat.toDigits_of_base_le (by decide) (by omega), digits,
          List.cons_append]

/-- A digit that is no zero begins a number, also after a sign. -/
theorem begins_digitChar {digit : Nat} (positive : 0 < digit)
    (small : digit < 10) :
    enter digit.digitChar =
        (.number digit.digitChar .whole
          ((Numeral.empty false).extend .whole digit.digitChar), []) ∧
      NumberPlace.sign.next digit.digitChar = .on .whole := by
  have cases : digit = 1 ∨ digit = 2 ∨ digit = 3 ∨ digit = 4 ∨ digit = 5 ∨
      digit = 6 ∨ digit = 7 ∨ digit = 8 ∨ digit = 9 := by omega
  rcases cases with rfl | rfl | rfl | rfl | rfl | rfl | rfl | rfl | rfl <;>
    exact ⟨rfl, rfl⟩

/-- After the first digit, which is no zero, the rest of a number is read. -/
theorem tokensFrom_whole (opening : Char) (negative : Bool) {number : Nat}
    {first : Char} {others : List Char}
    (digits : Nat.toDigits 10 number = first :: others) (closes : Closes rest) :
    tokensFrom
        (.number opening .whole ((Numeral.empty negative).extend .whole first))
        (others ++ rest) =
      .number (.ofNatural negative number) :: tokensFrom .between rest := by
  have areDigits : ∀ digit ∈ others, digit.isDigit = true := by
    intro digit member
    apply Nat.isDigit_of_mem_toDigits (b := 10) (n := number) (by decide)
      (by decide)
    rw [digits]
    exact List.mem_cons_of_mem first member
  rw [tokensFrom_digits opening others areDigits,
    tokensFrom_number_closes opening _ (.inr rfl) closes]
  simp [Numeral.ofNatural, Numeral.inOrder, Numeral.extend, Numeral.empty,
    digits]

theorem tokensFrom_natural (number : Nat) (closes : Closes rest) :
    tokensFrom .between (Nat.toDigits 10 number ++ rest) =
      .number (.ofNatural false number) :: tokensFrom .between rest := by
  rcases Nat.eq_zero_or_pos number with rfl | positive
  · exact tokensFrom_number_closes '0' _ (.inl rfl) closes
  · obtain ⟨digit, others, digits, nonzero, small⟩ :=
      exists_toDigits_of_pos positive
    have begun := (begins_digitChar nonzero small).1
    rw [digits, List.cons_append, tokensFrom, begun]
    exact tokensFrom_whole digit.digitChar false digits closes

theorem tokensFrom_negative {number : Nat} (positive : 0 < number)
    (closes : Closes rest) :
    tokensFrom .between ('-' :: (Nat.toDigits 10 number ++ rest)) =
      .number (.ofNatural true number) :: tokensFrom .between rest := by
  obtain ⟨digit, others, digits, nonzero, small⟩ :=
    exists_toDigits_of_pos positive
  have next := (begins_digitChar nonzero small).2
  rw [← tokensFrom_whole '-' true digits closes, digits]
  simp [tokensFrom, enter, isSpace, next]

/-- The token of an integer. -/
theorem tokensFrom_integer (value : Int) (closes : Closes rest) :
    tokensFrom .between ((Number.integer value).write ++ rest) =
      .number (.ofNatural (value < 0) value.natAbs) ::
        tokensFrom .between rest := by
  simp only [Number.write]
  split
  · next negative =>
      rw [decide_eq_true negative]
      exact tokensFrom_negative (by omega) closes
  · next natural =>
      rw [decide_eq_false natural]
      exact tokensFrom_natural value.natAbs closes

/-! ## Values of numerals -/

theorem le_ofDigitChars (digits : List Char) (value : Nat) :
    value ≤ Nat.ofDigitChars 10 digits value := by
  induction digits generalizing value with
  | nil => exact Nat.le_refl value
  | cons digit digits induction =>
      rw [Nat.ofDigitChars_cons]
      have further := induction (10 * value + (digit.toNat - '0'.toNat))
      omega

/-- Digits are gathered as long as the number fits a word. -/
theorem gather_eq {digits : List Char} {value : Nat}
    (fits : Nat.ofDigitChars 10 digits value ≤ wordLimit) :
    gather value (digits.map fun digit => digit.toNat - 48) =
      (Nat.ofDigitChars 10 digits value, []) := by
  induction digits generalizing value with
  | nil => rfl
  | cons digit digits induction =>
      rw [Nat.ofDigitChars_cons] at fits ⊢
      have asRead : value * 10 + (digit.toNat - 48) =
          10 * value + (digit.toNat - '0'.toNat) := by
        rw [Nat.mul_comm value 10]
        rfl
      have within := Nat.le_trans (le_ofDigitChars digits _) fits
      rw [List.map_cons, gather, asRead, if_pos within]
      exact induction fits

/-- An integer that sixty-four bits hold, with or without a sign. -/
def IsWord (value : Int) : Prop :=
  -0x8000000000000000 ≤ value ∧ value ≤ wordLimit

theorem value?_ofNatural {value : Int} (word : IsWord value) :
    (Numeral.ofNatural (value < 0) value.natAbs).value? =
      some (.integer value) := by
  obtain ⟨above, below⟩ := word
  have digits : Nat.ofDigitChars 10 (Nat.toDigits 10 value.natAbs) 0 =
      value.natAbs := Nat.ofDigitChars_toDigits (by decide) (by decide)
  have fits : value.natAbs ≤ wordLimit := by
    unfold wordLimit at below ⊢
    omega
  have gathered : gather 0 (Numeral.ofNatural (value < 0) value.natAbs).whole =
      (value.natAbs, []) := by
    have result := gather_eq (digits.symm ▸ fits)
    rwa [digits] at result
  have known : (Numeral.ofNatural (value < 0) value.natAbs).value? =
      some (Numeral.integer (value < 0) value.natAbs) := by
    unfold Numeral.value?
    rw [gathered]
    rfl
  rw [known, Numeral.integer]
  by_cases negative : value < 0
  · have magnitude : 0 < value.natAbs ∧
        value.natAbs ≤ 0x8000000000000000 := by omega
    have same : -(value.natAbs : Int) = value := by omega
    rw [decide_eq_true negative, if_pos rfl, if_pos magnitude, same]
  · have same : (value.natAbs : Int) = value := by omega
    rw [decide_eq_false negative, if_neg (by decide), same]

end WorkspaceStartup.Json
