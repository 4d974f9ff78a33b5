import Mathlib.Data.List.Forall2
import WorkspaceStartup.Proofs.Ascii
import WorkspaceStartup.Settings.Override

/-!
# What an environment chooses

A variable chooses a setting if it is not empty and its text is of the form
that the setting asks for.  Every variable that chooses decides its setting
alone, and all other settings stay as they were.
-/

namespace WorkspaceStartup

namespace Text

/-! ## Forms of texts -/

/-- Decimal digits, perhaps after a plus sign, that write a number. -/
def WritesNumber (text : String) (number : Nat) : Prop :=
  ∃ digits : List Char,
    (text.toList = digits ∨ text.toList = '+' :: digits) ∧ digits ≠ [] ∧
      (∀ digit ∈ digits, digit.isDigit = true) ∧
      Nat.ofDigitChars 10 digits 0 = number

/-- A number that is written and lies in a range. -/
def WritesWithin (least greatest : Nat) (text : String) (number : Nat) : Prop :=
  WritesNumber text number ∧ least ≤ number ∧ number ≤ greatest

/-- The letters of a word, each as it is or as a capital. -/
def WritesWord (word text : String) : Prop :=
  List.Forall₂ (fun letter written =>
    written = letter ∨ written = letter.toUpper) word.toList text.toList

/-- The words for a truth value. -/
def truthWords : Bool → List String
  | true => ["true", "1", "yes", "on"]
  | false => ["false", "0", "no", "off"]

/-- One of the words for a truth value, in letters of any size. -/
def WritesTruth (text : String) (truth : Bool) : Prop :=
  ∃ word ∈ truthWords truth, WritesWord word text

/-! ## Numbers -/

theorem digitOf?_of_isDigit {character : Char}
    (digit : character.isDigit = true) :
    digitOf? 10 character = some (character.toNat - '0'.toNat) := by
  obtain ⟨atLeast, atMost⟩ : 48 ≤ character.toNat ∧ character.toNat ≤ 57 :=
    Char.isDigit_iff_toNat.mp digit
  have small : character.toNat - 48 < 10 := by omega
  simp only [digitOf?, digitValue?, atLeast, atMost, decide_true, Bool.and_self,
    if_true, Option.filter_some, small]
  rfl

theorem digitOf?_eq_none {character : Char}
    (other : character.isDigit = false) : digitOf? 10 character = none := by
  have outside : ¬ (48 ≤ character.toNat ∧ character.toNat ≤ 57) := by
    intro inside
    rw [Char.isDigit_iff_toNat.mpr inside] at other
    cases other
  rw [digitOf?, Option.filter_eq_none_iff]
  intro value read
  simp only [digitValue?, Bool.and_eq_true, decide_eq_true_eq] at read
  rw [if_neg outside] at read
  split at read
  · cases read
    rw [decide_eq_true_eq]
    omega
  · split at read
    · cases read
      rw [decide_eq_true_eq]
      omega
    · cases read

theorem readDigitsAfter?_eq_some_iff {value number : Nat}
    {characters : List Char} :
    readDigitsAfter? 10 value characters = some number ↔
      (∀ digit ∈ characters, digit.isDigit = true) ∧
        Nat.ofDigitChars 10 characters value = number := by
  induction characters generalizing value with
  | nil => simp [readDigitsAfter?, Nat.ofDigitChars]
  | cons character characters induction =>
      rw [readDigitsAfter?, Nat.ofDigitChars_cons, List.forall_mem_cons]
      cases isDigit : character.isDigit with
      | true =>
          rw [digitOf?_of_isDigit isDigit, Nat.mul_comm 10]
          simp only [induction, true_and]
      | false => simp [digitOf?_eq_none isDigit]

theorem readDigits?_eq_some_iff {characters : List Char} {number : Nat} :
    readDigits? 10 characters = some number ↔
      characters ≠ [] ∧ (∀ digit ∈ characters, digit.isDigit = true) ∧
        Nat.ofDigitChars 10 characters 0 = number := by
  cases characters with
  | nil => simp [readDigits?]
  | cons character characters =>
      simp [readDigits?, readDigitsAfter?_eq_some_iff]

theorem readUnsigned?_eq_some_iff {text : String} {number : Nat} :
    readUnsigned? text.toList = some number ↔ WritesNumber text number := by
  unfold readUnsigned?
  split
  · next digits signed =>
      rw [readDigits?_eq_some_iff, WritesNumber, signed]
      constructor
      · intro written
        exact ⟨digits, .inr rfl, written⟩
      · rintro ⟨_, rfl | same, filled, areDigits, value⟩
        · -- The plus sign would have to be a digit.
          exact absurd (areDigits '+' List.mem_cons_self) (by decide)
        · cases same
          exact ⟨filled, areDigits, value⟩
  · next unsigned =>
      rw [readDigits?_eq_some_iff, WritesNumber]
      constructor
      · intro written
        exact ⟨text.toList, .inl rfl, written⟩
      · rintro ⟨digits, rfl | signed, written⟩
        · exact written
        · exact (unsigned digits signed).elim

/-! ## Truth values -/

theorem lowered_eq_iff {word text : String}
    (small : ∀ letter ∈ word.toList, letter.isUpper = false) :
    lowered text = word ↔ WritesWord word text := by
  have each (letters characters : List Char)
      (small : ∀ letter ∈ letters, letter.isUpper = false) :
      characters.map Char.toLower = letters ↔
        List.Forall₂ (fun letter written =>
          written = letter ∨ written = letter.toUpper) letters characters := by
    induction characters generalizing letters with
    | nil =>
        rw [List.map_nil, List.forall₂_nil_right_iff]
        exact eq_comm
    | cons character characters induction =>
        cases letters with
        | nil => simp
        | cons letter letters =>
            obtain ⟨first, others⟩ := List.forall_mem_cons.mp small
            rw [List.map_cons, List.cons.injEq, toLower_eq_iff first,
              induction letters others, List.forall₂_cons]
  rw [lowered, ← String.toList_inj, String.toList_ofList, each _ _ small]
  rfl

theorem mem_truthWords_iff {text : String} {truth : Bool} :
    lowered text ∈ truthWords truth ↔ WritesTruth text truth := by
  have small : ((truthWords truth).all fun word =>
      word.toList.all fun letter => !letter.isUpper) = true := by
    cases truth
    · rfl
    · rfl
  simp only [List.all_eq_true, Bool.not_eq_true'] at small
  constructor
  · intro member
    exact ⟨_, member, (lowered_eq_iff (small _ member)).mp rfl⟩
  · rintro ⟨word, member, written⟩
    rwa [(lowered_eq_iff (small word member)).mpr written]

end Text

theorem readInRange?_eq_some_iff {text : String} {least greatest number : Nat}
    (word : greatest ≤ Json.wordLimit) :
    readInRange? text least greatest = some number ↔
      Text.WritesWithin least greatest text number := by
  simp only [readInRange?, readWord?, Option.filter_eq_some_iff,
    Text.readUnsigned?_eq_some_iff, Bool.and_eq_true, decide_eq_true_eq,
    Text.WritesWithin]
  constructor
  · rintro ⟨⟨written, -⟩, within⟩
    exact ⟨written, within⟩
  · rintro ⟨written, within⟩
    exact ⟨⟨written, Nat.le_trans within.2 word⟩, within⟩

theorem readBool?_eq_some_iff {text : String} {truth : Bool} :
    readBool? text = some truth ↔ Text.WritesTruth text truth := by
  have apart : ∀ word ∈ Text.truthWords false, word ∉ Text.truthWords true := by
    decide
  have read : readBool? text =
      if Text.lowered text ∈ Text.truthWords true then some true
      else if Text.lowered text ∈ Text.truthWords false then some false
      else none := by
    simp only [readBool?, ← List.contains_iff_mem]
    rfl
  rw [← Text.mem_truthWords_iff, read]
  cases truth with
  | true =>
      split
      · next isTrue => exact iff_of_true rfl isTrue
      · next notTrue =>
          refine iff_of_false ?_ notTrue
          split
          · simp
          · simp
  | false =>
      split
      · next isTrue =>
          refine iff_of_false (by simp) fun isFalse => ?_
          exact apart _ isFalse isTrue
      · split
        · next isFalse => exact iff_of_true rfl isFalse
        · next notFalse => exact iff_of_false (by simp) notFalse

/-! ## Overrides -/

namespace Settings

variable {lookup : String → Option String}

/-- A variable that is not empty and whose text is of a form. -/
def Chosen (lookup : String → Option String) (name : String)
    (form : String → α → Prop) (value : α) : Prop :=
  ∃ text, lookup name = some text ∧ text ≠ "" ∧ form text value

/-- The text of a variable that is not empty. -/
def chosenText? (lookup : String → Option String) (name : String) :
    Option String :=
  (lookup name).filter fun text => !text.isEmpty

theorem bind_chosenText?_eq_some_iff {name : String} {read : String → Option α}
    {form : String → α → Prop}
    (reads : ∀ text value, read text = some value ↔ form text value)
    {value : α} :
    (chosenText? lookup name).bind read = some value ↔
      Chosen lookup name form value := by
  simp only [chosenText?, Option.bind_eq_some_iff, Option.filter_eq_some_iff,
    Bool.not_eq_true', String.isEmpty_eq_false_iff, reads, Chosen, and_assoc]

theorem map_chosenText?_eq_some_iff {name : String} {wrap : String → α}
    {value : α} :
    (chosenText? lookup name).map wrap = some value ↔
      Chosen lookup name (fun text value => wrap text = value) value := by
  rw [Option.map_eq_bind]
  exact bind_chosenText?_eq_some_iff fun _ _ => Option.some_inj

theorem chosenText?_eq_some_iff {name text : String} :
    chosenText? lookup name = some text ↔
      Chosen lookup name (fun written text => written = text) text := by
  rw [← map_chosenText?_eq_some_iff, Option.map_id']

/-- An override replaces one part of the settings. -/
theorem override_eq (settings : Settings) (value : Option α) {part : β}
    (put : Settings → β → Settings) (wrap : α → β)
    (same : put settings part = settings) :
    settings.override value (fun settings value => put settings (wrap value)) =
      put settings ((value.map wrap).getD part) := by
  cases value with
  | none => exact same.symm
  | some value => rfl

/-- The settings with each part that a variable chooses in place of the old. -/
theorem withEnvironment_eq (settings : Settings)
    (lookup : String → Option String) :
    let number (name : String) (least greatest : Nat) : Option Nat :=
      (chosenText? lookup name).bind fun text => readInRange? text least greatest
    settings.withEnvironment lookup =
      { serverUrl := (chosenText? lookup "WSBOOT_SERVER_URL").getD
          settings.serverUrl
        busUrl := ((chosenText? lookup "WSBOOT_BUS_URL").map some).getD
          settings.busUrl
        reconnectBudget := (number "WSBOOT_RECONNECT_BUDGET" 1 10000).getD
          settings.reconnectBudget
        retryDelayMs := (number "WSBOOT_RETRY_DELAY_MS" 10 600000).getD
          settings.retryDelayMs
        statusPollMs := (number "WSBOOT_STATUS_POLL_MS" 50 600000).getD
          settings.statusPollMs
        agentConnectTimeoutMs := settings.agentConnectTimeoutMs
        logging :=
          { level := (chosenText? lookup "WSBOOT_LOG_LEVEL").getD
              settings.logging.level
            json := ((chosenText? lookup "WSBOOT_LOG_JSON").bind readBool?).getD
              settings.logging.json
            modules := settings.logging.modules } } := by
  intro number
  unfold withEnvironment
  dsimp only
  rw [override_eq _ _ (fun settings url => { settings with serverUrl := url })
      (fun url => url) rfl,
    override_eq _ _ (fun settings url => { settings with busUrl := url })
      some rfl,
    override_eq _ _
      (fun settings budget => { settings with reconnectBudget := budget })
      (fun budget => budget) rfl,
    override_eq _ _
      (fun settings delay => { settings with retryDelayMs := delay })
      (fun delay => delay) rfl,
    override_eq _ _
      (fun settings delay => { settings with statusPollMs := delay })
      (fun delay => delay) rfl,
    override_eq _ _
      (fun settings level =>
        { settings with logging := { settings.logging with level := level } })
      (fun level => level) rfl,
    override_eq _ _
      (fun settings json =>
        { settings with logging := { settings.logging with json := json } })
      (fun json => json) rfl]
  simp only [Option.map_id']
  rfl

end Settings

end WorkspaceStartup
