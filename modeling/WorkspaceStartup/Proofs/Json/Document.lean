import WorkspaceStartup.Proofs.Dictionary
import WorkspaceStartup.Proofs.Json.Printer
import WorkspaceStartup.Proofs.Outcome

/-!
# Texts as documents

A document is a value as a text gives it: the members of an object stand in the
order of the text, and a name may come again.  A text is parsed if it spells a
document that is no deeper than the limit, and its value is this document with
every object filed, so that of several members of a name the last one stays.
-/

namespace WorkspaceStartup

namespace Json

namespace Draft

theorem eq_text_of_nameOf {draft : Draft} {name : String}
    (named : draft.nameOf = .ok name) : draft = .text (.ok name) := by
  unfold nameOf at named
  split at named
  · rw [named]
  · cases named
  · cases named
  · cases named

theorem eq_none_of_refuse {ending : Option Fault} {result : Unit}
    (passed : refuse ending = .ok result) : ending = none := by
  cases ending with
  | none => rfl
  | some => cases passed

mutual

/-- What has a value has a document. -/
theorem exists_of_force (room : Nat) : (draft : Draft) → (value : Json) →
    force room draft = .ok value →
      ∃ document, draft = ofJson document ∧ document.depth ≤ room ∧
        document.sorted = value
  | .null, _, forced => by
      cases forced
      exact ⟨.null, rfl, Nat.zero_le room, rfl⟩
  | .bool truth, _, forced => by
      cases forced
      exact ⟨.bool truth, rfl, Nat.zero_le room, rfl⟩
  | .number _, _, forced => by
      obtain ⟨content, rfl, rfl⟩ := map_eq_ok_iff.mp forced
      exact ⟨.number content, rfl, Nat.zero_le room, rfl⟩
  | .text _, _, forced => by
      obtain ⟨content, rfl, rfl⟩ := map_eq_ok_iff.mp forced
      exact ⟨.text content, rfl, Nat.zero_le room, rfl⟩
  | .broken _ _ _, _, forced => by cases forced
  | .array drafts ending, _, forced => by
      unfold force at forced
      split at forced
      · cases forced
      · next spare =>
          obtain ⟨values, each, forced⟩ := exists_of_bind_eq_ok forced
          obtain ⟨_, complete, forced⟩ := exists_of_bind_eq_ok forced
          obtain ⟨items, rfl, within, rfl⟩ :=
            exists_of_forceItems (room - 1) drafts values each
          cases eq_none_of_refuse complete
          cases forced
          refine ⟨.array items, rfl, ?_, rfl⟩
          rw [depth]
          omega
  | .object drafts ending, _, forced => by
      unfold force at forced
      split at forced
      · cases forced
      · next spare =>
          obtain ⟨values, each, forced⟩ := exists_of_bind_eq_ok forced
          obtain ⟨_, complete, forced⟩ := exists_of_bind_eq_ok forced
          obtain ⟨members, rfl, within, rfl⟩ :=
            exists_of_forceMembers (room - 1) drafts values each
          cases eq_none_of_refuse complete
          cases forced
          refine ⟨.object members, rfl, ?_, rfl⟩
          rw [depth]
          omega

theorem exists_of_forceItems (room : Nat) :
    (drafts : List Draft) → (values : List Json) →
      forceItems room drafts = .ok values →
        ∃ items, drafts = ofItems items ∧ depthItems items ≤ room ∧
          sortedItems items = values
  | [], _, forced => by
      cases forced
      exact ⟨[], rfl, Nat.zero_le room, rfl⟩
  | draft :: drafts, _, forced => by
      obtain ⟨value, first, forced⟩ := exists_of_bind_eq_ok forced
      obtain ⟨values, others, forced⟩ := exists_of_bind_eq_ok forced
      obtain ⟨item, rfl, within, rfl⟩ := exists_of_force room draft value first
      obtain ⟨items, rfl, othersWithin, rfl⟩ :=
        exists_of_forceItems room drafts values others
      cases forced
      exact ⟨item :: items, rfl, Nat.max_le.mpr ⟨within, othersWithin⟩, rfl⟩

theorem exists_of_forceMembers (room : Nat) :
    (drafts : List (Draft × Draft)) → (values : List (String × Json)) →
      forceMembers room drafts = .ok values →
        ∃ members, drafts = ofMembers members ∧ depthMembers members ≤ room ∧
          sortedMembers members = values
  | [], _, forced => by
      cases forced
      exact ⟨[], rfl, Nat.zero_le room, rfl⟩
  | (label, draft) :: drafts, _, forced => by
      obtain ⟨name, named, forced⟩ := exists_of_bind_eq_ok forced
      obtain ⟨value, first, forced⟩ := exists_of_bind_eq_ok forced
      obtain ⟨values, others, forced⟩ := exists_of_bind_eq_ok forced
      cases eq_text_of_nameOf named
      obtain ⟨item, rfl, within, rfl⟩ := exists_of_force room draft value first
      obtain ⟨members, rfl, othersWithin, rfl⟩ :=
        exists_of_forceMembers room drafts values others
      cases forced
      exact ⟨(name, item) :: members, rfl,
        Nat.max_le.mpr ⟨within, othersWithin⟩, rfl⟩

end

end Draft

/-- The text writes the document, with nothing but blanks around it. -/
def Spelled (text : String) (document : Json) : Prop :=
  Draft.ofText text = (.ofJson document, false)

theorem parse_eq_ok_iff {text : String} {value : Json} :
    parse text = .ok value ↔
      ∃ document, Spelled text document ∧
        document.depth ≤ Draft.depthLimit ∧ document.sorted = value := by
  constructor
  · intro parsed
    unfold parse at parsed
    obtain ⟨forcedValue, forced, ended⟩ := exists_of_bind_eq_ok parsed
    obtain ⟨document, spelled, shallow, rfl⟩ :=
      Draft.exists_of_force Draft.depthLimit _ _ forced
    split at ended
    · cases ended
    · next more =>
        cases ended
        refine ⟨document, ?_, shallow, rfl⟩
        have ended : (Draft.ofText text).2 = false :=
          Bool.not_eq_true _ ▸ more
        exact Prod.ext spelled ended
  · rintro ⟨document, spelled, shallow, rfl⟩
    rw [Spelled] at spelled
    have forced := Draft.force_ofJson Draft.depthLimit document shallow
    rw [parse, spelled]
    simp only [forced]
    rfl

/-! ## Members -/

theorem sortedMembers_eq_map (members : List (String × Json)) :
    sortedMembers members =
      members.map fun member => (member.1, member.2.sorted) := by
  induction members with
  | nil => rfl
  | cons member members induction =>
      rw [sortedMembers, induction, List.map_cons]

/-- Of several members of a name the last one is kept. -/
theorem lookUp?_filed (name : String) (members : List (String × Json)) :
    lookUp? name (fileEntries (sortedMembers members)) =
      (lookUp? name members.reverse).map sorted := by
  rw [lookUp?_fileEntries, sortedMembers_eq_map, ← List.map_reverse,
    lookUp?_map]

/-! ## Numerals -/

/-- The number that digits write after those that gave a value. -/
def wholeFrom (value : Nat) (digits : List Nat) : Nat :=
  digits.foldl (fun value digit => value * 10 + digit) value

theorem le_wholeFrom (value : Nat) (digits : List Nat) :
    value ≤ wholeFrom value digits := by
  induction digits generalizing value with
  | nil => exact Nat.le_refl value
  | cons digit digits induction =>
      have further := induction (value * 10 + digit)
      rw [wholeFrom, List.foldl_cons, ← wholeFrom]
      omega

/-- All digits are gathered just if the number that they write fits a word. -/
theorem gather_eq_iff {value result : Nat} {digits : List Nat}
    (fits : value ≤ wordLimit) :
    gather value digits = (result, []) ↔
      wholeFrom value digits = result ∧ result ≤ wordLimit := by
  induction digits generalizing value with
  | nil =>
      constructor
      · intro gathered
        cases gathered
        exact ⟨rfl, fits⟩
      · rintro ⟨rfl, -⟩
        rfl
  | cons digit digits induction =>
      rw [gather, wholeFrom, List.foldl_cons, ← wholeFrom]
      split
      · next within => exact induction within
      · next beyond =>
          constructor
          · intro gathered
            cases gathered
          · rintro ⟨rfl, within⟩
            exact (beyond (Nat.le_trans (le_wholeFrom _ digits) within)).elim

theorem integer_eq_natural_iff {negative : Bool} {magnitude number : Nat} :
    Numeral.integer negative magnitude = .integer number ↔
      negative = false ∧ magnitude = number := by
  unfold Numeral.integer
  split
  · next isNegative =>
      simp only [isNegative, Bool.true_eq_false, false_and, iff_false]
      split
      · intro same
        injection same with same
        omega
      · intro same
        cases same
  · next isNatural =>
      simp only [Bool.eq_false_iff.mpr isNatural, true_and,
        Number.integer.injEq]
      exact Int.ofNat_inj

/-- A numeral that is no integer is a real number or none. -/
theorem value?_of_real {numeral : Numeral} {significand : Nat}
    {dropped : List Nat}
    (gathered : gather 0 numeral.whole = (significand, dropped))
    (real : (dropped.isEmpty && numeral.fraction.isEmpty &&
      numeral.power.isNone) = false) (value : Int) :
    numeral.value? ≠ some (.integer value) := by
  have unequal (outcome : Option Float) :
      outcome.map (signedReal numeral.negative) ≠ some (.integer value) := by
    cases outcome <;> simp [signedReal]
  unfold Numeral.value?
  simp only [gathered, real, Bool.false_eq_true, if_false]
  split
  · exact unequal _
  · split
    · exact unequal _
    · split
      · exact Option.some_ne_none _ ∘ Eq.symm
      · exact unequal (some 0.0)

/-- A numeral is a natural number if it has no sign, no fraction and no power,
and its digits fit a word. -/
theorem value?_eq_natural_iff {numeral : Numeral} {number : Nat} :
    numeral.value? = some (.integer number) ↔
      numeral.negative = false ∧ numeral.fraction = [] ∧
        numeral.power = none ∧ wholeFrom 0 numeral.whole = number ∧
        number ≤ wordLimit := by
  generalize gathered : gather 0 numeral.whole = parts
  obtain ⟨significand, dropped⟩ := parts
  cases plain : dropped.isEmpty && numeral.fraction.isEmpty &&
      numeral.power.isNone with
  | false =>
      refine ⟨fun isValue => (value?_of_real gathered plain _ isValue).elim, ?_⟩
      rintro ⟨-, noFraction, noPower, written, fits⟩
      rw [(gather_eq_iff (Nat.zero_le _)).mpr ⟨written, fits⟩] at gathered
      cases gathered
      rw [noFraction, noPower] at plain
      cases plain
  | true =>
      have known : numeral.value? =
          some (Numeral.integer numeral.negative significand) := by
        unfold Numeral.value?
        simp only [gathered, plain, if_true]
      simp only [Bool.and_eq_true, List.isEmpty_iff, Option.isNone_iff_eq_none]
        at plain
      obtain ⟨⟨rfl, noFraction⟩, noPower⟩ := plain
      obtain ⟨written, fits⟩ := (gather_eq_iff (Nat.zero_le _)).mp gathered
      rw [known, Option.some.injEq, integer_eq_natural_iff, written]
      constructor
      · rintro ⟨unsigned, rfl⟩
        exact ⟨unsigned, noFraction, noPower, rfl, fits⟩
      · rintro ⟨unsigned, -, -, rfl, -⟩
        exact ⟨unsigned, rfl⟩

end Json

end WorkspaceStartup
