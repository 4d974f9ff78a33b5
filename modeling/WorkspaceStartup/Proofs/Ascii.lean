/-!
# Letters of either size

The small form of a character is another character only for a capital of ASCII.
So a character whose small form is a given one is this or its capital.
-/

namespace WorkspaceStartup.Text

theorem toNat_toLower (character : Char) :
    character.toLower.toNat =
      if 65 ≤ character.toNat ∧ character.toNat ≤ 90 then character.toNat + 32
      else character.toNat := by
  split
  · next capital =>
      have range : 65 ≤ character.val.toNat ∧ character.val.toNat ≤ 90 := capital
      have lowered : character.toLower = ⟨character.val + 32, _⟩ :=
        dif_pos capital
      rw [lowered]
      change (character.val + 32).toNat = character.val.toNat + 32
      rw [UInt32.toNat_add]
      change (character.val.toNat + 32) % 4294967296 = _
      omega
  · next other =>
      have unchanged : character.toLower = character := dif_neg other
      rw [unchanged]

theorem toNat_toUpper (character : Char) :
    character.toUpper.toNat =
      if 97 ≤ character.toNat ∧ character.toNat ≤ 122 then character.toNat - 32
      else character.toNat := by
  split
  · next small =>
      have range : 97 ≤ character.val.toNat ∧ character.val.toNat ≤ 122 := small
      have raised :
          character.toUpper = ⟨character.val + ('A'.val - 'a'.val), _⟩ :=
        dif_pos small
      rw [raised]
      change (character.val + ('A'.val - 'a'.val)).toNat =
        character.val.toNat - 32
      rw [UInt32.toNat_add]
      change (character.val.toNat + 4294967264) % 4294967296 = _
      omega
  · next other =>
      have unchanged : character.toUpper = character := dif_neg other
      rw [unchanged]

theorem toLower_eq_iff {letter character : Char}
    (small : letter.isUpper = false) :
    character.toLower = letter ↔
      character = letter ∨ character = letter.toUpper := by
  have notCapital : ¬ (65 ≤ letter.toNat ∧ letter.toNat ≤ 90) := by
    intro capital
    have isUpper : letter.isUpper = true := decide_eq_true capital
    rw [small] at isUpper
    cases isUpper
  rw [← Char.toNat_inj, ← Char.toNat_inj, ← Char.toNat_inj, toNat_toLower,
    toNat_toUpper]
  split
  · split
    · omega
    · omega
  · split
    · omega
    · omega

end WorkspaceStartup.Text
