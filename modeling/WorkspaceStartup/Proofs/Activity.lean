import Mathlib.Data.List.DropRight
import Mathlib.Data.List.Infix
import WorkspaceStartup.Activity
import WorkspaceStartup.Text.Blank

/-!
# Announced activity

A text is cut where the mark first stands in it.  The marker of an announcement
ends in a character that it has nowhere else, so it cannot overlap itself and
stands first behind whatever does not contain it.  What follows it, without the
blanks at its ends, names the workspace, and the service is called for just that
workspace.
-/

namespace WorkspaceStartup

namespace Text

variable {α : Type}

/-! ## First occurrences -/

section Occurrence

variable [BEq α] {mark text before behind rest : List α}

theorem cutFirst?_of_after? (found : after? mark text = some rest) :
    cutFirst? mark text = some ([], rest) := by
  cases text with
  | nil => rw [cutFirst?, found, Option.map_some]
  | cons character text => rw [cutFirst?, found]

variable [LawfulBEq α]

theorem after?_eq_some_iff :
    after? mark text = some rest ↔ text = mark ++ rest := by
  induction mark generalizing text with
  | nil => simp [after?]
  | cons expected mark induction =>
      cases text with
      | nil => simp [after?]
      | cons character text =>
          by_cases same : expected = character
          · simp [after?, same, induction]
          · simp [after?, same, Ne.symm same]

theorem after?_eq_none_iff : after? mark text = none ↔ ¬ mark <+: text := by
  rw [Option.eq_none_iff_forall_ne_some]
  constructor
  · rintro differs ⟨rest, same⟩
    exact differs rest (after?_eq_some_iff.mpr same.symm)
  · intro differs rest found
    exact differs ⟨rest, (after?_eq_some_iff.mp found).symm⟩

/-- A text without the mark is not cut. -/
theorem cutFirst?_eq_none_iff : cutFirst? mark text = none ↔ ¬ mark <:+: text := by
  induction text with
  | nil =>
      rw [cutFirst?, Option.map_eq_none_iff, after?_eq_none_iff, List.infix_nil,
        List.prefix_nil]
  | cons character text induction =>
      rw [cutFirst?, List.infix_cons_iff, not_or, ← after?_eq_none_iff, ← induction]
      cases after? mark (character :: text) <;> simp

/-- A text is cut at a place where the mark stands, if it stands nowhere before. -/
theorem cutFirst?_of_first (first : ∀ earlier rest,
      before ++ (mark ++ behind) = earlier ++ (mark ++ rest) →
        before.length ≤ earlier.length) :
    cutFirst? mark (before ++ (mark ++ behind)) = some (before, behind) := by
  induction before with
  | nil => exact cutFirst?_of_after? (after?_eq_some_iff.mpr rfl)
  | cons character before induction =>
      have differs :
          after? mark (character :: before ++ (mark ++ behind)) = none := by
        rw [Option.eq_none_iff_forall_ne_some]
        intro rest found
        have stands := after?_eq_some_iff.mp found
        have short := first [] rest stands
        exact absurd short (Nat.not_succ_le_zero _)
      rw [List.cons_append] at differs ⊢
      rw [cutFirst?, differs, induction, Option.map_some]
      intro earlier rest same
      exact Nat.le_of_succ_le_succ
        (first (character :: earlier) rest (congrArg (character :: ·) same))

end Occurrence

/-- No beginning of the mark is an end of it, but for the mark itself. -/
def Unbordered (mark : List α) : Prop :=
  ∀ border, border <+: mark → border <:+ mark → border = [] ∨ border = mark

/-- A mark that has its last character nowhere else does not overlap itself. -/
theorem unbordered_concat {word : List α} {last : α} (fresh : last ∉ word) :
    Unbordered (word ++ [last]) := by
  intro border isPrefix isSuffix
  rcases List.suffix_concat_iff.mp isSuffix with none | ⟨front, rfl, -⟩
  · exact .inl none
  · rcases List.prefix_concat_iff.mp isPrefix with whole | inWord
    · exact .inr whole
    · have member : last ∈ front ++ [last] :=
        List.mem_append_right _ List.mem_cons_self
      exact (fresh (inWord.subset member)).elim

/-- Behind a text without the mark, no place of the mark is earlier than the
next one: it would be inside the text, or the mark would overlap itself. -/
theorem Unbordered.first {mark before behind : List α}
    (unbordered : Unbordered mark) (free : ¬ mark <:+: before)
    (earlier rest : List α)
    (same : before ++ (mark ++ behind) = earlier ++ (mark ++ rest)) :
    before.length ≤ earlier.length := by
  by_contra later
  rcases List.append_eq_append_iff.mp same with
    ⟨gap, rfl, -⟩ | ⟨gap, rfl, overlap⟩
  · simp at later
  rcases List.append_eq_append_iff.mp overlap with
    ⟨tail, rfl, -⟩ | ⟨tail, split, shared⟩
  · exact free ⟨earlier, tail, by simp⟩
  · have isSuffix : tail <:+ mark := ⟨gap, split.symm⟩
    have isPrefix : tail <+: mark :=
      List.prefix_of_prefix_length_le ⟨rest, shared.symm⟩
        (List.prefix_append mark behind) isSuffix.length_le
    rcases unbordered tail isPrefix isSuffix with rfl | rfl
    · rw [List.append_nil] at split
      exact free ⟨earlier, [], by simp [split]⟩
    · have none : gap = [] := List.append_left_eq_self.mp split.symm
      simp [none] at later

/-! ## Trimmed texts -/

/-- The text is what is kept between ends of characters that satisfy the test,
and what is kept neither begins nor ends with such a character. -/
structure IsTrimmed (test : α → Bool) (text kept : List α) : Prop where
  split : ∃ front back, text = front ++ kept ++ back ∧
    (∀ character ∈ front, test character = true) ∧
    ∀ character ∈ back, test character = true
  begins : ∀ character, kept.head? = some character → test character = false
  ends : ∀ character, kept.getLast? = some character → test character = false

variable {test : α → Bool} {text kept : List α}

theorem dropAroundWhile_eq (test : α → Bool) (text : List α) :
    dropAroundWhile test text = (text.dropWhile test).rdropWhile test := rfl

theorem isTrimmed_dropAroundWhile (test : α → Bool) (text : List α) :
    IsTrimmed test text (dropAroundWhile test text) := by
  let middle := text.dropWhile test
  rw [dropAroundWhile_eq]
  constructor
  · refine ⟨text.takeWhile test, middle.rtakeWhile test, ?_,
      fun _ => List.mem_takeWhile_imp, fun _ => List.mem_rtakeWhile_imp⟩
    rw [List.append_assoc, List.rdropWhile_append_rtakeWhile,
      List.takeWhile_append_dropWhile]
  · intro character starts
    obtain ⟨rest, split⟩ := List.rdropWhile_prefix test middle
    have first : middle.head? = some character := by
      rw [← split, List.head?_append, starts, Option.some_or]
    have stops := List.head?_dropWhile_not test text
    rwa [first] at stops
  · intro character ends
    have stops := List.head?_dropWhile_not test middle.reverse
    rw [List.rdropWhile, List.getLast?_reverse] at ends
    rwa [ends] at stops

theorem IsTrimmed.eq (trimmed : IsTrimmed test text kept) :
    dropAroundWhile test text = kept := by
  obtain ⟨⟨front, back, rfl, inFront, inBack⟩, begins, ends⟩ := trimmed
  rw [dropAroundWhile_eq, List.append_assoc,
    List.dropWhile_append_of_pos inFront]
  cases kept with
  | nil => rw [List.nil_append, List.dropWhile_eq_nil_iff.mpr inBack,
      List.rdropWhile_nil]
  | cons first others =>
      have starts := begins first rfl
      rw [List.cons_append, List.dropWhile_cons_of_neg (by simp [starts]),
        ← List.cons_append, List.rdropWhile, List.reverse_append,
        List.dropWhile_append_of_pos (by simpa using inBack), ← List.rdropWhile]
      refine List.rdropWhile_eq_self_iff.mpr fun some => ?_
      rw [Bool.not_eq_true]
      exact ends _ (List.getLast?_eq_some_getLast some)

/-- Trimming is the one way to keep what lies between the ends. -/
theorem isTrimmed_iff :
    IsTrimmed test text kept ↔ dropAroundWhile test text = kept := by
  refine ⟨IsTrimmed.eq, ?_⟩
  rintro rfl
  exact isTrimmed_dropAroundWhile test text

theorem dropAroundWhile_eq_nil_iff :
    dropAroundWhile test text = [] ↔ ∀ character ∈ text, test character = true := by
  rw [dropAroundWhile_eq, List.rdropWhile_eq_nil_iff]
  constructor
  · intro inRest character member
    rw [← List.takeWhile_append_dropWhile (p := test) (l := text)] at member
    rcases List.mem_append.mp member with inFront | isRest
    · exact List.mem_takeWhile_imp inFront
    · exact inRest character isRest
  · intro all character member
    exact all character ((List.dropWhile_suffix test).subset member)

end Text

namespace Activity

open Text

variable {before rest message : String} {id : WorkspaceId}

/-! ## Announcements -/

theorem unbordered_marker : Unbordered marker.toList := by
  have split : marker.toList = "workspace-activity".toList ++ [':'] := rfl
  rw [split]
  exact unbordered_concat (by decide)

theorem parse?_of_cutFirst? {front behind : List Char}
    (cut : cutFirst? marker.toList message.toList = some (front, behind)) :
    parse? message =
      if dropAroundWhile isBlank behind = [] then none
      else some ⟨String.ofList (dropAroundWhile isBlank behind)⟩ := by
  simp [parse?, cut, List.isEmpty_iff]

theorem parse?_of_unmarked (free : ¬ marker.toList <:+: message.toList) :
    parse? message = none := by
  simp [parse?, cutFirst?_eq_none_iff.mpr free]

theorem parse?_marked (free : ¬ marker.toList <:+: before.toList) (rest : String) :
    parse? (before ++ marker ++ rest) =
      if dropAroundWhile isBlank rest.toList = [] then none
      else some ⟨String.ofList (dropAroundWhile isBlank rest.toList)⟩ := by
  have cut : cutFirst? marker.toList (before ++ marker ++ rest).toList =
      some (before.toList, rest.toList) := by
    rw [String.toList_append, String.toList_append, List.append_assoc]
    exact cutFirst?_of_first (unbordered_marker.first free)
  exact parse?_of_cutFirst? cut

theorem parse?_marked_eq_none_iff
    (free : ¬ marker.toList <:+: before.toList) :
    parse? (before ++ marker ++ rest) = none ↔
      ∀ character ∈ rest.toList, isBlank character = true := by
  rw [parse?_marked free, ← dropAroundWhile_eq_nil_iff]
  split <;> simp [*]

/-- The workspace is what follows the marker, without the blanks at its ends. -/
theorem parse?_marked_eq_some_iff
    (free : ¬ marker.toList <:+: before.toList) :
    parse? (before ++ marker ++ rest) = some id ↔
      id.text ≠ "" ∧ IsTrimmed isBlank rest.toList id.text.toList := by
  rw [parse?_marked free, isTrimmed_iff]
  have named : id.text = "" ↔ id.text.toList = [] := by simp
  constructor
  · intro found
    split at found
    · cases found
    · next some =>
        cases found
        exact ⟨by simpa using some, String.toList_ofList.symm⟩
  · rintro ⟨some, same⟩
    rw [same, if_neg (some ∘ named.mpr), String.ofList_toList]

/-! ## Calls -/

section Calls

variable {m : Type → Type u} [Monad m]
  (record : WorkspaceId → m (Except ControlFailure Unit))

/-- The service, with a list of the workspaces that it was called for. -/
def listed (id : WorkspaceId) :
    StateT (List WorkspaceId) m (Except ControlFailure Unit) := do
  modify (· ++ [id])
  record id

variable [LawfulMonad m]

theorem handle_eq_mapM (message : String) :
    handle record message = (parse? message).mapM record := by
  unfold handle
  cases parse? message with
  | none => rfl
  | some id => exact bind_pure_comp _ _

/-- The service is called for the workspace that the message names, if any. -/
theorem run_handle_listed (message : String) (calls : List WorkspaceId) :
    (handle (listed record) message).run calls =
      (fun result => (result, calls ++ (parse? message).toList)) <$>
        handle record message := by
  unfold handle listed
  cases parse? message with
  | none => simp
  | some id => simp

end Calls

/-- What follows the first marker of a message, without the blanks at its ends,
is the workspace that the message names, unless nothing is left; no other
message names any.  The service is called once for a workspace that is named,
and what it answers is returned; otherwise it is not called. -/
theorem announcements_name_their_workspace {m : Type → Type u} [Monad m]
    [LawfulMonad m] (record : WorkspaceId → m (Except ControlFailure Unit)) :
    (∀ before rest : String, ¬ marker.toList <:+: before.toList →
      (∀ id, parse? (before ++ marker ++ rest) = some id ↔
        id.text ≠ "" ∧ IsTrimmed isBlank rest.toList id.text.toList) ∧
      (parse? (before ++ marker ++ rest) = none ↔
        ∀ character ∈ rest.toList, isBlank character = true)) ∧
    (∀ message : String, ¬ marker.toList <:+: message.toList →
      parse? message = none) ∧
    ∀ message : String,
      handle record message = (parse? message).mapM record ∧
      ∀ calls, (handle (listed record) message).run calls =
        (fun result => (result, calls ++ (parse? message).toList)) <$>
          handle record message := by
  refine ⟨fun before rest free => ?_, fun message => parse?_of_unmarked,
    fun message => ?_⟩
  · exact ⟨fun id => parse?_marked_eq_some_iff free, parse?_marked_eq_none_iff free⟩
  · exact ⟨handle_eq_mapM record message, run_handle_listed record message⟩

/-- The beginning of a marker in front and a second marker behind mislead nobody,
and a service that refuses is called just once. -/
theorem announcements_name_their_workspace_between_markers :
    let message := "ide:workspace-" ++ marker ++ " w, workspace-activity:v\n"
    let refusal : Except ControlFailure Unit := .error (.transport "reset")
    parse? message = some ⟨"w, workspace-activity:v"⟩ ∧
      handle (m := Id) (fun _ => pure refusal) message = some refusal ∧
      (handle (m := StateT _ Id) (listed fun _ => pure refusal) message).run [] =
        (some refusal, [⟨"w, workspace-activity:v"⟩]) := by
  intro message refusal
  obtain ⟨marked, -, calls⟩ :=
    announcements_name_their_workspace (m := Id) fun _ => pure refusal
  have named : parse? message = some ⟨"w, workspace-activity:v"⟩ := by
    have trimmed : IsTrimmed isBlank " w, workspace-activity:v\n".toList
        "w, workspace-activity:v".toList := by
      refine ⟨⟨[' '], ['\n'], rfl, ?_, ?_⟩, ?_, ?_⟩
      · exact List.forall_mem_singleton.mpr rfl
      · exact List.forall_mem_singleton.mpr rfl
      · rintro _ ⟨⟩
        rfl
      · rintro _ ⟨⟩
        rfl
    exact ((marked "ide:workspace-" " w, workspace-activity:v\n" (by decide)).1
      _).mpr ⟨by decide, trimmed⟩
  obtain ⟨answer, listing⟩ := calls message
  have answered : handle (m := Id) (fun _ => pure refusal) message =
      some refusal := by
    rw [answer, named]
    rfl
  refine ⟨named, answered, ?_⟩
  rw [listing, answered, named]
  rfl

end Activity

end WorkspaceStartup
