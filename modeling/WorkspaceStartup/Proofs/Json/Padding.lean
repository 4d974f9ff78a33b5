import WorkspaceStartup.Proofs.Json.Document

/-!
# Blanks around a text

A text that spells a document spells the same one with blanks before and after
it.  Blanks before a text make no token.  Blanks after it make none either,
unless the text ends within a token that needs more of it; and then it spells
no document.
-/

namespace WorkspaceStartup.Json

variable {blanks rest : List Char}

/-- Characters that may stand between tokens. -/
def Blanks (characters : List Char) : Prop :=
  ∀ character ∈ characters, isSpace character = true

/-- The token breaks off. -/
def Token.isBroken : Token → Bool
  | .broken _ _ _ => true
  | _ => false

/-! ## Tokens -/

theorem enter_of_isSpace {character : Char}
    (space : isSpace character = true) : enter character = (.between, []) := by
  rw [enter, if_pos space]

theorem tokensFrom_blanks_append (areBlanks : Blanks blanks) :
    tokensFrom .between (blanks ++ rest) = tokensFrom .between rest := by
  induction blanks with
  | nil => rfl
  | cons character blanks induction =>
      obtain ⟨space, others⟩ := List.forall_mem_cons.mp areBlanks
      rw [List.cons_append, tokensFrom, enter_of_isSpace space]
      exact induction others

theorem tokensFrom_blanks (areBlanks : Blanks blanks) :
    tokensFrom .between blanks = [] := by
  rw [← List.append_nil blanks]
  exact tokensFrom_blanks_append areBlanks

/-- A number that may end does so before a blank. -/
theorem next_of_isSpace {place : NumberPlace} {character : Char}
    (complete : place.complete = true) (space : isSpace character = true) :
    place.next character = .done := by
  simp only [isSpace, Bool.or_eq_true, beq_iff_eq] at space
  rcases space with ((rfl | rfl) | rfl) | rfl <;>
    cases place <;> first | rfl | cases complete

@[simp] theorem TextReading.isBroken_broken (reading : TextReading)
    (fault : Fault) : (reading.broken fault).isBroken = true := by
  unfold TextReading.broken
  split <;> rfl

/-- Blanks after a mode in which a text may end. -/
theorem tokensFrom_of_finish (areBlanks : Blanks blanks) (mode : Mode)
    (sound : ∀ token ∈ finish mode, token.isBroken = false) :
    tokensFrom mode blanks = finish mode := by
  cases blanks with
  | nil => exact tokensFrom.eq_1 mode
  | cons character blanks =>
      obtain ⟨space, others⟩ := List.forall_mem_cons.mp areBlanks
      cases mode with
      | between => exact tokensFrom_blanks areBlanks
      | word rest token => cases sound _ List.mem_cons_self
      | text reading => simp [finish] at sound
      | number opening place numeral =>
          cases complete : place.complete with
          | false => simp [finish, complete, Token.isBroken] at sound
          | true =>
              simp [finish, complete, tokensFrom,
                next_of_isSpace complete space, enter_of_isSpace space,
                tokensFrom_blanks others]

theorem tokensFrom_append_blanks (areBlanks : Blanks blanks) (mode : Mode)
    (characters : List Char)
    (sound : ∀ token ∈ tokensFrom mode characters, token.isBroken = false) :
    tokensFrom mode (characters ++ blanks) = tokensFrom mode characters := by
  fun_induction tokensFrom mode characters with
  | case1 mode => exact tokensFrom_of_finish areBlanks mode sound
  -- Where a token breaks off, the text is not sound; elsewhere one step of the
  -- tokenizer reads the same character of both texts.
  | case4 | case6 | case7 | case10 => simp [Token.isBroken] at sound
  | case13 | case17 | case20 | case21 => simp at sound
  | _ => simp_all +zetaDelta [tokensFrom, -Nat.not_lt]

/-! ## Documents -/

namespace Draft

/-- The draft is not one of a document. -/
def Faulty (draft : Draft) : Prop :=
  ∀ document, draft ≠ ofJson document

theorem exists_of_mem_ofItems {draft : Draft} {items : List Json}
    (member : draft ∈ ofItems items) : ∃ item, draft = ofJson item := by
  induction items with
  | nil => cases member
  | cons item items induction =>
      rcases List.mem_cons.mp member with rfl | later
      · exact ⟨item, rfl⟩
      · exact induction later

theorem exists_of_mem_ofMembers {name draft : Draft}
    {members : List (String × Json)}
    (member : (name, draft) ∈ ofMembers members) :
    ∃ value, draft = ofJson value := by
  induction members with
  | nil => cases member
  | cons first members induction =>
      rcases List.mem_cons.mp member with same | later
      · cases same
        exact ⟨first.2, rfl⟩
      · exact induction later

theorem faulty_array {draft : Draft} {items : List Draft}
    {ending : Option Fault} (member : draft ∈ items) (faulty : draft.Faulty) :
    (array items ending).Faulty := by
  rintro (_ | _ | _ | _ | values | _) same
  case array =>
    cases same
    obtain ⟨value, isValue⟩ := exists_of_mem_ofItems member
    exact faulty value isValue
  all_goals cases same

theorem faulty_object {name draft : Draft} {members : List (Draft × Draft)}
    {ending : Option Fault} (member : (name, draft) ∈ members)
    (faulty : draft.Faulty) : (object members ending).Faulty := by
  rintro (_ | _ | _ | _ | _ | values) same
  case object =>
    cases same
    obtain ⟨value, isValue⟩ := exists_of_mem_ofMembers member
    exact faulty value isValue
  all_goals cases same

theorem faulty_array_of_ending (items : List Draft) (fault : Fault) :
    (array items (some fault)).Faulty := by
  rintro (_ | _ | _ | _ | _ | _) same <;> cases same

theorem faulty_object_of_ending (members : List (Draft × Draft))
    (fault : Fault) : (object members (some fault)).Faulty := by
  rintro (_ | _ | _ | _ | _ | _) same <;> cases same

theorem faulty_broken (opening : Option Char) (wanted passed : Fault) :
    (broken opening wanted passed).Faulty := by
  rintro (_ | _ | _ | _ | _ | _) same <;> cases same

theorem faulty_missing (fault : Fault) : (missing fault).Faulty :=
  faulty_broken none fault fault

theorem faulty_missing_member (name : Draft) (members : List (Draft × Draft))
    (fault : Fault) :
    (object ((name, missing fault) :: members).reverse none).Faulty :=
  faulty_object (List.mem_reverse.mpr List.mem_cons_self)
    (faulty_missing fault)

/-- A value that broke off spoils whatever is around it. -/
theorem faulty_abandon {draft : Draft} (faulty : draft.Faulty)
    (frames : List Frame) : (abandon draft frames).Faulty := by
  induction frames generalizing draft with
  | nil => exact faulty
  | cons frame frames induction =>
      cases frame with
      | array items => exact induction (faulty_array (by simp) faulty)
      | member members name =>
          have first : (name, draft) ∈ ((name, draft) :: members).reverse := by
            simp
          exact induction (faulty_object first faulty)

/-- After a broken token nothing is read, and what was read is no document. -/
theorem exists_faulty_of_isBroken {place : Place} {token : Token}
    (broken : token.isBroken = true)
    (unfinished : ∀ draft, place ≠ .done draft) :
    ∃ draft, read place token = .done draft ∧ draft.Faulty := by
  obtain ⟨opening, wanted, passed, rfl⟩ :
      ∃ opening wanted passed, token = .broken opening wanted passed := by
    cases token with
    | broken opening wanted passed => exact ⟨opening, wanted, passed, rfl⟩
    | openArray | closeArray | openObject | closeObject | colon | comma | null
    | bool | number | text => cases broken
  cases place with
  | done draft => exact (unfinished draft rfl).elim
  | value frames => exact ⟨_, rfl, faulty_abandon (faulty_broken _ _ _) frames⟩
  | firstItem frames =>
      exact ⟨_, rfl, faulty_abandon (faulty_broken _ _ _) (.array [] :: frames)⟩
  | nextItem items frames =>
      exact ⟨_, rfl, faulty_abandon (faulty_array_of_ending _ _) frames⟩
  | nextMember members frames =>
      exact ⟨_, rfl, faulty_abandon (faulty_object_of_ending _ _) frames⟩
  | firstName frames | name members frames | colon members label frames =>
      exact ⟨_, rfl, faulty_abandon (faulty_missing_member _ _ _) frames⟩

theorem readAll_cons {place : Place} (unfinished : ∀ draft, place ≠ .done draft)
    (token : Token) (tokens : List Token) :
    readAll place (token :: tokens) = readAll (read place token) tokens := by
  cases place with
  | done draft => exact (unfinished draft rfl).elim
  | value | firstItem | nextItem | firstName | name | colon | nextMember => rfl

/-- Nothing is broken in what reads as a document. -/
theorem sound_of_readAll {place : Place} {tokens : List Token}
    {document : Json} (spelled : readAll place tokens = (ofJson document, [])) :
    ∀ token ∈ tokens, token.isBroken = false := by
  induction tokens generalizing place with
  | nil => exact nofun
  | cons token tokens induction =>
      have unfinished : ∀ draft, place ≠ .done draft := by
        rintro draft rfl
        cases spelled
      rw [readAll_cons unfinished] at spelled
      refine List.forall_mem_cons.mpr ⟨?_, induction spelled⟩
      rw [← Bool.not_eq_true]
      intro broken
      obtain ⟨draft, ended, faulty⟩ :=
        exists_faulty_of_isBroken broken unfinished
      rw [ended, readAll] at spelled
      exact faulty document (congrArg Prod.fst spelled)

end Draft

/-- A text spells the same document whatever blanks are around it. -/
theorem Spelled.padded {text before after : String} {document : Json}
    (spelled : Spelled text document) (blanksBefore : Blanks before.toList)
    (blanksAfter : Blanks after.toList) :
    Spelled (before ++ text ++ after) document := by
  have rest : (Draft.ofText text).2 = false := congrArg Prod.snd spelled
  have draft : (Draft.ofText text).1 = .ofJson document :=
    congrArg Prod.fst spelled
  have read : Draft.readAll (.value []) (tokens text.toList) =
      (.ofJson document, []) := by
    refine Prod.ext draft ?_
    simpa [Draft.ofText] using rest
  have same : tokens (before ++ text ++ after).toList = tokens text.toList := by
    rw [String.toList_append, String.toList_append, List.append_assoc, tokens,
      tokensFrom_blanks_append blanksBefore]
    exact tokensFrom_append_blanks blanksAfter .between text.toList
      (Draft.sound_of_readAll read)
  rw [Spelled, Draft.ofText, same]
  exact spelled

end WorkspaceStartup.Json
