import WorkspaceStartup.Event
import WorkspaceStartup.Proofs.Json.Document
import WorkspaceStartup.Proofs.Workspace.Wire

/-!
# Events and reports come back from the wire

The tag of an event names the kind whose fields the other members spell, so an
event is conveyed by its encoding as soon as its numbers fit their words.  An
event that was decoded always has such numbers.
-/

namespace WorkspaceStartup

open Json
open Json.Record (Spells)

theorem Phase.ofWord?_word (phase : Phase) : ofWord? phase.word = some phase := by
  cases phase <;> rfl

theorem Report.encode_conveys (report : Report) :
    report.encode.Conveys Report.decode report := by
  have phase : Spells (.field "phase" Phase.decode none) _ _ :=
    .field (.choice report.phase.ofWord?_word)
  have message := Spells.text "message" none report.message
  have fields := (phase.map Report.mk).seq message (by decide)
  exact fields.conveys (by decide)

namespace Event

variable {event : Event} {kind : Record Event}

/-- What an event of a kind is written as, besides its tag. -/
def fields (event : Event) : List (String × Json) :=
  ("workspace_id", event.workspaceId.encode) :: event.details

theorem spells_id (id : WorkspaceId) :
    idField.Spells [("workspace_id", id.encode)] id :=
  .field id.encode_conveys

theorem spells_step {step : Nat} (word : step ≤ wordLimit) :
    stepField.Spells [("step", natural step)] step :=
  .field (.natural word (Nat.le_refl _))

theorem spells_count (name : String) {count : Nat} (word : count ≤ halfWordLimit) :
    (countField name).Spells [(name, natural count)] count :=
  .field (.natural word (by decide))

theorem spells_phase (phase : Phase) :
    phaseField.Spells [("phase", phase.encode)] phase :=
  .field (.choice phase.ofWord?_word)

/-- The tag of an event names the kind whose fields the event is written as. -/
theorem exists_kind (representable : event.Representable) :
    ∃ kind, lookUp? event.tag kinds = some kind ∧
      kind.Spells event.fields event ∧ ("type" :: kind.names).Nodup := by
  cases event with
  | recentUpdated id =>
      exact ⟨_, rfl, (spells_id id).map _, by decide⟩
  | listRefresh id =>
      exact ⟨_, rfl, (spells_id id).map _, by decide⟩
  | stepAdvanced id step =>
      exact ⟨_, rfl, ((spells_id id).map _).seq (spells_step representable)
        (by decide), by decide⟩
  | stepLogged id step line =>
      exact ⟨_, rfl, (((spells_id id).map _).seq (spells_step representable)
        (by decide)).seq (.text "line" none line) (by decide), by decide⟩
  | stepFailed id step =>
      exact ⟨_, rfl, ((spells_id id).map _).seq (spells_step representable)
        (by decide), by decide⟩
  | connectAttempted id attempt remaining =>
      exact ⟨_, rfl, (((spells_id id).map _).seq
        (spells_count "attempt" representable.1) (by decide)).seq
        (spells_count "remaining" representable.2) (by decide), by decide⟩
  | agentConnected id url =>
      exact ⟨_, rfl, ((spells_id id).map _).seq (.text "url" none url)
        (by decide), by decide⟩
  | startSucceeded id =>
      exact ⟨_, rfl, (spells_id id).map _, by decide⟩
  | startFailed id phase message =>
      exact ⟨_, rfl, (((spells_id id).map _).seq (spells_phase phase)
        (by decide)).seq (.text "message" none message) (by decide),
        by decide⟩
  | superseded id generation =>
      exact ⟨_, rfl, ((spells_id id).map _).seq
        (.field (.natural representable (Nat.le_refl _))) (by decide),
        by decide⟩

/-- Texts and numbers have no depth that could be too great. -/
theorem intact_fields :
    ∀ member ∈ event.fields, intact (.ofJson member.2) = .ok () := by
  have text (content : String) : intact (.ofJson (.text content)) = .ok () := rfl
  have number (value : Nat) : intact (.ofJson (natural value)) = .ok () := rfl
  cases event <;>
    simp [fields, details, workspaceId, WorkspaceId.encode, Phase.encode, text,
      number]

/-- Members without a further tag are gathered as they stand. -/
theorem gather_ofMembers {members : List (String × Json)}
    (untagged : ∀ member ∈ members, member.1 ≠ "type")
    (sound : ∀ member ∈ members, intact (.ofJson member.2) = .ok ()) :
    gather (some kind) (Draft.ofMembers members) =
      .ok (some kind, Draft.ofMembers members) := by
  induction members with
  | nil => rfl
  | cons member members induction =>
      have plain := untagged member List.mem_cons_self
      have intact := sound member List.mem_cons_self
      have others := induction
        (fun other inMembers =>
          untagged other (List.mem_cons_of_mem member inMembers))
        (fun other inMembers =>
          sound other (List.mem_cons_of_mem member inMembers))
      simp only [Draft.ofMembers, gather, Decode.name, Draft.nameOf, others]
      simp [bind, Except.bind, pure, Except.pure, plain, intact]

theorem encode_conveys (representable : event.Representable) :
    event.encode.Conveys Event.decode event := by
  obtain ⟨kind, named, spells, distinct⟩ := exists_kind representable
  obtain ⟨untagged, distinct⟩ := List.nodup_cons.mp distinct
  have conveyed := spells.conveys distinct
  have gathered : gather (some kind) (Draft.ofMembers event.fields) =
      .ok (some kind, Draft.ofMembers event.fields) := by
    apply gather_ofMembers _ intact_fields
    intro member inFields isTag
    have listed := spells.listed.subset (List.mem_map.mpr ⟨member, inFields, isTag⟩)
    exact untagged listed
  constructor
  · exact ⟨trivial, conveyed.whole⟩
  · have tagged : kindOf (.text (.ok event.tag)) = .ok kind := by
      simp [kindOf, Decode.text, Decode.named, named, bind, Except.bind]
    have decoded : kind.decode (.object (Draft.ofMembers event.fields) none) =
        .ok event := conveyed.decoded
    change Event.decode (.object ((.text (.ok "type"), .text (.ok event.tag)) ::
      Draft.ofMembers event.fields) none) = _
    simp [Event.decode, gather, Decode.name, Draft.nameOf, tagged, gathered,
      bind, Except.bind, Decode.noFault, ofGathered, decoded]

/-! ## Decoded events -/

theorem natural_le {limit value : Nat} {draft : Draft}
    (decoded : Decode.natural limit draft = .ok value) : value ≤ limit := by
  unfold Decode.natural at decoded
  split at decoded
  · split at decoded
    · next number within =>
        cases decoded
        omega
    · cases decoded
  · cases decoded

theorem yields_representable {word : String}
    (named : lookUp? word kinds = some kind) :
    kind.Yields Representable := by
  have inKinds : kind ∈ kinds.map (·.2) := by
    obtain ⟨entry, found, rfl⟩ := Option.map_eq_some_iff.mp named
    exact List.mem_map.mpr ⟨entry, List.mem_of_find?_eq_some found, rfl⟩
  have step : stepField.Yields (· ≤ wordLimit) := .field natural_le
  have count (name : String) : (countField name).Yields (· ≤ halfWordLimit) :=
    .field natural_le
  simp only [kinds, List.map_cons, List.map_nil, List.mem_cons,
    List.not_mem_nil, or_false] at inKinds
  rcases inKinds with rfl | rfl | rfl | rfl | rfl | rfl | rfl | rfl | rfl | rfl
  · exact .map .any fun _ _ => trivial
  · exact .map .any fun _ _ => trivial
  · exact .seq (.map .any fun _ _ _ word => word) step
  · exact .seq (.seq (.map .any fun _ _ _ word _ _ => word) step) .any
  · exact .seq (.map .any fun _ _ _ word => word) step
  · exact .seq (.seq (.map .any fun _ _ _ attempt _ remaining =>
      ⟨attempt, remaining⟩) (count "attempt")) (count "remaining")
  · exact .seq (.map .any fun _ _ _ _ => trivial) .any
  · exact .map .any fun _ _ => trivial
  · exact .seq (.seq (.map .any fun _ _ _ _ _ _ => trivial) .any) .any
  · exact .seq (.map .any fun _ _ _ word => word) (.field natural_le)

theorem exists_word_of_kindOf {tag : Draft} (isKind : kindOf tag = .ok kind) :
    ∃ word, lookUp? word kinds = some kind := by
  obtain ⟨word, -, named⟩ := exists_of_bind_eq_ok isKind
  unfold Decode.named at named
  split at named
  · next found =>
      cases named
      exact ⟨word, found⟩
  · cases named

theorem exists_word_of_gather {gathered : Option (Record Event)}
    {members others : List (Draft × Draft)}
    (known : ∀ kind ∈ gathered, ∃ word, lookUp? word kinds = some kind)
    (result : gather gathered members = .ok (some kind, others)) :
    ∃ word, lookUp? word kinds = some kind := by
  induction members generalizing gathered others with
  | nil =>
      cases result
      exact known kind rfl
  | cons member members induction =>
      obtain ⟨name, -, afterName⟩ := exists_of_bind_eq_ok result
      split at afterName
      · split at afterName
        · cases afterName
        · obtain ⟨tagged, isKind, gatheredLater⟩ :=
            exists_of_bind_eq_ok afterName
          apply induction _ gatheredLater
          intro kind isTagged
          cases isTagged
          exact exists_word_of_kindOf isKind
      · obtain ⟨_, -, afterValue⟩ := exists_of_bind_eq_ok afterName
        obtain ⟨⟨later, rest⟩, gatheredLater, same⟩ :=
          exists_of_bind_eq_ok afterValue
        cases same
        exact induction known gatheredLater

theorem representable_of_decode {draft : Draft}
    (decoded : Event.decode draft = .ok event) : event.Representable := by
  have ofGathered {kind : Record Event} {draft : Draft}
      (named : ∃ word, lookUp? word kinds = some kind)
      (given : ofGathered kind draft = .ok event) : event.Representable := by
    obtain ⟨word, named⟩ := named
    unfold Event.ofGathered at given
    split at given
    · next decoded =>
        cases given
        exact (yields_representable named).of_decode decoded
    · cases given
  unfold Event.decode at decoded
  split at decoded
  · next members ending =>
      obtain ⟨⟨kind, others⟩, gathered, afterMembers⟩ :=
        exists_of_bind_eq_ok decoded
      obtain ⟨_, -, afterEnding⟩ := exists_of_bind_eq_ok afterMembers
      cases kind with
      | none => cases afterEnding
      | some kind =>
          exact ofGathered (exists_word_of_gather (by simp) gathered)
            afterEnding
  · next ending =>
      obtain ⟨_, -, refused⟩ := exists_of_bind_eq_ok decoded
      cases refused
  · next tag items ending =>
      obtain ⟨kind, isKind, afterTag⟩ := exists_of_bind_eq_ok decoded
      obtain ⟨_, -, afterItems⟩ := exists_of_bind_eq_ok afterTag
      obtain ⟨_, -, afterEnding⟩ := exists_of_bind_eq_ok afterItems
      exact ofGathered (exists_word_of_kindOf isKind) afterEnding
  · cases decoded

end Event

end WorkspaceStartup
