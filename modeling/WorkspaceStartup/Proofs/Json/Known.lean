import WorkspaceStartup.Proofs.Json.Document
import WorkspaceStartup.Proofs.Json.Record

/-!
# What decoders take

Each decoder takes exactly the known values of its shape, and a record takes an
object just if each of its fields takes the member of its name.
-/

namespace WorkspaceStartup

namespace Json

/-! ## Shapes -/

namespace Decode

variable {value : Json}

theorem text_eq_ok_iff {content : String} :
    text (.ofJson value) = .ok content ↔ value = .text content := by
  cases value <;> simp [Draft.ofJson, text]

theorem bool_eq_ok_iff {truth : Bool} :
    bool (.ofJson value) = .ok truth ↔ value = .bool truth := by
  cases value <;> simp [Draft.ofJson, bool]

theorem natural_eq_ok_iff {limit number : Nat} :
    natural limit (.ofJson value) = .ok number ↔
      value = Json.natural number ∧ number ≤ limit := by
  cases value with
  | number content =>
      cases content with
      | integer content =>
          simp only [Draft.ofJson, natural, Json.natural, Json.number.injEq,
            Number.integer.injEq]
          split
          · simp only [Except.ok.injEq]
            omega
          · simp only [reduceCtorEq, false_iff, not_and]
            omega
      | real => simp [Draft.ofJson, natural, Json.natural]
  | null | bool | text | array | object =>
      simp [Draft.ofJson, natural, Json.natural]

theorem optional_text_eq_ok_iff {content : Option String} :
    optional text (.ofJson value) = .ok content ↔
      value = ofOption .text content := by
  cases value <;> cases content <;>
    simp [Draft.ofJson, optional, text, ofOption, Except.map]

theorem entries_text_eq_ok_iff {members : List (String × Json)}
    {named : List (String × String)} :
    entries text (Draft.ofMembers members) = .ok named ↔
      members = named.map fun entry => (entry.1, .text entry.2) := by
  constructor
  · intro decoded
    induction members generalizing named with
    | nil =>
        cases decoded
        rfl
    | cons member members induction =>
        obtain ⟨label, labelled, decoded⟩ := exists_of_bind_eq_ok decoded
        obtain ⟨content, first, decoded⟩ := exists_of_bind_eq_ok decoded
        obtain ⟨rest, others, decoded⟩ := exists_of_bind_eq_ok decoded
        cases labelled
        cases decoded
        rw [induction others, List.map_cons]
        exact congrArg (· :: _) (Prod.ext rfl (text_eq_ok_iff.mp first))
  · rintro rfl
    exact Conveys.entries fun entry _ => .text entry.2

theorem dictionary_text_eq_ok_iff {named : Dictionary String} :
    dictionary text (.ofJson value) = .ok named ↔
      ∃ listed : List (String × String),
        value = .object (listed.map fun entry => (entry.1, .text entry.2)) ∧
          .ofList listed = named := by
  cases value with
  | object members =>
      simp only [Draft.ofJson, dictionary, object.injEq]
      constructor
      · intro decoded
        obtain ⟨listed, each, decoded⟩ := exists_of_bind_eq_ok decoded
        cases decoded
        exact ⟨listed, entries_text_eq_ok_iff.mp each, rfl⟩
      · rintro ⟨listed, written, rfl⟩
        rw [entries_text_eq_ok_iff.mpr written]
        rfl
  | null | bool | number | text | array =>
      simp [Draft.ofJson, dictionary]

end Decode

/-! ## Records -/

namespace Record

variable {members : List (String × Json)}

theorem decode_object_iff {record : Record α} {result : α}
    (distinct : (members.map (·.1)).Nodup) :
    record.decode (.ofJson (.object members)) = .ok result ↔
      record.read (lookedUp members) = .found result := by
  refine ⟨fun decoded => ?_, decode_object distinct⟩
  simp only [Draft.ofJson, Record.decode, decodeMembers, map_ofMembers]
    at decoded
  rw [Placed.toExcept_eq_ok_iff, Placed.map_eq_found_iff] at decoded
  obtain ⟨pair, both, rfl⟩ := decoded
  exact (Placed.both_eq_found_iff.mp both).2

/-- A field whose member is there takes it just if its decoder does. -/
theorem read_field_iff {name : String} {decode : Decoder α}
    {absent : Option α} {value : Json} {result : α}
    (found : lookUp? name members = some value) :
    (field name decode absent).read (lookedUp members) = .found result ↔
      decode (.ofJson value) = .ok result := by
  refine ⟨fun read => ?_, read_field_of_some found⟩
  cases decoded : decode (.ofJson value) with
  | ok taken =>
      rw [read_field_of_some found decoded] at read
      cases read
      rfl
  | error cause =>
      have located := findMember?_lookedUp name members 0
      rw [found] at located
      obtain ⟨⟨position, draft⟩, known, rfl⟩ :=
        Option.map_eq_some_iff.mp located
      simp [field, known, decoded] at read

theorem read_map_iff {record : Record α} {apply : α → β} {all : Members}
    {result : β} :
    (apply <$> record).read all = .found result ↔
      ∃ value, record.read all = .found value ∧ apply value = result :=
  Placed.map_eq_found_iff

theorem read_seq_iff {function : Record (α → β)} {record : Record α}
    {all : Members} {result : β} :
    (function <*> record).read all = .found result ↔
      ∃ apply, function.read all = .found apply ∧
        ∃ value, record.read all = .found value ∧ apply value = result := by
  constructor
  · intro read
    obtain ⟨⟨apply, value⟩, both, rfl⟩ := Placed.map_eq_found_iff.mp read
    obtain ⟨left, right⟩ := Placed.both_eq_found_iff.mp both
    exact ⟨apply, left, value, right, rfl⟩
  · rintro ⟨apply, left, value, right, rfl⟩
    apply Placed.map_eq_found_iff.mpr
    exact ⟨(apply, value), Placed.both_eq_found_iff.mpr ⟨left, right⟩, rfl⟩

end Record

end Json

end WorkspaceStartup
