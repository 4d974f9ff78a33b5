import WorkspaceStartup.Channel.Message
import WorkspaceStartup.Proofs.Json.Filed
import WorkspaceStartup.Proofs.Json.Padding
import WorkspaceStartup.Proofs.Workspace.Wire

/-!
# What a body says

A body holds a record if it is the JSON text of an object, or that of a text
which is one.  Quoting a body once more is therefore not noticed if it holds an
object, and otherwise the message is the quoted line.  A body that is no JSON is
shown as it was sent.  A body that is JSON, but neither an object nor a text, is
shown as its value is printed, so blanks and the notation of numbers are lost.
-/

namespace WorkspaceStartup

theorem Status.ofWord?_eq_some_iff {word : String} {status : Status} :
    Status.ofWord? word = some status ↔ word = status.word := by
  constructor
  · intro found
    have named := List.find?_some found
    exact (beq_iff_eq.mp named).symm
  · rintro rfl
    exact Status.ofWord?_word status

theorem ChannelEvent.ofWord_eq_reached_iff {word : String} {status : Status} :
    ofWord word = .reached status ↔ word = status.word := by
  rw [← Status.ofWord?_eq_some_iff, ofWord]
  cases Status.ofWord? word <;> simp

theorem Json.textMember?_eq_some_iff {value : Json} {name content : String} :
    value.textMember? name = some content ↔
      value.member? name = some (.text content) := by
  rw [textMember?, Option.bind_eq_some_iff]
  constructor
  · rintro ⟨held, found, isText⟩
    cases held with
    | text => exact found.trans (congrArg (some ∘ Json.text) (Option.some.inj isText))
    | null | bool | number | array | object => cases isText
  · intro found
    exact ⟨.text content, found, rfl⟩

namespace ChannelMessage

variable {kind : ChannelKind} {body inner : String}
  {members : List (String × Json)} {id : WorkspaceId}

/-! ## Bodies and their records -/

/-- The body is the JSON text of an object with these members, or the JSON text
of such a text. -/
def Holds (body : String) (members : List (String × Json)) : Prop :=
  Json.parse? body = some (.object members) ∨
    ∃ inner, Json.parse? body = some (.text inner) ∧
      Json.parse? inner = some (.object members)

/-- The body is an error event that names the workspace. -/
def Accuses (body : String) (id : WorkspaceId) : Prop :=
  ∃ members, Holds body members ∧
    lookUp? "eventType" members = some (.text "ERROR") ∧
    lookUp? "workspaceId" members = some (.text id.text)

theorem bodyValue_of_object
    (parsed : Json.parse? body = some (.object members)) :
    bodyValue body = .object members := by
  simp only [bodyValue, parsed]

theorem bodyValue_of_quoted_object
    (parsed : Json.parse? body = some (.text inner))
    (object : Json.parse? inner = some (.object members)) :
    bodyValue body = .object members := by
  simp only [bodyValue, parsed, object]

theorem bodyValue_of_quoted_line
    (parsed : Json.parse? body = some (.text inner))
    (line : ∀ members, Json.parse? inner ≠ some (.object members)) :
    bodyValue body = .text inner := by
  simp only [bodyValue, parsed]

theorem bodyValue_eq_object_iff :
    bodyValue body = .object members ↔ Holds body members := by
  constructor
  · intro isRecord
    unfold bodyValue at isRecord
    split at isRecord
    · next inner parsed =>
        split at isRecord
        · next object =>
            cases isRecord
            exact .inr ⟨inner, parsed, object⟩
        · cases isRecord
    · next value parsed =>
        subst isRecord
        exact .inl parsed
    · cases isRecord
  · rintro (parsed | ⟨inner, parsed, object⟩)
    · exact bodyValue_of_object parsed
    · exact bodyValue_of_quoted_object parsed object

theorem isErrorFor_ofLine (text : String) :
    (ofLine kind text).isErrorFor id = false :=
  rfl

theorem isErrorFor_ofJson_object_iff :
    (ofJson kind (.object members)).isErrorFor id = true ↔
      lookUp? "eventType" members = some (.text "ERROR") ∧
        lookUp? "workspaceId" members = some (.text id.text) := by
  let record := Json.object members
  have event : (record.textMember? "eventType").map ChannelEvent.ofWord =
      some (.reached .error) ↔ record.textMember? "eventType" = some "ERROR" := by
    simp [ChannelEvent.ofWord_eq_reached_iff, Status.word]
  have named : (record.textMember? "workspaceId").map WorkspaceId.mk = some id ↔
      record.textMember? "workspaceId" = some id.text := by
    cases id
    simp
  simp only [ofJson, isErrorFor, Bool.and_eq_true, beq_iff_eq]
  rw [event, named, Json.textMember?_eq_some_iff, Json.textMember?_eq_some_iff]
  rfl

theorem isErrorFor_parse_iff (kind : ChannelKind) :
    (parse kind body).isErrorFor id = true ↔ Accuses body id := by
  unfold Accuses parse
  simp only [← bodyValue_eq_object_iff]
  cases value : bodyValue body with
  | object members => simp [isErrorFor_ofJson_object_iff]
  | null | bool | number | text | array => simp [ofJson, isErrorFor_ofLine]

/-! ## Quoted bodies -/

/-- The JSON text of an object is no JSON at all when it is too deep. -/
theorem parse?_of_spelled_object (spelled : Json.Spelled body (.object members)) :
    Json.parse? body = none ∨
      ∃ filed, Json.parse? body = some (.object filed) := by
  cases parsed : Json.parse? body with
  | none => exact .inl rfl
  | some value =>
      obtain ⟨document, alsoSpelled, -, rfl⟩ := Json.parse?_eq_some_iff.mp parsed
      have same := congrArg Prod.fst (spelled.symm.trans alsoSpelled)
      cases document with
      | object others => exact .inr ⟨_, rfl⟩
      | null | bool | number | text | array => cases same

theorem parse?_quoted (inner : String) :
    Json.parse? (Json.text inner).print = some (.text inner) :=
  Json.parse?_print trivial (Nat.zero_le _)

/-- Quoting a body once more is not noticed if it is the text of an object.  Any
other text that is quoted is a line, which accuses no workspace. -/
theorem quoting_is_transparent (kind : ChannelKind) (inner : String) :
    (∀ members, Json.Spelled inner (.object members) →
      parse kind (Json.text inner).print = parse kind inner) ∧
    ((∀ members, Json.parse? inner ≠ some (.object members)) →
      parse kind (Json.text inner).print = ofLine kind inner ∧
        (parse kind (Json.text inner).print).displayLine = inner ∧
        ∀ id, (parse kind (Json.text inner).print).isErrorFor id = false) := by
  constructor
  · intro members spelled
    rcases parse?_of_spelled_object spelled with unread | ⟨filed, parsed⟩
    · have quoted := bodyValue_of_quoted_line (parse?_quoted inner)
        (by simp [unread])
      have plain : bodyValue inner = .text inner := by
        simp only [bodyValue, unread]
      rw [parse, parse, quoted, plain]
    · rw [parse, parse, bodyValue_of_object parsed,
        bodyValue_of_quoted_object (parse?_quoted inner) parsed]
  · intro line
    have message : parse kind (Json.text inner).print = ofLine kind inner := by
      rw [parse, bodyValue_of_quoted_line (parse?_quoted inner) line]
      rfl
    rw [message]
    exact ⟨rfl, rfl, fun _ => rfl⟩

theorem quoting_is_transparent_to_a_record :
    let record := Json.object
      [("machineName", .text "db"), ("content", .text "say \"ready\"")]
    Json.Spelled record.print record ∧
      parse .output (Json.text record.print).print =
        parse .output record.print ∧
      (parse .output (Json.text record.print).print).displayLine =
        "[db] say \"ready\"" ∧
      (parse .output (Json.text "[db]").print).displayLine = "[db]" := by
  intro record
  have whole : record.Whole := by
    simp [record, Json.Whole, Json.WholeMembers]
  have spelled : Json.Spelled record.print record := Json.Draft.ofText_print whole
  have parsed : Json.parse? record.print = some (.object
      [("content", .text "say \"ready\""), ("machineName", .text "db")]) :=
    Json.parse?_print whole (by decide)
  have same := (quoting_is_transparent .output record.print).1 _ spelled
  refine ⟨spelled, same, ?_, ?_⟩
  · rw [same, parse, bodyValue_of_object parsed]
    rfl
  · have unread : Json.parse? "[db]" = none := rfl
    exact ((quoting_is_transparent .output "[db]").2 (by simp [unread])).2.1

/-! ## Bodies without a record -/

theorem displayLine_of_unread (unread : Json.parse? body = none) :
    (parse kind body).displayLine = body := by
  have plain : bodyValue body = .text body := by
    simp only [bodyValue, unread]
  rw [parse, plain]
  rfl

/-- A value that is neither an object nor a text is shown as it is printed. -/
theorem displayLine_of_plain (kind : ChannelKind) {value : Json}
    (parsed : Json.parse? body = some value)
    (noRecord : ∀ members, value ≠ .object members)
    (noText : ∀ text, value ≠ .text text) :
    (parse kind body).displayLine = value.print := by
  cases value with
  | object members => exact (noRecord members rfl).elim
  | text text => exact (noText text rfl).elim
  | null | bool | number | array =>
      simp only [parse, bodyValue, parsed]
      rfl

theorem parse?_padded {before after : String} {value : Json}
    (parsed : Json.parse? body = some value)
    (blanksBefore : Json.Blanks before.toList)
    (blanksAfter : Json.Blanks after.toList) :
    Json.parse? (before ++ body ++ after) = some value := by
  obtain ⟨document, spelled, shallow, rfl⟩ := Json.parse?_eq_some_iff.mp parsed
  exact Json.parse?_eq_some_iff.mpr
    ⟨document, spelled.padded blanksBefore blanksAfter, shallow, rfl⟩

/-- A body that is the text of neither an object nor a text is shown as sent if
it is no JSON.  If it is the text of another value, the line that is shown is
what this value prints, whatever blanks stand around it; so the body is shown as
sent just if it is written in the way that values are printed.  A line without
real numbers still says the same value. -/
theorem lines_are_shown_as_sent_or_printed (kind : ChannelKind) (body : String)
    (noRecord : ∀ members, Json.parse? body ≠ some (.object members))
    (noText : ∀ text, Json.parse? body ≠ some (.text text)) :
    (Json.parse? body = none → (parse kind body).displayLine = body) ∧
    (∀ value, Json.parse? body = some value →
      (∀ before after : String, Json.Blanks before.toList →
        Json.Blanks after.toList →
        (parse kind (before ++ body ++ after)).displayLine = value.print) ∧
      ((parse kind body).displayLine = body ↔ body = value.print) ∧
      (value.Whole →
        Json.parse? (parse kind body).displayLine = some value)) := by
  refine ⟨displayLine_of_unread, fun value parsed => ?_⟩
  have notRecord (members : List (String × Json)) : value ≠ .object members := by
    rintro rfl
    exact noRecord members parsed
  have notText (text : String) : value ≠ .text text := by
    rintro rfl
    exact noText text parsed
  have shown := displayLine_of_plain kind parsed notRecord notText
  refine ⟨fun before after blanksBefore blanksAfter => ?_, ?_, fun whole => ?_⟩
  · exact displayLine_of_plain kind
      (parse?_padded parsed blanksBefore blanksAfter) notRecord notText
  · rw [shown]
    exact eq_comm
  · rw [shown]
    exact Json.parse?_print_of_parse? parsed whole

/-- The blanks around a number are not shown. -/
theorem lines_are_shown_as_sent_or_printed_of_number :
    Json.parse? "42" = some (.natural 42) ∧
      (parse .agent "42").displayLine = "42" ∧
      (parse .agent ("  " ++ "42" ++ "\n")).displayLine = "42" := by
  have parsed : Json.parse? "42" = some (.natural 42) := rfl
  have law := lines_are_shown_as_sent_or_printed .agent "42"
    (by simp [parsed, Json.natural]) (by simp [parsed, Json.natural])
  obtain ⟨padded, asSent, -⟩ := law.2 _ parsed
  refine ⟨parsed, asSent.mpr rfl, ?_⟩
  exact padded "  " "\n" (by simp [Json.Blanks, Json.isSpace])
    (by simp [Json.Blanks, Json.isSpace])

/-- A list with a blank in it is neither an object nor a text, and it is not
shown as it was sent. -/
theorem list_is_shown_without_its_blank :
    Json.parse? "[1, 2]" = some (.array [.natural 1, .natural 2]) ∧
      (parse .output "[1, 2]").displayLine = "[1,2]" ∧
      (parse .output "[1, 2]").displayLine ≠ "[1, 2]" := by
  have parsed : Json.parse? "[1, 2]" =
      some (.array [.natural 1, .natural 2]) := rfl
  have shown : (parse .output "[1, 2]").displayLine = "[1,2]" :=
    displayLine_of_plain .output parsed nofun nofun
  refine ⟨parsed, shown, ?_⟩
  rw [shown]
  decide

end ChannelMessage

end WorkspaceStartup
