import WorkspaceStartup.Proofs.Event

/-!
# Round trips of the wire types

An encoding decodes to what it encodes, whether it is read as a known value or
as the text that it prints.  Hence one round of decoding and encoding brings
whatever decodes into a form that no further round changes.
-/

namespace WorkspaceStartup

namespace Json

variable {decode : Decoder α} {encode : α → Json} {fits : α → Prop}

/-- The value after rounds of decoding and encoding, as long as it decodes. -/
def recoded? (encode : α → Json) (decode : Decoder α) (value : Json) :
    Nat → Option Json
  | 0 => some value
  | rounds + 1 =>
      ((recoded? encode decode value rounds).bind (decodeValue? decode)).map
        encode

/-- Values that fit come back from their encodings, whatever decodes fits, and
the encoding stays the same from the first round on. -/
structure RoundTrips (encode : α → Json) (decode : Decoder α)
    (fits : α → Prop) : Prop where
  ofValue : ∀ value, fits value →
    (Source.value (encode value)).decode decode = .ok value
  ofText : ∀ value, fits value →
    (Source.text (encode value).print).decode decode = .ok value
  fitting : ∀ (source : Source) (value : α),
    source.decode decode = .ok value → fits value
  rounds : ∀ known value, (Source.value known).decode decode = .ok value →
    ∀ rounds, recoded? encode decode known (rounds + 1) = some (encode value)

theorem decode_value_eq_ok_iff {known : Json} {value : α} :
    (Source.value known).decode decode = .ok value ↔
      decode (.ofJson known) = .ok value := by
  simp only [Source.decode]
  cases decode (.ofJson known) <;> simp

theorem decodeValue?_eq_some_iff {known : Json} {value : α} :
    decodeValue? decode known = some value ↔
      (Source.value known).decode decode = .ok value := by
  rw [decode_value_eq_ok_iff, decodeValue?]
  cases decode (.ofJson known) <;> simp [Except.toOption]

theorem exists_draft_of_decode {source : Source} {value : α}
    (decoded : source.decode decode = .ok value) :
    ∃ draft, decode draft = .ok value := by
  cases source with
  | value known => exact ⟨.ofJson known, decode_value_eq_ok_iff.mp decoded⟩
  | text written =>
      refine ⟨(Draft.ofText written).1, ?_⟩
      simp only [Source.decode] at decoded
      cases read : decode (Draft.ofText written).1 with
      | error defect =>
          rw [read] at decoded
          cases decoded
      | ok result =>
          rw [read] at decoded
          cases more : (Draft.ofText written).2 with
          | false =>
              simp only [more] at decoded
              cases decoded
              rfl
          | true =>
              simp only [more] at decoded
              cases decoded

theorem roundTrips_of_conveys
    (conveys : ∀ value, fits value → (encode value).Conveys decode value)
    (fitting : ∀ draft value, decode draft = .ok value → fits value) :
    RoundTrips encode decode fits where
  ofValue value fit := (conveys value fit).ofValue
  ofText value fit := (conveys value fit).ofText
  fitting source value decoded := by
    obtain ⟨draft, read⟩ := exists_draft_of_decode decoded
    exact fitting draft value read
  rounds known value decoded rounds := by
    induction rounds with
    | zero =>
        simp [recoded?, decodeValue?_eq_some_iff.mpr decoded]
    | succ rounds induction =>
        obtain ⟨draft, read⟩ := exists_draft_of_decode decoded
        have again := (conveys value (fitting draft value read)).ofValue
        rw [recoded?, induction]
        simp [decodeValue?_eq_some_iff.mpr again]

/-- A type all of whose values are conveyed by their encodings. -/
theorem roundTrips_of_all
    (conveys : ∀ value, (encode value).Conveys decode value) :
    RoundTrips encode decode fun _ => True :=
  roundTrips_of_conveys (fun value _ => conveys value) fun _ _ _ => trivial

end Json

open Json

theorem wire_types_round_trip :
    RoundTrips Workspace.encode Workspace.decode (fun _ => True) ∧
    RoundTrips WorkspaceConfig.encode WorkspaceConfig.decode (fun _ => True) ∧
    RoundTrips WorkspaceRuntime.encode WorkspaceRuntime.decode
      (fun _ => True) ∧
    RoundTrips Machine.encode Machine.decode (fun _ => True) ∧
    RoundTrips MachineConfig.encode MachineConfig.decode (fun _ => True) ∧
    RoundTrips MachineRuntime.encode MachineRuntime.decode (fun _ => True) ∧
    RoundTrips Server.encode Server.decode (fun _ => True) ∧
    RoundTrips Link.encode Link.decode (fun _ => True) ∧
    RoundTrips LinkParameter.encode LinkParameter.decode (fun _ => True) ∧
    RoundTrips StartResult.encode StartResult.decode (fun _ => True) ∧
    RoundTrips StatusChange.encode StatusChange.decode (fun _ => True) ∧
    RoundTrips Report.encode Report.decode (fun _ => True) ∧
    RoundTrips Event.encode Event.decode Event.Representable ∧
    ∀ event : Event, event.encode.textMember? "type" = some event.word := by
  refine ⟨roundTrips_of_all Workspace.encode_conveys,
    roundTrips_of_all WorkspaceConfig.encode_conveys,
    roundTrips_of_all WorkspaceRuntime.encode_conveys,
    roundTrips_of_all Machine.encode_conveys,
    roundTrips_of_all MachineConfig.encode_conveys,
    roundTrips_of_all MachineRuntime.encode_conveys,
    roundTrips_of_all Server.encode_conveys,
    roundTrips_of_all Link.encode_conveys,
    roundTrips_of_all LinkParameter.encode_conveys,
    roundTrips_of_all StartResult.encode_conveys,
    roundTrips_of_all StatusChange.encode_conveys,
    roundTrips_of_all Report.encode_conveys, ?_, ?_⟩
  · exact roundTrips_of_conveys (fun _ => Event.encode_conveys)
      fun _ _ => Event.representable_of_decode
  · intro event
    cases event <;> rfl

end WorkspaceStartup
