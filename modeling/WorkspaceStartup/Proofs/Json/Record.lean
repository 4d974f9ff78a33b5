import WorkspaceStartup.Json.Record
import WorkspaceStartup.Proofs.Dictionary
import WorkspaceStartup.Proofs.Json.Printer

/-!
# Records read from what they encode

A value conveys a result to a decoder when the decoder takes it to that result,
both as a known value and as the text that it prints.  A record is conveyed by
members that spell its fields one after the other; further members under other
names, and another order of the members, do not matter.  In the other direction
a property of whatever the fields can read is one of whatever the record reads.
-/

namespace WorkspaceStartup

namespace Json

/-- The value is free of real numbers and decodes to the result. -/
structure Conveys (value : Json) (decode : Decoder α) (result : α) : Prop where
  whole : value.Whole
  decoded : decode (.ofJson value) = .ok result

namespace Conveys

variable {decode : Decoder α} {encode : α → Json} {value : Json} {result : α}

theorem ofValue (conveys : value.Conveys decode result) :
    (Source.value value).decode decode = .ok result := by
  simp [Source.decode, conveys.decoded]

theorem ofText (conveys : value.Conveys decode result) :
    (Source.text value.print).decode decode = .ok result :=
  Source.decode_text_print conveys.whole conveys.decoded

theorem text (content : String) :
    (Json.text content).Conveys Decode.text content := ⟨trivial, rfl⟩

theorem natural {number limit : Nat} (within : number ≤ limit)
    (word : limit ≤ wordLimit) :
    (Json.natural number).Conveys (Decode.natural limit) number where
  whole := natural_whole (Nat.le_trans within word)
  decoded := by simp [Json.natural, Draft.ofJson, Decode.natural, within]

theorem choice {find? : String → Option α} {content : Decoder Unit}
    {word : String} (found : find? word = some result) :
    (Json.text word).Conveys (Decode.choice find? content) result where
  whole := trivial
  decoded := by simp [Draft.ofJson, Decode.choice, Decode.named, found]

/-- A value that is not null conveys itself where it may be absent. -/
theorem optional (conveys : value.Conveys decode result)
    (present : value ≠ .null) :
    value.Conveys (Decode.optional decode) (some result) where
  whole := conveys.whole
  decoded := by
    have decoded := conveys.decoded
    cases value with
    | null => exact (present rfl).elim
    | bool | number | text | array | object =>
        simp only [Draft.ofJson] at decoded
        simp [Draft.ofJson, Decode.optional, decoded, Except.map]

theorem items {values : List α}
    (each : ∀ value ∈ values, (encode value).Conveys decode value) :
    Decode.items decode (Draft.ofItems (values.map encode)) = .ok values := by
  induction values with
  | nil => rfl
  | cons value values induction =>
      have first := (each value List.mem_cons_self).decoded
      have others := induction fun other member =>
        each other (List.mem_cons_of_mem value member)
      simp only [List.map_cons, Draft.ofItems, Decode.items, first, others]
      rfl

theorem list {values : List α}
    (each : ∀ value ∈ values, (encode value).Conveys decode value) :
    (Json.array (values.map encode)).Conveys (Decode.list decode) values where
  whole := by
    apply wholeItems_iff.mpr
    intro item member
    obtain ⟨value, inValues, rfl⟩ := List.mem_map.mp member
    exact (each value inValues).whole
  decoded := by
    simp only [Draft.ofJson, Decode.list, items each]
    rfl

theorem entries {named : List (String × α)}
    (each : ∀ entry ∈ named, (encode entry.2).Conveys decode entry.2) :
    Decode.entries decode
        (Draft.ofMembers (named.map fun entry => (entry.1, encode entry.2))) =
      .ok named := by
  induction named with
  | nil => rfl
  | cons entry named induction =>
      have first := (each entry List.mem_cons_self).decoded
      have others := induction fun other member =>
        each other (List.mem_cons_of_mem entry member)
      simp only [List.map_cons, Draft.ofMembers, Decode.entries, first, others]
      rfl

theorem dictionary {named : Dictionary α}
    (each : ∀ entry ∈ named.entries,
      (encode entry.2).Conveys decode entry.2) :
    (Json.object (named.entries.map fun entry =>
      (entry.1, encode entry.2))).Conveys (Decode.dictionary decode) named where
  whole := by
    apply wholeMembers_iff.mpr
    intro item member
    obtain ⟨entry, inEntries, rfl⟩ := List.mem_map.mp member
    exact (each entry inEntries).whole
  decoded := by
    simp only [Draft.ofJson, Decode.dictionary, entries each]
    exact congrArg Except.ok named.ofList_entries

end Conveys

/-! ## Members of a record -/

namespace Placed

theorem map_eq_found_iff {placed : Placed α} {apply : α → β} {result : β} :
    placed.map apply = .found result ↔
      ∃ value, placed = .found value ∧ apply value = result := by
  cases placed <;> simp [map]

theorem both_eq_found_iff {left : Placed α} {right : Placed β}
    {pair : α × β} :
    left.both right = .found pair ↔
      left = .found pair.1 ∧ right = .found pair.2 := by
  obtain ⟨first, second⟩ := pair
  cases left with
  | found => cases right <;> simp [both]
  | defect leftPlace =>
      cases right with
      | found => simp [both]
      | defect rightPlace =>
          by_cases order : rightPlace < leftPlace <;> simp [both, order]

theorem toExcept_eq_ok_iff {placed : Placed α} {result : α} :
    placed.toExcept = .ok result ↔ placed = .found result := by
  cases placed <;> simp [toExcept]

end Placed

/-- Members as a record looks them up. -/
def lookedUp (members : List (String × Json)) : Members :=
  members.map fun member => (some member.1, .ofJson member.2)

theorem findMember?_lookedUp (name : String) (members : List (String × Json))
    (position : Nat) :
    (findMember? name (lookedUp members) position).map (·.2) =
      (lookUp? name members).map Draft.ofJson := by
  induction members generalizing position with
  | nil => rfl
  | cons member members induction =>
      by_cases same : member.1 = name
      · simp [lookedUp, findMember?, same]
      · have others := induction (position + 1)
        simpa [lookedUp, findMember?, same] using others

mutual

/-- A value that is known has no fault. -/
theorem pass_ofJson : (value : Json) → (Draft.ofJson value).pass = none
  | .null | .bool _ | .number _ | .text _ => rfl
  | .array items => by
      simp [Draft.ofJson, Draft.pass, passItems_ofItems items]
  | .object members => by
      simp [Draft.ofJson, Draft.pass, passMembers_ofMembers members]

theorem passItems_ofItems :
    (items : List Json) → Draft.passItems (Draft.ofItems items) = none
  | [] => rfl
  | item :: items => by
      simp [Draft.ofItems, Draft.passItems, pass_ofJson item,
        passItems_ofItems items]

theorem passMembers_ofMembers :
    (members : List (String × Json)) →
      Draft.passMembers (Draft.ofMembers members) = none
  | [] => rfl
  | (name, value) :: members => by
      simp [Draft.ofMembers, Draft.passMembers, Draft.passName,
        pass_ofJson value, passMembers_ofMembers members]

end

namespace Record

variable {members : List (String × Json)} {name : String} {decode : Decoder α}
  {result : α}

theorem read_field_of_some {absent : Option α} {value : Json}
    (found : lookUp? name members = some value)
    (decoded : decode (.ofJson value) = .ok result) :
    (field name decode absent).read (lookedUp members) = .found result := by
  have located := findMember?_lookedUp name members 0
  rw [found] at located
  obtain ⟨⟨position, draft⟩, known, rfl⟩ := Option.map_eq_some_iff.mp located
  simp [field, known, decoded]

theorem read_field_of_none (missing : lookUp? name members = none) :
    (field name decode (some result)).read (lookedUp members) =
      .found result := by
  have located := findMember?_lookedUp name members 0
  rw [missing] at located
  simp [field, Option.map_eq_none_iff.mp located]

/-- Members under distinct names are in order by themselves. -/
theorem upkeep_eq_found (names seen : List String) (position : Nat)
    (distinct : (members.map (·.1)).Nodup)
    (unseen : ∀ member ∈ members, member.1 ∉ seen) :
    upkeep names seen position none (Draft.ofMembers members) = .found () := by
  induction members generalizing seen position with
  | nil => rfl
  | cons member members induction =>
      obtain ⟨differs, distinct⟩ := List.nodup_cons.mp distinct
      have fresh := unseen member List.mem_cons_self
      have others : ∀ other ∈ members, other.1 ∉ seen := by
        intro other inMembers
        exact unseen other (List.mem_cons_of_mem member inMembers)
      have further : ∀ other ∈ members, other.1 ∉ member.1 :: seen := by
        intro other inMembers inSeen
        rcases List.mem_cons.mp inSeen with same | earlier
        · exact differs (List.mem_map.mpr ⟨other, inMembers, same⟩)
        · exact others other inMembers earlier
      by_cases isField : member.1 ∈ names
      · simpa [upkeep, Draft.ofMembers, Draft.nameOf, isField, fresh] using
          induction _ _ distinct further
      · simpa [upkeep, Draft.ofMembers, Draft.nameOf, isField,
          pass_ofJson] using induction _ _ distinct others

theorem map_ofMembers (members : List (String × Json)) :
    ((Draft.ofMembers members).map fun member =>
      (member.1.nameOf.toOption, member.2)) = lookedUp members := by
  induction members with
  | nil => rfl
  | cons member members induction =>
      simp only [Draft.ofMembers, List.map_cons, induction, lookedUp]
      rfl

/-- A record is what is read from the members of an object, as long as no two
of them have the same name. -/
theorem decode_object {record : Record α}
    (distinct : (members.map (·.1)).Nodup)
    (read : record.read (lookedUp members) = .found result) :
    record.decode (.ofJson (.object members)) = .ok result := by
  have upkept := upkeep_eq_found record.names [] 0 distinct (by simp)
  simp only [Draft.ofJson, Record.decode, decodeMembers, Option.map_none,
    upkept, map_ofMembers, read]
  rfl

/-- The members are the fields of the record in their order, some of them left
out, and the record reads the result from whatever has these members. -/
structure Spells (record : Record α) (members : List (String × Json))
    (result : α) : Prop where
  listed : (members.map (·.1)).Sublist record.names
  whole : WholeMembers members
  read : ∀ {all : List (String × Json)},
    (∀ name ∈ record.names, lookUp? name all = lookUp? name members) →
      record.read (lookedUp all) = .found result

namespace Spells

variable {record : Record α} {value : Json}

theorem field {absent : Option α} (conveys : value.Conveys decode result) :
    (Record.field name decode absent).Spells [(name, value)] result where
  listed := List.Sublist.refl _
  whole := ⟨conveys.whole, trivial⟩
  read := by
    intro all agrees
    have found := agrees name List.mem_cons_self
    exact read_field_of_some (found.trans (by simp)) conveys.decoded

theorem text (name : String) (absent : Option String) (content : String) :
    (Record.field name Decode.text absent).Spells [(name, .text content)]
      content :=
  field (.text content)

theorem list {encode : α → Json} (name : String) (values : List α)
    (each : ∀ value ∈ values, (encode value).Conveys decode value) :
    (Record.field name (Decode.list decode) (some [])).Spells
      [(name, .array (values.map encode))] values :=
  field (.list each)

theorem dictionary {encode : α → Json} (name : String) (named : Dictionary α)
    (each : ∀ entry ∈ named.entries,
      (encode entry.2).Conveys decode entry.2) :
    (Record.field name (Decode.dictionary decode) (some .empty)).Spells
      [(name, .object (named.entries.map fun entry =>
        (entry.1, encode entry.2)))] named :=
  field (.dictionary each)

/-- A field that is left out when it is absent. -/
theorem optionalField {encode : α → Json} (name : String) (content : Option α)
    (conveys : ∀ value ∈ content, (encode value).Conveys decode value)
    (present : ∀ value ∈ content, encode value ≠ .null) :
    (Record.field name (Decode.optional decode) (some none)).Spells
      (optionalMember name encode content) content := by
  cases content with
  | none =>
      constructor
      · exact List.nil_sublist _
      · exact trivial
      · intro all agrees
        exact read_field_of_none (agrees name List.mem_cons_self)
  | some value =>
      exact field ((conveys value rfl).optional (present value rfl))

theorem optionalText (name : String) (content : Option String) :
    (Record.field name (Decode.optional Decode.text) (some none)).Spells
      (optionalMember name .text content) content :=
  optionalField name content (fun value _ => .text value) nofun

theorem map (spells : record.Spells members result) (apply : α → β) :
    (apply <$> record).Spells members (apply result) where
  listed := spells.listed
  whole := spells.whole
  read := by
    intro all agrees
    exact congrArg (Placed.map apply) (spells.read agrees)

theorem lookUp?_eq_none (spells : record.Spells members result)
    (foreign : name ∉ record.names) : lookUp? name members = none := by
  have absent : name ∉ members.map (·.1) :=
    fun member => foreign (spells.listed.subset member)
  exact lookUp?_eq_none_iff.mpr absent

/-- Fields of different names are spelled one after the other. -/
theorem seq {function : Record (α → β)} {apply : α → β}
    {earlier later : List (String × Json)}
    (left : function.Spells earlier apply) (right : record.Spells later result)
    (apart : ∀ name ∈ function.names, name ∉ record.names) :
    (function <*> record).Spells (earlier ++ later) (apply result) where
  listed := by
    rw [List.map_append]
    exact left.listed.append right.listed
  whole := by
    apply wholeMembers_iff.mpr
    intro member inMembers
    rcases List.mem_append.mp inMembers with inEarlier | inLater
    · exact wholeMembers_iff.mp left.whole member inEarlier
    · exact wholeMembers_iff.mp right.whole member inLater
  read := by
    intro all agrees
    have ofLeft : ∀ name ∈ function.names,
        lookUp? name all = lookUp? name earlier := by
      intro name isField
      have elsewhere := right.lookUp?_eq_none (apart name isField)
      rw [agrees name (List.mem_append_left _ isField), lookUp?_append,
        elsewhere, Option.or_none]
    have ofRight : ∀ name ∈ record.names,
        lookUp? name all = lookUp? name later := by
      intro name isField
      have elsewhere := left.lookUp?_eq_none fun inLeft =>
        apart name inLeft isField
      rw [agrees name (List.mem_append_right _ isField), lookUp?_append,
        elsewhere, Option.none_or]
    change (Placed.both (function.read (lookedUp all))
      (record.read (lookedUp all))).map _ = _
    rw [left.read ofLeft, right.read ofRight]
    rfl

/-- The object of the members conveys the record. -/
theorem conveys (spells : record.Spells members result)
    (distinct : record.names.Nodup) :
    (Json.object members).Conveys record.decode result where
  whole := spells.whole
  decoded := decode_object (spells.listed.nodup distinct)
    (spells.read fun _ _ => rfl)

end Spells

/-! ## What a record can read -/

/-- Whatever the record reads has the property. -/
def Yields (record : Record α) (property : α → Prop) : Prop :=
  ∀ members value, record.read members = .found value → property value

namespace Yields

variable {record : Record α} {property : α → Prop}

theorem any : record.Yields fun _ => True := fun _ _ _ => trivial

theorem map {apply : α → β} {outcome : β → Prop}
    (yields : record.Yields property)
    (carried : ∀ value, property value → outcome (apply value)) :
    (apply <$> record).Yields outcome := by
  intro members value read
  obtain ⟨inner, found, rfl⟩ := Placed.map_eq_found_iff.mp read
  exact carried inner (yields members inner found)

theorem seq {function : Record (α → β)} {outcome : β → Prop}
    (left : function.Yields fun apply =>
      ∀ value, property value → outcome (apply value))
    (right : record.Yields property) :
    (function <*> record).Yields outcome := by
  intro members value read
  obtain ⟨pair, found, rfl⟩ := Placed.map_eq_found_iff.mp read
  obtain ⟨ofLeft, ofRight⟩ := Placed.both_eq_found_iff.mp found
  exact left members pair.1 ofLeft pair.2 (right members pair.2 ofRight)

/-- What a field reads was decoded, unless the field may be absent. -/
theorem field (decodes : ∀ {draft value}, decode draft = .ok value →
    property value) : (Record.field name decode none).Yields property := by
  intro members value read
  simp only [Record.field] at read
  split at read
  · split at read
    · next decoded =>
        cases read
        exact decodes decoded
    · cases read
  · cases read

theorem of_decode {draft : Draft} {value : α} (yields : record.Yields property)
    (decoded : record.decode draft = .ok value) : property value := by
  have ofMembers {members : List (Draft × Draft)} {ending : Option Defect}
      (decoded : record.decodeMembers members ending = .ok value) :
      property value := by
    have found := Placed.toExcept_eq_ok_iff.mp decoded
    obtain ⟨pair, both, rfl⟩ := Placed.map_eq_found_iff.mp found
    exact yields _ pair.2 (Placed.both_eq_found_iff.mp both).2
  cases draft with
  | object members ending => exact ofMembers decoded
  | array items ending => exact ofMembers decoded
  | null | bool | number | text | broken => cases decoded

end Yields

end Record

end Json

end WorkspaceStartup
