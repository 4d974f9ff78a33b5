import WorkspaceStartup.Json.Decode
import WorkspaceStartup.Proofs.Json.Token

/-!
# Printed values are read back

The text that a value prints is read as the draft of that value, with nothing
left over: every array and object, and every name and text in them, comes back
in the order in which it was written.  Only real numbers are left out, whose
shortest decimal form is not looked into here.
-/

namespace WorkspaceStartup.Json

mutual

/-- Every number in the value is an integer of sixty-four bits. -/
def Whole : Json → Prop
  | .null | .bool _ | .text _ => True
  | .number (.integer value) => IsWord value
  | .number (.real _) => False
  | .array items => WholeItems items
  | .object members => WholeMembers members

def WholeItems : List Json → Prop
  | [] => True
  | item :: items => item.Whole ∧ WholeItems items

def WholeMembers : List (String × Json) → Prop
  | [] => True
  | (_, value) :: members => value.Whole ∧ WholeMembers members

end

theorem wholeItems_iff {items : List Json} :
    WholeItems items ↔ ∀ item ∈ items, item.Whole := by
  induction items with
  | nil => simp [WholeItems]
  | cons item items induction => simp [WholeItems, induction]

theorem wholeMembers_iff {members : List (String × Json)} :
    WholeMembers members ↔ ∀ member ∈ members, member.2.Whole := by
  induction members with
  | nil => simp [WholeMembers]
  | cons member members induction => simp [WholeMembers, induction]

theorem natural_whole {value : Nat} (word : value ≤ wordLimit) :
    (natural value).Whole := by
  unfold wordLimit at word
  simp only [natural, Whole, IsWord, wordLimit]
  omega

namespace Draft

variable {frames : List Draft.Frame} {rest : List Char}

/-- The first item of an array is read like any other value, since no value
starts as an array ends. -/
theorem readAll_firstItem (item : Json) (whole : item.Whole)
    (closes : Closes rest) :
    readAll (.firstItem frames) (tokensFrom .between (item.write ++ rest)) =
      readAll (.value (.array [] :: frames))
        (tokensFrom .between (item.write ++ rest)) := by
  cases item with
  | null => rfl
  | bool value => cases value <;> rfl
  | number number =>
      cases number with
      | integer value =>
          rw [Json.write, tokensFrom_integer value closes]
          rfl
      | real => exact whole.elim
  | text content =>
      rw [Json.write, tokensFrom_quote]
      rfl
  | array items => rfl
  | object members => rfl

theorem exists_writeItems (rest : List Char) (item : Json)
    (items : List Json) :
    ∃ tail, Closes tail ∧
      writeItems (item :: items) ++ ']' :: rest = item.write ++ tail := by
  cases items with
  | nil => exact ⟨']' :: rest, by simp [Closes], rfl⟩
  | cons next items =>
      refine ⟨',' :: (writeItems (next :: items) ++ ']' :: rest),
        by simp [Closes], ?_⟩
      rw [writeItems, List.append_assoc, List.cons_append]

/-- A name and the colon after it, at the place of a name. -/
theorem readAll_name (earlier : List (Draft × Draft)) (name : String) :
    readAll (.name earlier frames)
        (tokensFrom .between (quote name ++ ':' :: rest)) =
      readAll (.value (.member earlier (.text (.ok name)) :: frames))
        (tokensFrom .between rest) := by
  rw [tokensFrom_quote]
  rfl

theorem readAll_firstName (name : String) :
    readAll (.firstName frames) (tokensFrom .between (quote name ++ rest)) =
      readAll (.name [] frames)
        (tokensFrom .between (quote name ++ rest)) := by
  rw [tokensFrom_quote]
  rfl

theorem exists_writeMembers (rest : List Char) (member : String × Json)
    (members : List (String × Json)) :
    ∃ tail, writeMembers (member :: members) ++ '}' :: rest =
      quote member.1 ++ tail := by
  cases members with
  | nil =>
      refine ⟨':' :: (member.2.write ++ '}' :: rest), ?_⟩
      rw [writeMembers, List.append_assoc, List.cons_append]
  | cons next members =>
      refine ⟨':' :: (member.2.write ++
        ',' :: (writeMembers (next :: members) ++ '}' :: rest)), ?_⟩
      rw [writeMembers, List.append_assoc, List.cons_append, List.append_assoc,
        List.cons_append]

mutual

/-- A printed value is read to its end and put in its place. -/
theorem readAll_write (frames : List Draft.Frame) (rest : List Char) :
    (value : Json) → value.Whole → Closes rest →
      readAll (.value frames) (tokensFrom .between (value.write ++ rest)) =
        readAll (put (ofJson value) frames) (tokensFrom .between rest)
  | .null, _, _ => rfl
  | .bool true, _, _ => rfl
  | .bool false, _, _ => rfl
  | .number (.integer value), whole, closes => by
      have number := value?_ofNatural whole
      rw [Json.write, tokensFrom_integer value closes]
      simp [readAll, read, readValue, ofToken?, number, ofJson]
  | .text content, _, _ => by
      rw [Json.write, tokensFrom_quote]
      rfl
  | .array [], _, _ => rfl
  | .array (item :: items), whole, _ => by
      obtain ⟨tail, closes, start⟩ := exists_writeItems rest item items
      have opened : readAll (.value frames)
            (tokensFrom .between (Json.write (.array (item :: items)) ++ rest)) =
          readAll (.firstItem frames) (tokensFrom .between
            (writeItems (item :: items) ++ ']' :: rest)) := by
        rw [Json.write, List.cons_append, List.append_assoc]
        rfl
      rw [opened, start, readAll_firstItem item whole.1 closes, ← start]
      exact readAll_writeItems [] frames rest (item :: items) (by simp) whole
  | .object [], _, _ => rfl
  | .object (member :: members), whole, _ => by
      obtain ⟨tail, start⟩ := exists_writeMembers rest member members
      have opened : readAll (.value frames) (tokensFrom .between
            (Json.write (.object (member :: members)) ++ rest)) =
          readAll (.firstName frames) (tokensFrom .between
            (writeMembers (member :: members) ++ '}' :: rest)) := by
        rw [Json.write, List.cons_append, List.append_assoc]
        rfl
      rw [opened, start, readAll_firstName, ← start]
      exact readAll_writeMembers [] frames rest (member :: members) (by simp)
        whole
termination_by value => sizeOf value

theorem readAll_writeItems (earlier : List Draft) (frames : List Draft.Frame)
    (rest : List Char) :
    (items : List Json) → items ≠ [] → WholeItems items →
      readAll (.value (.array earlier :: frames))
          (tokensFrom .between (writeItems items ++ ']' :: rest)) =
        readAll (put (.array (earlier.reverse ++ ofItems items) none) frames)
          (tokensFrom .between rest)
  | [], nonempty, _ => (nonempty rfl).elim
  | [item], _, whole => by
      have only := readAll_write (.array earlier :: frames)
        (']' :: rest) item whole.1 (by simp [Closes])
      have listed : (ofJson item :: earlier).reverse =
          earlier.reverse ++ ofItems [item] := by simp [ofItems]
      rw [writeItems, only, ← listed]
      rfl
  | item :: next :: items, _, whole => by
      have first := readAll_write (.array earlier :: frames)
        (',' :: (writeItems (next :: items) ++ ']' :: rest)) item
        whole.1 (by simp [Closes])
      have others := readAll_writeItems (ofJson item :: earlier) frames
        rest (next :: items) (by simp) whole.2
      have listed : (ofJson item :: earlier).reverse ++ ofItems (next :: items) =
          earlier.reverse ++ ofItems (item :: next :: items) := by simp [ofItems]
      rw [writeItems, List.append_assoc, List.cons_append, first, ← listed,
        ← others]
      rfl
termination_by items => sizeOf items

theorem readAll_writeMembers (earlier : List (Draft × Draft))
    (frames : List Draft.Frame) (rest : List Char) :
    (members : List (String × Json)) → members ≠ [] →
      WholeMembers members →
      readAll (.name earlier frames)
          (tokensFrom .between (writeMembers members ++ '}' :: rest)) =
        readAll
          (put (.object (earlier.reverse ++ ofMembers members) none) frames)
          (tokensFrom .between rest)
  | [], nonempty, _ => (nonempty rfl).elim
  | [(name, value)], _, whole => by
      have only := readAll_write (.member earlier (.text (.ok name)) :: frames)
        ('}' :: rest) value whole.1 (by simp [Closes])
      have listed : ((.text (.ok name), ofJson value) :: earlier).reverse =
          earlier.reverse ++ ofMembers [(name, value)] := by simp [ofMembers]
      rw [writeMembers, List.append_assoc, List.cons_append, readAll_name,
        only, ← listed]
      rfl
  | (name, value) :: next :: members, _, whole => by
      have first := readAll_write (.member earlier (.text (.ok name)) :: frames)
        (',' :: (writeMembers (next :: members) ++ '}' :: rest)) value
        whole.1 (by simp [Closes])
      have others := readAll_writeMembers
        ((.text (.ok name), ofJson value) :: earlier) frames rest
        (next :: members) (by simp) whole.2
      have listed :
          ((.text (.ok name), ofJson value) :: earlier).reverse ++
              ofMembers (next :: members) =
            earlier.reverse ++ ofMembers ((name, value) :: next :: members) := by
        simp [ofMembers]
      rw [writeMembers, List.append_assoc, List.cons_append, List.append_assoc,
        List.cons_append, readAll_name, first, ← listed, ← others]
      rfl
termination_by members => sizeOf members

end

/-- The text of a value is read as that value, and nothing is left over. -/
theorem ofText_print {value : Json} (whole : value.Whole) :
    ofText value.print = (ofJson value, false) := by
  have read := readAll_write [] [] value whole (by simp [Closes])
  rw [List.append_nil] at read
  simp only [ofText, print, String.toList_ofList, tokens, read]
  rfl

end Draft

/-- Printing is no loss to a decoder that takes the value itself. -/
theorem Source.decode_text_print {decode : Decoder α} {value : Json} {result : α}
    (whole : value.Whole) (decoded : decode (.ofJson value) = .ok result) :
    (Source.text value.print).decode decode = .ok result := by
  simp [Source.decode, Draft.ofText_print whole, decoded]

/-! ## Parsing -/

mutual

/-- How many arrays and objects stand around each other. -/
def depth : Json → Nat
  | .null | .bool _ | .number _ | .text _ => 0
  | .array items => depthItems items + 1
  | .object members => depthMembers members + 1

def depthItems : List Json → Nat
  | [] => 0
  | item :: items => max item.depth (depthItems items)

def depthMembers : List (String × Json) → Nat
  | [] => 0
  | (_, value) :: members => max value.depth (depthMembers members)

end

mutual

/-- The value with the members of every object filed by name. -/
def sorted : Json → Json
  | .null => .null
  | .bool value => .bool value
  | .number value => .number value
  | .text value => .text value
  | .array items => .array (sortedItems items)
  | .object members => .filed (sortedMembers members)

def sortedItems : List Json → List Json
  | [] => []
  | item :: items => item.sorted :: sortedItems items

def sortedMembers : List (String × Json) → List (String × Json)
  | [] => []
  | (name, value) :: members => (name, value.sorted) :: sortedMembers members

end

namespace Draft

mutual

theorem force_ofJson (room : Nat) :
    (value : Json) → value.depth ≤ room →
      force room (ofJson value) = .ok value.sorted
  | .null, _ | .bool _, _ | .number _, _ | .text _, _ => rfl
  | .array items, within => by
      have inner : depthItems items ≤ room - 1 := Nat.le_sub_one_of_lt within
      have spare : room ≠ 0 :=
        Nat.ne_of_gt (Nat.lt_of_lt_of_le (Nat.succ_pos _) within)
      simp only [ofJson, force, spare, if_false,
        forceItems_ofItems _ items inner]
      rfl
  | .object members, within => by
      have inner : depthMembers members ≤ room - 1 :=
        Nat.le_sub_one_of_lt within
      have spare : room ≠ 0 :=
        Nat.ne_of_gt (Nat.lt_of_lt_of_le (Nat.succ_pos _) within)
      simp only [ofJson, force, spare, if_false,
        forceMembers_ofMembers _ members inner]
      rfl

theorem forceItems_ofItems (room : Nat) :
    (items : List Json) → depthItems items ≤ room →
      forceItems room (ofItems items) = .ok (sortedItems items)
  | [], _ => rfl
  | item :: items, within => by
      obtain ⟨first, others⟩ := Nat.max_le.mp within
      simp only [ofItems, forceItems, force_ofJson room item first,
        forceItems_ofItems room items others]
      rfl

theorem forceMembers_ofMembers (room : Nat) :
    (members : List (String × Json)) → depthMembers members ≤ room →
      forceMembers room (ofMembers members) = .ok (sortedMembers members)
  | [], _ => rfl
  | (name, value) :: members, within => by
      obtain ⟨first, others⟩ := Nat.max_le.mp within
      simp only [ofMembers, forceMembers, nameOf, force_ofJson room value first,
        forceMembers_ofMembers room members others]
      rfl

end

end Draft

/-- A printed value is parsed as itself, with its objects filed by name. -/
theorem parse?_print {value : Json} (whole : value.Whole)
    (shallow : value.depth ≤ Draft.depthLimit) :
    parse? value.print = some value.sorted := by
  have forced := Draft.force_ofJson Draft.depthLimit value shallow
  simp only [parse?, parse, Draft.ofText_print whole, forced]
  rfl

end WorkspaceStartup.Json
