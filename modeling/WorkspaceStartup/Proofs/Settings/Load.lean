import WorkspaceStartup.Proofs.RoundTrip
import WorkspaceStartup.Proofs.Settings.Environment
import WorkspaceStartup.Proofs.Settings.File
import WorkspaceStartup.Proofs.Utf8

/-!
# Layers of settings

Loaded settings are, one by one, what the environment chooses, or else what the
file says, or else the defaults.  They are loaded just if the text of the file is
read and no known member of it is a misfit.
-/

namespace WorkspaceStartup

open Json

/-- What is chosen, or else, if nothing is, what lies below. -/
def Layered (chosen below : α → Prop) (value : α) : Prop :=
  chosen value ∨ (∀ other, ¬ chosen other) ∧ below value

theorem layered_getD {chosen? : Option α} {chosen below : α → Prop} {part : α}
    (chooses : ∀ value, chosen? = some value ↔ chosen value)
    (lies : below part) : Layered chosen below (chosen?.getD part) := by
  cases known : chosen? with
  | some value => exact .inl ((chooses value).mp known)
  | none =>
      refine .inr ⟨fun other isChosen => ?_, lies⟩
      rw [(chooses other).mpr isChosen] at known
      cases known

namespace Settings

variable {members : List (String × Json)} {lookup : String → Option String}

/-- The settings of the members of a file and of an environment. -/
structure Layers (members : List (String × Json))
    (lookup : String → Option String) (settings : Settings) : Prop where
  serverUrl :
    Layered (Chosen lookup "WSBOOT_SERVER_URL" fun text url => text = url)
      (Filled IsText default.serverUrl (given? "serverUrl" members))
      settings.serverUrl
  busUrl :
    Layered (Chosen lookup "WSBOOT_BUS_URL" fun text url => some text = url)
      (Filled IsPresentText default.busUrl (given? "busUrl" members))
      settings.busUrl
  reconnectBudget :
    Layered
      (Chosen lookup "WSBOOT_RECONNECT_BUDGET" (Text.WritesWithin 1 10000))
      (Filled (IsNatural halfWordLimit) default.reconnectBudget
        (given? "reconnectBudget" members))
      settings.reconnectBudget
  retryDelayMs :
    Layered
      (Chosen lookup "WSBOOT_RETRY_DELAY_MS" (Text.WritesWithin 10 600000))
      (Filled (IsNatural wordLimit) default.retryDelayMs
        (given? "retryDelayMs" members))
      settings.retryDelayMs
  statusPollMs :
    Layered
      (Chosen lookup "WSBOOT_STATUS_POLL_MS" (Text.WritesWithin 50 600000))
      (Filled (IsNatural wordLimit) default.statusPollMs
        (given? "statusPollMs" members))
      settings.statusPollMs
  agentConnectTimeoutMs :
    Filled (IsNatural wordLimit) default.agentConnectTimeoutMs
      (given? "agentConnectTimeoutMs" members) settings.agentConnectTimeoutMs
  level :
    Layered (Chosen lookup "WSBOOT_LOG_LEVEL" fun text level => text = level)
      (Filled IsText default.logging.level
        (given? "level" (loggingMembers members)))
      settings.logging.level
  json :
    Layered (Chosen lookup "WSBOOT_LOG_JSON" Text.WritesTruth)
      (Filled IsBool default.logging.json
        (given? "json" (loggingMembers members)))
      settings.logging.json
  modules :
    Filled AreTexts default.logging.modules
      (given? "modules" (loggingMembers members)) settings.logging.modules

/-- The environment over settings as a file says them. -/
theorem layers_of_saidBy {settings : Settings} (said : settings.SaidBy members) :
    Layers members lookup (settings.withEnvironment lookup) := by
  have number (name : String) (least greatest : Nat)
      (word : greatest ≤ wordLimit) (value : Nat) :
      ((chosenText? lookup name).bind fun text =>
          readInRange? text least greatest) = some value ↔
        Chosen lookup name (Text.WritesWithin least greatest) value :=
    bind_chosenText?_eq_some_iff fun _ _ => readInRange?_eq_some_iff word
  rw [withEnvironment_eq]
  constructor
  · exact layered_getD (fun _ => chosenText?_eq_some_iff) said.serverUrl
  · exact layered_getD (fun _ => map_chosenText?_eq_some_iff) said.busUrl
  · exact layered_getD (number _ _ _ (by decide)) said.reconnectBudget
  · exact layered_getD (number _ _ _ (by decide)) said.retryDelayMs
  · exact layered_getD (number _ _ _ (by decide)) said.statusPollMs
  · exact said.agentConnectTimeoutMs
  · exact layered_getD (fun _ => chosenText?_eq_some_iff) said.logging.level
  · exact layered_getD (fun _ => bind_chosenText?_eq_some_iff fun _ _ =>
      readBool?_eq_some_iff) said.logging.json
  · exact said.logging.modules

/-! ## Layers determine the settings -/

open Relator (RightUnique)

theorem filled_unique {reads : Json → α → Prop} (readOnce : RightUnique reads)
    {default left right : α} {given : Option Json}
    (ofLeft : Filled reads default given left)
    (ofRight : Filled reads default given right) : left = right := by
  cases given with
  | some held => exact readOnce ofLeft ofRight
  | none => exact ofLeft.trans ofRight.symm

theorem chosen_unique {form : String → α → Prop} (chosenOnce : RightUnique form)
    {name : String} {left right : α} (ofLeft : Chosen lookup name form left)
    (ofRight : Chosen lookup name form right) : left = right := by
  obtain ⟨text, found, -, leftForm⟩ := ofLeft
  obtain ⟨other, foundOther, -, rightForm⟩ := ofRight
  rw [found] at foundOther
  cases foundOther
  exact chosenOnce leftForm rightForm

theorem layered_unique {form : String → α → Prop} {reads : Json → α → Prop}
    (chosenOnce : RightUnique form) (readOnce : RightUnique reads)
    {name : String} {default left right : α} {given : Option Json}
    (ofLeft : Layered (Chosen lookup name form) (Filled reads default given)
      left)
    (ofRight : Layered (Chosen lookup name form) (Filled reads default given)
      right) : left = right := by
  obtain leftChosen | ⟨leftFree, leftFilled⟩ := ofLeft
  · obtain rightChosen | ⟨rightFree, -⟩ := ofRight
    · exact chosen_unique chosenOnce leftChosen rightChosen
    · exact (rightFree left leftChosen).elim
  · obtain rightChosen | ⟨-, rightFilled⟩ := ofRight
    · exact (leftFree right rightChosen).elim
    · exact filled_unique readOnce leftFilled rightFilled

theorem isText_unique : RightUnique IsText := by
  rintro _ left right rfl same
  exact Json.text.inj same

theorem isPresentText_unique : RightUnique IsPresentText := by
  rintro _ _ _ ⟨left, rfl, rfl⟩ ⟨right, same, rfl⟩
  exact congrArg some (Json.text.inj same)

theorem isBool_unique : RightUnique IsBool := by
  rintro _ left right rfl same
  exact Json.bool.inj same

theorem isNatural_unique (limit : Nat) : RightUnique (IsNatural limit) := by
  rintro _ left right ⟨rfl, -⟩ ⟨same, -⟩
  exact Int.ofNat.inj (Number.integer.inj (Json.number.inj same))

theorem areTexts_unique : RightUnique AreTexts := by
  rintro _ left right ⟨members, rfl, ofLeft⟩ ⟨others, same, ofRight⟩
  cases same
  apply Dictionary.ext
  refine eq_of_lookUp?_eq left.ordered right.ordered fun name => ?_
  have same := (ofLeft name).symm.trans (ofRight name)
  exact Option.map_injective (fun _ _ => Json.text.inj) same

theorem writesWithin_unique (least greatest : Nat) :
    RightUnique (Text.WritesWithin least greatest) := by
  rintro text left right ⟨ofLeft, -⟩ ⟨ofRight, -⟩
  rw [← Text.readUnsigned?_eq_some_iff] at ofLeft ofRight
  exact Option.some.inj (ofLeft.symm.trans ofRight)

theorem writesTruth_unique : RightUnique Text.WritesTruth := by
  intro text left right ofLeft ofRight
  rw [← readBool?_eq_some_iff] at ofLeft ofRight
  exact Option.some.inj (ofLeft.symm.trans ofRight)

theorem wrapped_unique (wrap : String → α) :
    RightUnique fun text value => wrap text = value := by
  rintro text _ _ rfl rfl
  rfl

theorem Layers.unique {left right : Settings}
    (ofLeft : left.Layers members lookup)
    (ofRight : right.Layers members lookup) : left = right := by
  obtain ⟨server, bus, budget, delay, poll, timeout, level, json, modules⟩ :=
    ofLeft
  have server := layered_unique (wrapped_unique _) isText_unique server
    ofRight.serverUrl
  have bus := layered_unique (wrapped_unique _) isPresentText_unique bus
    ofRight.busUrl
  have budget := layered_unique (writesWithin_unique _ _) (isNatural_unique _)
    budget ofRight.reconnectBudget
  have delay := layered_unique (writesWithin_unique _ _) (isNatural_unique _)
    delay ofRight.retryDelayMs
  have poll := layered_unique (writesWithin_unique _ _) (isNatural_unique _)
    poll ofRight.statusPollMs
  have timeout := filled_unique (isNatural_unique _) timeout
    ofRight.agentConnectTimeoutMs
  have level := layered_unique (wrapped_unique _) isText_unique level
    ofRight.level
  have json := layered_unique writesTruth_unique isBool_unique json ofRight.json
  have modules := filled_unique areTexts_unique modules ofRight.modules
  obtain ⟨_, _, _, _, _, _, ⟨_, _, _⟩⟩ := left
  obtain ⟨_, _, _, _, _, _, ⟨_, _, _⟩⟩ := right
  simp_all only

/-! ## Texts that are read, and texts that are not -/

variable {content : List UInt8} {text : String}

/-- A text that spells no document within the limit is no JSON. -/
theorem load_of_unread (characters : Text.textOfBytes? content = some text)
    (unread : ∀ document, Spelled text document →
      Draft.depthLimit < document.depth) :
    ∃ defect, load (.bytes content) lookup = .error (.unreadable defect) := by
  cases parsed : parse text with
  | ok value =>
      obtain ⟨document, spelled, shallow, -⟩ := parse_eq_ok_iff.mp parsed
      exact absurd shallow (Nat.not_le.mpr (unread document spelled))
  | error fault =>
      have refused (defect : DefectClass)
          (file : fileValue? (.bytes content) = .error (.unreadable defect)) :
          load (.bytes content) lookup = .error (.unreadable defect) := by
        rw [load, file]
        rfl
      cases fault with
      | truncated =>
          exact ⟨_, refused .endOfText (by
            simp only [fileValue?, characters, parsed])⟩
      | malformed =>
          exact ⟨_, refused .notJson (by
            simp only [fileValue?, characters, parsed])⟩

/-- What is loaded is what the members say, under the environment. -/
theorem load_of_spelled (lookup : String → Option String)
    (characters : Text.textOfBytes? content = some text)
    (spelled : Spelled text (.object members))
    (shallow : (Json.object members).depth ≤ Draft.depthLimit)
    (logged : ∀ held, given? "logging" members = some held →
      held.isObject = true) :
    (∀ settings : Settings, settings.SaidBy members →
        load (.bytes content) lookup =
          .ok (settings.withEnvironment lookup)) ∧
      ((¬ ∃ settings : Settings, settings.SaidBy members) →
        ∃ defect, load (.bytes content) lookup =
          .error (.unreadable defect)) := by
  have parsed : parse text = .ok (Json.object members).sorted :=
    parse_eq_ok_iff.mpr ⟨_, spelled, shallow, rfl⟩
  have file : fileValue? (.bytes content) =
      .ok (some (Json.object members).sorted) := by
    simp only [fileValue?, characters, parsed]
  have decodes (settings : Settings) :
      (Source.value (layered (some (Json.object members).sorted))).decode
          decode = .ok settings ↔ settings.SaidBy members :=
    decode_value_eq_ok_iff.trans (decode_laid_iff logged)
  constructor
  · intro settings said
    simp only [load, file, bind, Except.bind, (decodes settings).mpr said]
    rfl
  · intro unsaid
    cases decoded : (Source.value
        (layered (some (Json.object members).sorted))).decode decode with
    | ok settings => exact (unsaid ⟨settings, (decodes settings).mp decoded⟩).elim
    | error defect =>
        refine ⟨defect, ?_⟩
        simp only [load, file, bind, Except.bind, decoded]

/-- A file whose text is an object is loaded just if no known member is a
misfit, and then the layers determine the settings.  The numbers in it are
natural just if they are written without sign, fraction and power, and a text
that spells no document within the limit is no JSON. -/
theorem load_layers (lookup : String → Option String)
    (characters : Text.textOfBytes? content = some text)
    (spelled : Spelled text (.object members))
    (shallow : (Json.object members).depth ≤ Draft.depthLimit)
    (logged : ∀ held, given? "logging" members = some held →
      held.isObject = true) :
    (Misfit shapes members ∨
        Misfit LoggingSettings.shapes (loggingMembers members) →
      ∃ defect, load (.bytes content) lookup = .error (.unreadable defect)) ∧
    (¬ Misfit shapes members ∧
        ¬ Misfit LoggingSettings.shapes (loggingMembers members) →
      ∃ settings, load (.bytes content) lookup = .ok settings ∧
        ∀ other : Settings, other.Layers members lookup ↔ other = settings) ∧
    (∀ (numeral : Numeral) (number : Nat),
      numeral.value? = some (.integer number) ↔
        numeral.negative = false ∧ numeral.fraction = [] ∧
          numeral.power = none ∧ wholeFrom 0 numeral.whole = number ∧
          number ≤ wordLimit) ∧
    ∀ (other : List UInt8) (otherText : String),
      Text.textOfBytes? other = some otherText →
        (∀ document, Spelled otherText document →
          Draft.depthLimit < document.depth) →
        ∃ defect, load (.bytes other) lookup = .error (.unreadable defect) := by
  obtain ⟨loaded, refused⟩ :=
    load_of_spelled lookup characters spelled shallow logged
  refine ⟨fun misfit => ?_, fun fitting => ?_, ?_, ?_⟩
  · apply refused
    rw [exists_saidBy_iff, ← not_or]
    exact fun none => none misfit
  · obtain ⟨settings, said⟩ := exists_saidBy_iff.mpr fitting
    refine ⟨_, loaded settings said, fun other => ?_⟩
    have layers : Layers members lookup (settings.withEnvironment lookup) :=
      layers_of_saidBy said
    constructor
    · exact fun others => others.unique layers
    · rintro rfl
      exact layers
  · exact fun numeral number => value?_eq_natural_iff
  · exact fun other otherText characters => load_of_unread characters

/-- What is unknown or null in the file changes nothing. -/
theorem load_layers_of_partial_file :
    let members : List (String × Json) :=
      [("serverUrl", .text "http://che.local"), ("retryDelayMs", .null),
      ("theme", .array []), ("reconnectBudget", .natural 7),
      ("logging", .object [("modules", .object
        [("wsboot_engine", .text "debug"), ("url", .null)])])]
    let text := (Json.object members).print
    let content := Text.bytesOf text.toList
    let lookup (name : String) : Option String :=
      if name = "WSBOOT_LOG_JSON" then some "Yes" else none
    Text.textOfBytes? content = some text ∧
      Spelled text (.object members) ∧
      (Json.object members).depth ≤ Draft.depthLimit ∧
      (∀ held, given? "logging" members = some held → held.isObject = true) ∧
      (¬ Misfit shapes members ∧
        ¬ Misfit LoggingSettings.shapes (loggingMembers members)) ∧
      ∃ settings, load (.bytes content) lookup = .ok settings ∧
        ∀ other : Settings, other.Layers members lookup ↔ other = settings := by
  intro members text content lookup
  have characters : Text.textOfBytes? content = some text :=
    Text.textOfBytes?_bytesOf text
  have spelled : Spelled text (.object members) := by
    apply Draft.ofText_print
    simp [members, Whole, WholeMembers, WholeItems, Json.natural, IsWord]
    decide
  have shallow : (Json.object members).depth ≤ Draft.depthLimit := by
    decide
  have logged : ∀ held, given? "logging" members = some held →
      held.isObject = true := by
    rintro _ ⟨⟩
    rfl
  have fitting : ¬ Misfit shapes members ∧
      ¬ Misfit LoggingSettings.shapes (loggingMembers members) := by
    rw [← exists_saidBy_iff]
    refine ⟨⟨"http://che.local", none, 7, 1000, 1000, 10000,
      ⟨"info", false, .ofList [("wsboot_engine", "debug")]⟩⟩,
      rfl, rfl, ⟨rfl, by decide⟩, rfl, rfl, rfl, rfl, rfl, _, rfl, ?_⟩
    intro name
    by_cases isEngine : name = "wsboot_engine"
    · subst isEngine
      rfl
    · by_cases isUrl : name = "url"
      · subst isUrl
        rfl
      · simp [given?, Dictionary.get?, Dictionary.ofList, fileEntries, fileEntry,
          Ne.symm isEngine, Ne.symm isUrl]
  exact ⟨characters, spelled, shallow, logged, fitting,
    (load_layers lookup characters spelled shallow logged).2.1 fitting⟩

/-! ## Texts that are too deep -/

/-- Empty arrays around each other. -/
def nested : Nat → Json
  | 0 => .array []
  | count + 1 => .array [nested count]

theorem nested_whole (count : Nat) : (nested count).Whole := by
  induction count with
  | zero => trivial
  | succ count induction => exact ⟨induction, trivial⟩

theorem force_nested (room more : Nat) :
    Draft.force room (.ofJson (nested (room + more))) = .error .malformed := by
  induction room with
  | zero =>
      cases more with
      | zero => rfl
      | succ more => rfl
  | succ room induction =>
      rw [Nat.succ_add, nested]
      simp only [Draft.ofJson, Draft.ofItems, Draft.force, Draft.forceItems,
        Nat.succ_ne_zero, if_false, Nat.succ_sub_one, induction]
      rfl

theorem nestedMember_whole (name : String) (count : Nat) :
    (Json.object [(name, nested count)]).Whole := by
  rw [Whole, WholeMembers, WholeMembers]
  exact ⟨nested_whole count, trivial⟩

theorem force_nestedMember (name : String) (room : Nat) :
    Draft.force (room + 1) (.ofJson (.object [(name, nested room)])) =
      .error .malformed := by
  have inner := force_nested room 0
  simp only [Draft.ofJson, Draft.ofMembers, Draft.force, Draft.forceMembers,
    Draft.nameOf, Nat.succ_ne_zero, if_false, Nat.add_sub_cancel]
  rw [Nat.add_zero] at inner
  rw [inner]
  rfl

/-- A printed document that has no value is no JSON. -/
theorem load_of_refused {document : Json} (whole : document.Whole)
    (refused : Draft.force Draft.depthLimit (.ofJson document) =
      .error .malformed) (lookup : String → Option String) :
    load (.bytes (Text.bytesOf document.print.toList)) lookup =
      .error (.unreadable .notJson) := by
  have parsed : parse document.print = .error .malformed := by
    rw [parse, Draft.ofText_print whole]
    simp only [refused]
    rfl
  have file : fileValue? (.bytes (Text.bytesOf document.print.toList)) =
      .error (.unreadable .notJson) := by
    simp only [fileValue?, Text.textOfBytes?_bytesOf, parsed]
  rw [load, file]
  rfl

/-- An object that is too deep is refused, though no known member is a misfit. -/
theorem load_of_deep_member :
    let document := Json.object [("x", nested 126)]
    let content := Text.bytesOf document.print.toList
    Text.textOfBytes? content = some document.print ∧
      Spelled document.print document ∧
      given? "logging" document.members = none ∧
      (¬ Misfit shapes document.members ∧
        ¬ Misfit LoggingSettings.shapes (loggingMembers document.members)) ∧
      ∀ lookup, load (.bytes content) lookup =
        .error (.unreadable .notJson) := by
  have whole := nestedMember_whole "x" 126
  refine ⟨Text.textOfBytes?_bytesOf _, Draft.ofText_print whole, rfl, ?_,
    load_of_refused whole (force_nestedMember "x" 126)⟩
  apply exists_saidBy_iff.mp
  exact ⟨default, rfl, rfl, rfl, rfl, rfl, rfl, rfl, rfl, rfl⟩

end Settings

end WorkspaceStartup
