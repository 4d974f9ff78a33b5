import WorkspaceStartup.Proofs.Json.Known
import WorkspaceStartup.Proofs.Settings.Merge
import WorkspaceStartup.Settings.Load

/-!
# What a file says

The members of a settings file say what the settings are below the environment:
a member that is given and has the shape of its setting is taken, and a setting
without one has its default.  Settings are read from the file just if no known
member is given in another shape.
-/

namespace WorkspaceStartup

/-! ## Shapes -/

namespace Json

def IsText (held : Json) (content : String) : Prop := held = .text content

def IsPresentText (held : Json) (content : Option String) : Prop :=
  ∃ text, held = .text text ∧ content = some text

def IsBool (held : Json) (truth : Bool) : Prop := held = .bool truth

/-- A natural number up to a limit. -/
def IsNatural (limit : Nat) (held : Json) (number : Nat) : Prop :=
  held = .natural number ∧ number ≤ limit

/-- An object whose members are texts, but for those that are null. -/
def AreTexts (held : Json) (named : Dictionary String) : Prop :=
  ∃ members, held = .object members ∧
    ∀ name, given? name members = (named.get? name).map .text

/-- The shapes of settings. -/
inductive Shape
  | text
  | bool
  | natural (limit : Nat)
  | texts

/-- The value is of the shape. -/
def Shape.Fits (held : Json) : Shape → Prop
  | text => ∃ content, held = .text content
  | bool => ∃ truth, held = .bool truth
  | natural limit => ∃ number : Nat, held = .natural number ∧ number ≤ limit
  | texts => ∃ members, held = .object members ∧
      ∀ name value, given? name members = some value →
        ∃ content, value = .text content

/-- A member of a known name is given in another shape than its own. -/
def Misfit (shapes : List (String × Shape)) (members : List (String × Json)) :
    Prop :=
  ∃ name shape held, (name, shape) ∈ shapes ∧
    given? name members = some held ∧ ¬ shape.Fits held

/-- A member that is given is read, and without one the default stays. -/
def Filled (reads : Json → α → Prop) (default : α) (given : Option Json)
    (value : α) : Prop :=
  match given with
  | some held => reads held value
  | none => value = default

end Json

open Json

/-! ## Settings -/

namespace LoggingSettings

def shapes : List (String × Shape) :=
  [("level", .text), ("json", .bool), ("modules", .texts)]

/-- Logging is as the members of the object say. -/
structure SaidBy (members : List (String × Json)) (logging : LoggingSettings) :
    Prop where
  level : Filled IsText default.level (given? "level" members) logging.level
  json : Filled IsBool default.json (given? "json" members) logging.json
  modules : Filled AreTexts default.modules (given? "modules" members)
    logging.modules

end LoggingSettings

namespace Settings

def shapes : List (String × Shape) :=
  [("serverUrl", .text), ("busUrl", .text),
  ("reconnectBudget", .natural halfWordLimit),
  ("retryDelayMs", .natural wordLimit), ("statusPollMs", .natural wordLimit),
  ("agentConnectTimeoutMs", .natural wordLimit)]

/-- The members of the object that is given for logging. -/
def loggingMembers (members : List (String × Json)) : List (String × Json) :=
  ((given? "logging" members).map Json.members).getD []

/-- Settings are as the members of the object say. -/
structure SaidBy (members : List (String × Json)) (settings : Settings) :
    Prop where
  serverUrl : Filled IsText default.serverUrl (given? "serverUrl" members)
    settings.serverUrl
  busUrl : Filled IsPresentText default.busUrl (given? "busUrl" members)
    settings.busUrl
  reconnectBudget : Filled (IsNatural halfWordLimit) default.reconnectBudget
    (given? "reconnectBudget" members) settings.reconnectBudget
  retryDelayMs : Filled (IsNatural wordLimit) default.retryDelayMs
    (given? "retryDelayMs" members) settings.retryDelayMs
  statusPollMs : Filled (IsNatural wordLimit) default.statusPollMs
    (given? "statusPollMs" members) settings.statusPollMs
  agentConnectTimeoutMs : Filled (IsNatural wordLimit)
    default.agentConnectTimeoutMs (given? "agentConnectTimeoutMs" members)
    settings.agentConnectTimeoutMs
  logging : settings.logging.SaidBy (loggingMembers members)

end Settings

/-! ## Values that are laid over others -/

namespace Json

variable {held below : Json}

theorem sorted_eq_iff_of_flat {flat : Json} (isFlat : flat.depth = 0) :
    held.sorted = flat ↔ held = flat := by
  cases held with
  | null | bool | number | text => simp only [sorted]
  | array items =>
      constructor
      · rintro rfl
        cases isFlat
      · rintro rfl
        cases isFlat
  | object members =>
      constructor
      · rintro rfl
        cases isFlat
      · rintro rfl
        cases isFlat

/-- Only over an object is a value merged. -/
theorem mergeOver_of_flat (isFlat : below.isObject = false) :
    mergeOver below held = held := by
  cases held with
  | object members =>
      cases below with
      | object => cases isFlat
      | null | bool | number | text | array => rfl
  | null | bool | number | text | array => rfl

theorem given?_ne_null {name : String} {members : List (String × Json)} :
    given? name members ≠ some .null := by
  unfold given? present?
  split
  · intro isGiven
    cases isGiven
  · next present => exact present

theorem text_merged_iff (isFlat : below.isObject = false) {content : String} :
    Decode.text (.ofJson (mergeOver below held.sorted)) = .ok content ↔
      IsText held content := by
  rw [mergeOver_of_flat isFlat, Decode.text_eq_ok_iff,
    sorted_eq_iff_of_flat rfl]
  rfl

theorem optional_text_merged_iff (isFlat : below.isObject = false)
    (present : held ≠ .null) {content : Option String} :
    Decode.optional Decode.text (.ofJson (mergeOver below held.sorted)) =
        .ok content ↔ IsPresentText held content := by
  rw [mergeOver_of_flat isFlat, Decode.optional_text_eq_ok_iff]
  cases content with
  | none =>
      rw [ofOption, sorted_eq_iff_of_flat rfl]
      refine iff_of_false present ?_
      rintro ⟨text, -, isSome⟩
      cases isSome
  | some content =>
      rw [ofOption, sorted_eq_iff_of_flat rfl]
      simp [IsPresentText]

theorem bool_merged_iff (isFlat : below.isObject = false) {truth : Bool} :
    Decode.bool (.ofJson (mergeOver below held.sorted)) = .ok truth ↔
      IsBool held truth := by
  rw [mergeOver_of_flat isFlat, Decode.bool_eq_ok_iff,
    sorted_eq_iff_of_flat rfl]
  rfl

theorem natural_merged_iff (isFlat : below.isObject = false)
    {limit number : Nat} :
    Decode.natural limit (.ofJson (mergeOver below held.sorted)) = .ok number ↔
      IsNatural limit held number := by
  rw [mergeOver_of_flat isFlat, Decode.natural_eq_ok_iff,
    sorted_eq_iff_of_flat rfl]
  rfl

/-- What is laid over nothing is what is given. -/
theorem lookUp?_merged_nil (name : String) (members : List (String × Json)) :
    lookUp? name (mergeMembers [] (fileEntries (sortedMembers members))) =
      (given? name members).map sorted := by
  rw [lookUp?_merged, lookUp?_nil, Option.or_none]
  rfl

theorem map_sorted_eq_map_text_iff {given : Option Json}
    {content : Option String} :
    given.map sorted = content.map .text ↔ given = content.map .text := by
  cases given with
  | none => rfl
  | some held =>
      cases content with
      | none => simp
      | some text =>
          simp only [Option.map_some, Option.some.injEq]
          exact sorted_eq_iff_of_flat rfl

theorem texts_merged_iff {named : Dictionary String} :
    Decode.dictionary Decode.text
        (.ofJson (mergeOver (.object []) held.sorted)) = .ok named ↔
      AreTexts held named := by
  rw [Decode.dictionary_text_eq_ok_iff]
  cases held with
  | object members =>
      have ordered : Ordered
          (mergeMembers [] (fileEntries (sortedMembers members))) :=
        mergeMembers_ordered List.Pairwise.nil _
      have given : AreTexts (.object members) named ↔
          ∀ name, lookUp? name
              (mergeMembers [] (fileEntries (sortedMembers members))) =
            lookUp? name
              (named.entries.map fun entry => (entry.1, Json.text entry.2)) := by
        simp only [AreTexts, object.injEq, exists_eq_left', lookUp?_map,
          lookUp?_merged_nil]
        exact forall_congr' fun name => map_sorted_eq_map_text_iff.symm
      simp only [sorted, filed, mergeOver, object.injEq]
      rw [given]
      -- Both lists are in order, so they are the same if their look-ups are.
      constructor
      · rintro ⟨listed, written, rfl⟩ name
        rw [written, ordered_map_iff] at ordered
        have listedEntries : (Dictionary.ofList listed).entries = listed :=
          fileEntries_of_ordered ordered
        rw [written, listedEntries]
      · intro same
        refine ⟨named.entries, ?_, named.ofList_entries⟩
        exact eq_of_lookUp?_eq ordered (ordered_map_iff.mpr named.ordered) same
  | null | bool | number | text | array =>
      simp [mergeOver, sorted, AreTexts]

/-! ## What fits can be read -/

theorem exists_filled_iff {reads : Json → α → Prop} {default : α}
    {given : Option Json} :
    (∃ value, Filled reads default given value) ↔
      ∀ held, given = some held → ∃ value, reads held value := by
  cases given with
  | none => simp [Filled]
  | some held => simp [Filled]

theorem exists_isPresentText_iff :
    (∃ content, IsPresentText held content) ↔ Shape.text.Fits held := by
  constructor
  · rintro ⟨_, content, same, -⟩
    exact ⟨content, same⟩
  · rintro ⟨content, same⟩
    exact ⟨_, content, same, rfl⟩

theorem exists_areTexts_iff :
    (∃ named, AreTexts held named) ↔ Shape.texts.Fits held := by
  constructor
  · rintro ⟨named, members, same, listed⟩
    refine ⟨members, same, fun name value isGiven => ?_⟩
    rw [listed name] at isGiven
    obtain ⟨content, -, isText⟩ := Option.map_eq_some_iff.mp isGiven
    exact ⟨content, isText.symm⟩
  · rintro ⟨members, same, each⟩
    let content (value : Json) : String := value.text?.getD ""
    have ordered : Ordered
        ((mergeMembers [] (fileEntries (sortedMembers members))).map
          fun entry => (entry.1, content entry.2)) :=
      ordered_map_iff.mpr (mergeMembers_ordered List.Pairwise.nil _)
    refine ⟨⟨_, ordered⟩, members, same, fun name => ?_⟩
    rw [Dictionary.get?, lookUp?_map, lookUp?_merged_nil]
    cases isGiven : given? name members with
    | none => rfl
    | some value =>
        obtain ⟨content, rfl⟩ := each name value isGiven
        rfl

theorem not_misfit_iff {shapes : List (String × Shape)}
    {members : List (String × Json)} :
    ¬ Misfit shapes members ↔ ∀ entry ∈ shapes, ∀ held,
      given? entry.1 members = some held → entry.2.Fits held := by
  simp only [Misfit, not_exists, not_and, Classical.not_not, Prod.forall]
  constructor
  · intro fits name shape member held isGiven
    exact fits name shape held member isGiven
  · intro fits name shape held member isGiven
    exact fits name shape member held isGiven

/-! ## Merged members are read -/

/-- The members that a document lays over a target, as a record looks them up. -/
def laid (target members : List (String × Json)) : Members :=
  lookedUp (mergeMembers target (fileEntries (sortedMembers members)))

/-- A field whose member is known below is filled from what is given. -/
theorem read_laid_iff {name : String} {decode : Decoder α} {absent : Option α}
    {target members : List (String × Json)} {reads : Json → α → Prop}
    {default result : α} (known : lookUp? name target = some below)
    (lowest : decode (.ofJson below) = .ok default)
    (takes : ∀ held, given? name members = some held →
      (decode (.ofJson (mergeOver below held.sorted)) = .ok result ↔
        reads held result)) :
    (Record.field name decode absent).read (laid target members) =
        .found result ↔
      Filled reads default (given? name members) result := by
  have found := lookUp?_merged name target members
  rw [known] at found
  cases given : given? name members with
  | none =>
      rw [given] at found
      rw [laid, Record.read_field_iff found, lowest, Except.ok.injEq]
      exact eq_comm
  | some held =>
      rw [given] at found
      rw [laid, Record.read_field_iff found]
      exact takes held given

theorem decode_laid_iff {record : Record α}
    {target members : List (String × Json)} (ordered : Ordered target)
    {result : α} :
    record.decode (.ofJson (mergeOver (.object target)
        (Json.object members).sorted)) = .ok result ↔
      record.read (laid target members) = .found result :=
  Record.decode_object_iff (nodup_of_ordered (mergeMembers_ordered ordered _))

end Json

/-! ## Settings are read as the file says -/

namespace LoggingSettings

variable {members : List (String × Json)} {logging : LoggingSettings}

theorem decode_laid_iff :
    decode (.ofJson (default.encode.mergeOver (Json.object members).sorted)) =
      .ok logging ↔ logging.SaidBy members := by
  have ordered : Ordered default.encode.members := by
    simp only [default, encode, Json.members, Ordered]
    decide
  have level (content : String) :
      (Record.field "level" Decode.text (some default.level)).read
          (laid default.encode.members members) = .found content ↔
        Filled IsText default.level (given? "level" members) content :=
    read_laid_iff rfl rfl fun _ _ => text_merged_iff rfl
  have json (truth : Bool) :
      (Record.field "json" Decode.bool (some default.json)).read
          (laid default.encode.members members) = .found truth ↔
        Filled IsBool default.json (given? "json" members) truth :=
    read_laid_iff rfl rfl fun _ _ => bool_merged_iff rfl
  have modules (named : Dictionary String) :
      (Record.field "modules" (Decode.dictionary Decode.text)
          (some default.modules)).read (laid default.encode.members members) =
            .found named ↔
        Filled AreTexts default.modules (given? "modules" members) named :=
    read_laid_iff rfl rfl fun _ _ => texts_merged_iff
  refine (Json.decode_laid_iff ordered).trans ?_
  simp only [record, Record.read_seq_iff, Record.read_map_iff, level, json,
    modules]
  constructor
  · rintro ⟨_, ⟨_, ⟨_, ofLevel, rfl⟩, _, ofJson, rfl⟩, _, ofModules, rfl⟩
    exact ⟨ofLevel, ofJson, ofModules⟩
  · intro said
    exact ⟨_, ⟨_, ⟨_, said.level, rfl⟩, _, said.json, rfl⟩, _, said.modules, rfl⟩

theorem saidBy_nil_iff : logging.SaidBy [] ↔ logging = default := by
  constructor
  · rintro ⟨level, json, modules⟩
    cases logging
    cases level
    cases json
    cases modules
    rfl
  · rintro rfl
    exact ⟨rfl, rfl, rfl⟩

/-- Logging can be read just if no member of its object is a misfit. -/
theorem exists_saidBy_iff :
    (∃ logging : LoggingSettings, logging.SaidBy members) ↔
      ¬ Misfit shapes members := by
  rw [not_misfit_iff]
  simp only [shapes, List.forall_mem_cons, ← exists_areTexts_iff]
  constructor
  · rintro ⟨logging, said⟩
    refine ⟨?_, ?_, ?_, by simp⟩
    · exact exists_filled_iff.mp ⟨_, said.level⟩
    · exact exists_filled_iff.mp ⟨_, said.json⟩
    · exact exists_filled_iff.mp ⟨_, said.modules⟩
  · rintro ⟨level, json, modules, -⟩
    obtain ⟨level, ofLevel⟩ := exists_filled_iff.mpr level
    obtain ⟨json, ofJson⟩ := exists_filled_iff.mpr json
    obtain ⟨modules, ofModules⟩ := exists_filled_iff.mpr modules
    exact ⟨⟨level, json, modules⟩, ofLevel, ofJson, ofModules⟩

end LoggingSettings

namespace Settings

variable {members : List (String × Json)} {settings : Settings}

theorem saidBy_loggingMembers_iff {logging : LoggingSettings} :
    Filled (fun held logging => logging.SaidBy held.members)
        LoggingSettings.default (given? "logging" members) logging ↔
      logging.SaidBy (loggingMembers members) := by
  unfold loggingMembers
  cases given? "logging" members with
  | none => exact LoggingSettings.saidBy_nil_iff.symm
  | some held => rfl

theorem decode_laid_iff
    (logged : ∀ held, given? "logging" members = some held →
      held.isObject = true) :
    decode (.ofJson (default.encode.mergeOver (Json.object members).sorted)) =
      .ok settings ↔ settings.SaidBy members := by
  have ordered : Ordered default.encode.members := by
    simp only [default, encode, Json.members, Ordered]
    decide
  have natural (name : String) (absent limit number : Nat)
      (known : lookUp? name default.encode.members = some (.natural absent))
      (within : absent ≤ limit) :
      (Record.field name (Decode.natural limit) (some absent)).read
          (laid default.encode.members members) = .found number ↔
        Filled (IsNatural limit) absent (given? name members) number :=
    read_laid_iff known (Decode.natural_eq_ok_iff.mpr ⟨rfl, within⟩)
      fun _ _ => natural_merged_iff rfl
  have serverUrl (url : String) :
      (Record.field "serverUrl" Decode.text (some default.serverUrl)).read
          (laid default.encode.members members) = .found url ↔
        Filled IsText default.serverUrl (given? "serverUrl" members) url :=
    read_laid_iff rfl rfl fun _ _ => text_merged_iff rfl
  have busUrl (url : Option String) :
      (Record.field "busUrl" (Decode.optional Decode.text)
          (some default.busUrl)).read (laid default.encode.members members) =
            .found url ↔
        Filled IsPresentText default.busUrl (given? "busUrl" members) url :=
    read_laid_iff rfl rfl fun held given => optional_text_merged_iff rfl
      fun isNull => given?_ne_null (isNull ▸ given)
  have logging (logging : LoggingSettings) :
      (Record.field "logging" LoggingSettings.decode
          (some default.logging)).read (laid default.encode.members members) =
            .found logging ↔ logging.SaidBy (loggingMembers members) := by
    rw [← saidBy_loggingMembers_iff]
    refine read_laid_iff rfl rfl ?_
    intro held given
    have isObject := logged held given
    cases held with
    | object inner => exact LoggingSettings.decode_laid_iff
    | null | bool | number | text | array => cases isObject
  refine (Json.decode_laid_iff ordered).trans ?_
  have budget := natural "reconnectBudget" default.reconnectBudget halfWordLimit
  have delay := natural "retryDelayMs" default.retryDelayMs wordLimit
  have poll := natural "statusPollMs" default.statusPollMs wordLimit
  have timeout := natural "agentConnectTimeoutMs" default.agentConnectTimeoutMs
    wordLimit
  simp only [record, Record.read_seq_iff, Record.read_map_iff, serverUrl, busUrl,
    budget _ rfl (by decide), delay _ rfl (by decide), poll _ rfl (by decide),
    timeout _ rfl (by decide), logging]
  constructor
  · rintro ⟨_, ⟨_, ⟨_, ⟨_, ⟨_, ⟨_, ⟨_, ofServer, rfl⟩, _, ofBus, rfl⟩,
      _, ofBudget, rfl⟩, _, ofDelay, rfl⟩, _, ofPoll, rfl⟩, _, ofTimeout, rfl⟩,
      _, ofLogging, rfl⟩
    exact ⟨ofServer, ofBus, ofBudget, ofDelay, ofPoll, ofTimeout, ofLogging⟩
  · intro said
    exact ⟨_, ⟨_, ⟨_, ⟨_, ⟨_, ⟨_, ⟨_, said.serverUrl, rfl⟩, _, said.busUrl, rfl⟩,
      _, said.reconnectBudget, rfl⟩, _, said.retryDelayMs, rfl⟩,
      _, said.statusPollMs, rfl⟩, _, said.agentConnectTimeoutMs, rfl⟩,
      _, said.logging, rfl⟩

/-- Settings can be read just if no known member is a misfit. -/
theorem exists_saidBy_iff :
    (∃ settings : Settings, settings.SaidBy members) ↔
      ¬ Misfit shapes members ∧
        ¬ Misfit LoggingSettings.shapes (loggingMembers members) := by
  rw [not_misfit_iff, ← LoggingSettings.exists_saidBy_iff]
  simp only [shapes, List.forall_mem_cons]
  constructor
  · rintro ⟨settings, said⟩
    refine ⟨⟨?_, ?_, ?_, ?_, ?_, ?_, by simp⟩, _, said.logging⟩
    · exact exists_filled_iff.mp ⟨_, said.serverUrl⟩
    · simp only [← exists_isPresentText_iff]
      exact exists_filled_iff.mp ⟨_, said.busUrl⟩
    · exact exists_filled_iff.mp ⟨_, said.reconnectBudget⟩
    · exact exists_filled_iff.mp ⟨_, said.retryDelayMs⟩
    · exact exists_filled_iff.mp ⟨_, said.statusPollMs⟩
    · exact exists_filled_iff.mp ⟨_, said.agentConnectTimeoutMs⟩
  · rintro ⟨⟨server, bus, budget, delay, poll, timeout, -⟩, logging, ofLogging⟩
    simp only [← exists_isPresentText_iff] at bus
    obtain ⟨_, ofServer⟩ := exists_filled_iff.mpr server
    obtain ⟨_, ofBus⟩ := exists_filled_iff.mpr bus
    obtain ⟨_, ofBudget⟩ := exists_filled_iff.mpr budget
    obtain ⟨_, ofDelay⟩ := exists_filled_iff.mpr delay
    obtain ⟨_, ofPoll⟩ := exists_filled_iff.mpr poll
    obtain ⟨_, ofTimeout⟩ := exists_filled_iff.mpr timeout
    exact ⟨⟨_, _, _, _, _, _, _⟩, ofServer, ofBus, ofBudget, ofDelay, ofPoll,
      ofTimeout, ofLogging⟩

end Settings

end WorkspaceStartup
