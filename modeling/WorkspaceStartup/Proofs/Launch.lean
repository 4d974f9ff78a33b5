import Mathlib.Data.List.Forall2
import Mathlib.Data.List.Induction
import WorkspaceStartup.CommandLine.Effect
import WorkspaceStartup.Proofs.Form

/-!
# Queries that are read back

A development environment is opened at the target of its link, under a query that
is form-encoded.  The query is read back as the number, the action and one
parameter of each name, which stands where the name was given first and has the
value that was given last.  Whatever a launch is resolved for, nothing stays
pending.
-/

namespace WorkspaceStartup

/-- The text is the target of the first link of the relation, and empty if there
is no such link. -/
inductive Link.Targets (relation : String) (links : List Link) : String → Prop
  | first {earlier later : List Link} {link : Link}
      (split : links = earlier ++ link :: later)
      (others : ∀ other ∈ earlier, other.relation ≠ relation)
      (related : link.relation = relation) : Targets relation links link.target
  | missing (unrelated : ∀ link ∈ links, link.relation ≠ relation) :
      Targets relation links ""

theorem Workspace.linkTarget_eq_iff {workspace : Workspace}
    {relation target : String} :
    workspace.linkTarget relation = target ↔
      Link.Targets relation workspace.links target := by
  rw [linkTarget]
  cases found : Link.find? workspace.links relation with
  | none =>
      have unrelated : ∀ link ∈ workspace.links, link.relation ≠ relation := by
        simpa using List.find?_eq_none.mp found
      constructor
      · rintro rfl
        exact .missing unrelated
      · intro targets
        cases targets with
        | missing => rfl
        | @first _ _ link split _ related =>
            have member : link ∈ workspace.links :=
              split ▸ List.mem_append_right _ List.mem_cons_self
            exact (unrelated link member related).elim
  | some link =>
      obtain ⟨related, earlier, later, split, others⟩ :=
        List.find?_eq_some_iff_append.mp found
      constructor
      · rintro rfl
        exact .first split (by simpa using others) (beq_iff_eq.mp related)
      · intro targets
        cases targets with
        | missing unrelated =>
            have member : link ∈ workspace.links :=
              split ▸ List.mem_append_right _ List.mem_cons_self
            exact (unrelated link member (beq_iff_eq.mp related)).elim
        | @first _ _ other splitOther othersOther relatedOther =>
            have isFirst : Link.find? workspace.links relation = some other :=
              List.find?_eq_some_iff_append.mpr
                ⟨beq_iff_eq.mpr relatedOther, _, _, splitOther,
                  by simpa using othersOther⟩
            rw [found] at isFirst
            rw [Option.some.inj isFirst]

namespace CommandLine

/-- The first equals sign of a text parts a name from a value. -/
def Spells (raw : String) (parameter : String × String) : Prop :=
  raw = parameter.1 ++ "=" ++ parameter.2 ∧ '=' ∉ parameter.1.toList

theorem exists_readParameter? {raw : String} (equated : '=' ∈ raw.toList) :
    ∃ parameter, readParameter? raw = some parameter ∧
      Spells raw parameter := by
  obtain ⟨name, value, split, free⟩ := List.eq_append_cons_of_mem equated
  refine ⟨(String.ofList name, String.ofList value), ?_, ?_, ?_⟩
  · rw [readParameter?, Text.cutFirst?_eq_some_iff.mpr ⟨split, free⟩]
    rfl
  · apply String.toList_inj.mp
    simp [split]
  · simpa using free

/-- Texts with equals signs are all read, each as what it spells. -/
theorem exists_readParameters {raws : List String}
    (equated : ∀ raw ∈ raws, '=' ∈ raw.toList) :
    ∃ parameters, raws.mapM readParameter? = some parameters ∧
      List.Forall₂ Spells raws parameters := by
  induction raws with
  | nil => exact ⟨[], rfl, .nil⟩
  | cons raw raws induction =>
      obtain ⟨parameter, read, spells⟩ :=
        exists_readParameter? (equated raw List.mem_cons_self)
      obtain ⟨parameters, allRead, allSpell⟩ := induction fun raw member =>
        equated raw (List.mem_cons_of_mem _ member)
      refine ⟨parameter :: parameters, ?_, .cons spells allSpell⟩
      rw [List.mapM_cons, read, allRead]
      rfl

end CommandLine

namespace Launch

/-! ## What is pending -/

/-- One pair for each name, where it was given first, with its last value. -/
structure Distills (given kept : List (String × String)) : Prop where
  names : kept.map (·.1) = (given.map (·.1)).eraseDups
  last : ∀ name value, (name, value) ∈ kept → ∃ earlier later,
    given = earlier ++ (name, value) :: later ∧ name ∉ later.map (·.1)

theorem eraseDups_concat (names : List String) (name : String) :
    (names ++ [name]).eraseDups =
      if name ∈ names then names.eraseDups else names.eraseDups ++ [name] := by
  rw [List.eraseDups_append]
  by_cases known : name ∈ names
  · simp [List.removeAll, known]
  · simp [List.removeAll, known, List.eraseDups_cons]

theorem nodup_eraseDups (names : List String) : names.eraseDups.Nodup := by
  induction names using List.reverseRecOn with
  | nil => exact List.nodup_nil
  | append_singleton names name induction =>
      rw [eraseDups_concat]
      split
      · exact induction
      · next unknown =>
          have fresh : name ∉ names.eraseDups := fun known =>
            unknown (List.mem_eraseDups.mp known)
          simp only [List.nodup_append, induction, List.nodup_cons,
            List.not_mem_nil, List.mem_singleton, List.nodup_nil]
          refine ⟨trivial, ⟨not_false, trivial⟩, ?_⟩
          rintro other member _ rfl rfl
          exact fresh member

theorem putParameter_names (name value : String)
    (parameters : List (String × String)) :
    (putParameter name value parameters).map (·.1) =
      if name ∈ parameters.map (·.1) then parameters.map (·.1)
      else parameters.map (·.1) ++ [name] := by
  induction parameters with
  | nil => rfl
  | cons parameter parameters induction =>
      by_cases same : parameter.1 = name
      · simp [putParameter, same]
      · rw [putParameter, if_neg same, List.map_cons, induction, List.map_cons]
        simp only [List.mem_cons, Ne.symm same, false_or]
        split
        · rfl
        · rfl

/-- What is put replaces what the name had, and nothing else. -/
theorem mem_putParameter {name value : String}
    {parameters : List (String × String)}
    (distinct : (parameters.map (·.1)).Nodup) {parameter : String × String}
    (member : parameter ∈ putParameter name value parameters) :
    parameter = (name, value) ∨ parameter.1 ≠ name ∧ parameter ∈ parameters := by
  induction parameters with
  | nil => exact .inl (List.mem_singleton.mp member)
  | cons first others induction =>
      rw [List.map_cons, List.nodup_cons] at distinct
      by_cases same : first.1 = name
      · rw [putParameter, if_pos same, List.mem_cons] at member
        refine member.imp_right fun behind => ⟨?_, List.mem_cons_of_mem _ behind⟩
        rintro rfl
        rw [same] at distinct
        exact distinct.1 (List.mem_map_of_mem behind)
      · rw [putParameter, if_neg same, List.mem_cons] at member
        obtain rfl | behind := member
        · exact .inr ⟨same, List.mem_cons_self⟩
        · refine (induction distinct.2 behind).imp_right fun ⟨other, kept⟩ =>
            ⟨other, List.mem_cons_of_mem _ kept⟩

namespace Distills

variable {given kept : List (String × String)}

theorem none : Distills [] [] := ⟨rfl, nofun⟩

theorem distinct (distills : Distills given kept) :
    (kept.map (·.1)).Nodup := by
  rw [distills.names]
  exact nodup_eraseDups _

theorem put (distills : Distills given kept) (name value : String) :
    Distills (given ++ [(name, value)]) (putParameter name value kept) where
  names := by
    rw [putParameter_names, distills.names, List.map_append]
    simp only [List.mem_eraseDups]
    exact (eraseDups_concat _ name).symm
  last := by
    intro other held member
    obtain same | ⟨different, before⟩ :=
      mem_putParameter distills.distinct member
    · cases same
      exact ⟨given, [], rfl, List.not_mem_nil⟩
    · -- Another name keeps its value, and what is put last does not repeat it.
      obtain ⟨earlier, later, rfl, free⟩ := distills.last other held before
      refine ⟨earlier, later ++ [(name, value)], by simp, ?_⟩
      rw [List.map_append, List.mem_append]
      exact fun found => found.elim free (by simpa using different)

/-- Parameters that are set one after another are pending as they should. -/
theorem setAll (distills : Distills given kept)
    (parameters : List (String × String)) :
    Distills (given ++ parameters)
      (parameters.foldl (fun kept parameter =>
        putParameter parameter.1 parameter.2 kept) kept) := by
  induction parameters generalizing given kept with
  | nil => simpa using distills
  | cons parameter parameters induction =>
      rw [List.foldl_cons, List.append_cons]
      exact induction (distills.put parameter.1 parameter.2)

end Distills

theorem setAll_eq (launch : Launch) (parameters : List (String × String)) :
    parameters.foldl (fun launch parameter =>
      launch.setParameter parameter.1 parameter.2) launch =
      { launch with
        parameters := parameters.foldl (fun kept parameter =>
          putParameter parameter.1 parameter.2 kept) launch.parameters } := by
  induction parameters generalizing launch with
  | nil => rfl
  | cons parameter parameters induction =>
      rw [List.foldl_cons, induction]
      rfl

/-- What is pending after a new launch has been prepared. -/
theorem prepared_new (origin : Url) (action : Option String)
    (parameters : List (String × String)) :
    ∃ kept, (new origin).prepared action parameters = ⟨origin, action, kept⟩ ∧
      Distills parameters kept := by
  refine ⟨_, ?_, Distills.none.setAll parameters⟩
  cases action with
  | none => exact setAll_eq _ parameters
  | some action => exact setAll_eq _ parameters

/-! ## Reading the query back -/

/-- What the query says: a number, an action and parameters. -/
def fields (number : Nat) (action : Option String)
    (parameters : List (String × String)) : List (String × String) :=
  ("uid", Text.decimal number) ::
    (action.toList.map (Prod.mk "action") ++ parameters)

theorem formEncode_decimal (number : Nat) :
    Url.formEncode (Text.decimal number) = Text.decimal number := by
  apply Url.formEncode_of_isPlain
  rw [List.all_eq_true]
  intro character member
  rw [Text.decimal, String.toList_ofList] at member
  have digit : character.isDigit = true :=
    Nat.isDigit_of_mem_toDigits (by omega) (by omega) member
  obtain ⟨atLeast, atMost⟩ : 48 ≤ character.toNat ∧ character.toNat ≤ 57 :=
    Char.isDigit_iff_toNat.mp digit
  have ascii : character.toNat < 0x80 := by omega
  simp [Url.isPlain, Url.isFormSafe, ascii]
  omega

theorem parameterField_eq (parameter : String × String) :
    (parameterField parameter).toList = '&' :: Url.encodedField parameter := by
  simp [parameterField, Url.encodedField]

theorem actionField_eq (action : Option String) :
    (actionField action).toList =
      (action.toList.map (Prod.mk "action")).flatMap fun field =>
        '&' :: Url.encodedField field := by
  cases action with
  | none => rfl
  | some action =>
      have same : Url.formEncode "action" = "action" :=
        Url.formEncode_of_isPlain rfl
      simp [actionField, Url.encodedField, same]

/-- The query is read back as what it says. -/
theorem exists_query (launch : Launch) (number : Nat) :
    ∃ query, launch.query number = "?" ++ query ∧
      Url.formDecode query = fields number launch.action launch.parameters := by
  refine ⟨_, ?_, Url.formDecode_fields _ _⟩
  have same : Url.formEncode "uid" = "uid" :=
    Url.formEncode_of_isPlain rfl
  apply String.toList_inj.mp
  simp [query, Url.encodedField, same, formEncode_decimal, actionField_eq,
    String.toList_join, List.flatMap_map, parameterField_eq]

/-- A development machine without the proxy's variable is opened at its link. -/
theorem url?_of_direct (launch : Launch) {workspace : Workspace}
    {machine : Machine} (number : Nat)
    (developed : workspace.devMachine? = some machine)
    (direct : machine.runtime.environment.contains proxyVariable = false) :
    ∃ query, launch.url? workspace number =
        some (workspace.linkTarget Relation.environmentUrl ++ "?" ++ query) ∧
      Url.formDecode query = fields number launch.action launch.parameters := by
  obtain ⟨query, written, decoded⟩ := launch.exists_query number
  refine ⟨query, ?_, decoded⟩
  rw [url?, developed, Option.bind_eq_bind, Option.bind_some, direct, written,
    String.append_assoc]
  rfl

/-- A launch that was prepared from the command line opens the target of the first
link to the environment, under a query that is read back as the number, the
action and the distinct parameters.  After any opening nothing is pending, so the
query of the next one says the number alone. -/
theorem resolve_round_trip (origin : Url) {raws : List String}
    (action : Option String) (number : Nat) {workspace : Workspace}
    {machine : Machine} (equated : ∀ raw ∈ raws, '=' ∈ raw.toList)
    (developed : workspace.devMachine? = some machine)
    (direct : machine.runtime.environment.contains "RIDE" = false) :
    ∃ target, Link.Targets "ide url" workspace.links target ∧
      (∃ parameters kept query,
        raws.mapM CommandLine.readParameter? = some parameters ∧
          List.Forall₂ CommandLine.Spells raws parameters ∧
          Distills parameters kept ∧
          (((new origin).prepared action parameters).resolve
            workspace number).1 = some (target ++ "?" ++ query) ∧
          Url.formDecode query = fields number action kept) ∧
      ∀ (launch : Launch) (visited : Workspace) (drawn : Nat),
        let next := (launch.resolve visited drawn).2
        next.action = none ∧ next.parameters = [] ∧
          ∃ query, (next.resolve workspace number).1 =
              some (target ++ "?" ++ query) ∧
            Url.formDecode query = [("uid", Text.decimal number)] := by
  refine ⟨_, Workspace.linkTarget_eq_iff.mp rfl, ?_, ?_⟩
  · obtain ⟨parameters, read, spell⟩ := CommandLine.exists_readParameters equated
    obtain ⟨kept, prepared, distills⟩ := prepared_new origin action parameters
    obtain ⟨query, opened, decoded⟩ :=
      url?_of_direct ⟨origin, action, kept⟩ number developed direct
    refine ⟨parameters, kept, query, read, spell, distills, ?_, decoded⟩
    rw [prepared]
    exact opened
  · intro launch visited drawn
    exact ⟨rfl, rfl, url?_of_direct launch.used number developed direct⟩

/-- The law for names that repeat, are empty or contain marks of forms, in a
workspace with two links to its environment behind one of another relation. -/
theorem resolve_round_trip_marks :
    let machine : Machine := ⟨⟨"dev"⟩, ∅, ∅⟩
    let workspace : Workspace :=
      ⟨⟨"workspace1"⟩, .running, ⟨"first", "default"⟩,
        [⟨"self link", "http://che.local/api/workspace1", none, []⟩,
          ⟨"ide url", "http://che.local/ide", some "GET", []⟩,
          ⟨"ide url", "http://che.local/other", none, []⟩],
        some ⟨some machine, [machine]⟩⟩
    let raws := ["file=a&b", "=", "uid=ü +%", "file=c=d"]
    (∀ raw ∈ raws, '=' ∈ raw.toList) ∧
      workspace.devMachine? = some machine ∧
      machine.runtime.environment.contains "RIDE" = false ∧
      ∀ origin : Url, ∃ parameters kept query,
        raws.mapM CommandLine.readParameter? = some parameters ∧
          List.Forall₂ CommandLine.Spells raws parameters ∧
          Distills parameters kept ∧
          (((new origin).prepared (some "open") parameters).resolve
            workspace 7).1 = some ("http://che.local/ide?" ++ query) ∧
          Url.formDecode query = fields 7 (some "open") kept := by
  intro machine workspace raws
  have equated : ∀ raw ∈ raws, '=' ∈ raw.toList := by
    decide
  refine ⟨equated, rfl, rfl, fun origin => ?_⟩
  have isTarget : workspace.linkTarget "ide url" = "http://che.local/ide" := rfl
  obtain ⟨target, targets, opens, -⟩ :=
    @resolve_round_trip origin raws (some "open") 7 workspace machine equated rfl
      rfl
  cases isTarget.symm.trans (Workspace.linkTarget_eq_iff.mpr targets)
  exact opens

end Launch

end WorkspaceStartup
