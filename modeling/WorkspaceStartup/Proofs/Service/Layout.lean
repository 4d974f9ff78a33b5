import WorkspaceStartup.Proofs.Url.Web
import WorkspaceStartup.Service.Call

/-!
# Layouts of targets

The target of a call starts with what the address gives it and ends with the
names in the call, one by one, as they are encoded there.  Names that mean nothing
but themselves in a URL are known from their encodings, so no two calls have one
target.
-/

namespace WorkspaceStartup

open Url

/-! ## Names -/

/-- The characters mean nothing but themselves in a URL. -/
structure Url.IsName (name : List Char) : Prop where
  slashless : ∀ character ∈ name, isSlash true character = false
  tailless : ∀ character ∈ name, startsTail character = false
  unbroken : ∀ character ∈ name, isInterruption character = false
  codeFree : IsCodeFree name
  plain : isDots name = false

theorem Url.isName_iff {name : List Char} :
    IsName name ↔
      name.all (fun character => !isSlash true character &&
        !startsTail character && !isInterruption character) = true ∧
      decodeBytes name = Text.bytesOf name ∧ isDots name = false := by
  simp only [List.all_eq_true, Bool.and_eq_true, Bool.not_eq_true']
  constructor
  · intro isName
    exact ⟨fun character member => ⟨⟨isName.slashless character member,
      isName.tailless character member⟩, isName.unbroken character member⟩,
      isName.codeFree, isName.plain⟩
  · rintro ⟨marks, codeFree, plain⟩
    exact ⟨fun character member => (marks character member).1.1,
      fun character member => (marks character member).1.2,
      fun character member => (marks character member).2, codeFree, plain⟩

instance (name : List Char) : Decidable (IsName name) :=
  decidable_of_iff _ isName_iff.symm

namespace ServiceCall

/-- The names in the path of a call. -/
def names : ServiceCall → List (List Char)
  | start id _ => ["workspace".toList, id.text.toList, "runtime".toList]
  | details id => ["workspace".toList, id.text.toList]
  | list => ["workspace".toList]
  | activity id => ["activity".toList, id.text.toList]

theorem toList_path (call : ServiceCall) :
    call.path.toList = written call.names := by
  cases call <;> simp [path, names, written]

theorem names_ne_nil (call : ServiceCall) : call.names ≠ [] := by
  cases call <;> exact List.cons_ne_nil _ _

theorem path_ne_nil (call : ServiceCall) : call.path.toList ≠ [] := by
  rw [toList_path]
  cases call <;> exact List.cons_ne_nil _ _

/-- The names of a call mean nothing but themselves, and its last character is
none that is dropped at the end of a URL. -/
structure IsPlain (call : ServiceCall) : Prop where
  names : ∀ name ∈ call.names, IsName name
  ending : call.path.toList.getLast?.any isSurrounding = false

instance (call : ServiceCall) : Decidable call.IsPlain :=
  decidable_of_iff
    ((∀ name ∈ call.names, IsName name) ∧
      call.path.toList.getLast?.any isSurrounding = false)
    ⟨fun ⟨names, ending⟩ => ⟨names, ending⟩,
    fun plain => ⟨plain.names, plain.ending⟩⟩

end ServiceCall

/-! ## Layouts -/

/-- How an address lays out the targets of calls: what stands before their names,
and whether the names are part of the query. -/
structure Layout where
  stem : List Char
  inQuery : Bool

namespace Layout

variable {layout : Layout} {first second : ServiceCall}

def mustEncode (layout : Layout) : Char → Bool :=
  if layout.inQuery then mustEncodeInQuery true else mustEncodeInPath

/-- What is said about the environment, with the mark before it. -/
def saying (layout : Layout) (environment : String) : List Char :=
  if environment.isEmpty then []
  else
    (if layout.inQuery then '&' else '?') ::
      ("environment=".toList ++ (formEncode environment).toList)

/-- What a call says in the query, with the mark before it. -/
def said (layout : Layout) : ServiceCall → List Char
  | .start _ environment => layout.saying environment
  | .details _ | .list | .activity _ => []

/-- The segments at the end of the target of a call. -/
def segments (layout : Layout) : ServiceCall → List (List Char)
  | .start id environment =>
      ["workspace".toList, encode layout.mustEncode id.text.toList,
        "runtime".toList ++ layout.saying environment]
  | .details id => ["workspace".toList, encode layout.mustEncode id.text.toList]
  | .list => ["workspace".toList]
  | .activity id => ["activity".toList, encode layout.mustEncode id.text.toList]

def target (layout : Layout) (call : ServiceCall) : List Char :=
  layout.stem ++ written (layout.segments call)

theorem written_segments (layout : Layout) (call : ServiceCall) :
    written (layout.segments call) =
      written (call.names.map (encode layout.mustEncode)) ++ layout.said call := by
  have itself {name : List Char}
      (free : name.all (fun character =>
        !mustEncodeInPath character && !mustEncodeInQuery true character) = true) :
      encode layout.mustEncode name = name := by
    refine encode_of_free fun character member => ?_
    have both := List.all_eq_true.mp free character member
    rw [Bool.and_eq_true, Bool.not_eq_true', Bool.not_eq_true'] at both
    unfold mustEncode
    split
    · exact both.2
    · exact both.1
  have workspace : encode layout.mustEncode "workspace".toList =
      "workspace".toList := itself (by decide)
  have runtime : encode layout.mustEncode "runtime".toList =
      "runtime".toList := itself (by decide)
  have activity : encode layout.mustEncode "activity".toList =
      "activity".toList := itself (by decide)
  cases call with
  | start id environment =>
      simp only [segments, said, ServiceCall.names, List.map_cons, List.map_nil,
        workspace, runtime, written_cons]
      simp [written]
  | details | list =>
      simp only [segments, said, ServiceCall.names, List.map_cons, List.map_nil,
        workspace, List.append_nil]
  | activity =>
      simp only [segments, said, ServiceCall.names, List.map_cons, List.map_nil,
        activity, List.append_nil]

theorem sparesCodes (layout : Layout) : SparesCodes layout.mustEncode := by
  unfold mustEncode
  split
  · exact sparesCodes_query true
  · exact sparesCodes_path

theorem slash_not_mem_encode {name : List Char} (isName : IsName name) :
    '/' ∉ encode layout.mustEncode name := by
  intro member
  rcases mem_encode member with ⟨inName, -⟩ | percent | ⟨digit, isDigit⟩
  · cases isName.slashless '/' inName
  · cases percent
  · cases isDigit

theorem slash_not_mem_saying (environment : String) :
    '/' ∉ layout.saying environment := by
  have absent : '/' ∉ (formEncode environment).toList :=
    not_mem_formEncode rfl environment
  unfold saying
  split
  · exact List.not_mem_nil
  · split <;> simp [absent]

/-- What is said tells the environment. -/
theorem saying_inj {environment other : String}
    (same : layout.saying environment = layout.saying other) :
    environment = other := by
  have isEmpty (text : String) : text.isEmpty = true ↔ text = "" :=
    String.isEmpty_iff
  by_cases empty : environment.isEmpty = true
  · by_cases emptyOther : other.isEmpty = true
    · rw [(isEmpty _).mp empty, (isEmpty _).mp emptyOther]
    · rw [saying, if_pos empty, saying, if_neg emptyOther] at same
      cases same
  · by_cases emptyOther : other.isEmpty = true
    · rw [saying, if_neg empty, saying, if_pos emptyOther] at same
      cases same
    · rw [saying, if_neg empty, saying, if_neg emptyOther] at same
      have values := List.append_cancel_left (List.cons.inj same).2
      rw [← formText_formEncode environment, values, formText_formEncode]

theorem slashless_segments {call : ServiceCall} (plain : call.IsPlain) :
    ∀ segment ∈ layout.segments call, '/' ∉ segment := by
  have encoded {id : WorkspaceId} (member : id.text.toList ∈ call.names) :
      '/' ∉ encode layout.mustEncode id.text.toList :=
    slash_not_mem_encode (plain.names _ member)
  unfold segments
  cases call with
  | start id environment =>
      have said : '/' ∉ "runtime".toList ++ layout.saying environment := by
        rw [List.mem_append, not_or]
        exact ⟨by decide, slash_not_mem_saying environment⟩
      simp only [List.forall_mem_cons]
      exact ⟨by decide, encoded (.tail _ (.head _)), said, List.forall_mem_nil _⟩
  | details id =>
      simp only [List.forall_mem_cons]
      exact ⟨by decide, encoded (.tail _ (.head _)), List.forall_mem_nil _⟩
  | list =>
      simp only [List.forall_mem_cons]
      exact ⟨by decide, List.forall_mem_nil _⟩
  | activity id =>
      simp only [List.forall_mem_cons]
      exact ⟨by decide, encoded (.tail _ (.head _)), List.forall_mem_nil _⟩

/-- The segments of a call tell the call. -/
theorem segments_inj (plainFirst : first.IsPlain) (plainSecond : second.IsPlain)
    (same : layout.segments first = layout.segments second) : first = second := by
  have ids {id other : WorkspaceId} (member : id.text.toList ∈ first.names)
      (memberOther : other.text.toList ∈ second.names)
      (same : encode layout.mustEncode id.text.toList =
        encode layout.mustEncode other.text.toList) : id = other := by
    have texts := eq_of_encode_eq layout.sparesCodes
      (plainFirst.names _ member).codeFree
      (plainSecond.names _ memberOther).codeFree same
    exact congrArg WorkspaceId.mk (String.toList_inj.mp texts)
  have apart : "workspace".toList ≠ "activity".toList := by decide
  -- Only details and activity have the same number of segments.
  have length : (layout.segments first).length =
      (layout.segments second).length :=
    congrArg List.length same
  cases first with
  | start id environment =>
      cases second with
      | start other environment =>
          obtain ⟨-, same⟩ := List.cons.inj same
          obtain ⟨sameId, same⟩ := List.cons.inj same
          obtain ⟨same, -⟩ := List.cons.inj same
          rw [ids (.tail _ (.head _)) (.tail _ (.head _)) sameId,
            saying_inj (List.append_cancel_left same)]
      | details | list | activity => cases length
  | details id =>
      cases second with
      | details other =>
          obtain ⟨-, same⟩ := List.cons.inj same
          rw [ids (.tail _ (.head _)) (.tail _ (.head _)) (List.cons.inj same).1]
      | activity => exact (apart (List.cons.inj same).1).elim
      | start | list => cases length
  | list =>
      cases second with
      | list => rfl
      | start | details | activity => cases length
  | activity id =>
      cases second with
      | activity other =>
          obtain ⟨-, same⟩ := List.cons.inj same
          rw [ids (.tail _ (.head _)) (.tail _ (.head _)) (List.cons.inj same).1]
      | details => exact (apart (List.cons.inj same).1.symm).elim
      | start | list => cases length

/-- Under one address no two calls have one target. -/
theorem target_inj (plainFirst : first.IsPlain) (plainSecond : second.IsPlain)
    (same : layout.target first = layout.target second) : first = second := by
  have segments : layout.segments first = layout.segments second :=
    written_inj (slashless_segments plainFirst)
      (slashless_segments plainSecond) (List.append_cancel_left same)
  exact segments_inj plainFirst plainSecond segments

end Layout

end WorkspaceStartup
