import WorkspaceStartup.Proofs.Service.Layout

/-!
# Targets of requests

The names in a call stand behind the address of the service as they are.  What
the address is decides for all calls alike whether there are requests, and which
layout their targets have: the names belong to the path, or to the query if the
address has one.
-/

namespace WorkspaceStartup

open Url

namespace Url

variable {scheme : String} {authority : Authority}

/-! ## Targets of URLs -/

theorem target_of_query_none {url : Url} (noQuery : url.query = none) :
    url.target = url.path.text := by
  rw [target, noQuery]
  exact String.append_empty

theorem toList_target_of_query {url : Url} {query : List Char}
    (isQuery : url.query = some (String.ofList query)) :
    url.target.toList = url.path.text.toList ++ '?' :: query := by
  rw [target, isQuery]
  simp [markedText]

/-- Names at the end of the path are encoded like a path. -/
theorem toList_target_in_path (web : IsWeb scheme) (authority : Authority)
    (before : List Char) {names : List (List Char)} (named : names ≠ [])
    (isName : ∀ name ∈ names, IsName name) :
    (assemble scheme authority (before ++ written names) []).target.toList =
      written (stem before) ++ written (names.map (encode mustEncodeInPath)) := by
  have path := readPath_append_written web before named
    (fun name member => (isName name member).slashless)
    (fun name member => (isName name member).plain)
  rw [target_of_query_none rfl]
  simp only [assemble, path, text_pathOf, written_append]

theorem query_assemble {query : List Char} (noFragment : '#' ∉ query)
    (authority : Authority) (path : List Char) :
    (assemble scheme authority path ('?' :: query)).query =
      some (String.ofList (encode (mustEncodeInQuery true) query)) := by
  have all : ∀ character ∈ query, (character != '#') = true := by
    intro character member
    rw [bne_iff_ne]
    rintro rfl
    exact noFragment member
  simp only [assemble, readTail]
  rw [List.takeWhile_eq_self_iff.mpr all, List.dropWhile_eq_nil_iff.mpr all]

theorem encode_written {mustEncode : Char → Bool} (free : mustEncode '/' = false)
    (names : List (List Char)) :
    encode mustEncode (written names) =
      written (names.map (encode mustEncode)) := by
  induction names with
  | nil => rfl
  | cons name names induction =>
      rw [written_cons, List.map_cons, written_cons, encode_append, induction,
        encode_cons_of_free free]

theorem isEmpty_encode_append_written {names : List (List Char)}
    (named : names ≠ []) (before : List Char) :
    (String.ofList (encode (mustEncodeInQuery true)
      (before ++ written names))).isEmpty = false := by
  rw [Bool.eq_false_iff, ne_eq, String.isEmpty_iff, ← String.toList_inj,
    String.toList_ofList, encode_append, encode_written rfl]
  cases names with
  | nil => exact (named rfl).elim
  | cons first others =>
      exact List.append_ne_nil_of_right_ne_nil _ (List.cons_ne_nil _ _)

/-- Names at the end of the query are encoded like a query. -/
theorem toList_target_in_query (authority : Authority) (path before : List Char)
    {names : List (List Char)} (noFragment : '#' ∉ before ++ written names) :
    (assemble scheme authority path
        ('?' :: (before ++ written names))).target.toList =
      ((readPath scheme path).text.toList ++
        '?' :: encode (mustEncodeInQuery true) before) ++
        written (names.map (encode (mustEncodeInQuery true))) := by
  rw [toList_target_of_query (query_assemble noFragment authority path),
    encode_append, encode_written rfl]
  simp [assemble]

end Url

/-! ## Calls -/

namespace ServiceCall

/-- What a call says comes at the end of the target. -/
theorem target_complete (call : ServiceCall) {url : Url} {layout : Layout}
    (suits : match url.query with
      | some query => query.isEmpty = false ∧ layout.inQuery = true
      | none => layout.inQuery = false) :
    (call.complete url).target.toList = url.target.toList ++ layout.said call := by
  have name : formEncode "environment" = "environment" :=
    formEncode_of_isPlain (by decide)
  have unsaid : url.target.toList = url.target.toList ++ [] :=
    (List.append_nil _).symm
  cases call with
  | start id environment =>
      rw [complete, Layout.said, Layout.saying]
      by_cases empty : environment.isEmpty = true
      · rw [if_pos empty, if_pos empty]
        exact unsaid
      · rw [if_neg empty, if_neg empty, withField, name]
        cases query : url.query with
        | none =>
            rw [query] at suits
            simp only [target, markedText, query, suits, String.toList_append]
            simp
        | some text =>
            rw [query] at suits
            simp only [target, markedText, query, suits, String.toList_append]
            simp
  | details | list | activity => exact unsaid

end ServiceCall

namespace Service

variable {service : Service} {call : ServiceCall} {front tail rest : List Char}
  {scheme : String}

/-- What stands between an address and the names of a call. -/
def lead : List Char := "/api".toList

theorem lead_plain : ∀ character ∈ lead,
    startsTail character = false ∧ isInterruption character = false := by
  have all : lead.all (fun character =>
      !startsTail character && !isInterruption character) = true :=
    rfl
  simpa only [List.all_eq_true, Bool.and_eq_true, Bool.not_eq_true'] using all

/-- What a call adds to an address. -/
def behind (call : ServiceCall) : List Char := lead ++ written call.names

theorem behind_plain (plain : call.IsPlain) : ∀ character ∈ behind call,
    startsTail character = false ∧ isInterruption character = false := by
  rw [behind, List.forall_mem_append]
  refine ⟨lead_plain, fun character member => ?_⟩
  rcases mem_written member with rfl | ⟨name, inNames, inName⟩
  · exact ⟨rfl, rfl⟩
  · have isName := plain.names name inNames
    exact ⟨isName.tailless character inName, isName.unbroken character inName⟩

/-- Nothing is dropped from what a plain call adds. -/
theorem tidy_endpoint (plain : call.IsPlain) :
    tidy (service.endpoint call) = tidyStart service.address ++ behind call := by
  -- Characters are dropped around a text, so the last one decides.
  obtain nothing | ⟨start, last, split⟩ := List.eq_nil_or_concat (behind call)
  · cases nothing
  have text : service.endpoint call =
      service.address ++ String.ofList (behind call) := by
    rw [← String.toList_inj]
    simp [endpoint, behind, lead, ServiceCall.toList_path]
  have starts : Stops isSurrounding (behind call) := by
    rintro _ ⟨⟩
    rfl
  have ends : isSurrounding last = false := by
    have isLast : (behind call).getLast? = some last := by
      rw [split]
      simp
    have ending := plain.ending
    rw [List.getLast?_eq_some_getLast call.path_ne_nil] at ending
    rw [behind, ← call.toList_path, List.getLast?_append,
      List.getLast?_eq_some_getLast call.path_ne_nil] at isLast
    cases Option.some.inj isLast
    exact ending
  have unbroken : ∀ character ∈ behind call, isInterruption character = false :=
    fun character member => (behind_plain plain character member).2
  rw [List.concat_eq_append] at split
  rw [split] at starts unbroken
  rw [text, split]
  exact tidy_append service.address starts ends unbroken

theorem stops_scheme_behind (call : ServiceCall) :
    Stops (fun character => !endsScheme character) (behind call) := by
  rintro _ ⟨⟩
  rfl

/-- The scheme of the URL of a call is that of the address. -/
theorem exists_readScheme?_of_endpoint (plain : call.IsPlain)
    (cut : cutTail (tidyStart service.address) = (front, tail)) {url : Url}
    (parsed : parse (service.endpoint call) = .ok url) :
    ∃ rest, readScheme? front = some (url.scheme, rest) := by
  obtain ⟨whole, isTail, -⟩ := cutTail_eq_iff.mp cut
  have stops : Stops (fun character => !endsScheme character)
      (tail ++ behind call) := by
    cases tail with
    | nil => exact stops_scheme_behind call
    | cons first others =>
        rintro _ ⟨⟩
        exact isTail.stops_scheme first rfl
  obtain ⟨behindScheme, read⟩ := exists_readScheme?_of_parse parsed
  rw [tidy_endpoint plain, whole, List.append_assoc,
    readScheme?_append front stops] at read
  obtain ⟨⟨scheme, rest⟩, readFront, same⟩ := Option.map_eq_some_iff.mp read
  cases same
  exact ⟨rest, readFront⟩

/-- The schemes over which requests are sent. -/
def IsSent (scheme : String) : Prop := scheme = "http" ∨ scheme = "https"

theorem IsSent.web (sent : IsSent scheme) : IsWeb scheme :=
  sent.imp_right .inl

theorem request_eq_ok_iff {request : Request} :
    service.request call = .ok request ↔
      ∃ url, parse (service.endpoint call) = .ok url ∧ IsSent url.scheme ∧
        ⟨call.method, call.complete url, ""⟩ = request := by
  rw [Service.request]
  cases parsed : parse (service.endpoint call) with
  | error => simp
  | ok url =>
      by_cases sent : url.scheme = "http" ∨ url.scheme = "https"
      · simp [sent, IsSent]
      · simp [sent, IsSent]

/-- All plain calls give requests whose targets have one layout, or none does. -/
def LaysOut (service : Service) : Prop :=
  (∀ call : ServiceCall, call.IsPlain →
    ∀ request, service.request call ≠ .ok request) ∨
  ∃ layout : Layout, ∀ call : ServiceCall, call.IsPlain →
    ∃ request, service.request call = .ok request ∧
      request.url.target.toList = layout.target call

/-- It is enough that all calls have the authority in common. -/
theorem laysOut_of_authority (sent : IsSent scheme)
    {authority : Except Defect Authority} {paths tails : ServiceCall → List Char}
    (parsed : ∀ call : ServiceCall, call.IsPlain →
      parse (service.endpoint call) = authority.map fun authority =>
        assemble scheme authority (paths call) (tails call))
    (targeted : ∃ layout : Layout, ∀ call : ServiceCall, call.IsPlain →
      ∀ authority, (call.complete (assemble scheme authority (paths call)
        (tails call))).target.toList = layout.target call) :
    service.LaysOut := by
  cases authority with
  | error defect =>
      left
      intro call plain request isRequest
      obtain ⟨url, isUrl, -⟩ := request_eq_ok_iff.mp isRequest
      rw [parsed call plain] at isUrl
      cases isUrl
  | ok authority =>
      right
      obtain ⟨layout, targeted⟩ := targeted
      refine ⟨layout, fun call plain => ⟨_, request_eq_ok_iff.mpr
        ⟨_, parsed call plain, sent, rfl⟩, targeted call plain authority⟩⟩

/-- Behind an address without a query the names belong to the path. -/
theorem parse_endpoint_in_path (web : IsWeb scheme)
    (cut : cutTail (tidyStart service.address) = (front, []))
    (read : readScheme? front = some (scheme, rest)) (plain : call.IsPlain) :
    parse (service.endpoint call) =
      (readAuthority scheme (authorityPart (rest ++ lead)) true).map
        fun authority => assemble scheme authority
          (pathPart (rest ++ lead) ++ written call.names) [] := by
  obtain ⟨whole, -, tailless⟩ := cutTail_eq_iff.mp cut
  have taillessBehind : ∀ character ∈ behind call, startsTail character = false :=
    fun character member => (behind_plain plain character member).1
  have filled : (rest ++ lead).dropWhile (isSlash true) ≠ [] := by
    intro none
    rw [List.dropWhile_eq_nil_iff] at none
    cases none 'a' (List.mem_append_right _ (by decide))
  have stops : Stops (fun character => !endsAuthority true character)
      (written call.names) := by
    cases call <;> (rintro _ ⟨⟩; rfl)
  have cutCall : cutTail (tidy (service.endpoint call)) =
      (front ++ behind call, []) := by
    refine cutTail_eq_iff.mpr
      ⟨?_, nofun, List.forall_mem_append.mpr ⟨tailless, taillessBehind⟩⟩
    rw [tidy_endpoint plain, whole, List.append_nil, List.append_nil]
  have readCall := readScheme?_append front (stops_scheme_behind call)
  rw [read, Option.map_some] at readCall
  obtain ⟨sameAuthority, longerPath⟩ := parts_append filled stops
  rw [parse_eq web cutCall readCall, behind, ← List.append_assoc,
    sameAuthority, longerPath]

theorem laysOut_in_path (sent : IsSent scheme)
    (cut : cutTail (tidyStart service.address) = (front, []))
    (read : readScheme? front = some (scheme, rest)) : service.LaysOut := by
  let before := pathPart (rest ++ lead)
  let layout : Layout := ⟨written (stem before), false⟩
  refine laysOut_of_authority sent
    (fun call plain => parse_endpoint_in_path sent.web cut read plain)
    ⟨layout, fun call plain authority => ?_⟩
  let url := assemble scheme authority (before ++ written call.names) []
  have completed : (call.complete url).target.toList =
      url.target.toList ++ layout.said call :=
    call.target_complete rfl
  have unsaid : url.target.toList =
      layout.stem ++ written (call.names.map (encode layout.mustEncode)) :=
    toList_target_in_path sent.web authority before call.names_ne_nil plain.names
  rw [completed, unsaid, Layout.target, Layout.written_segments,
    List.append_assoc]

/-- Behind an address with a query the names belong to the query. -/
theorem parse_endpoint_in_query (web : IsWeb scheme) {query : List Char}
    (cut : cutTail (tidyStart service.address) = (front, '?' :: query))
    (read : readScheme? front = some (scheme, rest)) (plain : call.IsPlain) :
    parse (service.endpoint call) =
      (readAuthority scheme (authorityPart rest) true).map
        fun authority => assemble scheme authority (pathPart rest)
          ('?' :: (query ++ lead ++ written call.names)) := by
  obtain ⟨whole, -, tailless⟩ := cutTail_eq_iff.mp cut
  have cutCall : cutTail (tidy (service.endpoint call)) =
      (front, '?' :: (query ++ lead ++ written call.names)) := by
    refine cutTail_eq_iff.mpr ⟨?_, ?_, tailless⟩
    · rw [tidy_endpoint plain, whole, behind]
      simp
    · rintro _ ⟨⟩
      rfl
  exact parse_eq web cutCall read

theorem laysOut_in_query (sent : IsSent scheme) {query : List Char}
    (noFragment : '#' ∉ tidyStart service.address)
    (cut : cutTail (tidyStart service.address) = (front, '?' :: query))
    (read : readScheme? front = some (scheme, rest)) : service.LaysOut := by
  obtain ⟨whole, -, -⟩ := cutTail_eq_iff.mp cut
  let set := mustEncodeInQuery true
  let layout : Layout :=
    ⟨(readPath scheme (pathPart rest)).text.toList ++
      '?' :: encode set (query ++ lead), true⟩
  refine laysOut_of_authority sent
    (fun call plain => parse_endpoint_in_query sent.web cut read plain)
    ⟨layout, fun call plain authority => ?_⟩
  have noFragmentHere : '#' ∉ query ++ lead ++ written call.names := by
    rw [List.append_assoc, List.mem_append, not_or]
    constructor
    · intro member
      rw [whole] at noFragment
      exact noFragment (List.mem_append_right _ (List.mem_cons_of_mem _ member))
    · intro member
      cases (behind_plain plain '#' member).1
  let url := assemble scheme authority (pathPart rest)
    ('?' :: (query ++ lead ++ written call.names))
  have completed : (call.complete url).target.toList =
      url.target.toList ++ layout.said call := by
    refine call.target_complete ?_
    rw [query_assemble noFragmentHere]
    exact ⟨isEmpty_encode_append_written call.names_ne_nil _, rfl⟩
  have unsaid : url.target.toList =
      layout.stem ++ written (call.names.map (encode layout.mustEncode)) :=
    toList_target_in_query authority (pathPart rest) (query ++ lead) noFragmentHere
  rw [completed, unsaid, Layout.target, Layout.written_segments,
    List.append_assoc]

theorem laysOut (noFragment : '#' ∉ service.address.toList) :
    service.LaysOut := by
  have noFragmentStart : '#' ∉ tidyStart service.address :=
    fun member => noFragment (mem_of_mem_tidyStart member)
  obtain ⟨front, tail, isCut⟩ : ∃ front tail,
      cutTail (tidyStart service.address) = (front, tail) :=
    ⟨_, _, rfl⟩
  obtain ⟨whole, isTail, -⟩ := cutTail_eq_iff.mp isCut
  by_cases sendable : ∃ scheme rest,
      readScheme? front = some (scheme, rest) ∧ IsSent scheme
  · obtain ⟨scheme, rest, read, sent⟩ := sendable
    cases tail with
    | nil => exact laysOut_in_path sent isCut read
    | cons first query =>
        have mark : first = '?' := by
          have starts : startsTail first = true := by
            simpa using isTail first rfl
          rw [startsTail, Bool.or_eq_true, beq_iff_eq, beq_iff_eq] at starts
          refine starts.resolve_right ?_
          rintro rfl
          rw [whole] at noFragmentStart
          exact noFragmentStart (List.mem_append_right _ List.mem_cons_self)
        subst mark
        exact laysOut_in_query sent noFragmentStart isCut read
  · left
    intro call plain request isRequest
    obtain ⟨url, parsed, sent, -⟩ := request_eq_ok_iff.mp isRequest
    obtain ⟨rest, read⟩ := exists_readScheme?_of_endpoint plain isCut parsed
    exact sendable ⟨_, rest, read, sent⟩

/-! ## Details -/

/-- The request asks the service for the details of the workspace. -/
structure IsForDetails (service : Service) (id : WorkspaceId)
    (request : Request) : Prop where
  method : request.method = .get
  body : request.body = ""
  /-- The name of the workspace stands as it is at the end of the text that is read
  as the URL. -/
  url : parse (service.address ++ "/api/workspace/" ++ id.text) =
    .ok request.url
  /-- A name that means nothing but itself there is the last one of the target. -/
  named : '#' ∉ service.address.toList → (ServiceCall.details id).IsPlain →
    ∃ stem name, request.url.target.toList =
        stem ++ "/workspace/".toList ++ name ∧
      '/' ∉ name ∧ decodeBytes name = Text.bytesOf id.text.toList

theorem isForDetails_of_request {id : WorkspaceId} {request : Request}
    (made : service.request (.details id) = .ok request) :
    service.IsForDetails id request := by
  obtain ⟨url, parsed, -, rfl⟩ := request_eq_ok_iff.mp made
  refine ⟨rfl, rfl, ?_, ?_⟩
  · have text : service.address ++ "/api/workspace/" ++ id.text =
        service.endpoint (.details id) := by
      rw [← String.toList_inj]
      simp [endpoint, ServiceCall.path]
    rw [text]
    exact parsed
  · intro noFragment plain
    rcases service.laysOut noFragment with none | ⟨layout, targeted⟩
    · exact (none _ plain _ made).elim
    · obtain ⟨sent, isSent, target⟩ := targeted _ plain
      cases made.symm.trans isSent
      have isName : IsName id.text.toList :=
        plain.names _ (by simp [ServiceCall.names])
      refine ⟨layout.stem, encode layout.mustEncode id.text.toList, ?_,
        Layout.slash_not_mem_encode isName, ?_⟩
      · rw [target, Layout.target, Layout.segments]
        simp [written]
      · rw [decodeBytes_encode layout.sparesCodes]
        exact isName.codeFree

/-- What is wrong with a request that cannot be made is told as text. -/
theorem exists_detail_of_request {call : ServiceCall} {failure : ControlFailure}
    (unmade : service.request call = .error failure) :
    ∃ detail, failure = .transport detail := by
  unfold Service.request at unmade
  split at unmade
  · cases unmade
    exact ⟨_, rfl⟩
  · split at unmade
    · cases unmade
    · cases unmade
      exact ⟨_, rfl⟩

/-! ## Calls side by side -/

/-- Under an address without a fragment, plain calls give requests alike, and no
two of them have one target. -/
theorem plain_calls_have_their_own_targets {first second : ServiceCall}
    (noFragment : '#' ∉ service.address.toList) (plainFirst : first.IsPlain)
    (plainSecond : second.IsPlain) :
    ((∃ request, service.request first = .ok request) ↔
      ∃ request, service.request second = .ok request) ∧
    ∀ request other, service.request first = .ok request →
      service.request second = .ok other →
        request.url.target = other.url.target → first = second := by
  rcases service.laysOut noFragment with none | ⟨layout, targeted⟩
  · constructor
    · constructor
      · rintro ⟨request, isRequest⟩
        exact (none first plainFirst request isRequest).elim
      · rintro ⟨request, isRequest⟩
        exact (none second plainSecond request isRequest).elim
    · intro request other isRequest
      exact (none first plainFirst request isRequest).elim
  · obtain ⟨request, isRequest, target⟩ := targeted first plainFirst
    obtain ⟨other, isOther, targetOther⟩ := targeted second plainSecond
    refine ⟨⟨fun _ => ⟨other, isOther⟩, fun _ => ⟨request, isRequest⟩⟩, ?_⟩
    intro sent sentOther isSent isSentOther same
    cases isSent.symm.trans isRequest
    cases isSentOther.symm.trans isOther
    have targets : layout.target first = layout.target second := by
      rw [← target, ← targetOther, same]
    exact Layout.target_inj plainFirst plainSecond targets

theorem plain_calls_have_their_own_targets_of_two_workspaces :
    let service : Service := ⟨"http://server"⟩
    let first : ServiceCall := .start ⟨"w 1"⟩ "dev"
    let second : ServiceCall := .start ⟨"w+1"⟩ "dev"
    '#' ∉ service.address.toList ∧ first.IsPlain ∧ second.IsPlain ∧
      ∃ request other, service.request first = .ok request ∧
        service.request second = .ok other ∧
        request.url.target = "/api/workspace/w%201/runtime?environment=dev" ∧
        request.url.target ≠ other.url.target := by
  intro service first second
  have noFragment : '#' ∉ service.address.toList := by decide
  have plainFirst : first.IsPlain := by decide +kernel
  have plainSecond : second.IsPlain := by decide +kernel
  have isTarget : (service.request first).toOption.map (·.url.target) =
      some "/api/workspace/w%201/runtime?environment=dev" := by
    decide +kernel
  cases isRequest : service.request first with
  | error => rw [isRequest] at isTarget; cases isTarget
  | ok request =>
      obtain ⟨both, apart⟩ := plain_calls_have_their_own_targets noFragment
        plainFirst plainSecond
      obtain ⟨other, isOther⟩ := both.mp ⟨request, isRequest⟩
      rw [isRequest] at isTarget
      have different : first ≠ second :=
        show ServiceCall.start ⟨"w 1"⟩ "dev" ≠ .start ⟨"w+1"⟩ "dev" by decide
      exact ⟨noFragment, plainFirst, plainSecond, request, other, rfl, isOther,
        Option.some.inj isTarget,
        fun same => different (apart request other isRequest isOther same)⟩

/-- Marks in the names of workspaces keep their meaning.  The details of workspaces
that differ behind a number sign are asked for at one target, and a name can lead
back to where all workspaces are listed. -/
theorem marks_in_names_lead_elsewhere :
    let service : Service := ⟨"http://server"⟩
    let target? (call : ServiceCall) :=
      (service.request call).toOption.map (·.url.target)
    (⟨"w#a"⟩ : WorkspaceId) ≠ ⟨"w#b"⟩ ∧
      target? (.details ⟨"w#a"⟩) = some "/api/workspace/w" ∧
      target? (.details ⟨"w#b"⟩) = some "/api/workspace/w" ∧
      target? (.details ⟨"../workspace#"⟩) = target? .list ∧
      target? .list = some "/api/workspace" := by
  decide +kernel

end Service

end WorkspaceStartup
