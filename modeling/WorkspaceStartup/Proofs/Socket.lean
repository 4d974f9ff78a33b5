import WorkspaceStartup.Endpoint
import WorkspaceStartup.Proofs.Url.Web
import WorkspaceStartup.Settings.Basic

/-!
# The sockets of the service and of the agent

The URL of the message bus is made from the address of the service, the URL of
the agent from the address of its server.  Both are the same socket, at two
places below one path.  Of the scheme of an address the socket shows only
whether it is secure, and it does not show slashes at the end of the path.
-/

namespace WorkspaceStartup

namespace Url

open Settings (socketScheme?)

variable {url : Url} {scheme place address other : String}

/-! ## From a URL to a socket -/

/-- The scheme of sockets to places of a scheme of the web. -/
def socketScheme (scheme : String) : String :=
  if scheme = "https" ∨ scheme = "wss" then "wss" else "ws"

theorem socketScheme?_eq_some_iff {socket : String} :
    socketScheme? scheme = some socket ↔
      IsWeb scheme ∧ socketScheme scheme = socket := by
  constructor
  · intro found
    unfold socketScheme? at found
    split at found
    · next plain =>
        cases found
        rcases plain with rfl | rfl
        · exact ⟨.inl rfl, rfl⟩
        · exact ⟨.inr (.inr (.inl rfl)), rfl⟩
    · split at found
      · next secure =>
          cases found
          rcases secure with rfl | rfl
          · exact ⟨.inr (.inl rfl), rfl⟩
          · exact ⟨.inr (.inr (.inr rfl)), rfl⟩
      · cases found
  · rintro ⟨rfl | rfl | rfl | rfl, rfl⟩ <;> rfl

theorem isWeb_socketScheme (web : IsWeb scheme) :
    IsWeb (socketScheme scheme) := by
  rcases web with rfl | rfl | rfl | rfl <;> decide

theorem defaultPort?_socketScheme (web : IsWeb scheme) :
    defaultPort? (socketScheme scheme) = defaultPort? scheme := by
  rcases web with rfl | rfl | rfl | rfl <;> rfl

/-- The URL under the scheme of sockets. -/
def socket (url : Url) : Url :=
  { url with scheme := socketScheme url.scheme }

theorem socket_of_socketScheme (stays : socketScheme url.scheme = url.scheme) :
    url.socket = url := by
  rw [socket, stays]

/-- No URL that was read refuses the scheme of sockets. -/
theorem IsRegular.withScheme? (regular : IsRegular url) :
    url.withScheme? (socketScheme url.scheme) = some url.socket := by
  have web := isWeb_socketScheme regular.web
  have noFile : socketScheme url.scheme ≠ "file" := by simpa using web.not_file
  have port : (url.port.filter fun port =>
      defaultPort? (socketScheme url.scheme) != some port) = url.port := by
    rw [defaultPort?_socketScheme regular.web]
    cases given : url.port with
    | none => rfl
    | some port =>
        exact Option.filter_some_pos (bne_iff_ne.mpr (regular.port port given))
  have hosted : url.host.isNone = false := by
    rw [← Option.not_isSome, regular.host]
    rfl
  simp [Url.withScheme?, web.isSpecial, regular.web.isSpecial, noFile, port,
    hosted, socket]

/-- A socket at a place below the path of a URL. -/
structure IsSocketOf (url : Url) (place : String) (socket : Url) : Prop where
  scheme : socket.scheme = socketScheme url.scheme
  username : socket.username = url.username
  password : socket.password = url.password
  host : socket.host = url.host
  port : socket.port = url.port
  path : socket.path.text = url.path.trimmedText ++ place
  query : socket.query = url.query
  fragment : socket.fragment = url.fragment

/-- The place is written in settled names. -/
def IsPlace (place : String) : Prop :=
  ∃ names, names ≠ [] ∧ place = String.ofList (written names) ∧
    ∀ name ∈ names, IsSettled name

theorem isSettled_of_all {name : List Char}
    (plain : name.all (fun character =>
      !mustEncodeInPath character && !isSlash true character) = true)
    (noDots : isDots name = false) : IsSettled name := by
  simp only [List.all_eq_true, Bool.and_eq_true, Bool.not_eq_true'] at plain
  exact ⟨fun character member => (plain character member).1,
    fun character member => (plain character member).2, noDots⟩

theorem isPlace_bus : IsPlace "/api/ws" := by
  refine ⟨["api".toList, "ws".toList], nofun, by decide, ?_⟩
  simp only [List.forall_mem_cons, List.not_mem_nil, false_imp_iff, implies_true,
    and_true]
  exact ⟨isSettled_of_all rfl rfl, isSettled_of_all rfl rfl⟩

theorem isPlace_agent : IsPlace "/ws" := by
  refine ⟨["ws".toList], nofun, by decide, ?_⟩
  rw [List.forall_mem_singleton]
  exact isSettled_of_all rfl rfl

/-- At its place the socket of a URL that was read has another path only. -/
theorem IsRegular.exists_below (regular : IsRegular url)
    (isPlace : IsPlace place) :
    ∃ path, url.socket.below place = { url.socket with path := path } ∧
      path.text = url.path.trimmedText ++ place := by
  obtain ⟨names, named, rfl, settledNames⟩ := isPlace
  obtain ⟨segments, isPath, settled⟩ := regular.path
  have web : IsWeb url.socket.scheme := isWeb_socketScheme regular.web
  exact below_eq web isPath settled named settledNames

theorem IsRegular.isSocketOf_below (regular : IsRegular url)
    (isPlace : IsPlace place) : IsSocketOf url place (url.socket.below place) := by
  obtain ⟨path, isBelow, text⟩ := regular.exists_below isPlace
  rw [isBelow]
  exact ⟨rfl, rfl, rfl, rfl, rfl, text, rfl, rfl⟩

/-- The text of the socket at a place below the URL that an address writes. -/
def socketAt? (address place : String) : Option String := do
  let url ← parse? address
  let scheme ← socketScheme? url.scheme
  let socket ← url.withScheme? scheme
  return (socket.below place).text

theorem parse?_eq_some_iff :
    parse? address = some url ↔ parse address = .ok url := by
  rw [parse?]
  cases parse address <;> simp [Except.toOption]

theorem socketAt?_of_parse (place : String) (parsed : parse address = .ok url)
    (web : IsWeb url.scheme) :
    socketAt? address place = some (url.socket.below place).text := by
  have isScheme : socketScheme? url.scheme = some (socketScheme url.scheme) :=
    socketScheme?_eq_some_iff.mpr ⟨web, rfl⟩
  have renamed := (isRegular_of_parse parsed web).withScheme?
  simp [socketAt?, parse?_eq_some_iff.mpr parsed, isScheme, renamed]

/-- There is a socket exactly for the URLs of the web. -/
theorem isSome_socketAt?_iff (address place : String) :
    (socketAt? address place).isSome = true ↔
      ∃ url, parse address = .ok url ∧ IsWeb url.scheme := by
  constructor
  · intro isSome
    obtain ⟨text, found⟩ := Option.isSome_iff_exists.mp isSome
    obtain ⟨url, parsed, found⟩ := Option.bind_eq_some_iff.mp found
    obtain ⟨scheme, isScheme, -⟩ := Option.bind_eq_some_iff.mp found
    exact ⟨url, parse?_eq_some_iff.mp parsed,
      (socketScheme?_eq_some_iff.mp isScheme).1⟩
  · rintro ⟨url, parsed, web⟩
    rw [socketAt?_of_parse place parsed web]
    rfl

/-! ## Addresses of one socket -/

/-- What the sockets at all places below an address have in common. -/
def site? (address : String) : Option Url :=
  (parse? address).bind fun url =>
    if IsWeb url.scheme then
      some { url.socket with path := .uninterpreted url.path.trimmedText }
    else none

theorem text_of_path {path : Path} (host : url.host.isSome = true) :
    { url with path := path }.text =
      { url with path := .uninterpreted path.text }.text := by
  obtain ⟨host, isHost⟩ := Option.isSome_iff_exists.mp host
  simp only [text, authorityText, isHost, target]
  rfl

/-- The socket at a place depends on nothing else of the address. -/
theorem socketAt?_eq (isPlace : IsPlace place) (address : String) :
    socketAt? address place =
      (site? address).map fun site =>
        { site with path := .uninterpreted (site.path.text ++ place) }.text := by
  rw [site?]
  cases parsed : parse? address with
  | none => simp [socketAt?, parsed]
  | some url =>
      by_cases web : IsWeb url.scheme
      · have parsed := parse?_eq_some_iff.mp parsed
        have regular := isRegular_of_parse parsed web
        obtain ⟨path, isBelow, text⟩ := regular.exists_below isPlace
        rw [socketAt?_of_parse _ parsed web, isBelow,
          text_of_path (show url.socket.host.isSome = true from regular.host),
          text]
        simp [web, Path.text, socket]
      · have noScheme : socketScheme? url.scheme = none := by
          by_contra found
          obtain ⟨socket, found⟩ := Option.ne_none_iff_exists'.mp found
          exact web (socketScheme?_eq_some_iff.mp found).1
        simp [socketAt?, parsed, web, noScheme]

theorem site?_eq_none (other : ∀ scheme rest,
      readScheme? (tidy address) = some (scheme, rest) → ¬IsWeb scheme) :
    site? address = none := by
  rw [site?, Option.bind_eq_none_iff]
  intro url parsed
  obtain ⟨rest, read⟩ :=
    exists_readScheme?_of_parse (parse?_eq_some_iff.mp parsed)
  exact if_neg (other _ rest read)

/-- Slashes at the end of the path lead to the same socket. -/
theorem site?_append_slashes {front tail : List Char} {count : Nat}
    (cut : cutTail (tidy address) = (front, tail))
    (longer : tidy other = front ++ List.replicate count '/' ++ tail) :
    site? other = site? address := by
  obtain ⟨whole, isTail, plain⟩ := cutTail_eq_iff.mp cut
  have slashPlain : ∀ character ∈ List.replicate count '/',
      startsTail character = false := by
    intro character member
    rw [List.eq_of_mem_replicate member]
    rfl
  have cutOther :
      cutTail (tidy other) = (front ++ List.replicate count '/', tail) :=
    cutTail_eq_iff.mpr
      ⟨longer, isTail, List.forall_mem_append.mpr ⟨plain, slashPlain⟩⟩
  have stops : Stops (fun character => !endsScheme character)
      (List.replicate count '/') :=
    stops_replicate rfl count
  have readOther := readScheme?_append front stops
  -- Addresses of other schemes have no socket, with the slashes or without.
  by_cases web : ∃ scheme rest,
      readScheme? front = some (scheme, rest) ∧ IsWeb scheme
  · obtain ⟨scheme, rest, read, web⟩ := web
    rw [read, Option.map_some] at readOther
    obtain ⟨sameAuthority, more, longerPath⟩ := parts_append_slashes rest count
    rw [site?, site?, parse?, parse?, parse_eq web cut read,
      parse_eq web cutOther readOther, sameAuthority, longerPath]
    cases readAuthority scheme (authorityPart rest) true with
    | error => rfl
    | ok authority =>
        simp [Except.map, Except.toOption, assemble, socket,
          trimmedText_readPath_append web]
  · have noWeb (scheme : String) (behind rest : List Char)
        (read : (readScheme? front).map (fun found =>
          (found.1, found.2 ++ behind)) = some (scheme, rest)) :
        ¬IsWeb scheme := by
      intro isWeb
      obtain ⟨⟨_, within⟩, readFront, same⟩ := Option.map_eq_some_iff.mp read
      cases same
      exact web ⟨_, within, readFront, isWeb⟩
    have none : site? address = none := by
      refine site?_eq_none fun scheme rest read => ?_
      rw [whole, readScheme?_append front isTail.stops_scheme] at read
      exact noWeb scheme tail rest read
    have noneOther : site? other = Option.none := by
      refine site?_eq_none fun scheme rest read => ?_
      rw [longer, readScheme?_append _ isTail.stops_scheme, readOther,
        Option.map_map] at read
      refine noWeb scheme (List.replicate count '/' ++ tail) rest ?_
      simpa [Function.comp_def] using read
    rw [none, noneOther]

/-- Schemes that differ only in whether they are meant for sockets. -/
def AreTwins (scheme other : String) : Prop :=
  scheme = "http" ∧ other = "ws" ∨ scheme = "https" ∧ other = "wss"

theorem site?_of_twins {other : String} {first second : String}
    {rest : List Char} (twins : AreTwins first second)
    (read : readScheme? (tidy address) = some (first, rest))
    (readOther : readScheme? (tidy other) = some (second, rest)) :
    site? other = site? address := by
  have known : IsWeb first ∧ IsWeb second ∧
      defaultPort? second = defaultPort? first ∧
        socketScheme second = socketScheme first := by
    rcases twins with ⟨rfl, rfl⟩ | ⟨rfl, rfl⟩ <;> decide
  obtain ⟨web, webOther, port, secure⟩ := known
  rw [site?, site?, parse?, parse?, parse_of_readScheme? web read,
    parse_of_readScheme? webOther readOther,
    readFromAuthority_eq_map web webOther port]
  cases parsed : readFromAuthority first (rest.dropWhile (isSlash true)) with
  | error => rfl
  | ok url =>
      have scheme : url.scheme = first := scheme_of_readFromAuthority parsed
      simp [Except.map, Except.toOption, socket, scheme, web, webOther, secure]

/-- Addresses that differ in slashes at the end of the path and in whether their
scheme is meant for sockets. -/
inductive Varies : String → String → Prop
  | slashes {address other : String} {front tail : List Char} (count : Nat)
      (cut : cutTail (tidy address) = (front, tail))
      (longer : tidy other = front ++ List.replicate count '/' ++ tail) :
      Varies address other
  | scheme {address other first second : String} {rest : List Char}
      (twins : AreTwins first second)
      (read : readScheme? (tidy address) = some (first, rest))
      (readOther : readScheme? (tidy other) = some (second, rest)) :
      Varies address other
  | symm {address other : String} (varies : Varies other address) :
      Varies address other
  | trans {address middle other : String} (first : Varies address middle)
      (second : Varies middle other) : Varies address other

theorem Varies.site?_eq (varies : Varies address other) :
    site? other = site? address := by
  induction varies with
  | slashes count cut longer => exact site?_append_slashes cut longer
  | scheme twins read readOther => exact site?_of_twins twins read readOther
  | symm _ induction => exact induction.symm
  | trans _ _ first second => exact second.trans first

end Url

/-! ## The bus and the agent -/

namespace Settings

open Url

variable {settings : Settings}

/-- No URL of the bus has been chosen. -/
def LeavesBus (settings : Settings) : Prop :=
  settings.busUrl = none ∨ settings.busUrl = some ""

theorem effectiveBusUrl?_eq (leaves : settings.LeavesBus) :
    settings.effectiveBusUrl? = socketAt? settings.serverUrl "/api/ws" := by
  have unchosen : (settings.busUrl.filter fun url => !url.isEmpty) = none := by
    rcases leaves with absent | empty
    · rw [absent]
      rfl
    · rw [empty]
      rfl
  rw [effectiveBusUrl?, unchosen]
  rfl

end Settings

namespace EndpointStrategy

open Url

variable {workspace : Workspace} {url : Url} {address : String}

/-- The only server of the development machine is the agent's, at the address. -/
def ServesAgentAt (workspace : Workspace) (address : String) : Prop :=
  ∃ machine name server,
    workspace.devMachine? = some machine ∧
      machine.runtime.servers.entries = [(name, server)] ∧
      server.reference = some agentReference ∧ server.url = some address

theorem asSocket?_of_isRegular (regular : IsRegular url) :
    asSocket? url = some url.socket := by
  have renamed := regular.withScheme?
  unfold asSocket?
  rcases regular.web with scheme | scheme | scheme | scheme
  · simpa [scheme, socketScheme] using renamed
  · simpa [scheme, socketScheme] using renamed
  · simp [scheme, socket_of_socketScheme (show socketScheme url.scheme = _ by
      rw [scheme]; rfl)]
  · simp [scheme, socket_of_socketScheme (show socketScheme url.scheme = _ by
      rw [scheme]; rfl)]

theorem asSocket?_of_not_isWeb (other : ¬IsWeb url.scheme) :
    asSocket? url = none := by
  simp only [IsWeb, not_or] at other
  obtain ⟨noHttp, noHttps, noWs, noWss⟩ := other
  simp [asSocket?, noHttp, noHttps, noWs, noWss]

theorem resolve?_eq (serves : ServesAgentAt workspace address) :
    agentServer.resolve? workspace = socketAt? address "/ws" := by
  obtain ⟨machine, name, server, isMachine, only, isAgent, isAddress⟩ := serves
  have found : agentServer? machine = some server := by
    simp [agentServer?, Machine.serverByReference?, Machine.firstReferring,
      Dictionary.values, only, isAgent]
  have socketFound : socketOf? server = socketAt? address "/ws" := by
    rw [socketOf?, isAddress]
    cases parsed : parse? address with
    | none => simp [socketAt?, parsed]
    | some url =>
        by_cases web : IsWeb url.scheme
        · have parsedOk := parse?_eq_some_iff.mp parsed
          rw [socketAt?_of_parse "/ws" parsedOk web]
          simp [parsed, asSocket?_of_isRegular (isRegular_of_parse parsedOk web)]
        · have none : ¬(socketAt? address "/ws").isSome = true := by
            rw [isSome_socketAt?_iff]
            rintro ⟨same, parsedOk, isWeb⟩
            cases parsed.symm.trans (parse?_eq_some_iff.mpr parsedOk)
            exact web isWeb
          rw [Option.not_isSome_iff_eq_none.mp none]
          simp [parsed, asSocket?_of_not_isWeb web]
  simp [resolve?, isMachine, found, socketFound]

end EndpointStrategy

open Url in
/-- The bus has a socket exactly if the agent has one at the same address, which is
when the address is a URL of the web.  The two are made from it alike, and they
are the same for all addresses that differ in slashes at the end of the path and
in whether the scheme is meant for sockets. -/
theorem sockets_of_bus_and_agent_agree {settings : Settings}
    {workspace : Workspace} (leaves : settings.LeavesBus)
    (serves : EndpointStrategy.ServesAgentAt workspace settings.serverUrl) :
    let bus := settings.effectiveBusUrl?
    let agent := EndpointStrategy.agentServer.resolve? workspace
    (bus.isSome = true ↔ agent.isSome = true) ∧
      (bus.isSome = true ↔
        ∃ url, parse settings.serverUrl = .ok url ∧ IsWeb url.scheme) ∧
      (∀ url, parse settings.serverUrl = .ok url → IsWeb url.scheme →
        ∃ busSocket agentSocket,
          bus = some busSocket.text ∧ IsSocketOf url "/api/ws" busSocket ∧
            agent = some agentSocket.text ∧ IsSocketOf url "/ws" agentSocket) ∧
      ∀ (others : Settings) (otherWorkspace : Workspace),
        others.LeavesBus →
          EndpointStrategy.ServesAgentAt otherWorkspace others.serverUrl →
            Varies settings.serverUrl others.serverUrl →
              others.effectiveBusUrl? = bus ∧
                EndpointStrategy.agentServer.resolve? otherWorkspace = agent := by
  intro bus agent
  have isBus : bus = socketAt? settings.serverUrl "/api/ws" :=
    Settings.effectiveBusUrl?_eq leaves
  have isAgent : agent = socketAt? settings.serverUrl "/ws" :=
    EndpointStrategy.resolve?_eq serves
  refine ⟨?_, ?_, ?_, ?_⟩
  · rw [isBus, isAgent, isSome_socketAt?_iff, isSome_socketAt?_iff]
  · rw [isBus, isSome_socketAt?_iff]
  · intro url parsed web
    have regular := isRegular_of_parse parsed web
    refine ⟨url.socket.below "/api/ws", url.socket.below "/ws",
      ?_, regular.isSocketOf_below isPlace_bus, ?_,
      regular.isSocketOf_below isPlace_agent⟩
    · rw [isBus, socketAt?_of_parse _ parsed web]
    · rw [isAgent, socketAt?_of_parse _ parsed web]
  · intro others otherWorkspace othersLeave othersServe varies
    have site := varies.site?_eq
    constructor
    · rw [isBus, Settings.effectiveBusUrl?_eq othersLeave,
        socketAt?_eq isPlace_bus, socketAt?_eq isPlace_bus, site]
    · rw [isAgent, EndpointStrategy.resolve?_eq othersServe,
        socketAt?_eq isPlace_agent, socketAt?_eq isPlace_agent, site]

open Url in
theorem sockets_of_bus_and_agent_agree_over_variants :
    let address := "https://me:pw@10.0.0.1:8443/che//?q=1#f"
    let settings := { Settings.default with serverUrl := address }
    let others :=
      { settings with serverUrl := "wss://me:pw@10.0.0.1:8443/che?q=1#f" }
    let workspace (address : String) : Workspace :=
      let server : Server :=
        ⟨some EndpointStrategy.agentReference, none, some address, none⟩
      let runtime : MachineRuntime := ⟨.empty, .ofList [("4401/tcp", server)]⟩
      ⟨⟨"w"⟩, .running, ⟨"name", "default"⟩, [],
        some ⟨some ⟨⟨"dev"⟩, runtime⟩, []⟩⟩
    settings.LeavesBus ∧
      EndpointStrategy.ServesAgentAt (workspace address) address ∧
      Varies address others.serverUrl ∧
      settings.effectiveBusUrl? =
        some "wss://me:pw@10.0.0.1:8443/che/api/ws?q=1#f" ∧
      EndpointStrategy.agentServer.resolve? (workspace others.serverUrl) =
        some "wss://me:pw@10.0.0.1:8443/che/ws?q=1#f" ∧
      others.effectiveBusUrl? = settings.effectiveBusUrl? := by
  intro address settings others workspace
  have leaves : settings.LeavesBus := .inl rfl
  have serves (address : String) :
      EndpointStrategy.ServesAgentAt (workspace address) address :=
    ⟨_, "4401/tcp", _, rfl, rfl, rfl, rfl⟩
  have bus : settings.effectiveBusUrl? =
      some "wss://me:pw@10.0.0.1:8443/che/api/ws?q=1#f" := by
    decide +kernel
  have agent : EndpointStrategy.agentServer.resolve? (workspace address) =
      some "wss://me:pw@10.0.0.1:8443/che/ws?q=1#f" := by
    decide +kernel
  have cut : cutTail (tidy "https://me:pw@10.0.0.1:8443/che?q=1#f") =
      ("https://me:pw@10.0.0.1:8443/che".toList, "?q=1#f".toList) := by
    decide +kernel
  have shorter : Varies address "https://me:pw@10.0.0.1:8443/che?q=1#f" :=
    .symm (.slashes 2 cut (by decide +kernel))
  have varies : Varies address others.serverUrl :=
    .trans shorter (.scheme (.inr ⟨rfl, rfl⟩)
      (show readScheme? (tidy "https://me:pw@10.0.0.1:8443/che?q=1#f") =
        some ("https", "//me:pw@10.0.0.1:8443/che?q=1#f".toList) by decide +kernel)
      (by decide +kernel))
  obtain ⟨-, -, -, same⟩ := sockets_of_bus_and_agent_agree leaves (serves address)
  obtain ⟨sameBus, sameAgent⟩ :=
    same others (workspace others.serverUrl) (.inl rfl) (serves _) varies
  exact ⟨leaves, serves address, varies, bus, sameAgent.trans agent, sameBus⟩

end WorkspaceStartup
