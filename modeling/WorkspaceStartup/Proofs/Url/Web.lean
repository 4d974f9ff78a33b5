import Mathlib.Data.List.TakeWhile
import WorkspaceStartup.Proofs.Outcome
import WorkspaceStartup.Proofs.Url.Settled

/-!
# URLs of the web

The text of a URL of the web comes apart into a scheme, an authority, a path
and a tail.  Each part is read by itself, so what changes in one of them
changes nothing in the others.
-/

namespace WorkspaceStartup.Url

variable {characters front tail rest behind : List Char} {scheme : String}
  {test : Char → Bool}

/-! ## Where a part ends -/

/-- The characters do not start with one that passes the test. -/
def Stops (test : Char → Bool) (characters : List Char) : Prop :=
  ∀ character ∈ characters.head?, test character = false

theorem stops_dropWhile (test : Char → Bool) (characters : List Char) :
    Stops test (characters.dropWhile test) := by
  induction characters with
  | nil => nofun
  | cons first others induction =>
      rw [List.dropWhile_cons]
      split
      · exact induction
      · next fails =>
          rintro _ ⟨⟩
          simpa using fails

theorem stops_replicate {mark : Char} (fails : test mark = false)
    (count : Nat) : Stops test (List.replicate count mark) := by
  intro character first
  rwa [List.eq_of_mem_replicate (List.mem_of_mem_head? first)]

theorem takeWhile_append_of_stops (front : List Char)
    (stops : Stops test behind) :
    (front ++ behind).takeWhile test = front.takeWhile test := by
  induction front with
  | nil =>
      cases behind with
      | nil => rfl
      | cons first others =>
          exact List.takeWhile_cons_of_neg (by simp [stops first rfl])
  | cons first front induction =>
      rw [List.cons_append, List.takeWhile_cons, List.takeWhile_cons, induction]

theorem dropWhile_append_of_stops (front : List Char)
    (stops : Stops test behind) :
    (front ++ behind).dropWhile test = front.dropWhile test ++ behind := by
  induction front with
  | nil =>
      cases behind with
      | nil => rfl
      | cons first others =>
          exact List.dropWhile_cons_of_neg (by simp [stops first rfl])
  | cons first front induction =>
      rw [List.cons_append, List.dropWhile_cons, List.dropWhile_cons, induction]
      split <;> rfl

theorem dropWhile_append_of_ne_nil {front : List Char}
    (filled : front.dropWhile test ≠ []) (behind : List Char) :
    (front ++ behind).dropWhile test = front.dropWhile test ++ behind := by
  rw [List.dropWhile_append, if_neg (by simpa using filled)]

/-! ## Dropped characters -/

/-- What is left of a text when more follows it. -/
def tidyStart (text : String) : List Char :=
  (text.toList.dropWhile isSurrounding).filter fun character =>
    !isInterruption character

theorem mem_of_mem_tidyStart {text : String} {character : Char}
    (member : character ∈ tidyStart text) : character ∈ text.toList :=
  (List.dropWhile_sublist _).mem (List.mem_filter.mp member).1

theorem tidy_append (before : String) {last : Char}
    (starts : Stops isSurrounding (behind ++ [last]))
    (ends : isSurrounding last = false)
    (unbroken : ∀ character ∈ behind ++ [last],
      isInterruption character = false) :
    tidy (before ++ String.ofList (behind ++ [last])) =
      tidyStart before ++ (behind ++ [last]) := by
  have kept : (behind ++ [last]).filter (fun character =>
      !isInterruption character) = behind ++ [last] :=
    List.filter_eq_self.mpr (by simpa using unbroken)
  rw [tidy, Text.dropAroundWhile, String.toList_append, String.toList_ofList,
    dropWhile_append_of_stops _ starts, ← List.append_assoc,
    dropEndWhile_concat_of_neg _ ends, List.append_assoc, List.filter_append, kept]
  rfl

/-! ## The query and the fragment -/

/-- The query or the fragment starts with the character. -/
def startsTail (character : Char) : Bool :=
  character == '?' || character == '#'

/-- The characters are a query and a fragment, each of which may be missing. -/
def IsTail (characters : List Char) : Prop :=
  Stops (fun character => !startsTail character) characters

theorem IsTail.stops (isTail : IsTail tail) (query : test '?' = false)
    (fragment : test '#' = false) : Stops test tail := by
  intro character first
  have starts : startsTail character = true := by
    simpa using isTail character first
  rw [startsTail, Bool.or_eq_true, beq_iff_eq, beq_iff_eq] at starts
  rcases starts with rfl | rfl
  · exact query
  · exact fragment

/-- What comes before the tail holds no mark of one. -/
theorem cutTail_eq_iff :
    cutTail characters = (front, tail) ↔
      characters = front ++ tail ∧ IsTail tail ∧
        ∀ character ∈ front, startsTail character = false := by
  constructor
  · intro cut
    cases cut
    refine ⟨List.takeWhile_append_dropWhile.symm, stops_dropWhile _ _, ?_⟩
    intro character member
    simpa [startsTail] using List.mem_takeWhile_imp member
  · rintro ⟨rfl, isTail, plain⟩
    have all : ∀ character ∈ front, (!startsTail character) = true := by
      simpa using plain
    have taken : (front ++ tail).takeWhile (fun character =>
        !startsTail character) = front := by
      rw [takeWhile_append_of_stops front isTail,
        List.takeWhile_eq_self_iff.mpr all]
    have dropped : (front ++ tail).dropWhile (fun character =>
        !startsTail character) = tail := by
      rw [dropWhile_append_of_stops front isTail,
        List.dropWhile_eq_nil_iff.mpr all, List.nil_append]
    exact Prod.ext taken dropped

/-! ## The scheme -/

/-- The scheme does not reach into what follows. -/
def endsScheme (character : Char) : Bool :=
  !isSchemeChar character && character != ':'

theorem readScheme?_append (front : List Char)
    (stops : Stops (fun character => !endsScheme character) behind) :
    readScheme? (front ++ behind) =
      (readScheme? front).map fun (scheme, rest) => (scheme, rest ++ behind) := by
  have stopsName : Stops isSchemeChar behind := by
    intro character first
    have ends := stops character first
    simp only [endsScheme, Bool.not_and, Bool.not_not,
      Bool.or_eq_false_iff] at ends
    exact ends.1
  have noColon {mark : Char} {others : List Char}
      (whole : behind = mark :: others) : mark ≠ ':' := by
    rintro rfl
    cases stops ':' (by rw [whole]; rfl)
  rw [readScheme?, takeWhile_append_of_stops front stopsName,
    dropWhile_append_of_stops front stopsName]
  cases front with
  | nil =>
      cases behind with
      | nil => rfl
      | cons first others => simp [readScheme?, noColon rfl]
  | cons first others =>
      cases dropped : (first :: others).dropWhile isSchemeChar with
      | nil =>
          cases behind with
          | nil => simp [readScheme?, dropped]
          | cons mark behind => simp [readScheme?, dropped, noColon rfl]
      | cons mark rest =>
          by_cases colon : mark = ':'
          · subst colon
            by_cases letter : isAsciiLetter first = true
            · simp [readScheme?, dropped, letter]
            · simp [readScheme?, dropped, letter]
          · simp [readScheme?, dropped, colon]

/-! ## The authority -/

/-- The authority in what follows the scheme. -/
def authorityPart (rest : List Char) : List Char :=
  (rest.dropWhile (isSlash true)).takeWhile fun character =>
    !endsAuthority true character

/-- The path in what follows the scheme. -/
def pathPart (rest : List Char) : List Char :=
  (rest.dropWhile (isSlash true)).dropWhile fun character =>
    !endsAuthority true character

theorem backslash_not_mem_authorityPart (rest : List Char) :
    '\\' ∉ authorityPart rest := by
  intro member
  cases List.mem_takeWhile_imp member

theorem takeHost_append (bracketed : Bool) (characters : List Char) :
    (takeHost bracketed characters).1 ++ (takeHost bracketed characters).2 =
      characters := by
  induction characters generalizing bracketed with
  | nil => rfl
  | cons character rest induction =>
      rw [takeHost]
      split
      · rfl
      · exact congrArg (character :: ·) (induction _)

theorem append_of_cutLast? {mark : Char} {before after : List Char}
    (cut : Text.cutLast? mark characters = some (before, after)) :
    characters = before ++ mark :: after := by
  induction characters generalizing before with
  | nil => cases cut
  | cons character rest induction =>
      rw [Text.cutLast?] at cut
      split at cut
      · next parts further =>
          cases cut
          exact congrArg (character :: ·) (induction further)
      · split at cut
        · next same =>
            cases cut
            rw [beq_iff_eq.mp same]
            rfl
        · cases cut

theorem readPort_ne_default {digits : List Char} {port : Nat}
    (read : readPort scheme digits = .ok (some port)) :
    defaultPort? scheme ≠ some port := by
  unfold readPort at read
  split at read
  · cases read
  · split at read
    · cases read
    · split at read
      · cases read
      · split at read
        · cases read
        · next other =>
            cases read
            exact other

/-- What is known of an authority in a text without backslashes. -/
structure Authority.IsPlain (authority : Authority) (scheme : String) : Prop where
  rest : authority.rest = []
  port : ∀ port ∈ authority.port, defaultPort? scheme ≠ some port

theorem isPlain_of_readHostAndPort (web : IsWeb scheme)
    {credentials : String × String} {authority : Authority}
    (plain : '\\' ∉ characters)
    (read : readHostAndPort scheme credentials characters = .ok authority) :
    authority.IsPlain scheme := by
  have noBackslash : ∀ character ∈ (takeHost false characters).2.drop 1,
      (character != '\\') = true := by
    intro character member
    have within : character ∈ characters := by
      rw [← takeHost_append false characters]
      exact List.mem_append_right _ (List.mem_of_mem_drop member)
    rw [bne_iff_ne]
    rintro rfl
    exact plain within
  simp only [readHostAndPort, web.isSpecial, if_true] at read
  split at read
  · cases read
  · obtain ⟨host, -, afterHost⟩ := exists_of_bind_eq_ok read
    split at afterHost
    · cases afterHost
    · obtain ⟨port, isPort, afterPort⟩ := exists_of_bind_eq_ok afterHost
      cases afterPort
      exact {
        rest := List.dropWhile_eq_nil_iff.mpr noBackslash
        port := by
          rintro _ ⟨⟩
          exact readPort_ne_default isPort }

theorem isPlain_of_readAuthority (web : IsWeb scheme) {followed : Bool}
    {authority : Authority} (plain : '\\' ∉ characters)
    (read : readAuthority scheme characters followed = .ok authority) :
    authority.IsPlain scheme := by
  have behind {before after : List Char}
      (cut : Text.cutLast? '@' characters = some (before, after)) :
      '\\' ∉ after := by
    intro member
    rw [append_of_cutLast? cut] at plain
    exact plain (List.mem_append_right _ (List.mem_cons_of_mem _ member))
  unfold readAuthority at read
  split at read
  · exact isPlain_of_readHostAndPort web plain read
  · next after cut =>
      split at read
      · cases read
      · exact isPlain_of_readHostAndPort web (behind cut) read
  · next before after _ cut =>
      exact isPlain_of_readHostAndPort web (behind cut) read

theorem readHostAndPort_nil (web : IsWeb scheme)
    (credentials : String × String) :
    readHostAndPort scheme credentials [] = .error .emptyHost := by
  simp only [readHostAndPort, web.isSpecial]
  rfl

/-- No authority is empty, so it does not matter whether anything follows it. -/
theorem readAuthority_followed (web : IsWeb scheme) (characters : List Char)
    (followed : Bool) :
    readAuthority scheme characters followed =
      readAuthority scheme characters true := by
  unfold readAuthority
  split
  · rfl
  · next after _ =>
      cases after with
      | nil =>
          rw [readHostAndPort_nil web, ite_self, ite_self]
      | cons => rfl
  · rfl

/-! ## The whole text -/

/-- The URL that the parts of a text make up. -/
def assemble (scheme : String) (authority : Authority)
    (path tail : List Char) : Url where
  scheme := scheme
  username := authority.username
  password := authority.password
  host := some authority.host
  port := authority.port
  path := readPath scheme path
  query := (readTail true tail).1
  fragment := (readTail true tail).2

theorem IsTail.stops_inside (isTail : IsTail tail) :
    Stops (fun character => !endsAuthority true character) tail :=
  isTail.stops rfl rfl

theorem IsTail.stops_slash (isTail : IsTail tail) :
    Stops (isSlash true) tail :=
  isTail.stops rfl rfl

theorem IsTail.stops_scheme (isTail : IsTail tail) :
    Stops (fun character => !endsScheme character) tail :=
  isTail.stops rfl rfl

theorem readFromAuthority_append (web : IsWeb scheme) (isTail : IsTail tail)
    (plain : ∀ character ∈ rest, startsTail character = false) :
    readFromAuthority scheme ((rest ++ tail).dropWhile (isSlash true)) =
      (readAuthority scheme (authorityPart rest) true).map fun authority =>
        assemble scheme authority (pathPart rest) tail := by
  have within : (pathPart rest).Sublist rest :=
    (List.dropWhile_sublist _).trans (List.dropWhile_sublist _)
  have apart : cutTail (pathPart rest ++ tail) = (pathPart rest, tail) :=
    cutTail_eq_iff.mpr ⟨rfl, isTail, fun character member =>
      plain character (within.mem member)⟩
  simp only [readFromAuthority, web.isSpecial]
  rw [dropWhile_append_of_stops rest isTail.stops_slash,
    takeWhile_append_of_stops _ isTail.stops_inside,
    dropWhile_append_of_stops _ isTail.stops_inside,
    readAuthority_followed web]
  change readAuthority scheme (authorityPart rest) true >>= _ = _
  cases read : readAuthority scheme (authorityPart rest) true with
  | error => rfl
  | ok authority =>
      have nothing := (isPlain_of_readAuthority web
        (backslash_not_mem_authorityPart rest) read).rest
      change Except.ok _ = Except.ok _
      unfold pathPart at apart
      rw [nothing, List.nil_append, apart]
      rfl

theorem sublist_of_readScheme?
    (read : readScheme? characters = some (scheme, rest)) :
    rest.Sublist characters := by
  unfold readScheme? at read
  simp only at read
  split at read
  · next _ dropped =>
      split at read
      · cases read
        have within := List.dropWhile_sublist isSchemeChar (l := characters)
        rw [dropped] at within
        exact (List.sublist_cons_self _ _).trans within
      · cases read
  · cases read

/-- A text of the web is read from its authority on. -/
theorem parse_of_readScheme? (web : IsWeb scheme) {text : String}
    (read : readScheme? (tidy text) = some (scheme, rest)) :
    parse text = readFromAuthority scheme (rest.dropWhile (isSlash true)) := by
  have noFile : scheme ≠ "file" := by simpa using web.not_file
  rw [parse, read]
  simp only [noFile, web.isSpecial, if_false, if_true]

/-- The parts of a text of the web are read one by one. -/
theorem parse_eq (web : IsWeb scheme) {text : String}
    (cut : cutTail (tidy text) = (front, tail))
    (read : readScheme? front = some (scheme, rest)) :
    parse text =
      (readAuthority scheme (authorityPart rest) true).map fun authority =>
        assemble scheme authority (pathPart rest) tail := by
  obtain ⟨whole, isTail, plain⟩ := cutTail_eq_iff.mp cut
  have plainRest : ∀ character ∈ rest, startsTail character = false :=
    fun character member =>
      plain character ((sublist_of_readScheme? read).mem member)
  have readWhole : readScheme? (tidy text) = some (scheme, rest ++ tail) := by
    rw [whole, readScheme?_append front isTail.stops_scheme, read]
    rfl
  rw [parse_of_readScheme? web readWhole]
  exact readFromAuthority_append web isTail plainRest

theorem scheme_of_readFromAuthority {url : Url}
    (read : readFromAuthority scheme characters = .ok url) :
    url.scheme = scheme := by
  obtain ⟨authority, -, made⟩ := exists_of_bind_eq_ok read
  cases made
  rfl

theorem scheme_of_readFile {url : Url}
    (read : readFile scheme characters = .ok url) : url.scheme = scheme := by
  unfold readFile at read
  split at read
  · split at read
    · simp only at read
      split at read
      · cases read
        rfl
      · obtain ⟨host, -, made⟩ := exists_of_bind_eq_ok read
        cases made
        rfl
    · cases read
      rfl
  · cases read
    rfl

theorem scheme_of_readOrdinary {url : Url}
    (read : readOrdinary scheme characters = .ok url) :
    url.scheme = scheme := by
  unfold readOrdinary at read
  split at read
  · exact scheme_of_readFromAuthority read
  · cases read
    rfl
  · cases read
    rfl

/-- A URL has the scheme that its text starts with. -/
theorem exists_readScheme?_of_parse {text : String} {url : Url}
    (parsed : parse text = .ok url) :
    ∃ rest, readScheme? (tidy text) = some (url.scheme, rest) := by
  unfold parse at parsed
  split at parsed
  · cases parsed
  · next scheme rest read =>
      have same : url.scheme = scheme := by
        split at parsed
        · exact scheme_of_readFile parsed
        · split at parsed
          · exact scheme_of_readFromAuthority parsed
          · exact scheme_of_readOrdinary parsed
      exact ⟨rest, same ▸ read⟩

/-- A URL of the web is made up of the parts of its text. -/
theorem exists_of_parse {text : String} {url : Url}
    (parsed : parse text = .ok url) (web : IsWeb url.scheme)
    (cut : cutTail (tidy text) = (front, tail)) :
    ∃ rest authority,
      readScheme? front = some (url.scheme, rest) ∧
        readAuthority url.scheme (authorityPart rest) true = .ok authority ∧
        url = assemble url.scheme authority (pathPart rest) tail := by
  obtain ⟨whole, isTail, -⟩ := cutTail_eq_iff.mp cut
  obtain ⟨behind, read⟩ := exists_readScheme?_of_parse parsed
  rw [whole, readScheme?_append front isTail.stops_scheme] at read
  obtain ⟨⟨scheme, rest⟩, readFront, same⟩ := Option.map_eq_some_iff.mp read
  cases same
  rw [parse_eq web cut readFront] at parsed
  obtain ⟨authority, isAuthority, assembled⟩ := map_eq_ok_iff.mp parsed
  exact ⟨rest, authority, readFront, isAuthority, assembled.symm⟩

/-! ## Other schemes, more slashes -/

theorem readPath_eq {other : String} (web : IsWeb scheme) (webOther : IsWeb other)
    (characters : List Char) :
    readPath other characters = readPath scheme characters := by
  by_cases bare : characters = []
  · rw [bare, readPath_nil web, readPath_nil webOther]
  · rw [readPath_of_ne_nil web bare, readPath_of_ne_nil webOther bare]

/-- Schemes of one default port read the same parts. -/
theorem readFromAuthority_eq_map {other : String} (web : IsWeb scheme)
    (webOther : IsWeb other) (same : defaultPort? other = defaultPort? scheme)
    (characters : List Char) :
    readFromAuthority other characters =
      (readFromAuthority scheme characters).map fun url =>
        { url with scheme := other } := by
  have port : readPort other = readPort scheme := by
    funext digits
    rw [readPort, readPort, same]
  have hostAndPort : readHostAndPort other = readHostAndPort scheme := by
    funext credentials characters
    rw [readHostAndPort, readHostAndPort, web.isSpecial, webOther.isSpecial, port]
  have authority : readAuthority other = readAuthority scheme := by
    funext characters followed
    rw [readAuthority, readAuthority, hostAndPort]
  have path : readPath other = readPath scheme :=
    funext (readPath_eq web webOther)
  rw [readFromAuthority, readFromAuthority, web.isSpecial, webOther.isSpecial,
    authority, path]
  simp only [bind, Except.bind]
  split <;> rfl

/-- What starts a path behind an authority belongs to the path. -/
theorem parts_append (filled : rest.dropWhile (isSlash true) ≠ [])
    (stops : Stops (fun character => !endsAuthority true character) behind) :
    authorityPart (rest ++ behind) = authorityPart rest ∧
      pathPart (rest ++ behind) = pathPart rest ++ behind := by
  constructor
  · rw [authorityPart, dropWhile_append_of_ne_nil filled,
      takeWhile_append_of_stops _ stops]
    rfl
  · rw [pathPart, dropWhile_append_of_ne_nil filled,
      dropWhile_append_of_stops _ stops]
    rfl

/-- So do slashes, unless there is nothing that they could be behind. -/
theorem parts_append_slashes (rest : List Char) (count : Nat) :
    authorityPart (rest ++ List.replicate count '/') = authorityPart rest ∧
      ∃ more, pathPart (rest ++ List.replicate count '/') =
        pathPart rest ++ List.replicate more '/' := by
  have slashes : ∀ character ∈ List.replicate count '/',
      isSlash true character = true := by
    intro character member
    rw [List.eq_of_mem_replicate member]
    rfl
  by_cases bare : rest.dropWhile (isSlash true) = []
  · have bareStill :
        (rest ++ List.replicate count '/').dropWhile (isSlash true) = [] := by
      rw [List.dropWhile_append, bare]
      exact List.dropWhile_eq_nil_iff.mpr slashes
    refine ⟨?_, 0, ?_⟩
    · rw [authorityPart, authorityPart, bareStill, bare]
    · rw [pathPart, pathPart, bareStill, bare]
      rfl
  · have stops : Stops (fun character => !endsAuthority true character)
        (List.replicate count '/') :=
      stops_replicate rfl count
    obtain ⟨sameAuthority, longerPath⟩ := parts_append bare stops
    exact ⟨sameAuthority, count, longerPath⟩

/-! ## Regular URLs -/

/-- What is known of every URL of the web that was read from a text. -/
structure IsRegular (url : Url) : Prop where
  web : IsWeb url.scheme
  host : url.host.isSome = true
  port : ∀ port ∈ url.port, defaultPort? url.scheme ≠ some port
  path : ∃ segments, url.path = pathOf segments ∧
    ∀ segment ∈ segments, IsSettled segment

theorem isRegular_of_parse {text : String} {url : Url}
    (parsed : parse text = .ok url) (web : IsWeb url.scheme) :
    IsRegular url := by
  obtain ⟨rest, authority, -, read, assembled⟩ :=
    exists_of_parse parsed web rfl
  have plain := isPlain_of_readAuthority web
    (backslash_not_mem_authorityPart rest) read
  refine ⟨web, ?_, ?_, ?_⟩
  · rw [assembled]
    rfl
  · rw [assembled]
    exact plain.port
  · rw [assembled]
    exact exists_readPath web (pathPart rest)

end WorkspaceStartup.Url
