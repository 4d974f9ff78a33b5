import Mathlib.Data.List.Induction
import WorkspaceStartup.Proofs.Url.Path

/-!
# Paths that are read again

The segments of a path that was read are settled: they hold no slash, nothing in
them is to be encoded, and none of them is dots.  So the path is read again as
it is, also with the names of a place behind it.
-/

namespace WorkspaceStartup.Url

variable {reversed : List (List Char)} {segment : List Char} {scheme : String}

/-! ## Settled segments -/

/-- A segment that is read as it is written. -/
structure IsSettled (segment : List Char) : Prop where
  free : ∀ character ∈ segment, mustEncodeInPath character = false
  slashless : ∀ character ∈ segment, isSlash true character = false
  plain : isDots segment = false

theorem mem_percentByte {byte : UInt8} {character : Char}
    (member : character ∈ percentByte byte) :
    character = '%' ∨ ∃ digit, Text.digitOf? 16 character = some digit := by
  obtain ⟨high, low, digits, isHigh, isLow, -, -⟩ := exists_upperHexByte byte
  rw [percentByte, digits] at member
  simp only [List.mem_cons, List.not_mem_nil, or_false] at member
  rcases member with rfl | rfl | rfl
  · exact .inl rfl
  · exact .inr ⟨_, isHigh⟩
  · exact .inr ⟨_, isLow⟩

/-- A character of an encoded text was there before, or it belongs to a code. -/
theorem mem_encode {mustEncode : Char → Bool} {characters : List Char}
    {character : Char} (member : character ∈ encode mustEncode characters) :
    character ∈ characters ∧ mustEncode character = false ∨
      character = '%' ∨
      ∃ digit, Text.digitOf? 16 character = some digit := by
  obtain ⟨source, inCharacters, member⟩ := List.mem_flatMap.mp member
  rw [encodeChar] at member
  split at member
  · obtain ⟨byte, -, member⟩ := List.mem_flatMap.mp member
    exact .inr (mem_percentByte member)
  · next free =>
      cases List.mem_singleton.mp member
      exact .inl ⟨inCharacters, by simpa using free⟩

theorem isSlash_eq_false_of_digitOf? {character : Char} {digit : Nat}
    (isDigit : Text.digitOf? 16 character = some digit) :
    isSlash true character = false := by
  have slash : character ≠ '/' := by
    rintro rfl
    cases isDigit
  have backslash : character ≠ '\\' := by
    rintro rfl
    cases isDigit
  simp [isSlash, slash, backslash]

theorem isSettled_encode
    (slashless : ∀ character ∈ segment, isSlash true character = false)
    (plain : isDots segment = false) :
    IsSettled (encode mustEncodeInPath segment) where
  free character member := by
    rcases mem_encode member with ⟨-, free⟩ | rfl | ⟨digit, isDigit⟩
    · exact free
    · exact sparesCodes_path.1
    · exact sparesCodes_path.spares isDigit
  slashless character member := by
    rcases mem_encode member with ⟨before, -⟩ | rfl | ⟨digit, isDigit⟩
    · exact slashless character before
    · rfl
    · exact isSlash_eq_false_of_digitOf? isDigit
  plain := (isDots_encode segment).trans plain

theorem isSettled_place
    (settled : ∀ other ∈ reversed, IsSettled other)
    (slashless : ∀ character ∈ segment, isSlash true character = false) :
    ∀ other ∈ place reversed segment, IsSettled other := by
  unfold place
  split
  · intro other member
    exact settled other (List.mem_of_mem_tail member)
  · split
    · exact settled
    · next double single =>
        have plain : isDots segment = false := by simp [isDots, double, single]
        exact List.forall_mem_cons.mpr
          ⟨isSettled_encode slashless plain, settled⟩

theorem isSettled_empty : IsSettled [] where
  free _ member := nomatch member
  slashless _ member := nomatch member
  plain := rfl

/-- Whatever is walked, the segments are settled. -/
theorem isSettled_walk {pieces : List (List Char)}
    (settled : ∀ other ∈ reversed, IsSettled other)
    (slashless : ∀ piece ∈ pieces, ∀ character ∈ piece,
      isSlash true character = false) :
    ∀ other ∈ walk false reversed pieces, IsSettled other := by
  induction pieces generalizing reversed with
  | nil =>
      intro other member
      exact settled other (List.mem_reverse.mp member)
  | cons piece pieces induction =>
      obtain ⟨first, others⟩ := List.forall_mem_cons.mp slashless
      have placed := isSettled_place settled first
      by_cases more : pieces = []
      · subst more
        rw [walk_last]
        intro other member
        rcases List.mem_append.mp member with before | dots
        · exact placed other (List.mem_reverse.mp before)
        · split at dots
          · cases List.mem_singleton.mp dots
            exact isSettled_empty
          · cases dots
      · rw [walk_cons _ _ more]
        exact induction placed others

theorem mark_not_mem_of_mem_pieces {characters piece : List Char} {mark : Char}
    (member : piece ∈ Text.pieces mark characters) :
    mark ∉ piece ∧ ∀ character ∈ piece, character ∈ characters := by
  induction characters generalizing piece with
  | nil =>
      cases List.mem_singleton.mp member
      simp
  | cons character rest induction =>
      rw [Text.pieces] at member
      split at member
      · rcases List.mem_cons.mp member with rfl | further
        · simp
        · obtain ⟨free, within⟩ := induction further
          exact ⟨free, fun other inPiece =>
            List.mem_cons_of_mem _ (within other inPiece)⟩
      · next other =>
          have different : mark ≠ character := by
            rintro rfl
            exact other (beq_self_eq_true mark)
          split at member
          · next nothing => exact (Text.pieces_ne_nil mark rest nothing).elim
          · next first others pieces =>
              rw [pieces] at induction
              rcases List.mem_cons.mp member with rfl | further
              · obtain ⟨free, within⟩ := induction List.mem_cons_self
                exact ⟨List.not_mem_cons_of_ne_of_not_mem different free,
                  fun other inPiece => List.mem_cons.mpr
                    ((List.mem_cons.mp inPiece).imp_right (within other))⟩
              · obtain ⟨free, within⟩ :=
                  induction (List.mem_cons_of_mem _ further)
                exact ⟨free, fun other inPiece =>
                  List.mem_cons_of_mem _ (within other inPiece)⟩

theorem slashless_pathPieces {characters piece : List Char}
    (member : piece ∈ pathPieces true characters) :
    ∀ character ∈ piece, isSlash true character = false := by
  obtain ⟨free, within⟩ := mark_not_mem_of_mem_pieces member
  intro character inPiece
  obtain ⟨source, -, rfl⟩ := List.mem_map.mp (within character inPiece)
  split
  · next slash =>
      rw [if_pos slash] at inPiece
      exact (free inPiece).elim
  · next noSlash => simpa using noSlash

/-- The segments of any path that is read are settled. -/
theorem exists_readPath (web : IsWeb scheme) (characters : List Char) :
    ∃ segments, readPath scheme characters = pathOf segments ∧
      ∀ segment ∈ segments, IsSettled segment := by
  by_cases bare : characters = []
  · subst bare
    refine ⟨[[]], readPath_nil web, ?_⟩
    simpa using isSettled_empty
  · refine ⟨_, readPath_of_ne_nil web bare, ?_⟩
    exact isSettled_walk (by simp) fun piece => slashless_pathPieces

/-! ## Reading again -/

theorem pieces_written (first : List Char) {others : List (List Char)}
    (slashless : ∀ segment ∈ first :: others, '/' ∉ segment) :
    Text.pieces '/' (first ++ written others) = first :: others := by
  induction others generalizing first with
  | nil =>
      rw [written, List.flatMap_nil, List.append_nil]
      exact Text.pieces_of_not_mem (slashless first List.mem_cons_self)
  | cons second others induction =>
      obtain ⟨free, slashless⟩ := List.forall_mem_cons.mp slashless
      rw [written_cons, List.cons_append, Text.pieces_append free,
        induction _ slashless]

/-- Segments without slashes are known from how they are written. -/
theorem written_inj {first second : List (List Char)}
    (slashlessFirst : ∀ segment ∈ first, '/' ∉ segment)
    (slashlessSecond : ∀ segment ∈ second, '/' ∉ segment)
    (same : written first = written second) : first = second := by
  have pieces {segments : List (List Char)}
      (slashless : ∀ segment ∈ segments, '/' ∉ segment) :
      Text.pieces '/' (written segments) = [] :: segments := by
    cases segments with
    | nil => rfl
    | cons first others =>
        exact congrArg ([] :: ·) (pieces_written first slashless)
  have both := (pieces slashlessFirst).symm.trans
    ((congrArg _ same).trans (pieces slashlessSecond))
  exact (List.cons.inj both).2

theorem mem_written {segments : List (List Char)} {character : Char}
    (member : character ∈ written segments) :
    character = '/' ∨ ∃ segment ∈ segments, character ∈ segment := by
  obtain ⟨segment, inSegments, member⟩ := List.mem_flatMap.mp member
  rcases List.mem_cons.mp member with isSlash | inSegment
  · exact .inl isSlash
  · exact .inr ⟨segment, inSegments, inSegment⟩

/-- The characters of names, whose slashes are none but those before each. -/
theorem pathPieces_written (before : List Char) {names : List (List Char)}
    (named : names ≠ [])
    (slashless : ∀ name ∈ names, ∀ character ∈ name,
      isSlash true character = false) :
    pathPieces true (before ++ written names) =
      pathPieces true before ++ names := by
  cases names with
  | nil => exact (named rfl).elim
  | cons first others =>
      have free : ∀ name ∈ first :: others, '/' ∉ name := by
        intro name member inName
        cases slashless name member '/' inName
      -- Only slashes count as slashes, so none has to be replaced.
      have same : (written (first :: others)).map (fun character =>
          if isSlash true character then '/' else character) =
          written (first :: others) := by
        refine (List.map_congr_left fun character member => ?_).trans
          (List.map_id _)
        rcases mem_written member with rfl | ⟨name, inNames, inName⟩
        · rfl
        · simp [slashless name inNames character inName]
      rw [pathPieces, List.map_append, same, written_cons, List.cons_append,
        Text.pieces_append_mark, pieces_written first free]
      rfl

/-- The segments that stand before the names behind the characters of a path. -/
def stem (characters : List Char) : List (List Char) :=
  if characters = [] then []
  else ((pathPieces true (inside characters)).foldl place []).reverse

/-- Names behind the characters of a path become segments of their own. -/
theorem readPath_append_written (web : IsWeb scheme) (before : List Char)
    {names : List (List Char)} (named : names ≠ [])
    (slashless : ∀ name ∈ names, ∀ character ∈ name,
      isSlash true character = false)
    (plain : ∀ name ∈ names, isDots name = false) :
    readPath scheme (before ++ written names) =
      pathOf (stem before ++ names.map (encode mustEncodeInPath)) := by
  have filled : before ++ written names ≠ [] := by
    cases names with
    | nil => exact (named rfl).elim
    | cons first others =>
        exact List.append_ne_nil_of_right_ne_nil _ (List.cons_ne_nil _ _)
  rw [readPath_of_ne_nil web filled]
  by_cases bare : before = []
  · subst bare
    cases names with
    | nil => exact (named rfl).elim
    | cons first others =>
        have whole : [] :: pathPieces true (first ++ written others) =
            [] :: first :: others :=
          pathPieces_written [] named slashless
        have pieces : pathPieces true (inside (written (first :: others))) =
            first :: others :=
          (List.cons.inj whole).2
        rw [List.nil_append, pieces, walk_of_not_isDots [] plain]
        rfl
  · rw [inside_append bare, pathPieces_written _ named slashless,
      walk_append _ _ named, walk_of_not_isDots _ plain, stem, if_neg bare]

/-- Settled segments are read as they are written. -/
theorem readPath_written (web : IsWeb scheme) {segments : List (List Char)}
    (filled : segments ≠ [])
    (settled : ∀ segment ∈ segments, IsSettled segment) :
    readPath scheme (written segments) = pathOf segments := by
  have read := readPath_append_written web [] filled
    (fun segment member => (settled segment member).slashless)
    (fun segment member => (settled segment member).plain)
  have encoded : segments.map (encode mustEncodeInPath) = segments := by
    refine (List.map_congr_left fun segment member => ?_).trans (List.map_id _)
    exact encode_of_free (settled segment member).free
  rw [encoded] at read
  exact read

/-! ## Places below a path -/

theorem dropEndWhile_concat_of_neg {test : Char → Bool} (before : List Char)
    {last : Char} (kept : test last = false) :
    Text.dropEndWhile test (before ++ [last]) = before ++ [last] := by
  simp [Text.dropEndWhile, kept]

/-- A path is trimmed segment by segment. -/
theorem exists_dropEndWhile_written {segments : List (List Char)}
    (settled : ∀ segment ∈ segments, IsSettled segment) :
    ∃ kept, kept <+: segments ∧
      Text.dropEndWhile (· == '/') (written segments) = written kept := by
  induction segments using List.reverseRecOn with
  | nil => exact ⟨[], List.nil_prefix, rfl⟩
  | append_singleton before last induction =>
      rw [List.forall_mem_append, List.forall_mem_singleton] at settled
      obtain ⟨settledBefore, settledLast⟩ := settled
      obtain rfl | ⟨start, character, rfl⟩ := List.eq_nil_or_concat last
      · obtain ⟨kept, isPrefix, same⟩ := induction settledBefore
        refine ⟨kept, isPrefix.trans (List.prefix_append _ _), ?_⟩
        rw [written_append, Text.dropEndWhile_append _ (by simp [written]),
          same]
      · refine ⟨_, List.prefix_refl _, ?_⟩
        have noSlash : (character == '/') = false := by
          have slashless := settledLast.slashless character (by simp)
          rw [isSlash, Bool.or_eq_false_iff] at slashless
          exact slashless.1
        have ending : written (before ++ [start.concat character]) =
            (written before ++ '/' :: start) ++ [character] := by
          simp [written]
        rw [ending]
        exact dropEndWhile_concat_of_neg _ noSlash

theorem not_isInterruption_of_free {character : Char}
    (free : mustEncodeInPath character = false) :
    isInterruption character = false := by
  have different {mark : Char} (must : mustEncodeInPath mark = true) :
      character ≠ mark := by
    rintro rfl
    rw [must] at free
    cases free
  have tab : character ≠ '\t' := different rfl
  have feed : character ≠ '\n' := different rfl
  have back : character ≠ '\r' := different rfl
  simp [isInterruption, tab, feed, back]

/-- Nothing is dropped inside a settled path. -/
theorem filter_written {segments : List (List Char)}
    (settled : ∀ segment ∈ segments, IsSettled segment) :
    (written segments).filter (fun character => !isInterruption character) =
      written segments := by
  refine List.filter_eq_self.mpr fun character member => ?_
  rcases mem_written member with rfl | ⟨segment, inSegments, inSegment⟩
  · rfl
  · rw [not_isInterruption_of_free
      ((settled segment inSegments).free character inSegment)]
    rfl

/-- A place below a path that was read has a path of its own, which is the
trimmed text of the first with the names of the place behind it. -/
theorem below_eq {url : Url} {segments names : List (List Char)}
    (web : IsWeb url.scheme) (isPath : url.path = pathOf segments)
    (settled : ∀ segment ∈ segments, IsSettled segment)
    (named : names ≠ []) (settledNames : ∀ name ∈ names, IsSettled name) :
    ∃ path, url.below (String.ofList (written names)) = { url with path := path } ∧
      path.text = url.path.trimmedText ++ String.ofList (written names) := by
  obtain ⟨kept, isPrefix, trimmed⟩ := exists_dropEndWhile_written settled
  have all : ∀ segment ∈ kept ++ names, IsSettled segment := by
    rw [List.forall_mem_append]
    exact ⟨fun segment member => settled segment (isPrefix.subset member),
      settledNames⟩
  have place : (url.path.trimmedText ++ String.ofList (written names)).toList =
      written (kept ++ names) := by
    rw [String.toList_append, isPath, toList_trimmedText_pathOf, trimmed,
      String.toList_ofList, written_append]
  have read : url.below (String.ofList (written names)) =
      { url with
        path := readPath url.scheme ((url.path.trimmedText ++
          String.ofList (written names)).toList.filter fun character =>
            !isInterruption character) } := by
    rw [below, withPath, isPath]
    rfl
  refine ⟨pathOf (kept ++ names), ?_, ?_⟩
  · rw [read, place, filter_written all,
      readPath_written web (by simp [named]) all]
  · rw [← String.toList_inj, text_pathOf, place]

end WorkspaceStartup.Url
