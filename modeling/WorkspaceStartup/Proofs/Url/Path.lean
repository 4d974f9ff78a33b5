import WorkspaceStartup.Proofs.Ascii
import WorkspaceStartup.Proofs.Url.Percent
import WorkspaceStartup.Url.Part

/-!
# Paths of URLs

The pieces between the slashes of a path are walked one after the other.  Dot
segments are resolved on the way, and any other piece becomes a segment in its
encoded form.  Slashes at the end of a path add nothing but empty segments there.
-/

namespace WorkspaceStartup

namespace Text

variable {α : Type}

/-- What ends in characters to be dropped loses them first. -/
theorem dropEndWhile_append {test : α → Bool} (before : List α)
    {behind : List α} (dropped : ∀ character ∈ behind, test character = true) :
    dropEndWhile test (before ++ behind) = dropEndWhile test before := by
  rw [dropEndWhile, dropEndWhile, List.reverse_append,
    List.dropWhile_append_of_pos (by simpa using dropped)]

variable [BEq α]

theorem pieces_ne_nil (mark : α) (characters : List α) :
    pieces mark characters ≠ [] := by
  cases characters with
  | nil => exact List.cons_ne_nil _ _
  | cons character rest =>
      rw [pieces]
      split
      · exact List.cons_ne_nil _ _
      · split <;> exact List.cons_ne_nil _ _

variable [LawfulBEq α]

/-- A mark parts the pieces before it from those behind it. -/
theorem pieces_append_mark (mark : α) (before behind : List α) :
    pieces mark (before ++ mark :: behind) =
      pieces mark before ++ pieces mark behind := by
  induction before with
  | nil => simp [pieces]
  | cons character before induction =>
      rw [List.cons_append, pieces, pieces, induction]
      split
      · rfl
      · cases first : pieces mark before with
        | nil => exact (pieces_ne_nil mark before first).elim
        | cons => rfl

theorem pieces_append_replicate (mark : α) (before : List α) (count : Nat) :
    pieces mark (before ++ List.replicate count mark) =
      pieces mark before ++ List.replicate count [] := by
  induction count generalizing before with
  | zero => simp
  | succ count induction =>
      rw [List.replicate_succ, pieces_append_mark, ← List.nil_append
        (List.replicate count mark), induction]
      rfl

end Text

namespace Url

variable {reversed pieces names : List (List Char)} {segment : List Char}
  {scheme : String}

/-! ## Dot segments -/

theorem lowered_dotBefore_iff (segment lowered : List Char) :
    (segment.map Char.toLower = '.' :: lowered ∨
        segment.map Char.toLower = '%' :: '2' :: 'e' :: lowered) ↔
      ∃ rest, DotBefore segment rest ∧ rest.map Char.toLower = lowered := by
  have itself {mark : Char} (fixed : mark.toUpper = mark)
      (small : mark.isUpper = false) (character : Char) :
      character.toLower = mark ↔ character = mark := by
    rw [Text.toLower_eq_iff small, fixed, or_self]
  constructor
  · rintro (dot | code)
    · obtain ⟨first, rest, rfl, isDot, further⟩ := List.map_eq_cons_iff.mp dot
      cases (itself rfl rfl first).mp isDot
      exact ⟨rest, .inl rfl, further⟩
    · obtain ⟨sign, behind, rfl, isSign, code⟩ := List.map_eq_cons_iff.mp code
      obtain ⟨high, behind, rfl, isHigh, code⟩ := List.map_eq_cons_iff.mp code
      obtain ⟨low, rest, rfl, isLow, further⟩ := List.map_eq_cons_iff.mp code
      cases (itself rfl rfl sign).mp isSign
      cases (itself rfl rfl high).mp isHigh
      rcases (Text.toLower_eq_iff rfl).mp isLow with rfl | rfl
      · exact ⟨rest, .inr (.inl rfl), further⟩
      · exact ⟨rest, .inr (.inr rfl), further⟩
  · rintro ⟨rest, rfl | rfl | rfl, rfl⟩
    · exact .inl rfl
    · exact .inr rfl
    · exact .inr rfl

theorem isSingleDot_iff :
    isSingleDot segment = true ↔ decodeBytes segment = [0x2E] := by
  rw [decodeBytes_eq_dot_cons_iff]
  simp only [isSingleDot, Bool.or_eq_true, beq_iff_eq, lowered_dotBefore_iff,
    List.map_eq_nil_iff, decodeBytes_eq_nil_iff]

theorem isDoubleDot_iff :
    isDoubleDot segment = true ↔ decodeBytes segment = [0x2E, 0x2E] := by
  rw [decodeBytes_eq_dot_cons_iff]
  simp only [← isSingleDot_iff, isSingleDot, Bool.or_eq_true, beq_iff_eq,
    and_or_left, exists_or, ← lowered_dotBefore_iff, isDoubleDot,
    List.contains_iff_mem, List.mem_cons, List.not_mem_nil, or_false]
  exact or_assoc.symm.trans (or_or_or_comm ..)

/-- The segment stands for the place where it is or for the place above. -/
def isDots (segment : List Char) : Bool :=
  isSingleDot segment || isDoubleDot segment

/-- Encoding makes no dot segment. -/
theorem isDots_encode (segment : List Char) :
    isDots (encode mustEncodeInPath segment) = isDots segment := by
  have same : decodeBytes (encode mustEncodeInPath segment) =
      decodeBytes segment :=
    decodeBytes_encode sparesCodes_path segment
  rw [Bool.eq_iff_iff]
  simp only [isDots, Bool.or_eq_true, isSingleDot_iff, isDoubleDot_iff, same]

/-! ## Walking a path -/

/-- The segments after one more piece, the latest first. -/
def place (reversed : List (List Char)) (segment : List Char) :
    List (List Char) :=
  if isDoubleDot segment then reversed.tail
  else if isSingleDot segment then reversed
  else encode mustEncodeInPath segment :: reversed

theorem shorten_eq_tail (reversed : List (List Char)) :
    shorten false reversed = reversed.tail := by
  match reversed with
  | [] => rfl
  | [_] => rfl
  | _ :: _ :: _ => rfl

theorem walk_cons (reversed : List (List Char)) (segment : List Char)
    {rest : List (List Char)} (more : rest ≠ []) :
    walk false reversed (segment :: rest) =
      walk false (place reversed segment) rest := by
  have notLast : rest.isEmpty = false := by simpa using more
  rw [walk, place]
  simp only [notLast, shorten_eq_tail, Bool.false_and, Bool.false_eq_true,
    if_false]
  split
  · rfl
  · split <;> rfl

/-- After dots at its end a path has an empty segment. -/
theorem walk_last (reversed : List (List Char)) (segment : List Char) :
    walk false reversed [segment] =
      (place reversed segment).reverse ++
        if isDots segment then [[]] else [] := by
  rw [walk, place, isDots]
  simp only [List.isEmpty_nil, shorten_eq_tail, Bool.false_and,
    Bool.false_eq_true, if_false, if_true]
  cases double : isDoubleDot segment with
  | true => simp [walk]
  | false => cases single : isSingleDot segment <;> simp [walk]

theorem walk_append (reversed before : List (List Char))
    {behind : List (List Char)} (more : behind ≠ []) :
    walk false reversed (before ++ behind) =
      walk false (before.foldl place reversed) behind := by
  induction before generalizing reversed with
  | nil => rfl
  | cons segment before induction =>
      rw [List.cons_append, walk_cons _ _ (by simp [more]), induction]
      rfl

/-- Pieces that are no dots become segments in their order. -/
theorem walk_of_not_isDots (reversed : List (List Char))
    {names : List (List Char)} (plain : ∀ name ∈ names, isDots name = false) :
    walk false reversed names =
      reversed.reverse ++ names.map (encode mustEncodeInPath) := by
  induction names generalizing reversed with
  | nil => simp [walk]
  | cons name names induction =>
      obtain ⟨first, others⟩ := List.forall_mem_cons.mp plain
      have placed : place reversed name =
          encode mustEncodeInPath name :: reversed := by
        rw [isDots, Bool.or_eq_false_iff] at first
        simp [place, first]
      cases names with
      | nil => rw [walk_last, placed, first]; simp
      | cons second names =>
          rw [walk_cons _ _ (by simp), placed, induction _ others]
          simp

/-! ## Schemes of the web -/

/-- A scheme whose URLs a socket can be made from. -/
def IsWeb (scheme : String) : Prop :=
  scheme = "http" ∨ scheme = "https" ∨ scheme = "ws" ∨ scheme = "wss"

instance : Decidable (IsWeb scheme) :=
  inferInstanceAs (Decidable (_ ∨ _ ∨ _ ∨ _))

theorem IsWeb.isSpecial (web : IsWeb scheme) : isSpecial scheme = true := by
  rcases web with rfl | rfl | rfl | rfl <;> rfl

theorem IsWeb.not_file (web : IsWeb scheme) : (scheme == "file") = false := by
  rcases web with rfl | rfl | rfl | rfl <;> rfl

/-! ## Reading a path -/

/-- Segments with a slash before each. -/
def written (segments : List (List Char)) : List Char :=
  segments.flatMap fun segment => '/' :: segment

theorem written_append (before behind : List (List Char)) :
    written (before ++ behind) = written before ++ written behind :=
  List.flatMap_append

theorem written_cons (segment : List Char) (segments : List (List Char)) :
    written (segment :: segments) = '/' :: segment ++ written segments :=
  List.flatMap_cons

/-- A path of the given segments. -/
def pathOf (segments : List (List Char)) : Path :=
  .segments (segments.map String.ofList)

theorem text_pathOf (segments : List (List Char)) :
    (pathOf segments).text.toList = written segments := by
  simp [pathOf, Path.text, written, String.toList_join, List.flatMap_map]

theorem toList_trimmedText_pathOf (segments : List (List Char)) :
    (pathOf segments).trimmedText.toList =
      Text.dropEndWhile (· == '/') (written segments) := by
  rw [Path.trimmedText, String.toList_ofList, text_pathOf]

theorem readPath_nil (web : IsWeb scheme) : readPath scheme [] = pathOf [[]] := by
  simp [readPath, web.isSpecial, pathOf]

/-- What follows the slash at the beginning of a path. -/
def inside (characters : List Char) : List Char :=
  match characters with
  | [] => []
  | first :: rest => if isSlash true first then rest else characters

theorem readPath_of_ne_nil (web : IsWeb scheme) {characters : List Char}
    (filled : characters ≠ []) :
    readPath scheme characters =
      pathOf (walk false [] (pathPieces true (inside characters))) := by
  cases characters with
  | nil => exact (filled rfl).elim
  | cons first rest =>
      simp [readPath, web.isSpecial, web.not_file, pathOf, inside]

/-! ## Slashes at the end -/

theorem pathPieces_append_slashes (characters : List Char) (count : Nat) :
    pathPieces true (characters ++ List.replicate count '/') =
      pathPieces true characters ++ List.replicate count [] := by
  have slash : isSlash true '/' = true := rfl
  rw [pathPieces, List.map_append, List.map_replicate, if_pos slash,
    Text.pieces_append_replicate]
  rfl

theorem inside_append {characters : List Char} (filled : characters ≠ [])
    (rest : List Char) :
    inside (characters ++ rest) = inside characters ++ rest := by
  cases characters with
  | nil => exact (filled rfl).elim
  | cons first characters =>
      rw [List.cons_append, inside, inside]
      split <;> rfl

/-- Empty segments at its end do not show when a path is trimmed. -/
theorem trimmedText_append_empty (segments : List (List Char))
    {empty : List (List Char)} (isEmpty : ∀ segment ∈ empty, segment = []) :
    (pathOf (segments ++ empty)).trimmedText =
      (pathOf segments).trimmedText := by
  have slashes : ∀ character ∈ written empty, (character == '/') = true := by
    intro character member
    obtain ⟨segment, inEmpty, member⟩ := List.mem_flatMap.mp member
    rw [isEmpty segment inEmpty, List.mem_singleton] at member
    exact beq_iff_eq.mpr member
  rw [← String.toList_inj, toList_trimmedText_pathOf, toList_trimmedText_pathOf,
    written_append, Text.dropEndWhile_append _ slashes]

theorem trimmedText_walk_append {pieces : List (List Char)}
    (filled : pieces ≠ []) (count : Nat) :
    (pathOf (walk false [] (pieces ++ List.replicate count []))).trimmedText =
      (pathOf (walk false [] pieces)).trimmedText := by
  cases count with
  | zero => rw [List.replicate_zero, List.append_nil]
  | succ count =>
      obtain rfl | ⟨before, last, rfl⟩ := List.eq_nil_or_concat pieces
      · exact (filled rfl).elim
      have empty (segment : List Char)
          (member : segment ∈ List.replicate (count + 1) []) : segment = [] :=
        List.eq_of_mem_replicate member
      have plain (segment : List Char)
          (member : segment ∈ List.replicate (count + 1) []) :
          isDots segment = false := by
        rw [empty segment member]
        rfl
      have same : (List.replicate (count + 1) []).map
          (encode mustEncodeInPath) = List.replicate (count + 1) [] :=
        List.map_replicate
      have dots : ∀ segment ∈ (if isDots last then [[]] else [] :
          List (List Char)), segment = [] := by
        split <;> simp
      -- What has been placed before the end is the same, and so is its text.
      rw [walk_append _ _ (by simp), walk_of_not_isDots _ plain, same,
        List.concat_eq_append, walk_append _ _ (by simp), walk_last,
        trimmedText_append_empty _ empty, trimmedText_append_empty _ dots,
        List.foldl_append]
      rfl

/-- Slashes at the end of a path do not show when it is trimmed. -/
theorem trimmedText_readPath_append (web : IsWeb scheme)
    (characters : List Char) (count : Nat) :
    (readPath scheme (characters ++ List.replicate count '/')).trimmedText =
      (readPath scheme characters).trimmedText := by
  by_cases bare : characters = []
  · subst bare
    cases count with
    | zero => rfl
    | succ count =>
        have filled : List.replicate (count + 1) '/' ≠ [] :=
          List.cons_ne_nil _ _
        have behind : inside (List.replicate (count + 1) '/') =
            [] ++ List.replicate count '/' :=
          rfl
        rw [List.nil_append, readPath_of_ne_nil web filled, readPath_nil web,
          behind, pathPieces_append_slashes]
        exact trimmedText_walk_append (List.cons_ne_nil _ _) count
  · rw [readPath_of_ne_nil web (by simp [bare]), readPath_of_ne_nil web bare,
      inside_append bare, pathPieces_append_slashes]
    exact trimmedText_walk_append (Text.pieces_ne_nil _ _) count

end Url

end WorkspaceStartup
