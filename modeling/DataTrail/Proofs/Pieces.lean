import DataTrail.Disk.Path

/-! Pieces of texts and names of paths. Cutting a text at a separator and joining the pieces again
gives the text, and joining pieces without the separator and cutting them again gives the pieces; a
piece that is put after a separator is the last one. So the path of a file in a directory has the
names of the directory and the name of the file. -/

namespace DataTrail

namespace Text

theorem piecesOf_eq_splitOn (sep : Char) (cs : List Char) : piecesOf sep cs = cs.splitOn sep := by
  induction cs with
  | nil => rfl
  | cons c cs ih =>
    rw [piecesOf, List.splitOn_cons_eq_if_modifyHead, ← ih]
    by_cases found : c = sep
    · simp [found]
    · cases pieces : piecesOf sep cs with
      | nil => exact absurd pieces (piecesOf_ne_nil sep cs)
      | cons p ps => simp [found]

theorem pieces_of_not_mem {sep : Char} {text : String} (whole : sep ∉ text.toList) :
    pieces sep text = [text] := by
  rw [pieces, piecesOf_eq_splitOn, List.splitOn_eq_singleton whole]
  simp

/-- Each separator cuts a text in two. -/
theorem pieces_append (sep : Char) (a b : String) :
    pieces sep (a ++ String.singleton sep ++ b) = pieces sep a ++ pieces sep b := by
  simp [pieces, piecesOf_eq_splitOn, List.splitOn_append_cons_self]

theorem toList_joinWith (sep : String) (ts : List String) :
    (joinWith sep ts).toList = sep.toList.intercalate (ts.map String.toList) := by
  induction ts with
  | nil => rfl
  | cons t rest ih =>
    cases rest with
    | nil => simp [joinWith]
    | cons u rest => simp [joinWith, ih]

theorem joinWith_pieces (sep : Char) (text : String) :
    joinWith (String.singleton sep) (pieces sep text) = text := by
  apply String.toList_injective
  rw [toList_joinWith, pieces, List.map_map, piecesOf_eq_splitOn]
  simp [Function.comp_def, List.intercalate_splitOn]

theorem not_mem_of_mem_piecesOf {sep : Char} {cs piece : List Char}
    (mem : piece ∈ piecesOf sep cs) : sep ∉ piece := by
  induction cs generalizing piece with
  | nil => simp_all [piecesOf]
  | cons c cs ih =>
    rw [piecesOf] at mem
    by_cases found : c = sep
    · rw [if_pos found, List.mem_cons] at mem
      obtain rfl | mem := mem
      · exact List.not_mem_nil
      · exact ih mem
    · obtain ⟨first, rest, cut⟩ := List.exists_cons_of_ne_nil (piecesOf_ne_nil sep cs)
      simp only [if_neg found, cut, List.mem_cons] at mem ih
      obtain rfl | mem := mem
      · simpa [Ne.symm found] using ih (.inl rfl)
      · exact ih (.inr mem)

/-- Pieces without the separator are found again in the text that joins them. -/
theorem pieces_joinWith {sep : Char} {ts : List String} (given : ts ≠ [])
    (whole : ∀ t ∈ ts, sep ∉ t.toList) :
    pieces sep (joinWith (String.singleton sep) ts) = ts := by
  have cut : (joinWith (String.singleton sep) ts).toList.splitOn sep = ts.map String.toList := by
    rw [toList_joinWith, String.toList_singleton]
    exact List.splitOn_intercalate sep (by simpa using whole) (by simpa using given)
  rw [pieces, piecesOf_eq_splitOn, cut]
  simp

end Text

namespace Path

variable {dir file : String}

/-- A name of a file: it is not empty, has no slash and does not consist of dots. -/
structure IsName (file : String) : Prop where
  slash : '/' ∉ file.toList
  empty : file ≠ ""
  dot : file ≠ "."
  dots : file ≠ ".."

/-- The path of a file in a directory, with one slash before the name. -/
theorem join_eq (given : dir ≠ "") (file : String) :
    ∃ d, join dir file = d ++ "/" ++ file ∧ (dir = d ∨ dir = d ++ "/") := by
  rw [join]
  by_cases slash : dir.toList.getLast? = some '/'
  · obtain ⟨cs, chars⟩ := List.getLast?_eq_some_iff.mp slash
    have ends : dir = String.ofList cs ++ "/" := by
      apply String.toList_injective
      simp [chars]
    rw [if_pos (.inr slash)]
    exact ⟨String.ofList cs, by rw [← ends], .inr ends⟩
  · rw [if_neg (not_or.mpr ⟨given, slash⟩)]
    exact ⟨dir, rfl, .inl rfl⟩

theorem pieces_join (given : dir ≠ "") (name : IsName file) :
    ∃ names, Text.pieces '/' (join dir file) = names ++ [file] ∧
      (Text.pieces '/' dir = names ∨ Text.pieces '/' dir = names ++ [""]) := by
  obtain ⟨d, path, ends⟩ := join_eq given file
  have cut (b : String) : Text.pieces '/' (d ++ "/" ++ b) =
      Text.pieces '/' d ++ Text.pieces '/' b := Text.pieces_append '/' d b
  refine ⟨Text.pieces '/' d, ?_, ?_⟩
  · rw [path, cut, Text.pieces_of_not_mem name.slash]
  · rcases ends with rfl | rfl
    · exact .inl rfl
    · have last : Text.pieces '/' "" = [""] := rfl
      exact .inr (by simpa [last] using cut "")

theorem isAbsolute_join (given : dir ≠ "") (file : String) :
    isAbsolute (join dir file) = isAbsolute dir := by
  obtain ⟨c, cs, chars⟩ := List.exists_cons_of_ne_nil (mt String.toList_eq_nil_iff.mp given)
  rw [join]
  split <;> simp [isAbsolute, chars]

theorem fileName?_of_isName (name : IsName file) : fileName? file = some file := by
  simp [fileName?, parts, Text.pieces_of_not_mem name.slash, name.empty, name.dot, name.dots]

/-- What stands before the last dot of a file name does not change its extension, unless it is
empty. -/
theorem extension?_append (stem : String) (extension : String) (given : stem ≠ "")
    (plain : '.' ∉ extension.toList) (name : IsName (stem ++ "." ++ extension)) :
    extension? (stem ++ "." ++ extension) = some extension := by
  have pieces : Text.pieces '.' (stem ++ "." ++ extension) =
      Text.pieces '.' stem ++ [extension] := by
    rw [← Text.pieces_of_not_mem plain]
    exact Text.pieces_append '.' stem extension
  have before : Text.beforeLast '.' (stem ++ "." ++ extension) = stem := by
    rw [Text.beforeLast, pieces, List.dropLast_concat, Text.joinWith_pieces]
  have after : Text.afterLast '.' (stem ++ "." ++ extension) = extension := by
    simp [Text.afterLast, pieces]
  simp [extension?, fileName?_of_isName name, before, after]

end Path

end DataTrail
