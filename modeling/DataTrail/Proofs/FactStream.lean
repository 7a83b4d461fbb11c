import DataTrail.FactStream
import DataTrail.Proofs.FileTree
import DataTrail.Proofs.Forms

/-! Reading fact files that were written line by line. A unit stands on one line that neither starts
nor ends with a blank, so cutting the file at its line ends gives the lines of the units, and each
line gives its unit. -/

namespace DataTrail

namespace Text

theorem cutLines_line {line : Bytes} (whole : lineEnd ∉ line) (before : List Bytes)
    (start rest : Bytes) :
    cutLines before start (line ++ lineEnd :: rest) =
      cutLines ((start.reverse ++ line) :: before) [] rest := by
  induction line generalizing start with
  | nil => simp [cutLines]
  | cons byte others ih =>
    obtain ⟨ne, whole⟩ := not_or.mp (mt List.mem_cons.mpr whole)
    rw [List.cons_append, cutLines, if_neg (Ne.symm ne), ih whole]
    simp

theorem cutLines_flatMap {ls : List Bytes} (whole : ∀ line ∈ ls, lineEnd ∉ line)
    (before : List Bytes) :
    cutLines before [] (ls.flatMap (· ++ [lineEnd])) = (before.reverse ++ ls, []) := by
  induction ls generalizing before with
  | nil => simp [cutLines]
  | cons line rest ih =>
    have others := ih (fun l mem => whole l (List.mem_cons_of_mem _ mem)) (line :: before)
    simp [cutLines_line (whole line List.mem_cons_self), others]

/-- Lines that all end are cut apart again. -/
theorem lines_flatMap {ls : List Bytes} (whole : ∀ line ∈ ls, lineEnd ∉ line) :
    lines (ls.flatMap (· ++ [lineEnd])) = ls := by
  simp [lines, endedLines, cutLines_flatMap whole]

end Text

theorem SourceUnit.lineEnd_not_mem_render (u : SourceUnit) :
    Text.lineEnd ∉ Text.encode u.render :=
  mt Text.lineEnd_mem_encode.mp u.numberless_toJson.lineEnd_not_mem_compact

theorem SourceUnit.render_eq (u : SourceUnit) :
    ∃ inner, u.render.toList = '\x7b' :: (inner ++ ['\x7d']) := by
  rw [render, toJson, Json.fields, Json.compact, String.toList_append, String.toList_append]
  exact ⟨_, rfl⟩

/-- The braces around a unit are no blanks. -/
theorem SourceUnit.trim_render (u : SourceUnit) : Text.trim u.render.toList = u.render.toList := by
  obtain ⟨inner, braces⟩ := u.render_eq
  simp [braces, Text.trim, Text.trimStart, Text.trimEnd, Text.isBlank]

namespace FactStream

/-- The text of a fact file with the given units, one on each line. -/
def content (units : List SourceUnit) : String :=
  String.join (units.map fun u => u.render ++ "\n")

theorem encode_content (units : List SourceUnit) :
    Text.encode (content units) =
      (units.map fun u => Text.encode u.render).flatMap (· ++ [Text.lineEnd]) := by
  have lineEnd : Text.encode "\n" = [Text.lineEnd] := by decide
  induction units with
  | nil => decide
  | cons u rest ih =>
    have first : content (u :: rest) = u.render ++ "\n" ++ content rest := by
      simp [content, String.join_cons]
    simp [first, ih, lineEnd]

theorem ofBytes_render (u : SourceUnit) : Line.ofBytes (Text.encode u.render) = .unit u := by
  rw [Line.ofBytes, Text.decode?_encode]
  simp only [u.trim_render]
  cases text : u.render.toList with
  | nil =>
    obtain ⟨_, braces⟩ := u.render_eq
    simp [text] at braces
  | cons c cs =>
    simp only [← text, String.ofList_toList, u.parse?_render]

theorem deliver_content (units : List SourceUnit) :
    deliver (Text.encode (content units)) = { units, malformed := 0 } := by
  have lines : Text.lines (Text.encode (content units)) =
      units.map fun u => Text.encode u.render := by
    rw [encode_content]
    exact Text.lines_flatMap (List.forall_mem_map.mpr fun u _ => u.lineEnd_not_mem_render)
  simp only [deliver, lines, List.map_map, Function.comp_def, ofBytes_render, Delivery.ofLines]
  simp [List.filterMap_map]

/-- A plain file that holds the lines of some units delivers exactly those units in their order, and
no line of it is malformed. -/
theorem read_content (units : List SourceUnit) (t : FileTree) (path : String)
    (plain : isCompressed path = false)
    (stored : t.read path = .ok (Text.encode (content units))) :
    (read FileTree.disk path).run t =
      ({ delivery := { units, malformed := 0 }, error := none }, t) := by
  have file : (FileTree.disk.read path).run t = (.ok (Text.encode (content units)), t) := by
    rw [← stored]
    rfl
  have delivered : deliverFile path (Text.encode (content units)) =
      { delivery := { units, malformed := 0 } } := by
    simp [deliverFile, plain, deliver_content]
  rw [read, StateT.run_bind, file]
  simp only [← delivered]
  rfl

namespace Sample

/-- A unit with texts that have to be escaped, and one without methods. -/
def units : List SourceUnit :=
  [{ name := " Page\n", methods :=
      [{ method := { owner := "org.shop.Page", name := "show\"", params := ["\\", "é"] }
         callees := [{ owner := "", name := "\x00" }]
         disclosures := [{ recipient := "\t", policy := "" }]
         entryPoint := true
         error := some "" }] },
   { name := "" }]

/-- A tree with one file, which holds the units. -/
def store : FileTree :=
  (FileTree.empty []).put ["facts.jsonl"] (.file (Text.encode (content units)))

theorem read_store : store.read "facts.jsonl" = .ok (Text.encode (content units)) := by
  have follow : store.follow [] "facts.jsonl" = .ok ["facts.jsonl"] :=
    FileTree.follow_isName rfl ⟨by decide, by decide, by decide, by decide⟩ (by decide)
  have located : store.locate "facts.jsonl" =
      .ok (["facts.jsonl"], .file (Text.encode (content units))) :=
    FileTree.locate_eq_ok.mpr ⟨by decide, FileTree.leads_cons.mpr ⟨_, follow, rfl⟩,
      FileTree.find?_put_self (by simp) _⟩
  rw [FileTree.read, located, FileTree.ok_bind]

end Sample

theorem read_content_store :
    isCompressed "facts.jsonl" = false ∧
      Sample.store.read "facts.jsonl" = .ok (Text.encode (content Sample.units)) ∧
      (read FileTree.disk "facts.jsonl").run Sample.store =
        ({ delivery := { units := Sample.units, malformed := 0 }, error := none }, Sample.store) :=
  ⟨by decide, Sample.read_store,
    read_content Sample.units Sample.store "facts.jsonl" (by decide) Sample.read_store⟩

end FactStream

end DataTrail
