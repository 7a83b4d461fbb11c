import DataTrail.Proofs.FactStream

/-! A fact file is read line by line, and what a line holds depends on that line alone. So the parts
of a file that is cut at a line end deliver what the whole delivers, a line that holds no unit does
no harm to the others, and every line counts as a unit or as malformed unless it is blank. -/

namespace DataTrail

namespace Text

/-- The pieces of a file between its line ends. What follows the last line end is a line too, unless
it is empty. -/
def linePieces (bytes : Bytes) : List Bytes :=
  if (bytes.splitOn lineEnd).getLast? = some [] then (bytes.splitOn lineEnd).dropLast
  else bytes.splitOn lineEnd

/-- The bytes are empty or end in a line end, so that what follows them starts a line. -/
def AtLineStart (bytes : Bytes) : Prop := bytes = [] ∨ bytes.getLast? = some lineEnd

-- The first piece of what is still to be read continues the line that was begun before.
theorem cutLines_eq_splitOn (before : List Bytes) (line bytes : Bytes) :
    cutLines before line bytes =
      (before.reverse ++ ((bytes.splitOn lineEnd).modifyHead (line.reverse ++ ·)).dropLast,
        ((bytes.splitOn lineEnd).modifyHead (line.reverse ++ ·)).getLastD []) := by
  induction bytes generalizing before line with
  | nil => simp [cutLines]
  | cons byte rest ih =>
    obtain ⟨piece, pieces, cut⟩ := List.exists_cons_of_ne_nil (List.splitOn_ne_nil lineEnd rest)
    rw [cutLines, List.splitOn_cons_eq_if_modifyHead]
    by_cases ends : byte = lineEnd
    · simp [ends, ih, cut]
    · simp [ends, ih, cut]

theorem lines_eq_linePieces (bytes : Bytes) : lines bytes = linePieces bytes := by
  have given := List.splitOn_ne_nil lineEnd bytes
  obtain ⟨init, last, cut⟩ := (List.eq_nil_or_concat' (bytes.splitOn lineEnd)).resolve_left given
  have ended : endedLines bytes = (init, last) := by
    have fresh : (init ++ [last]).modifyHead (([] : Bytes).reverse ++ ·) = init ++ [last] := by
      cases init <;> rfl
    rw [endedLines, cutLines_eq_splitOn, cut, fresh]
    simp
  cases last with
  | nil => simp [lines, ended, linePieces, cut]
  | cons byte line => simp [lines, ended, linePieces, cut]

theorem linePieces_append_lineEnd (start rest : Bytes) :
    linePieces (start ++ lineEnd :: rest) = start.splitOn lineEnd ++ linePieces rest := by
  have given := List.splitOn_ne_nil lineEnd rest
  have last : (start.splitOn lineEnd ++ rest.splitOn lineEnd).getLast? =
      (rest.splitOn lineEnd).getLast? := List.getLast?_append_of_ne_nil _ given
  simp only [linePieces, List.splitOn_append_cons_self, last, List.dropLast_append_of_ne_nil given]
  split
  · rfl
  · rfl

/-- The lines of a file cut at a line start are the lines of its parts. -/
theorem lines_append {start : Bytes} (boundary : AtLineStart start) (rest : Bytes) :
    lines (start ++ rest) = lines start ++ lines rest := by
  obtain rfl | ends := boundary
  · rfl
  · obtain ⟨init, rfl⟩ := List.getLast?_eq_some_iff.mp ends
    simp only [lines_eq_linePieces, List.append_assoc, List.singleton_append,
      linePieces_append_lineEnd]
    simp [linePieces]

theorem lines_ended {line : Bytes} (whole : lineEnd ∉ line) :
    lines (line ++ [lineEnd]) = [line] := by
  simpa using lines_flatMap (List.forall_mem_singleton.mpr whole)

theorem trim_eq_nil_iff {cs : List Char} : trim cs = [] ↔ ∀ c ∈ cs, isBlank c := by
  have atEnd : trim cs = [] ↔ ∀ c ∈ trimStart cs, isBlank c := by
    simp [trim, trimEnd, List.dropWhile_eq_nil_iff]
  rw [atEnd]
  constructor
  · intro blank c mem
    rw [← List.takeWhile_append_dropWhile (p := isBlank) (l := cs), List.mem_append] at mem
    obtain before | after := mem
    · exact List.mem_takeWhile_imp before
    · exact blank c after
  · intro blank c mem
    exact blank c ((List.dropWhile_sublist isBlank).subset mem)

end Text

namespace FactStream

/-- Whether a line holds a text that consists of blanks. -/
def isBlankLine (line : Bytes) : Bool :=
  (Text.decode? line).any fun text => text.toList.all Text.isBlank

/-- A line is at fault if it is no text, or a text with more than blanks that, without the blanks
around it, is no unit. -/
def Faulty (line : Bytes) : Prop :=
  Text.decode? line = none ∨
    ∃ text, Text.decode? line = some text ∧ (∃ c ∈ text.toList, Text.isBlank c = false) ∧
      SourceUnit.parse? (String.ofList (Text.trim text.toList)) = none

theorem ofBytes_eq_blank_iff {line : Bytes} : Line.ofBytes line = .blank ↔ isBlankLine line := by
  rw [Line.ofBytes, isBlankLine]
  cases Text.decode? line with
  | none => simp
  | some text =>
    simp only [Option.any_some, List.all_eq_true, ← Text.trim_eq_nil_iff]
    cases Text.trim text.toList with
    | nil => simp
    | cons c cs =>
      dsimp only
      split <;> simp

theorem ofBytes_faulty {line : Bytes} (fault : Faulty line) : Line.ofBytes line = .malformed := by
  rw [Line.ofBytes]
  obtain none | ⟨text, decoded, ⟨c, mem, visible⟩, unread⟩ := fault
  · rw [none]
  · have kept : Text.trim text.toList ≠ [] := by
      intro empty
      have blank := Text.trim_eq_nil_iff.mp empty c mem
      rw [visible] at blank
      exact Bool.false_ne_true blank
    obtain ⟨first, others, trimmed⟩ := List.exists_cons_of_ne_nil kept
    rw [trimmed] at unread
    simp only [decoded, trimmed, unread]

theorem Delivery.ofLines_append (ls ms : List Line) :
    ofLines (ls ++ ms) =
      { units := (ofLines ls).units ++ (ofLines ms).units
        malformed := (ofLines ls).malformed + (ofLines ms).malformed } := by
  simp [ofLines]

/-- Every line that is not blank counts once. -/
theorem Delivery.length_ofLines (ls : List Line) :
    (ofLines ls).units.length + (ofLines ls).malformed + ls.countP (· = .blank) = ls.length := by
  induction ls with
  | nil => rfl
  | cons l rest ih =>
    simp only [ofLines] at ih ⊢
    cases l with
    | blank => simp; omega
    | unit u => simp; omega
    | malformed => simp; omega

theorem deliver_append {start : Bytes} (boundary : Text.AtLineStart start) (rest : Bytes) :
    deliver (start ++ rest) =
      { units := (deliver start).units ++ (deliver rest).units
        malformed := (deliver start).malformed + (deliver rest).malformed } := by
  simp only [deliver, Text.lines_append boundary, List.map_append, Delivery.ofLines_append]

theorem deliver_faulty {line : Bytes} (whole : Text.lineEnd ∉ line) (fault : Faulty line) :
    deliver (line ++ [Text.lineEnd]) = { units := [], malformed := 1 } := by
  rw [deliver, Text.lines_ended whole, List.map_singleton, ofBytes_faulty fault]
  rfl

theorem deliver_insert {start line : Bytes} (boundary : Text.AtLineStart start)
    (whole : Text.lineEnd ∉ line) (fault : Faulty line) (rest : Bytes) :
    deliver (start ++ (line ++ [Text.lineEnd]) ++ rest) =
      { units := (deliver (start ++ rest)).units
        malformed := (deliver (start ++ rest)).malformed + 1 } := by
  have inserted : Text.AtLineStart (line ++ [Text.lineEnd]) := .inr List.getLast?_concat
  rw [List.append_assoc, deliver_append boundary, deliver_append inserted,
    deliver_faulty whole fault, deliver_append boundary]
  simp only [List.nil_append]
  congr 1
  omega

theorem length_deliver (bytes : Bytes) :
    (deliver bytes).units.length + (deliver bytes).malformed +
      (Text.linePieces bytes).countP isBlankLine = (Text.linePieces bytes).length := by
  have counted := Delivery.length_ofLines ((Text.lines bytes).map Line.ofBytes)
  have blank : (fun l : Line => decide (l = .blank)) ∘ Line.ofBytes = isBlankLine := by
    funext line
    simp [ofBytes_eq_blank_iff]
  rw [List.countP_map, List.length_map, blank] at counted
  rw [← Text.lines_eq_linePieces]
  exact counted

/-- Reading a plain file delivers what its bytes deliver. -/
theorem run_read_plain {t : FileTree} {path : String} {bytes : Bytes}
    (plain : isCompressed path = false) (stored : t.read path = .ok bytes) :
    (read FileTree.disk path).run t = ({ delivery := deliver bytes, error := none }, t) := by
  have file : (FileTree.disk.read path).run t = (.ok bytes, t) := by
    rw [← stored]
    rfl
  have delivered : deliverFile path bytes = { delivery := deliver bytes } := by
    simp [deliverFile, plain]
  rw [read, StateT.run_bind, file]
  simp only [← delivered]
  rfl

/-- The parts of a plain file that is cut at a line start deliver what the whole delivers. A line at
fault that is put in there leaves the units as they are and counts as one malformed line. Every line
counts as a unit or as malformed unless it is blank. -/
theorem faults_stay_local (path : String) (plain : isCompressed path = false) :
    (∀ (t : FileTree) (bytes : Bytes), t.read path = .ok bytes →
      (read FileTree.disk path).run t = ({ delivery := deliver bytes, error := none }, t)) ∧
    (∀ start rest : Bytes, Text.AtLineStart start →
      deliver (start ++ rest) =
        { units := (deliver start).units ++ (deliver rest).units
          malformed := (deliver start).malformed + (deliver rest).malformed }) ∧
    (∀ start line rest : Bytes, Text.AtLineStart start → Text.lineEnd ∉ line → Faulty line →
      deliver (start ++ (line ++ [Text.lineEnd]) ++ rest) =
        { units := (deliver (start ++ rest)).units
          malformed := (deliver (start ++ rest)).malformed + 1 }) ∧
    ∀ bytes : Bytes,
      (deliver bytes).units.length + (deliver bytes).malformed +
        (Text.linePieces bytes).countP isBlankLine = (Text.linePieces bytes).length := by
  refine ⟨?_, ?_, ?_, ?_⟩
  · intro t bytes stored
    exact run_read_plain plain stored
  · intro start rest boundary
    exact deliver_append boundary rest
  · intro start line rest boundary whole fault
    exact deliver_insert boundary whole fault rest
  · intro bytes
    exact length_deliver bytes

/-- A blank line with a carriage return, and a line that is no text, before the units. -/
theorem faults_stay_local_store :
    isCompressed "facts.jsonl" = false ∧
      Text.AtLineStart [32, 13, Text.lineEnd] ∧ Faulty [0xC3, 0x28] ∧
      (read FileTree.disk "facts.jsonl").run Sample.store =
        ({ delivery := { units := Sample.units, malformed := 0 }, error := none }, Sample.store) ∧
      deliver ([32, 13, Text.lineEnd] ++ ([0xC3, 0x28] ++ [Text.lineEnd]) ++
        Text.encode (content Sample.units)) = { units := Sample.units, malformed := 1 } := by
  have plain : isCompressed "facts.jsonl" = false := by decide
  have boundary : Text.AtLineStart [32, 13, Text.lineEnd] := .inr rfl
  have fault : Faulty [0xC3, 0x28] := .inl (by decide)
  have blank : deliver [32, 13, Text.lineEnd] = { units := [], malformed := 0 } := by decide
  obtain ⟨reads, parts, inserted, _⟩ := faults_stay_local "facts.jsonl" plain
  refine ⟨plain, boundary, fault, ?_, ?_⟩
  · rw [reads Sample.store _ Sample.read_store, deliver_content]
  · rw [inserted _ _ _ boundary (by decide) fault, parts _ _ boundary, blank, deliver_content]
    rfl

end FactStream

end DataTrail
