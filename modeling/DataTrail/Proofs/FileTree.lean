import Mathlib.Data.List.DropRight
import DataTrail.Disk.FileTree
import DataTrail.Proofs.Pieces
import DataTrail.Proofs.Utf8

/-! The files of one directory. A file that is put into a directory can be read there and is listed
there, the other files of the directory stay as they are, and the path of the directory still leads
to it. -/

namespace DataTrail.FileTree

variable {t : FileTree} {place other start : Place} {path dir file name : String}

theorem bind_eq_ok {ε α β : Type} {x : Except ε α} {f : α → Except ε β} {b : β} :
    x >>= f = .ok b ↔ ∃ a, x = .ok a ∧ f a = .ok b := by
  cases x with
  | error e => exact ⟨nofun, nofun⟩
  | ok a => exact ⟨fun h => ⟨a, rfl, h⟩, fun ⟨_, rfl, h⟩ => h⟩

theorem ok_bind {ε α β : Type} (a : α) (f : α → Except ε β) :
    (.ok a : Except ε α) >>= f = f a := rfl

theorem find?_put_self (given : place ≠ []) (node : Node) :
    (t.put place node).find? place = some node := by
  obtain ⟨first, rest, rfl⟩ := List.exists_cons_of_ne_nil given
  simp [put, find?]

theorem find?_put_of_ne (ne : other ≠ place) (node : Node) :
    (t.put place node).find? other = t.find? other := by
  cases other with
  | nil => rfl
  | cons first rest => simp [put, find?, Std.ExtTreeMap.getElem?_insert, ne.symm]

section Walks

/-- A name is followed from directories only. -/
theorem directory_of_follow (followed : t.follow place name = .ok other) :
    t.find? place = some .directory := by
  unfold follow at followed
  split at followed
  · cases followed
  · cases followed
  · assumption

theorem follow_empty (directory : t.find? place = some .directory) :
    t.follow place "" = .ok place := by
  simp [follow, directory]

theorem follow_isName (directory : t.find? place = some .directory) (isName : Path.IsName name)
    (short : name.utf8ByteSize ≤ nameLimit) : t.follow place name = .ok (place ++ [name]) := by
  simp [follow, directory, isName.empty, isName.dot, isName.dots, Nat.not_lt.mpr short]

/-- Names lead from one place to another through directories. -/
def Leads (t : FileTree) (names : List String) (start place : Place) : Prop :=
  names.foldlM t.follow start = .ok place

theorem leads_cons {names : List String} : t.Leads (name :: names) start place ↔
    ∃ next, t.follow start name = .ok next ∧ t.Leads names next place := by
  rw [Leads, List.foldlM_cons, bind_eq_ok]
  rfl

theorem leads_concat {names : List String} : t.Leads (names ++ [name]) start place ↔
    ∃ last, t.Leads names start last ∧ t.follow last name = .ok place := by
  rw [Leads, List.foldlM_append, bind_eq_ok]
  simp [Leads]

/-- Where no directory stands, something can be put without changing where names lead. -/
theorem Leads.put {names : List String} {hidden : Place} (leads : t.Leads names start place)
    (aside : t.find? hidden ≠ some .directory) (node : Node) :
    (t.put hidden node).Leads names start place := by
  induction names generalizing start with
  | nil => exact leads
  | cons name rest ih =>
    obtain ⟨next, followed, leads⟩ := leads_cons.mp leads
    have ne : start ≠ hidden := by
      rintro rfl
      exact aside (directory_of_follow followed)
    refine leads_cons.mpr ⟨next, ?_, ih leads⟩
    rw [← followed, follow, follow, find?_put_of_ne ne]

theorem Leads.rdropWhile {names : List String} (leads : t.Leads names start place) :
    t.Leads (names.rdropWhile (· = "")) start place := by
  induction names using List.reverseRecOn with
  | nil => exact leads
  | append_singleton names name ih =>
    by_cases empty : name = ""
    · obtain ⟨last, leads, followed⟩ := leads_concat.mp leads
      rw [empty, follow_empty (directory_of_follow followed), Except.ok.injEq] at followed
      rw [List.rdropWhile_concat_pos _ _ _ (by simpa using empty)]
      exact ih (followed ▸ leads)
    · rwa [List.rdropWhile_concat_neg _ _ _ (by simpa using empty)]

/-- A path that leads to a place. -/
theorem locate_eq_ok {node : Node} : t.locate path = .ok (place, node) ↔
    check path = .ok () ∧ t.Leads (Text.pieces '/' path) (t.start path) place ∧
      t.find? place = some node := by
  simp only [locate, bind_eq_ok, Leads]
  constructor
  · rintro ⟨_, checked, found, leads, ends⟩
    split at ends
    · cases ends
    · cases ends
      exact ⟨checked, leads, ‹_›⟩
  · rintro ⟨checked, leads, found⟩
    exact ⟨(), checked, place, leads, by simp [found]⟩

theorem locate_put {node node' : Node} (stands : t.locate path = .ok (place, node))
    (ne : place ≠ other) (aside : t.find? other ≠ some .directory) :
    (t.put other node').locate path = .ok (place, node) := by
  rw [locate_eq_ok] at stands ⊢
  obtain ⟨checked, leads, found⟩ := stands
  exact ⟨checked, leads.put aside node', by rw [find?_put_of_ne ne, found]⟩

theorem locateEnd_of_leads {names : List String} (checked : check path = .ok ())
    (ends : (Text.pieces '/' path).rdropWhile (· = "") = names)
    (leads : t.Leads names.dropLast (t.start path) place)
    (directory : t.find? place = some .directory) :
    t.locateEnd path =
      .ok (place, names.getLast?.filter fun name => name ≠ "." && name ≠ "..") := by
  subst ends
  rw [locateEnd, bind_eq_ok]
  refine ⟨(), checked, ?_⟩
  rw [bind_eq_ok]
  refine ⟨place, leads, ?_⟩
  rw [bind_eq_ok]
  exact ⟨place, follow_empty directory, rfl⟩

/-- A directory that stands cannot be made. -/
theorem makeDirectory_of_locate (stands : t.locate dir = .ok (place, .directory)) :
    t.makeDirectory dir = .error .alreadyExists := by
  obtain ⟨checked, leads, found⟩ := locate_eq_ok.mp stands
  have trimmed := leads.rdropWhile
  rcases List.eq_nil_or_concat' ((Text.pieces '/' dir).rdropWhile (· = "")) with
    names | ⟨before, name, names⟩
  · -- A path of slashes only leads to the root.
    rw [names] at trimmed
    rw [makeDirectory, locateEnd_of_leads checked names trimmed found]
    rfl
  · rw [names] at trimmed
    obtain ⟨last, walked, followed⟩ := leads_concat.mp trimmed
    have walked : t.Leads (before ++ [name]).dropLast (t.start dir) last := by
      rwa [List.dropLast_concat]
    rw [makeDirectory, locateEnd_of_leads checked names walked (directory_of_follow followed),
      List.getLast?_concat, ok_bind]
    -- The last name leads to the directory itself, unless it is made of dots.
    cases chosen : (some name).filter fun name => name ≠ "." && name ≠ ".." with
    | none => rfl
    | some last =>
      obtain ⟨same, _⟩ := Option.filter_eq_some_iff.mp chosen
      cases same
      simp only [followed, ok_bind, found]

end Walks

section Files

/-- A file can have its name in a directory. -/
structure Fits (dir file : String) : Prop where
  isName : Path.IsName file
  nul : '\x00' ∉ file.toList
  short : file.utf8ByteSize ≤ nameLimit
  path : (Path.join dir file).utf8ByteSize < pathLimit

theorem check_eq_ok : check path = .ok () ↔
    '\x00' ∉ path.toList ∧ path ≠ "" ∧ path.utf8ByteSize < pathLimit := by
  unfold check
  split
  · simp_all
  · split
    · simp_all
    · split <;> simp_all

theorem Fits.check_join (fits : Fits dir file) (checked : check dir = .ok ()) :
    check (Path.join dir file) = .ok () := by
  obtain ⟨nul, given, _⟩ := check_eq_ok.mp checked
  obtain ⟨d, path, ends⟩ := Path.join_eq given file
  refine check_eq_ok.mpr ⟨?_, ?_, fits.path⟩
  · have clean : '\x00' ∉ d.toList := by
      rcases ends with rfl | rfl
      · exact nul
      · simp_all
    simp [path, clean, fits.nul]
  · rw [path]
    simp

theorem leads_join (fits : Fits dir file) (stands : t.locate dir = .ok (place, .directory)) :
    ∃ names, Text.pieces '/' (Path.join dir file) = names ++ [file] ∧
      t.Leads names (t.start (Path.join dir file)) place := by
  obtain ⟨checked, leads, _⟩ := locate_eq_ok.mp stands
  have given := (check_eq_ok.mp checked).2.1
  have start : t.start (Path.join dir file) = t.start dir := by
    rw [FileTree.start, FileTree.start, Path.isAbsolute_join given]
  -- Where the path of the directory ends in a slash, its last name is empty and leads nowhere.
  obtain ⟨names, pieces, whole | ending⟩ := Path.pieces_join given fits.isName
  · exact ⟨names, pieces, by rwa [start, ← whole]⟩
  · rw [ending, leads_concat] at leads
    obtain ⟨last, walked, followed⟩ := leads
    rw [follow_empty (directory_of_follow followed), Except.ok.injEq] at followed
    exact ⟨names, pieces, by rwa [start, ← followed]⟩

theorem locate_join {node : Node} (fits : Fits dir file)
    (stands : t.locate dir = .ok (place, .directory))
    (stored : t.find? (place ++ [file]) = some node) :
    t.locate (Path.join dir file) = .ok (place ++ [file], node) := by
  obtain ⟨checked, _, directory⟩ := locate_eq_ok.mp stands
  obtain ⟨names, pieces, leads⟩ := leads_join fits stands
  refine locate_eq_ok.mpr ⟨fits.check_join checked, ?_, stored⟩
  rw [pieces, leads_concat]
  exact ⟨place, leads, follow_isName directory fits.isName fits.short⟩

theorem read_join {content : Bytes} (fits : Fits dir file)
    (stands : t.locate dir = .ok (place, .directory))
    (stored : t.find? (place ++ [file]) = some (.file content)) :
    t.read (Path.join dir file) = .ok content := by
  rw [read, locate_join fits stands stored, ok_bind]

theorem endsInSlash_join (fits : Fits dir file) (given : dir ≠ "") :
    endsInSlash (Path.join dir file) = false := by
  obtain ⟨d, path, _⟩ := Path.join_eq given file
  have last : file.toList.getLast? ≠ some '/' :=
    fun ends => fits.isName.slash (List.mem_of_getLast? ends)
  have filled := mt String.toList_eq_nil_iff.mp fits.isName.empty
  rw [endsInSlash, path, String.toList_append, List.getLast?_append_of_ne_nil _ filled]
  exact decide_eq_false last

/-- A file is written into a directory, unless a directory has its name. -/
theorem write_join (fits : Fits dir file) (stands : t.locate dir = .ok (place, .directory))
    (free : t.find? (place ++ [file]) ≠ some .directory) (content : Bytes) :
    t.write (Path.join dir file) content = .ok (t.put (place ++ [file]) (.file content)) := by
  obtain ⟨checked, _, directory⟩ := locate_eq_ok.mp stands
  obtain ⟨names, pieces, leads⟩ := leads_join fits stands
  have trimmed : (Text.pieces '/' (Path.join dir file)).rdropWhile (· = "") = names ++ [file] := by
    rw [pieces, List.rdropWhile_concat_neg _ _ _ (by simpa using fits.isName.empty)]
  have before : t.Leads (names ++ [file]).dropLast (t.start (Path.join dir file)) place := by
    rwa [List.dropLast_concat]
  have named : (some file).filter (fun name => name ≠ "." && name ≠ "..") = some file :=
    Option.filter_eq_some_iff.mpr ⟨rfl, by simp [fits.isName.dot, fits.isName.dots]⟩
  rw [write, locateEnd_of_leads (fits.check_join checked) trimmed before directory,
    List.getLast?_concat, named, ok_bind]
  simp only [endsInSlash_join fits (check_eq_ok.mp checked).2.1, Bool.false_eq_true, if_false,
    follow_isName directory fits.isName fits.short, ok_bind]

theorem filesIn_eq (stands : t.locate dir = .ok (place, .directory)) :
    ∃ nameOf : Place × Node → Option String,
      t.filesIn dir = .ok (t.nodes.toList.filterMap nameOf) ∧
      ∀ entry name, nameOf entry = some name ↔
        ∃ content, entry = (place ++ [name], .file content) := by
  rw [filesIn, stands, ok_bind]
  simp only [filesBelow, List.filterMap_filterMap]
  refine ⟨_, rfl, ?_⟩
  rintro ⟨p, _ | content⟩ name
  · simp
  · by_cases within : place.isPrefixOf p
    · obtain ⟨names, rfl⟩ := List.isPrefixOf_iff_prefix.mp within
      rcases names with _ | ⟨first, _ | _⟩ <;> simp
    · have apart : p ≠ place ++ [name] := by
        rintro rfl
        exact within (by simp)
      simp [within, apart]

/-- The files of a directory are listed once each. -/
theorem filesIn_of_locate (stands : t.locate dir = .ok (place, .directory)) :
    ∃ names, t.filesIn dir = .ok names ∧ names.Nodup ∧
      ∀ name, name ∈ names ↔ ∃ content, t.find? (place ++ [name]) = some (.file content) := by
  obtain ⟨nameOf, listed, named⟩ := filesIn_eq stands
  refine ⟨_, listed, ?_, fun name => ?_⟩
  · refine List.Pairwise.filterMap _ ?_ Std.ExtTreeMap.distinct_keys_toList
    rintro entry entry' distinct name first name' second rfl
    obtain ⟨_, rfl⟩ := (named _ _).mp first
    obtain ⟨_, rfl⟩ := (named _ _).mp second
    exact distinct Std.ReflCmp.compare_self
  · have root : t.find? (place ++ [name]) = t.nodes[place ++ [name]]? := by cases place <;> rfl
    simp only [List.mem_filterMap, named, root, ← Std.ExtTreeMap.mem_toList_iff_getElem?_eq_some]
    constructor
    · rintro ⟨_, mem, content, rfl⟩
      exact ⟨content, mem⟩
    · rintro ⟨content, mem⟩
      exact ⟨_, mem, content, rfl⟩

end Files

section Disk

theorem run_bind {σ α β : Type} (x : StateM σ α) (f : α → StateM σ β) (s : σ) :
    (x >>= f).run s = (f (x.run s).1).run (x.run s).2 := rfl

theorem run_change (f : FileTree → Except Fault FileTree) : (change f).run t =
    match f t with
    | .ok t' => (.ok (), t')
    | .error fault => (.error fault, t) := by
  rw [change, run_bind]
  change (match f t with | .ok t' => _ | .error fault => _ : StateM _ _).run t = _
  cases f t <;> rfl

theorem run_isDirectory (stands : t.locate dir = .ok (place, .directory)) :
    (disk.isDirectory dir).run t = (true, t) := by
  have kind : t.kind dir = .ok .directory := by rw [FileTree.kind, stands, ok_bind]
  have asked : (disk.kind dir).run t = (.ok .directory, t) := by
    rw [← kind]
    rfl
  rw [Disk.isDirectory, run_bind, asked]
  rfl

/-- Nothing is made where the directory stands. -/
theorem run_makeDirectories (stands : t.locate dir = .ok (place, .directory)) :
    (disk.makeDirectories dir).run t = (.ok (), t) := by
  have given := (check_eq_ok.mp (locate_eq_ok.mp stands).1).2.1
  have made : (disk.makeDirectory dir).run t = (.error .alreadyExists, t) := by
    rw [disk, run_change, makeDirectory_of_locate stands]
  rw [Disk.makeDirectories, Disk.makeEach, if_neg given, run_bind, made]
  simp only [run_bind, run_isDirectory stands]
  rfl

theorem run_writeText {text : String} {t' : FileTree}
    (written : t.write path (Text.encode text) = .ok t') :
    (disk.writeText path text).run t = (.ok (), t') := by
  rw [Disk.writeText, disk, run_change, written]

theorem run_readText {text : String} (stored : t.read path = .ok (Text.encode text)) :
    (disk.readText path).run t = (.ok text, t) := by
  have asked : (disk.read path).run t = (.ok (Text.encode text), t) := by
    rw [← stored]
    rfl
  rw [Disk.readText, run_bind, asked]
  simp only [Text.decode?_encode]
  rfl

end Disk

end DataTrail.FileTree
