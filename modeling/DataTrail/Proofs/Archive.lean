import DataTrail.Archive
import DataTrail.Proofs.FileTree
import DataTrail.Proofs.Forms
import DataTrail.Proofs.Writers

/-! Reports that are written into a directory and read from it. After any writes into an empty
directory, it holds for each name the last report that has it, and no other files. Reading it gives
these reports, in the order of their file names. -/

namespace DataTrail.Archive

open FileTree

/-- A report that can be written into a directory and read from it: its name can be that of a file
there, and it does not nest too deep. -/
structure Storable (dir : String) (r : Report) : Prop where
  named : isFileName r.name = true
  nul : '\x00' ∉ r.name.toList
  short : (r.name ++ ".json").utf8ByteSize ≤ nameLimit
  path : (Path.join dir (r.name ++ ".json")).utf8ByteSize < pathLimit
  shallow : r.toJson.nesting ≤ Json.fullRoom

variable {dir : String} {r : Report} {reports : List Report} {t : FileTree} {place : Place}

section Names

theorem isFileName_iff {name : String} : isFileName name = true ↔
    name ≠ "" ∧ '/' ∉ name.toList ∧ '\\' ∉ name.toList ∧ name ≠ "." ∧ name ≠ ".." := by
  simp [isFileName, and_assoc]

theorem isName_of_isFileName {name : String} (named : isFileName name = true) :
    Path.IsName (name ++ ".json") := by
  obtain ⟨_, slash, _⟩ := isFileName_iff.mp named
  have letter : 'j' ∈ (name ++ ".json").toList := by simp
  refine ⟨by simp [slash], ?_, ?_, ?_⟩
  all_goals
    intro same
    rw [same] at letter
    exact absurd letter (by decide)

theorem Storable.fits (storable : Storable dir r) : Fits dir (r.name ++ ".json") where
  isName := isName_of_isFileName storable.named
  nul := by simp [storable.nul]
  short := storable.short
  path := storable.path

theorem Storable.extension? (storable : Storable dir r) :
    Path.extension? (r.name ++ ".json") = some "json" := by
  have cut : r.name ++ ".json" = r.name ++ "." ++ "json" := by rw [String.append_assoc]; rfl
  have given := (isFileName_iff.mp storable.named).1
  rw [cut]
  exact Path.extension?_append _ _ given (by decide) (cut ▸ storable.fits.isName)

/-- The last of the reports whose file has the given name. -/
def lastIn? (reports : List Report) (file : String) : Option Report :=
  reports.reverse.find? (·.name ++ ".json" = file)

theorem lastIn?_json (reports : List Report) (name : String) :
    lastIn? reports (name ++ ".json") = Report.latest? reports name := by
  simp [lastIn?, Report.latest?]

theorem lastIn?_concat (reports : List Report) (r : Report) (file : String) :
    lastIn? (reports ++ [r]) file =
      if r.name ++ ".json" = file then some r else lastIn? reports file := by
  rw [lastIn?, List.reverse_append, List.reverse_singleton, List.singleton_append, List.find?_cons]
  split <;> simp_all [lastIn?]

theorem of_lastIn? {file : String} (last : lastIn? reports file = some r) :
    r ∈ reports ∧ r.name ++ ".json" = file :=
  ⟨List.mem_reverse.mp (List.mem_of_find?_eq_some last), by simpa using List.find?_some last⟩

end Names

/-- The directory holds for each file name the last report that has it. -/
structure Holds (t : FileTree) (dir : String) (place : Place) (reports : List Report) : Prop where
  stands : t.locate dir = .ok (place, .directory)
  files : ∀ file, t.find? (place ++ [file]) =
    (lastIn? reports file).map fun r => .file (Text.encode (r.render ++ "\n"))

/-- A write puts a report in the place of those that have its name. -/
theorem Holds.write (holds : Holds t dir place reports) (storable : Storable dir r) :
    ∃ t', (writer disk dir r).run t = (.ok (), t') ∧ Holds t' dir place (reports ++ [r]) := by
  have free : t.find? (place ++ [r.name ++ ".json"]) ≠ some .directory := by
    rw [holds.files]
    simp
  let t' := t.put (place ++ [r.name ++ ".json"]) (.file (Text.encode (r.render ++ "\n")))
  have written := write_join storable.fits holds.stands free (Text.encode (r.render ++ "\n"))
  have stored : (Archive.write disk dir r).run t = (.ok (), t') := by
    have file : fileName r.name = .ok (r.name ++ ".json") := if_pos storable.named
    simp only [Archive.write, file, run_bind, run_makeDirectories holds.stands,
      run_writeText written]
    rfl
  refine ⟨t', ?_, ?_, fun file => ?_⟩
  · rw [writer, run_bind, stored]
    rfl
  · exact locate_put holds.stands (by simp) free
  · rw [lastIn?_concat]
    split
    next same => rw [← same, find?_put_self (by simp)]; rfl
    next other => rw [find?_put_of_ne (by simpa using Ne.symm other), holds.files]

theorem Holds.writes {more : List Report} (holds : Holds t dir place reports)
    (storable : ∀ r ∈ more, Storable dir r) :
    ∃ t', (more.mapM (writer disk dir)).run t = (more.map fun _ => .ok (), t') ∧
      Holds t' dir place (reports ++ more) := by
  induction more generalizing t reports with
  | nil => exact ⟨t, rfl, by rwa [List.append_nil]⟩
  | cons r rest ih =>
    obtain ⟨t₁, first, holds⟩ := holds.write (storable r List.mem_cons_self)
    obtain ⟨t₂, others, holds⟩ := ih holds fun r' mem => storable r' (List.mem_cons_of_mem _ mem)
    refine ⟨t₂, ?_, by rwa [List.append_assoc, List.singleton_append] at holds⟩
    rw [Recorder.run_mapM_cons, first]
    simp only [others, List.map_cons]

theorem Holds.loadEach {files : List String} (holds : Holds t dir place reports)
    (storable : ∀ r ∈ reports, Storable dir r)
    (listed : ∀ file ∈ files, lastIn? reports file ≠ none) :
    (loadEach disk (files.map (Path.join dir))).run t =
      (.ok (files.filterMap (lastIn? reports)), t) := by
  induction files with
  | nil => rfl
  | cons file rest ih =>
    obtain ⟨r, last⟩ := Option.ne_none_iff_exists'.mp (listed file List.mem_cons_self)
    obtain ⟨mem, rfl⟩ := of_lastIn? last
    have stored := holds.files (r.name ++ ".json")
    rw [last, Option.map_some] at stored
    have text := run_readText (read_join (storable r mem).fits holds.stands stored)
    have others := ih fun file mem => listed file (List.mem_cons_of_mem _ mem)
    simp only [List.map_cons, Archive.loadEach, run_bind, text, others,
      Report.parse?_render (storable r mem).shallow, List.filterMap_cons_some last]
    rfl

theorem Holds.load (holds : Holds t dir place reports)
    (storable : ∀ r ∈ reports, Storable dir r) :
    ∃ loaded, (load disk dir).run t = (.ok loaded, t) ∧
      loaded.Pairwise (fun a b =>
        Text.encode (a.name ++ ".json") < Text.encode (b.name ++ ".json")) ∧
      ∀ r, r ∈ loaded ↔ Report.latest? reports r.name = some r := by
  obtain ⟨names, listed, once, mem_names⟩ := filesIn_of_locate holds.stands
  let files := (names.filter (Path.extension? · = some "json")).mergeSort fun a b => decide (a ≤ b)
  have mem_files (file : String) : file ∈ files ↔ lastIn? reports file ≠ none := by
    simp only [files, List.mem_mergeSort, List.mem_filter, mem_names, decide_eq_true_eq,
      holds.files]
    cases last : lastIn? reports file with
    | none => simp
    | some r =>
      obtain ⟨mem, rfl⟩ := of_lastIn? last
      simp [(storable r mem).extension?]
  have increasing : files.Pairwise (· < ·) := by
    have sorted : files.Pairwise fun a b => decide (a ≤ b) = true :=
      List.pairwise_mergeSort (by simpa using fun a b c => le_trans) (by simpa using le_total) _
    have distinct : files.Nodup := (List.mergeSort_perm _ _).nodup_iff.mpr (once.filter _)
    refine (sorted.and distinct).imp fun ⟨le, ne⟩ => ?_
    exact lt_of_le_of_ne (of_decide_eq_true le) ne
  refine ⟨files.filterMap (lastIn? reports), ?_, ?_, fun r => ?_⟩
  · have asked : (disk.filesIn dir).run t = (.ok names, t) := by
      rw [← listed]
      rfl
    rw [Archive.load, run_bind, asked]
    exact holds.loadEach storable fun file => (mem_files file).mp
  · refine increasing.filterMap _ fun file file' less r first r' second => ?_
    rw [(of_lastIn? first).2, (of_lastIn? second).2, Text.encode_lt_encode]
    exact less
  · rw [List.mem_filterMap, ← lastIn?_json]
    constructor
    · rintro ⟨file, _, last⟩
      rwa [(of_lastIn? last).2]
    · intro last
      exact ⟨_, (mem_files _).mpr (by simp [last]), last⟩

/-- Reports that are written into an empty directory are all written. Reading the directory then
gives for each name the report that was written last under it, as one who keeps all reports has it.
Each of them comes once, in the order of the bytes of the file names. -/
theorem load_after_writes (t : FileTree) (dir : String) (place : Place) (reports : List Report)
    (stands : t.locate dir = .ok (place, .directory))
    (empty : ∀ name, t.find? (place ++ [name]) = none)
    (storable : ∀ r ∈ reports, Storable dir r) :
    let written := (reports.mapM (writer disk dir)).run t
    let kept := ((reports.mapM keepReport).run []).2
    (∀ result ∈ written.1, result = .ok ()) ∧
      ∃ loaded, (load disk dir).run written.2 = (.ok loaded, written.2) ∧
        loaded.Pairwise (fun a b =>
          Text.encode (a.name ++ ".json") < Text.encode (b.name ++ ".json")) ∧
        ∀ r, r ∈ loaded ↔ Report.latest? kept r.name = some r := by
  have nothing : Holds t dir place [] := ⟨stands, empty⟩
  obtain ⟨t', written, holds⟩ := nothing.writes storable
  simp only [written, Recorder.run_mapM_keepReport, List.nil_append]
  exact ⟨by simp, holds.load storable⟩

namespace Sample

/-- A tree with one directory, which is empty. -/
def shelf : FileTree := (FileTree.empty []).put ["out"] .directory

/-- Two reports of one name, and one whose file comes before theirs. -/
def drafts : List Report :=
  [{ name := "Page", data := ["Email"] },
   { name := "Page-2", retention := some "30 \"days\"\n", description := "\\ \x01 é" },
   { name := "Page", pm := some "", purposes :=
      [{ name := "show", purposes := [{ name := "inner", required := false }] }] }]

theorem locate_shelf : shelf.locate "out" = .ok (["out"], .directory) := by
  have follow : shelf.follow [] "out" = .ok ["out"] :=
    follow_isName rfl ⟨by decide, by decide, by decide, by decide⟩ (by decide)
  refine locate_eq_ok.mpr ⟨by decide, leads_cons.mpr ⟨["out"], follow, rfl⟩, ?_⟩
  exact find?_put_self (by simp) _

theorem find?_shelf (name : String) : shelf.find? (["out"] ++ [name]) = none := by
  rw [shelf, find?_put_of_ne (by simp)]
  simp [FileTree.empty, find?]

theorem storable_drafts : ∀ r ∈ drafts, Storable "out" r := by
  simp only [drafts, List.forall_mem_cons]
  refine ⟨?_, ?_, ?_, by simp⟩
  all_goals exact ⟨by decide, by decide, by decide, by decide, by decide⟩

end Sample

theorem load_after_writes_drafts :
    (∀ r ∈ Sample.drafts, Storable "out" r) ∧
    let written := (Sample.drafts.mapM (writer disk "out")).run Sample.shelf
    let kept := ((Sample.drafts.mapM keepReport).run []).2
    (∀ result ∈ written.1, result = .ok ()) ∧
      ∃ loaded, (load disk "out").run written.2 = (.ok loaded, written.2) ∧
        loaded.Pairwise (fun a b =>
          Text.encode (a.name ++ ".json") < Text.encode (b.name ++ ".json")) ∧
        ∀ r, r ∈ loaded ↔ Report.latest? kept r.name = some r :=
  ⟨Sample.storable_drafts, load_after_writes Sample.shelf "out" ["out"] Sample.drafts
    Sample.locate_shelf Sample.find?_shelf Sample.storable_drafts⟩

end DataTrail.Archive
