import Mathlib.Data.Nat.Digits.Defs
import DataTrail.Proofs.Collections
import DataTrail.Proofs.FileTree
import DataTrail.Settings.Layers

/-! Settings from several layers. Each value is that of the first layer that has one: the command
line, the environment, the settings file, the defaults. A file that is no text or no settings file
makes loading fail, and what is invalid fails only if it is what is chosen in the end. -/

namespace DataTrail

namespace Text

/-- Characters that write a number below `2 ^ 64` in digits; a plus sign may stand in front. -/
structure Writes (cs digits : List Char) (n : Nat) : Prop where
  sign : cs = digits ∨ cs = '+' :: digits
  given : digits ≠ []
  each : ∀ c ∈ digits, c.isDigit
  value : Nat.ofDigits 10 (digits.reverse.map fun c => c.toNat - '0'.toNat) = n
  bound : n < 2 ^ 64

/-- A text that is a number, but for blanks around it. -/
def IsNumber (text : String) (n : Nat) : Prop :=
  ∃ before cs digits after, text.toList = before ++ cs ++ after ∧ (∀ c ∈ before, isBlank c) ∧
    (∀ c ∈ after, isBlank c) ∧ Writes cs digits n

theorem foldl_digits (cs : List Char) :
    cs.foldl (fun n c => 10 * n + (c.toNat - '0'.toNat)) 0 =
      Nat.ofDigits 10 (cs.reverse.map fun c => c.toNat - '0'.toNat) := by
  induction cs using List.reverseRecOn with
  | nil => rfl
  | append_singleton cs c ih =>
    rw [List.foldl_append, ih, List.reverse_append]
    simp [Nat.ofDigits_cons, Nat.add_comm]

theorem word?_eq_some_iff {cs : List Char} {n : Nat} :
    word? cs = some n ↔ cs ≠ [] ∧ (∀ c ∈ cs, c.isDigit) ∧
      Nat.ofDigits 10 (cs.reverse.map fun c => c.toNat - '0'.toNat) = n ∧ n < 2 ^ 64 := by
  have bound : wordBound = 2 ^ 64 := by decide
  rw [word?, Option.filter_eq_some_iff, decimal?, foldl_digits, bound]
  split <;> simp_all

theorem signedWord?_eq_some_iff {cs : List Char} {n : Nat} :
    signedWord? cs = some n ↔ ∃ digits, Writes cs digits n := by
  have unsigned (digits : List Char) : word? digits = some n ↔ Writes digits digits n := by
    rw [word?_eq_some_iff]
    constructor
    · rintro ⟨given, each, value, bound⟩
      exact ⟨.inl rfl, given, each, value, bound⟩
    · rintro ⟨_, given, each, value, bound⟩
      exact ⟨given, each, value, bound⟩
  rw [signedWord?.eq_def]
  split
  · next rest =>
    rw [unsigned]
    constructor
    · rintro ⟨_, given, each, value, bound⟩
      exact ⟨rest, .inr rfl, given, each, value, bound⟩
    · rintro ⟨digits, sign | sign, given, each, value, bound⟩
      · -- A plus sign is no digit, so it is not the first of them.
        have plus := each '+' (sign ▸ List.mem_cons_self)
        exact absurd plus (by decide)
      · obtain rfl : rest = digits := (List.cons.inj sign).2
        exact ⟨.inl rfl, given, each, value, bound⟩
  · next plain =>
    rw [unsigned]
    constructor
    · intro writes
      exact ⟨cs, writes⟩
    · rintro ⟨digits, rfl | sign, given, each, value, bound⟩
      · exact ⟨.inl rfl, given, each, value, bound⟩
      · exact absurd sign (plain digits)

theorem not_isBlank_of_isDigit {c : Char} (digit : c.isDigit) : isBlank c = false := by
  have range : 48 ≤ c.toNat ∧ c.toNat ≤ 57 := by
    simpa [Char.isDigit, UInt32.le_iff_toNat_le] using digit
  simp only [isBlank, Bool.or_eq_false_iff, Bool.and_eq_false_iff, decide_eq_false_iff_not]
  omega

/-- The characters of a number are not blank. -/
theorem Writes.not_isBlank {cs digits : List Char} {n : Nat} (h : Writes cs digits n) :
    ∀ c ∈ cs, isBlank c = false := by
  intro c mem
  rcases h.sign with rfl | rfl
  · exact not_isBlank_of_isDigit (h.each c mem)
  · rcases List.mem_cons.mp mem with rfl | mem
    · decide
    · exact not_isBlank_of_isDigit (h.each c mem)

theorem exists_trim (cs : List Char) :
    ∃ before after, cs = before ++ trim cs ++ after ∧ (∀ c ∈ before, isBlank c) ∧
      ∀ c ∈ after, isBlank c := by
  refine ⟨cs.takeWhile isBlank, ((trimStart cs).reverse.takeWhile isBlank).reverse, ?_,
    fun c => List.mem_takeWhile_imp, fun c mem => ?_⟩
  · have ending : trim cs ++ ((trimStart cs).reverse.takeWhile isBlank).reverse =
        trimStart cs := by
      rw [trim, trimEnd, ← List.reverse_append, List.takeWhile_append_dropWhile,
        List.reverse_reverse]
    rw [List.append_assoc, ending, trimStart, List.takeWhile_append_dropWhile]
  · exact List.mem_takeWhile_imp (List.mem_reverse.mp mem)

theorem dropWhile_of_visible {cs : List Char} (visible : ∀ c ∈ cs, isBlank c = false)
    (given : cs ≠ []) (rest : List Char) : (cs ++ rest).dropWhile isBlank = cs ++ rest := by
  obtain ⟨c, cs, rfl⟩ := List.exists_cons_of_ne_nil given
  simp [visible c List.mem_cons_self]

theorem trim_of_visible {before cs after : List Char} (blank : ∀ c ∈ before, isBlank c)
    (blank' : ∀ c ∈ after, isBlank c) (visible : ∀ c ∈ cs, isBlank c = false) (given : cs ≠ []) :
    trim (before ++ cs ++ after) = cs := by
  have start : trimStart (before ++ cs ++ after) = cs ++ after := by
    rw [trimStart, List.append_assoc, List.dropWhile_append_of_pos blank,
      dropWhile_of_visible visible given]
  have visible' : ∀ c ∈ cs.reverse, isBlank c = false := by simpa using visible
  have reversed : cs.reverse.dropWhile isBlank = cs.reverse := by
    simpa using dropWhile_of_visible visible' (by simpa using given) []
  rw [trim, start, trimEnd, List.reverse_append,
    List.dropWhile_append_of_pos (by simpa using blank'), reversed, List.reverse_reverse]

theorem signedWord?_trim {text : String} {n : Nat} :
    signedWord? (trim text.toList) = some n ↔ IsNumber text n := by
  rw [signedWord?_eq_some_iff]
  constructor
  · rintro ⟨digits, writes⟩
    obtain ⟨before, after, parts, blank, blank'⟩ := exists_trim text.toList
    exact ⟨before, _, digits, after, parts, blank, blank', writes⟩
  · rintro ⟨before, cs, digits, after, parts, blank, blank', writes⟩
    have given : cs ≠ [] := by
      rcases writes.sign with rfl | rfl
      · exact writes.given
      · exact List.cons_ne_nil _ _
    rw [parts, trim_of_visible blank blank' writes.not_isBlank given]
    exact ⟨digits, writes⟩

end Text

namespace Settings

section Choice

/-- The settings whose values are each that of the first layer that has one, or else the default. -/
def ofLayers (layers : List Layer) : Settings where
  outputDir := (layers.findSome? (·.outputDir)).getD "pdtree"
  namespaceDepth := (layers.findSome? (·.namespaceDepth)).getD 4
  skipUnitSuffixes := (layers.findSome? (·.skipUnitSuffixes)).getD ["Test"]
  emitPartialOnFinish := (layers.findSome? (·.emitPartialOnFinish)).getD false

/-- Two layers differ only in values that a layer above them has. -/
structure DifferBelow (above : List Layer) (l l' : Layer) : Prop where
  outputDir : l.outputDir = l'.outputDir ∨ ∃ u ∈ above, u.outputDir.isSome
  namespaceDepth : l.namespaceDepth = l'.namespaceDepth ∨ ∃ u ∈ above, u.namespaceDepth.isSome
  skipUnitSuffixes : l.skipUnitSuffixes = l'.skipUnitSuffixes ∨
    ∃ u ∈ above, u.skipUnitSuffixes.isSome
  emitPartialOnFinish : l.emitPartialOnFinish = l'.emitPartialOnFinish ∨
    ∃ u ∈ above, u.emitPartialOnFinish.isSome

theorem getD_findSome?_cons {α : Type} (f : Layer → Option α) (l : Layer) (layers : List Layer)
    (default : α) :
    (f l).getD ((layers.findSome? f).getD default) =
      ((l :: layers).findSome? f).getD default := by
  rw [List.findSome?_cons]
  cases f l <;> rfl

/-- Applying a layer puts it in front of those that were applied before. -/
theorem apply_ofLayers (layers : List Layer) (l : Layer) :
    (ofLayers layers).apply l = ofLayers (l :: layers) := by
  simp only [apply, ofLayers, getD_findSome?_cons]

theorem findSome?_below {α : Type} {f : Layer → Option α} {above : List Layer} {l l' : Layer}
    (differ : f l = f l' ∨ ∃ u ∈ above, (f u).isSome) (below : List Layer) :
    (above ++ l :: below).findSome? f = (above ++ l' :: below).findSome? f := by
  rw [List.findSome?_append, List.findSome?_append]
  rcases differ with same | above
  · rw [List.findSome?_cons, List.findSome?_cons, same]
  · obtain ⟨value, found⟩ := Option.isSome_iff_exists.mp (List.findSome?_isSome_iff.mpr above)
    rw [found, Option.some_or, Option.some_or]

/-- What a layer above has hides the values below. -/
theorem DifferBelow.ofLayers_eq {above : List Layer} {l l' : Layer} (h : DifferBelow above l l')
    (below : List Layer) : ofLayers (above ++ l :: below) = ofLayers (above ++ l' :: below) := by
  simp only [ofLayers, findSome?_below h.outputDir, findSome?_below h.namespaceDepth,
    findSome?_below h.skipUnitSuffixes, findSome?_below h.emitPartialOnFinish]

theorem checked_eq_ok_iff {s s' : Settings} :
    checked s = .ok s' ↔ s' = s ∧ s.namespaceDepth ≠ 0 ∧ s.outputDir ≠ "" := by
  unfold checked validate
  by_cases depth : s.namespaceDepth = 0
  · simp [depth]
  · by_cases dir : s.outputDir = ""
    · simp [depth, dir]
    · simp [depth, dir, eq_comm]

theorem exists_checked_eq_error_iff {s : Settings} :
    (∃ e, checked s = .error e) ↔ s.namespaceDepth = 0 ∨ s.outputDir = "" := by
  unfold checked validate
  by_cases depth : s.namespaceDepth = 0
  · simp [depth]
  · by_cases dir : s.outputDir = ""
    · simp [depth, dir]
    · simp [depth, dir]

end Choice

section Environment

/-- What the environment says, as a layer: the directory unless it is empty, and the depth if it is
a number. -/
structure Layer.StatedBy (env : Environment) (l : Layer) : Prop where
  outputDir : ∀ dir, l.outputDir = some dir ↔ env "PDFLOW_OUTPUT_DIR" = some dir ∧ dir ≠ ""
  namespaceDepth : ∀ n, l.namespaceDepth = some n ↔
    ∃ text, env "PDFLOW_NAMESPACE_DEPTH" = some text ∧ Text.IsNumber text n
  skipUnitSuffixes : l.skipUnitSuffixes = none
  emitPartialOnFinish : l.emitPartialOnFinish = none

theorem Layer.statedBy_ofEnvironment (env : Environment) :
    (Layer.ofEnvironment env).StatedBy env where
  outputDir dir := by
    rw [ofEnvironment, Option.filter_eq_some_iff, decide_eq_true_eq]
  namespaceDepth n := by
    simp only [ofEnvironment, Option.bind_eq_some_iff, Text.signedWord?_trim]
  skipUnitSuffixes := rfl
  emitPartialOnFinish := rfl

/-- Nothing else is what the environment says. -/
theorem Layer.StatedBy.eq {env : Environment} {l : Layer} (h : l.StatedBy env) :
    l = .ofEnvironment env := by
  have stated := statedBy_ofEnvironment env
  have dir : l.outputDir = (ofEnvironment env).outputDir :=
    Option.ext fun a => (h.outputDir a).trans (stated.outputDir a).symm
  have depth : l.namespaceDepth = (ofEnvironment env).namespaceDepth :=
    Option.ext fun n => (h.namespaceDepth n).trans (stated.namespaceDepth n).symm
  have suffixes := h.skipUnitSuffixes.trans stated.skipUnitSuffixes.symm
  have emit := h.emitPartialOnFinish.trans stated.emitPartialOnFinish.symm
  cases l
  simp_all

end Environment

section File

/-- What the keys of a settings file say, as a layer: the keys that it has are of their types. -/
structure Layer.WrittenIn (entries : Toml.Entries) (l : Layer) : Prop where
  outputDir : entries.lookup "output_dir" = l.outputDir.map .string
  namespaceDepth : entries.lookup "namespace_depth" = l.namespaceDepth.map fun n => .integer n
  skipUnitSuffixes : entries.lookup "skip_unit_suffixes" =
    l.skipUnitSuffixes.map fun texts => .array (texts.map .string)
  emitPartialOnFinish : entries.lookup "emit_partial_on_finish" =
    l.emitPartialOnFinish.map .boolean

/-- A text is that of a settings file which says what the layer says. -/
def Layer.Spelled (text : String) (l : Layer) : Prop :=
  ∃ entries, Toml.parse? text = some entries ∧ l.WrittenIn entries

theorem fileKey?_eq_some_iff {α : Type} {read : Toml → Option α} {form : α → Toml}
    (reads : ∀ v a, read v = some a ↔ v = form a) {entries : Toml.Entries} {key : String}
    {found : Option α} :
    fileKey? entries key read = some found ↔ entries.lookup key = found.map form := by
  rw [fileKey?.eq_def]
  cases entries.lookup key with
  | none => cases found <;> simp
  | some value => cases found <;> simp [reads]

theorem fileText?_eq_some_iff (v : Toml) (text : String) :
    fileText? v = some text ↔ v = .string text := by
  cases v <;> simp [fileText?]

theorem fileNatural?_eq_some_iff (v : Toml) (n : Nat) :
    fileNatural? v = some n ↔ v = .integer n := by
  cases v <;> simp [fileNatural?, Int.mem_toNat?]

theorem fileBoolean?_eq_some_iff (v : Toml) (b : Bool) :
    fileBoolean? v = some b ↔ v = .boolean b := by
  cases v <;> simp [fileBoolean?]

theorem fileTexts?_eq_some_iff (v : Toml) (texts : List String) :
    fileTexts? v = some texts ↔ v = .array (texts.map .string) := by
  cases v with
  | array items =>
    simp only [fileTexts?, mapM_eq_some_iff, fileText?_eq_some_iff, Toml.array.injEq]
    rw [← List.forall₂_map_right_iff (R := Eq), List.forall₂_eq_eq_eq]
  | _ => simp [fileTexts?]

theorem Layer.ofFile?_eq_some_iff {text : String} {l : Layer} :
    Layer.ofFile? text = some l ↔ l.Spelled text := by
  simp only [ofFile?, Option.bind_eq_bind, Option.bind_eq_some_iff, Option.pure_def,
    Option.some.injEq, fileKey?_eq_some_iff fileText?_eq_some_iff,
    fileKey?_eq_some_iff fileNatural?_eq_some_iff, fileKey?_eq_some_iff fileTexts?_eq_some_iff,
    fileKey?_eq_some_iff fileBoolean?_eq_some_iff]
  constructor
  · rintro ⟨entries, parsed, dir, hdir, depth, hdepth, suffixes, hsuffixes, emit, hemit, rfl⟩
    exact ⟨entries, parsed, hdir, hdepth, hsuffixes, hemit⟩
  · rintro ⟨entries, parsed, hdir, hdepth, hsuffixes, hemit⟩
    exact ⟨entries, parsed, _, hdir, _, hdepth, _, hsuffixes, _, hemit, rfl⟩

/-- The settings file in use: the one that is asked for, or else that of the project if something
stands at its path. -/
inductive InUse (t : FileTree) (root : String) : Option String → String → Prop where
  | explicit (path : String) : InUse t root (some path) path
  | project {kind : Disk.Kind} (stands : t.kind (Path.join root projectFile) = .ok kind) :
      InUse t root none (Path.join root projectFile)

/-- What the settings file in use says. Where there is none it says nothing. -/
inductive FileSays (t : FileTree) (root : String) (explicit : Option String) : Layer → Prop where
  | file {path text : String} {l : Layer} (used : InUse t root explicit path)
      (stored : t.read path = .ok (Text.encode text)) (spelled : l.Spelled text) :
      FileSays t root explicit l
  | absent (unused : ∀ path, ¬InUse t root explicit path) : FileSays t root explicit {}

/-- All that can come of the settings file in use. -/
inductive FileGives (t : FileTree) (root : String) (explicit : Option String) :
    Except LoadError Layer → Prop where
  | layer {l : Layer} (told : FileSays t root explicit l) : FileGives t root explicit (.ok l)
  | unreadable {path : String} (used : InUse t root explicit path)
      (unread : ¬∃ text, t.read path = .ok (Text.encode text)) :
      FileGives t root explicit (.error (.fileNotFound path))
  | unparsable {path text : String} (used : InUse t root explicit path)
      (stored : t.read path = .ok (Text.encode text)) (unspelled : ¬∃ l : Layer, l.Spelled text) :
      FileGives t root explicit (.error (.unparsable path))

end File

section Load

open FileTree (run_bind run_readText)

variable {t : FileTree} {root path : String} {explicit : Option String}

theorem run_exists? (t : FileTree) (path : String) :
    ((FileTree.disk.exists? path).run t = (true, t) ∧ ∃ kind, t.kind path = .ok kind) ∨
      ((FileTree.disk.exists? path).run t = (false, t) ∧ ¬∃ kind, t.kind path = .ok kind) := by
  have asked : (FileTree.disk.kind path).run t = (t.kind path, t) := rfl
  rw [Disk.exists?, run_bind, asked]
  cases t.kind path with
  | ok kind => exact .inl ⟨rfl, kind, rfl⟩
  | error fault => exact .inr ⟨rfl, nofun⟩

theorem run_readText_of_unreadable (unread : ¬∃ text, t.read path = .ok (Text.encode text)) :
    ∃ fault, (FileTree.disk.readText path).run t = (.error fault, t) := by
  have asked : (FileTree.disk.read path).run t = (t.read path, t) := rfl
  rw [Disk.readText, run_bind, asked]
  cases stored : t.read path with
  | error fault => exact ⟨fault, rfl⟩
  | ok bytes =>
    cases decoded : Text.decode? bytes with
    | none =>
      refine ⟨.notText, ?_⟩
      simp only [decoded]
      rfl
    | some text =>
      rw [Text.decode?_eq_some_iff.mp decoded] at stored
      exact absurd ⟨text, stored⟩ unread

theorem run_readFile_of_unreadable (unread : ¬∃ text, t.read path = .ok (Text.encode text)) :
    (readFile FileTree.disk path).run t = (.error (.fileNotFound path), t) := by
  obtain ⟨fault, run⟩ := run_readText_of_unreadable unread
  rw [readFile, run_bind, run]
  rfl

theorem run_readFile_of_text {text : String} (stored : t.read path = .ok (Text.encode text)) :
    (readFile FileTree.disk path).run t =
      (((Layer.ofFile? text).map .ok).getD (.error (.unparsable path)), t) := by
  rw [readFile, run_bind, run_readText stored]
  cases parsed : Layer.ofFile? text with
  | none =>
    simp only [parsed]
    rfl
  | some l =>
    simp only [parsed]
    rfl

theorem run_fileLayer_of_used (used : InUse t root explicit path) :
    (fileLayer FileTree.disk root explicit).run t = (readFile FileTree.disk path).run t := by
  cases used with
  | explicit => rfl
  | project stands =>
    obtain ⟨run, _⟩ | ⟨_, missing⟩ := run_exists? t (Path.join root projectFile)
    · simp only [fileLayer, run_bind, run]
      rfl
    · exact absurd ⟨_, stands⟩ missing

theorem run_fileLayer_of_unused (unused : ∀ path, ¬InUse t root explicit path) :
    (fileLayer FileTree.disk root explicit).run t = (.ok {}, t) := by
  cases explicit with
  | some path => exact absurd (.explicit path) (unused path)
  | none =>
    obtain ⟨_, kind, stands⟩ | ⟨run, _⟩ := run_exists? t (Path.join root projectFile)
    · exact absurd (.project stands) (unused _)
    · simp only [fileLayer, run_bind, run]
      rfl

theorem run_fileLayer {result : Except LoadError Layer}
    (gives : FileGives t root explicit result) :
    (fileLayer FileTree.disk root explicit).run t = (result, t) := by
  cases gives with
  | layer told =>
    cases told with
    | file used stored spelled =>
      rw [run_fileLayer_of_used used, run_readFile_of_text stored,
        Layer.ofFile?_eq_some_iff.mpr spelled]
      rfl
    | absent unused => exact run_fileLayer_of_unused unused
  | unreadable used unread =>
    rw [run_fileLayer_of_used used, run_readFile_of_unreadable unread]
  | unparsable used stored unspelled =>
    have unparsed := Option.eq_none_iff_forall_ne_some.mpr fun l found =>
      unspelled ⟨l, Layer.ofFile?_eq_some_iff.mp found⟩
    rw [run_fileLayer_of_used used, run_readFile_of_text stored, unparsed]
    rfl

theorem exists_fileGives (t : FileTree) (root : String) (explicit : Option String) :
    ∃ result, FileGives t root explicit result := by
  by_cases used : ∃ path, InUse t root explicit path
  · obtain ⟨path, used⟩ := used
    by_cases read : ∃ text, t.read path = .ok (Text.encode text)
    · obtain ⟨text, stored⟩ := read
      by_cases spelled : ∃ l : Layer, l.Spelled text
      · obtain ⟨l, spelled⟩ := spelled
        exact ⟨_, .layer (.file used stored spelled)⟩
      · exact ⟨_, .unparsable used stored spelled⟩
    · exact ⟨_, .unreadable used read⟩
  · exact ⟨_, .layer (.absent (not_exists.mp used))⟩

theorem run_load {result : Except LoadError Layer} (gives : FileGives t root explicit result)
    (env : Environment) (command : Layer) :
    (load FileTree.disk root explicit env command).run t =
      (result >>= fun file => checked (ofLayers [command, .ofEnvironment env, file]), t) := by
  rw [load, run_bind, run_fileLayer gives]
  cases result with
  | error e => rfl
  | ok file =>
    rw [FileTree.ok_bind, ← apply_ofLayers, ← apply_ofLayers, ← apply_ofLayers]
    rfl

section Outcome

variable {env : Environment} {command : Layer}

theorem load_eq_ok_iff {s : Settings} :
    ((load FileTree.disk root explicit env command).run t).1 = .ok s ↔
      ∃ environment file, environment.StatedBy env ∧ FileSays t root explicit file ∧
        s = ofLayers [command, environment, file] ∧ s.namespaceDepth ≠ 0 ∧ s.outputDir ≠ "" := by
  constructor
  · intro ok
    obtain ⟨result, gives⟩ := exists_fileGives t root explicit
    rw [run_load gives, FileTree.bind_eq_ok] at ok
    obtain ⟨file, rfl, valid⟩ := ok
    obtain ⟨rfl, deep, named⟩ := checked_eq_ok_iff.mp valid
    cases gives with
    | layer told => exact ⟨_, file, Layer.statedBy_ofEnvironment env, told, rfl, deep, named⟩
  · rintro ⟨environment, file, stated, told, rfl, deep, named⟩
    obtain rfl := stated.eq
    rw [run_load (.layer told), FileTree.ok_bind]
    exact checked_eq_ok_iff.mpr ⟨rfl, deep, named⟩

theorem exists_load_eq_error_iff :
    (∃ e, ((load FileTree.disk root explicit env command).run t).1 = .error e) ↔
      (∃ path, InUse t root explicit path ∧ ¬∃ text, t.read path = .ok (Text.encode text)) ∨
      (∃ path text, InUse t root explicit path ∧ t.read path = .ok (Text.encode text) ∧
        ¬∃ l : Layer, l.Spelled text) ∨
      ∃ environment file, environment.StatedBy env ∧ FileSays t root explicit file ∧
        ((ofLayers [command, environment, file]).namespaceDepth = 0 ∨
          (ofLayers [command, environment, file]).outputDir = "") := by
  constructor
  · intro failed
    obtain ⟨result, gives⟩ := exists_fileGives t root explicit
    rw [run_load gives] at failed
    cases gives with
    | layer told =>
      exact .inr (.inr ⟨_, _, Layer.statedBy_ofEnvironment env, told,
        exists_checked_eq_error_iff.mp failed⟩)
    | unreadable used unread => exact .inl ⟨_, used, unread⟩
    | unparsable used stored unspelled => exact .inr (.inl ⟨_, _, used, stored, unspelled⟩)
  · rintro (⟨path, used, unread⟩ | ⟨path, text, used, stored, unspelled⟩ |
      ⟨environment, file, stated, told, invalid⟩)
    · rw [run_load (.unreadable used unread)]
      exact ⟨_, rfl⟩
    · rw [run_load (.unparsable used stored unspelled)]
      exact ⟨_, rfl⟩
    · obtain rfl := stated.eq
      rw [run_load (.layer told), FileTree.ok_bind]
      exact exists_checked_eq_error_iff.mpr invalid

/-- Where higher layers hide all differences, loading comes to the same. -/
theorem load_congr {t' : FileTree} {root' : String} {explicit' : Option String}
    {env' : Environment} {environment environment' file file' : Layer}
    (stated : environment.StatedBy env) (stated' : environment'.StatedBy env')
    (told : FileSays t root explicit file) (told' : FileSays t' root' explicit' file')
    (hidden : DifferBelow [command] environment environment')
    (hidden' : DifferBelow [command, environment] file file') :
    ((load FileTree.disk root' explicit' env' command).run t').1 =
      ((load FileTree.disk root explicit env command).run t).1 := by
  obtain rfl := stated.eq
  obtain rfl := stated'.eq
  -- The file changes first, below the old environment, and then the environment above it.
  have same : ofLayers [command, .ofEnvironment env, file] =
      ofLayers [command, .ofEnvironment env', file'] :=
    (hidden'.ofLayers_eq []).trans (hidden.ofLayers_eq [file'])
  rw [run_load (.layer told), run_load (.layer told'), FileTree.ok_bind, FileTree.ok_bind, same]

end Outcome

/-- Loading never changes a file. It succeeds with the settings whose values are each that of the
first layer that has one, provided that they are valid. It fails just when the file in use is no
text, or no settings file, or the depth or the directory that is chosen in the end is invalid.
Values that a higher layer hides make no difference. -/
theorem load_first_present (t : FileTree) (root : String) (explicit : Option String)
    (env : Environment) (dir : Option String) (depth : Option Nat) (emit : Option Bool) :
    let command : Layer :=
      { outputDir := dir, namespaceDepth := depth, emitPartialOnFinish := emit }
    let loaded := (load FileTree.disk root explicit env command).run t
    loaded.2 = t ∧
      (∀ s, loaded.1 = .ok s ↔ ∃ environment file, environment.StatedBy env ∧
        FileSays t root explicit file ∧ s = ofLayers [command, environment, file] ∧
        s.namespaceDepth ≠ 0 ∧ s.outputDir ≠ "") ∧
      ((∃ e, loaded.1 = .error e) ↔
        (∃ path, InUse t root explicit path ∧ ¬∃ text, t.read path = .ok (Text.encode text)) ∨
        (∃ path text, InUse t root explicit path ∧ t.read path = .ok (Text.encode text) ∧
          ¬∃ l : Layer, l.Spelled text) ∨
        ∃ environment file, environment.StatedBy env ∧ FileSays t root explicit file ∧
          ((ofLayers [command, environment, file]).namespaceDepth = 0 ∨
            (ofLayers [command, environment, file]).outputDir = "")) ∧
      ∀ t' root' explicit' env' environment environment' file file',
        environment.StatedBy env → environment'.StatedBy env' →
        FileSays t root explicit file → FileSays t' root' explicit' file' →
        DifferBelow [command] environment environment' →
        DifferBelow [command, environment] file file' →
        ((load FileTree.disk root' explicit' env' command).run t').1 = loaded.1 := by
  intro command loaded
  refine ⟨?_, fun s => load_eq_ok_iff, exists_load_eq_error_iff, ?_⟩
  · obtain ⟨result, gives⟩ := exists_fileGives t root explicit
    exact congrArg Prod.snd (run_load gives env command)
  · intro t' root' explicit' env' environment environment' file file' stated stated' told told'
      hidden hidden'
    exact load_congr stated stated' told told' hidden hidden'

namespace Sample

/-- A tree whose only file is the settings file of a project. -/
def project (text : String) : FileTree :=
  (FileTree.empty []).put [projectFile] (.file (Text.encode text))

/-- A file with two invalid values. -/
def hollow : FileTree :=
  project "namespace_depth = 0\noutput_dir = \"\"\nskip_unit_suffixes = [\"Spec\"]\n"

/-- A file with other values in their places. -/
def solid : FileTree := project "output_dir = \"old\"\nskip_unit_suffixes = [\"Spec\"]\n"

/-- An environment that sets the depth, with blanks around it. -/
def deep : Environment := fun key =>
  if key = "PDFLOW_NAMESPACE_DEPTH" then some " +3\n" else none

/-- An environment that also sets the directory. -/
def deepNamed : Environment := fun key =>
  if key = "PDFLOW_OUTPUT_DIR" then some "reports" else deep key

theorem fileSays_project {text : String} {l : Layer} (parsed : Layer.ofFile? text = some l) :
    FileSays (project text) "/" none l := by
  have stands : (project text).kind (Path.join "/" projectFile) = .ok .file := rfl
  have stored : (project text).read (Path.join "/" projectFile) = .ok (Text.encode text) := rfl
  exact .file (.project stands) stored (Layer.ofFile?_eq_some_iff.mp parsed)

end Sample

open Sample in
/-- The command line hides one invalid value of the file, and the environment the other. -/
theorem load_first_present_hollow :
    let command : Layer := { outputDir := some "out", emitPartialOnFinish := some true }
    let file : Layer :=
      { outputDir := some "", namespaceDepth := some 0, skipUnitSuffixes := some ["Spec"] }
    let file' : Layer := { outputDir := some "old", skipUnitSuffixes := some ["Spec"] }
    let chosen : Settings :=
      { outputDir := "out"
        namespaceDepth := 3
        skipUnitSuffixes := ["Spec"]
        emitPartialOnFinish := true }
    let loaded := (load FileTree.disk "/" none deep command).run hollow
    FileSays hollow "/" none file ∧ FileSays solid "/" none file' ∧
      Layer.StatedBy deep { namespaceDepth := some 3 } ∧
      loaded = (.ok chosen, hollow) ∧
      ((load FileTree.disk "/" none deepNamed command).run solid).1 = loaded.1 := by
  intro command file file' chosen loaded
  have told : FileSays hollow "/" none file := fileSays_project (by decide +kernel)
  have told' : FileSays solid "/" none file' := fileSays_project (by decide +kernel)
  have stated : Layer.StatedBy deep { namespaceDepth := some 3 } := by
    have evaluated : Layer.ofEnvironment deep = { namespaceDepth := some 3 } := by decide +kernel
    exact evaluated ▸ Layer.statedBy_ofEnvironment deep
  have stated' : Layer.StatedBy deepNamed
      { outputDir := some "reports", namespaceDepth := some 3 } := by
    have evaluated : Layer.ofEnvironment deepNamed =
        { outputDir := some "reports", namespaceDepth := some 3 } := by decide +kernel
    exact evaluated ▸ Layer.statedBy_ofEnvironment deepNamed
  obtain ⟨unchanged, succeeds, _, hides⟩ :=
    load_first_present hollow "/" none deep (some "out") none (some true)
  refine ⟨told, told', stated, Prod.ext ((succeeds _).mpr ?_) unchanged, ?_⟩
  · exact ⟨_, file, stated, told, rfl, by decide, by decide⟩
  · refine hides _ _ _ _ _ _ file file' stated stated' told told' ?_ ?_
    · constructor <;> decide
    · constructor <;> decide

end Load

end Settings

end DataTrail
