import Mathlib.Data.List.Count
import Mathlib.Data.List.Nodup
import DataTrail.Proofs.Forms

/-! Which values stand for the JSON form of a source unit. The fields of a record may come in any
order, a field may be missing if it holds what is assumed in its absence, and there may be others
that the record does not know. A field that the record does know must not be given twice. All of
this holds for the records inside a record as well. -/

namespace DataTrail

namespace Json

/-- How values of one kind are laid out: which values stand for a form of this kind, and which
values give a known field twice, in themselves or in a part. -/
structure Layout where
  Varies : Json → Json → Prop
  Repeats : Json → Prop

/-- A field of a record. A field without a value to assume in its absence has to be there. -/
structure Slot where
  name : String
  absent : Option Json
  layout : Layout

/-- Some fields of a record, each with a value that stands for the given one. Only fields that hold
what is assumed in their absence are left out. -/
inductive Kept : List Slot → Fields → Fields → Prop
  | nil : Kept [] [] []
  | keep {slot : Slot} {v v' : Json} {slots : List Slot} {given kept : Fields} :
    slot.layout.Varies v v' → Kept slots given kept →
      Kept (slot :: slots) ((slot.name, v) :: given) ((slot.name, v') :: kept)
  | drop {slot : Slot} {v : Json} {slots : List Slot} {given kept : Fields} :
    slot.absent = some v → Kept slots given kept →
      Kept (slot :: slots) ((slot.name, v) :: given) kept

namespace Layout

/-- A value without records in it. Only the value itself stands for it. -/
def plain : Layout where
  Varies j j' := j' = j
  Repeats _ := False

/-- An array of items with the same layout. -/
def list (item : Layout) : Layout where
  Varies j j' := ∃ items items', j = .array items ∧ j' = .array items' ∧
    List.Forall₂ item.Varies items items'
  Repeats j := ∃ items, j = .array items ∧ ∃ v ∈ items, item.Repeats v

/-- An object with the given fields, and with any others. -/
def record (slots : List Slot) : Layout where
  Varies j j' := ∃ given kept extra members : Fields,
    j = .fields given ∧ j' = .fields members ∧ Kept slots given kept ∧
      (∀ f ∈ extra, f.1 ∉ slots.map Slot.name) ∧ members.Perm (kept ++ extra)
  Repeats j := ∃ members, j = .object members ∧
    ((∃ slot ∈ slots, 1 < (members.map (·.1)).count (some slot.name)) ∨
      ∃ slot ∈ slots, ∃ v, (some slot.name, v) ∈ members ∧ slot.layout.Repeats v)

end Layout

/-- What a record says about a field that a form gives as `v`. -/
def Slot.Gives (slot : Slot) (v : Json) : Option Json → Prop
  | some v' => slot.layout.Varies v v'
  | none => slot.absent = some v

section Lookup

theorem lookup_eq_some_iff_mem {fs : Fields} (distinct : (fs.map (·.1)).Nodup) {name : String}
    {v : Json} : fs.lookup name = some v ↔ (name, v) ∈ fs := by
  induction fs with
  | nil => simp
  | cons f rest ih =>
    obtain ⟨key, value⟩ := f
    obtain ⟨fresh, others⟩ := List.nodup_cons.mp distinct
    rw [List.lookup_cons, List.mem_cons, ← ih others]
    by_cases same : name = key
    · subst same
      have missing : rest.lookup name ≠ some v := by
        rw [Ne, ih others]
        exact fun mem => fresh (List.mem_map.mpr ⟨_, mem, rfl⟩)
      simp [missing, eq_comm]
    · simp [same, beq_false_of_ne same]

theorem lookup_perm {fs gs : Fields} (perm : fs.Perm gs) (distinct : (gs.map (·.1)).Nodup)
    (name : String) : fs.lookup name = gs.lookup name := by
  have distinct' : (fs.map (·.1)).Nodup := (perm.map _).nodup_iff.mpr distinct
  ext v
  rw [lookup_eq_some_iff_mem distinct', lookup_eq_some_iff_mem distinct, perm.mem_iff]

end Lookup

section Kept

variable {slots : List Slot} {given kept : Fields}

theorem Kept.sublist (keeps : Kept slots given kept) :
    (kept.map (·.1)).Sublist (slots.map Slot.name) := by
  induction keeps with
  | nil => exact .slnil
  | keep _ _ ih => exact ih.cons_cons _
  | drop _ _ ih => exact ih.cons _

/-- What a list of fields says about the fields of a form if it says the same as the kept ones. -/
theorem Kept.gives (keeps : Kept slots given kept) (distinct : (slots.map Slot.name).Nodup)
    {fs : Fields} (same : ∀ name ∈ slots.map Slot.name, fs.lookup name = kept.lookup name) :
    List.Forall₂ (fun slot f => slot.Gives f.2 (fs.lookup slot.name)) slots given := by
  induction keeps with
  | nil => exact .nil
  | @keep slot v v' slots given kept varies keeps ih =>
    obtain ⟨fresh, distinct⟩ := List.nodup_cons.mp distinct
    obtain ⟨here, others⟩ := List.forall_mem_cons.mp same
    refine .cons ?_ (ih distinct fun name mem => ?_)
    · rw [here, List.lookup_cons_self]
      exact varies
    · have ne : name ≠ slot.name := fun eq => fresh (eq ▸ mem)
      rw [others name mem, List.lookup_cons, beq_false_of_ne ne]
  | @drop slot v slots given kept absent keeps ih =>
    obtain ⟨fresh, distinct⟩ := List.nodup_cons.mp distinct
    obtain ⟨here, others⟩ := List.forall_mem_cons.mp same
    refine .cons ?_ (ih distinct others)
    have missing : kept.lookup slot.name = none := by
      rw [List.lookup_eq_none_iff]
      intro f mem
      exact bne_iff_ne.mpr fun eq => fresh (keeps.sublist.subset (eq ▸ List.mem_map_of_mem mem))
    rw [here, missing]
    exact absent

end Kept

section Members

theorem exists_fields_of_fields? {names : List String} {members : List (Literal × Json)}
    {known : Fields} (read : (object members).fields? names = some known) :
    ∃ fs : Fields, members = fs.map fun f => ((some f.1 : Literal), f.2) := by
  obtain ⟨fs, keyed, _⟩ := Option.bind_eq_some_iff.mp read
  refine ⟨fs, ?_⟩
  rw [← List.forall₂_eq_eq_eq, List.forall₂_map_right_iff]
  refine (mapM_eq_some_iff.mp keyed).imp ?_
  rintro ⟨key, value⟩ f named
  obtain ⟨name, rfl, rfl⟩ := Option.map_eq_some_iff.mp named
  rfl

theorem fields_injective {fs gs : Fields} (same : fields fs = fields gs) : fs = gs := by
  have keyed : Function.Injective fun f : String × Json => ((some f.1 : Literal), f.2) := by
    rintro ⟨k, v⟩ ⟨k', v'⟩ eq
    simpa using eq
  exact keyed.list_map (object.inj same)

/-- The known fields of a variant say the same as the kept fields of the form. -/
theorem fields?_perm {slots : List Slot} {given kept extra members : Fields}
    (keeps : Kept slots given kept) (distinct : (slots.map Slot.name).Nodup)
    (unknown : ∀ f ∈ extra, f.1 ∉ slots.map Slot.name) (perm : members.Perm (kept ++ extra)) :
    ∃ known, (fields members).fields? (slots.map Slot.name) = some known ∧
      ∀ name, known.lookup name = kept.lookup name := by
  have known : (members.filter ((slots.map Slot.name).contains ·.1)).Perm kept := by
    have kept_known : kept.filter ((slots.map Slot.name).contains ·.1) = kept := by
      apply List.filter_eq_self.mpr
      intro f mem
      simpa using keeps.sublist.subset (List.mem_map_of_mem mem)
    have none_known : extra.filter ((slots.map Slot.name).contains ·.1) = [] := by
      apply List.filter_eq_nil_iff.mpr
      intro f mem
      simpa using unknown f mem
    have filtered := perm.filter ((slots.map Slot.name).contains ·.1)
    rwa [List.filter_append, kept_known, none_known, List.append_nil] at filtered
  have distinct : (kept.map (·.1)).Nodup := keeps.sublist.nodup distinct
  refine ⟨_, ?_, lookup_perm known distinct⟩
  rw [fields?_eq_ite, if_pos ((known.map _).nodup_iff.mpr distinct)]

/-- In a record that can be read, a known field is given once, and what it holds is what is read. -/
theorem once_of_fields? {names : List String} {members : List (Literal × Json)} {known : Fields}
    (read : (object members).fields? names = some known) {name : String} (mem : name ∈ names) :
    (members.map (·.1)).count (some name) ≤ 1 ∧
      ∀ v, (some name, v) ∈ members → known.lookup name = some v := by
  obtain ⟨fs, rfl⟩ := exists_fields_of_fields? read
  have ⟨distinct, eq⟩ : ((fs.filter (names.contains ·.1)).map (·.1)).Nodup ∧
      fs.filter (names.contains ·.1) = known := by
    have read := (fields?_eq_ite names fs).symm.trans read
    split at read
    · exact ⟨‹_›, Option.some.inj read⟩
    · cases read
  subst eq
  constructor
  · have keys : (fs.map fun f => ((some f.1 : Literal), f.2)).map (·.1) =
        (fs.map (·.1)).map some := by
      simp
    have known : (fs.filter (names.contains ·.1)).map (·.1) =
        (fs.map (·.1)).filter names.contains := by
      rw [List.filter_map]
      rfl
    calc
      _ = (fs.map (·.1)).count name := by
        rw [keys, List.count_map_of_injective _ _ fun _ _ => Option.some.inj]
      _ = ((fs.map (·.1)).filter names.contains).count name :=
        (List.count_filter (List.contains_iff_mem.mpr mem)).symm
      _ ≤ 1 := List.nodup_iff_count_le_one.mp (known ▸ distinct) name
  · intro v given
    obtain ⟨⟨key, value⟩, listed, eq⟩ := List.mem_map.mp given
    simp only [Prod.mk.injEq, Option.some.injEq] at eq
    obtain ⟨rfl, rfl⟩ := eq
    rw [lookup_eq_some_iff_mem distinct]
    exact List.mem_filter.mpr ⟨listed, List.contains_iff_mem.mpr mem⟩

end Members

section Readers

variable {α : Type} {form : α → Json} {depth : Nat} {read : Nat → Json → Option α}

/-- A reader follows a layout: where there is room, it reads all that stands for a form as the value
of that form, and it reads nothing that gives a known field twice. -/
structure Follows (layout : Layout) (form : α → Json) (depth : Nat)
    (read : Nat → Json → Option α) : Prop where
  tolerant {room : Nat} {a : α} {j : Json} :
    depth ≤ room → layout.Varies (form a) j → read room j = some a
  strict {room : Nat} {a : α} {j : Json} : read room j = some a → ¬ layout.Repeats j

theorem follows_plain {f : Json → Option α} (reads : ∀ a, f (form a) = some a) :
    Follows .plain form 0 fun _ => f where
  tolerant := by
    rintro _ a _ _ rfl
    exact reads a
  strict _ := id

theorem follows_list {item : Layout} (follows : Follows item form depth read) :
    Follows (.list item) (fun as : List α => .array (as.map form)) (depth + 1) (list? read) where
  tolerant := by
    rintro (_ | room) as _ fits ⟨_, items, eq, rfl, each⟩
    · omega
    · obtain rfl := array.inj eq
      rw [List.forall₂_map_left_iff] at each
      show items.mapM (read room) = some as
      rw [mapM_eq_some_iff]
      exact each.flip.imp fun j a varies => follows.tolerant (by omega) varies
  strict := by
    rintro (_ | room) as _ taken ⟨items, rfl, v, mem, repeats⟩
    · cases taken
    · have each := mapM_eq_some_iff.mp taken
      have none : ∀ v ∈ items, ¬ item.Repeats v := by
        clear taken mem
        induction each with
        | nil => simp
        | cons read _ ih => exact List.forall_mem_cons.mpr ⟨follows.strict read, ih⟩
      exact none v mem repeats

theorem follows_record {slots : List Slot} {names : List String} {values : α → Fields}
    {inner : Nat → Fields → Option α} (keys : slots.map Slot.name = names) (distinct : names.Nodup)
    (tolerant : ∀ room a fs, depth ≤ room →
      List.Forall₂ (fun slot f => slot.Gives f.2 (fs.lookup slot.name)) slots (values a) →
        inner room fs = some a)
    (strict : ∀ room a fs, inner room fs = some a →
      ∀ slot ∈ slots, ∀ v, fs.lookup slot.name = some v → ¬ slot.layout.Repeats v) :
    Follows (.record slots) (fun a => .fields (values a)) (depth + 1) (record? names inner) where
  tolerant := by
    rintro (_ | room) a _ fits ⟨_, kept, extra, members, eq, rfl, keeps, unknown, perm⟩
    · omega
    · obtain rfl := fields_injective eq
      subst keys
      obtain ⟨known, read, same⟩ := fields?_perm keeps distinct unknown perm
      rw [record?, read, Option.bind_some]
      exact tolerant room a known (by omega) (keeps.gives distinct fun name _ => same name)
  strict := by
    rintro (_ | room) a _ taken ⟨members, rfl, repeats⟩
    · cases taken
    · subst keys
      obtain ⟨known, read, taken⟩ := Option.bind_eq_some_iff.mp taken
      obtain ⟨slot, mem, twice⟩ | ⟨slot, mem, v, given, repeats⟩ := repeats
      · have once := (once_of_fields? read (List.mem_map_of_mem mem)).1
        omega
      · have lookup := (once_of_fields? read (List.mem_map_of_mem mem)).2 v given
        exact strict room a known taken slot mem v lookup repeats

variable {layout : Layout} {room : Nat} {fs : Fields} {name : String}

theorem Follows.required_eq (follows : Follows layout form depth read) (fits : depth ≤ room) {a : α}
    (gives : Slot.Gives { name, absent := none, layout } (form a) (fs.lookup name)) :
    fs.required name (read room) = some a := by
  rw [Fields.required]
  cases given : fs.lookup name with
  | none =>
    rw [given] at gives
    cases gives
  | some v =>
    rw [given] at gives
    exact follows.tolerant fits gives

theorem Follows.optional_eq (follows : Follows layout form depth read) (fits : depth ≤ room) {a : α}
    {assumed : Json}
    (gives : Slot.Gives { name, absent := assumed, layout } (form a) (fs.lookup name)) (absent : α)
    (eq_absent : assumed = form a → a = absent) :
    fs.optional name (read room) absent = some a := by
  rw [Fields.optional]
  cases given : fs.lookup name with
  | none =>
    rw [given] at gives
    rw [eq_absent (Option.some.inj gives)]
  | some v =>
    rw [given] at gives
    exact follows.tolerant fits gives

theorem Follows.strict_required (follows : Follows layout form depth read) {a : α}
    (taken : fs.required name (read room) = some a) (v : Json) (given : fs.lookup name = some v) :
    ¬ layout.Repeats v := by
  rw [Fields.required, given] at taken
  exact follows.strict taken

theorem Follows.strict_optional (follows : Follows layout form depth read) {a absent : α}
    (taken : fs.optional name (read room) absent = some a) (v : Json)
    (given : fs.lookup name = some v) : ¬ layout.Repeats v := by
  rw [Fields.optional, given] at taken
  exact follows.strict taken

theorem eq_of_same_form {f : Json → Option α} (reads : ∀ a, f (form a) = some a) {a b : α}
    (same : form b = form a) : a = b := by
  have read := congrArg f same
  rw [reads, reads] at read
  exact (Option.some.inj read).symm

theorem eq_nil_of_same_form {as : List α} (same : array [] = array (as.map form)) : as = [] := by
  simpa using same

theorem follows_text : Follows .plain text 0 fun _ => text? := follows_plain text?_text

theorem follows_bool : Follows .plain bool 0 fun _ => bool? := follows_plain bool?_bool

theorem follows_textOrNull : Follows .plain textOrNull 0 fun _ => orNull? text? :=
  follows_plain orNull?_textOrNull

theorem follows_texts : Follows (.list .plain) texts 1 texts? := follows_list follows_text

end Readers

end Json

open Json

section Layouts

def MethodId.slots : List Slot :=
  [{ name := "owner", absent := none, layout := .plain },
   { name := "method", absent := none, layout := .plain },
   { name := "params", absent := some (.array []), layout := .list .plain }]

def Disclosure.slots : List Slot :=
  [{ name := "recipientId", absent := some (.text ""), layout := .plain },
   { name := "policyURL", absent := some (.text ""), layout := .plain }]

def Facts.slots : List Slot :=
  [{ name := "identity", absent := none, layout := .record MethodId.slots },
   { name := "callees", absent := some (.array []), layout := .list (.record MethodId.slots) },
   { name := "categories", absent := some (.array []), layout := .list .plain },
   { name := "transfers", absent := some (.array []), layout := .list (.record Disclosure.slots) },
   { name := "entryPoint", absent := some (.bool false), layout := .plain },
   { name := "implements", absent := some (.array []), layout := .list (.record MethodId.slots) },
   { name := "isAbstract", absent := some (.bool false), layout := .plain },
   { name := "error", absent := some .null, layout := .plain }]

def SourceUnit.slots : List Slot :=
  [{ name := "name", absent := none, layout := .plain },
   { name := "methods", absent := some (.array []), layout := .list (.record Facts.slots) }]

end Layouts

theorem MethodId.follows : Follows (.record slots) toJson 2 ofJson? := by
  refine follows_record rfl (by decide) ?_ ?_
  · intro room m fs fits gives
    simp only [slots, List.forall₂_cons] at gives
    obtain ⟨owner, name, params, _⟩ := gives
    have owner := follows_text.required_eq room.zero_le owner
    have name := follows_text.required_eq room.zero_le name
    have params := follows_texts.optional_eq fits params [] eq_nil_of_same_form
    simp only [owner, name, params]
    rfl
  · intro room m fs taken
    simp only [Option.bind_eq_bind, Option.bind_eq_some_iff] at taken
    obtain ⟨_, _, _, _, _, params, _⟩ := taken
    simp only [slots, List.forall_mem_cons]
    exact ⟨fun _ _ => id, fun _ _ => id, follows_texts.strict_optional params,
      List.forall_mem_nil _⟩

theorem Disclosure.follows : Follows (.record slots) toJson 1 ofJson? := by
  refine follows_record rfl (by decide) ?_ ?_
  · intro room d fs _ gives
    simp only [slots, List.forall₂_cons] at gives
    obtain ⟨recipient, policy, _⟩ := gives
    have recipient :=
      follows_text.optional_eq room.zero_le recipient "" (eq_of_same_form text?_text)
    have policy := follows_text.optional_eq room.zero_le policy "" (eq_of_same_form text?_text)
    simp only [recipient, policy]
    rfl
  · intro room d fs _
    simp only [slots, List.forall_mem_cons]
    exact ⟨fun _ _ => id, fun _ _ => id, List.forall_mem_nil _⟩

theorem Facts.follows : Follows (.record slots) toJson 4 ofJson? := by
  have methods := follows_list MethodId.follows
  have disclosures := follows_list Disclosure.follows
  refine follows_record rfl (by decide) ?_ ?_
  · intro room f fs fits gives
    simp only [slots, List.forall₂_cons] at gives
    obtain ⟨method, callees, categories, transfers, entryPoint, implements, isAbstract, error, _⟩ :=
      gives
    have method := MethodId.follows.required_eq (by omega : 2 ≤ room) method
    have callees := methods.optional_eq fits callees [] eq_nil_of_same_form
    have categories :=
      follows_texts.optional_eq (by omega : 1 ≤ room) categories [] eq_nil_of_same_form
    have transfers := disclosures.optional_eq (by omega : 2 ≤ room) transfers [] eq_nil_of_same_form
    have entryPoint :=
      follows_bool.optional_eq room.zero_le entryPoint false (eq_of_same_form bool?_bool)
    have implements := methods.optional_eq fits implements [] eq_nil_of_same_form
    have isAbstract :=
      follows_bool.optional_eq room.zero_le isAbstract false (eq_of_same_form bool?_bool)
    have error := follows_textOrNull.optional_eq room.zero_le error none
      (eq_of_same_form (b := none) orNull?_textOrNull)
    simp only [method, callees, categories, transfers, entryPoint, implements, isAbstract, error]
    rfl
  · intro room f fs taken
    simp only [Option.bind_eq_bind, Option.bind_eq_some_iff] at taken
    obtain ⟨_, method, _, callees, _, categories, _, transfers, _, _, _, implements, _⟩ := taken
    simp only [slots, List.forall_mem_cons]
    exact ⟨MethodId.follows.strict_required method, methods.strict_optional callees,
      follows_texts.strict_optional categories, disclosures.strict_optional transfers,
      fun _ _ => id, methods.strict_optional implements, fun _ _ => id, fun _ _ => id,
      List.forall_mem_nil _⟩

theorem SourceUnit.follows : Follows (.record slots) toJson 6 ofJson? := by
  have facts := follows_list Facts.follows
  refine follows_record rfl (by decide) ?_ ?_
  · intro room u fs fits gives
    simp only [slots, List.forall₂_cons] at gives
    obtain ⟨name, methods, _⟩ := gives
    have name := follows_text.required_eq room.zero_le name
    have methods := facts.optional_eq fits methods [] eq_nil_of_same_form
    simp only [name, methods]
    rfl
  · intro room u fs taken
    simp only [Option.bind_eq_bind, Option.bind_eq_some_iff] at taken
    obtain ⟨_, _, _, methods, _⟩ := taken
    simp only [slots, List.forall_mem_cons]
    exact ⟨fun _ _ => id, facts.strict_optional methods, List.forall_mem_nil _⟩

/-- A text is read as a unit if it spells what stands for the form of that unit, and it is not read
at all if it spells a value in which a known field is given twice. -/
theorem SourceUnit.reads_variants (text : String) (j : Json) (spells : Json.parse? text = some j) :
    (∀ u : SourceUnit, (Layout.record slots).Varies u.toJson j → parse? text = some u) ∧
      ((Layout.record slots).Repeats j → parse? text = none) := by
  rw [parse?, spells, Option.bind_some]
  constructor
  · intro u varies
    exact follows.tolerant (by decide) varies
  · intro repeats
    rw [Option.eq_none_iff_forall_ne_some]
    intro u taken
    exact follows.strict taken repeats

namespace SourceUnit.Sample

def page : SourceUnit :=
  { name := "Page"
    methods := [{ method := { owner := "Page", name := "show" }
                  callees := [{ owner := "Store", name := "save", params := ["int"] }]
                  disclosures := [{ recipient := "ads", policy := "" }] }] }

/-- The page with its fields in reverse, without those that can be assumed, and with a field at
each level that is not known there. -/
def variant : Json :=
  .fields
    [("version", .fields [("name", .null)]),
     ("methods", .array [.fields
       [("name", .text "show"),
        ("name", .array []),
        ("transfers", .array [.fields [("owner", .bool true), ("recipientId", .text "ads")]]),
        ("callees", .array [.fields
          [("error", .string none), ("params", .texts ["int"]), ("method", .text "save"),
           ("owner", .text "Store")]]),
        ("identity", .fields
          [("methods", .null), ("method", .text "show"), ("owner", .text "Page")])]]),
     ("name", .text "Page")]

/-- A unit in which the identity of a method gives its owner twice. -/
def twice : Json :=
  .fields
    [("name", .text "Page"),
     ("methods", .array [.fields
       [("identity", .fields
         [("owner", .text "Page"), ("method", .text "show"), ("owner", .text "Page")])]])]

theorem numberless_variant : Numberless variant := by
  simp [variant, Numberless.null, Numberless.string]

theorem numberless_twice : Numberless twice := by
  simp [twice]

theorem varies_variant : (Layout.record slots).Varies page.toJson variant := by
  have identity : (Layout.record MethodId.slots).Varies
      ({ owner := "Page", name := "show" } : MethodId).toJson
      (.fields [("methods", .null), ("method", .text "show"), ("owner", .text "Page")]) :=
    ⟨_, _, [("methods", .null)], _, rfl, rfl, .keep rfl (.keep rfl (.drop rfl .nil)), by decide,
      (List.reverse_perm _).symm⟩
  have callee : (Layout.record MethodId.slots).Varies
      ({ owner := "Store", name := "save", params := ["int"] } : MethodId).toJson
      (.fields [("error", .string none), ("params", .texts ["int"]), ("method", .text "save"),
        ("owner", .text "Store")]) :=
    ⟨_, _, [("error", .string none)], _, rfl, rfl,
      .keep rfl (.keep rfl (.keep ⟨_, _, rfl, rfl, .cons rfl .nil⟩ .nil)), by decide,
      (List.reverse_perm _).symm⟩
  have disclosure : (Layout.record Disclosure.slots).Varies
      ({ recipient := "ads", policy := "" } : Disclosure).toJson
      (.fields [("owner", .bool true), ("recipientId", .text "ads")]) :=
    ⟨_, _, [("owner", .bool true)], _, rfl, rfl, .keep rfl (.drop rfl .nil), by decide,
      (List.reverse_perm _).symm⟩
  refine ⟨_, _, [("version", .fields [("name", .null)])], _, rfl, rfl,
    .keep rfl (.keep ⟨_, _, rfl, rfl, .cons ?_ .nil⟩ .nil), by decide, (List.reverse_perm _).symm⟩
  exact ⟨_, _, [("name", .array []), ("name", .text "show")], _, rfl, rfl,
    .keep identity (.keep ⟨_, _, rfl, rfl, .cons callee .nil⟩ (.drop rfl
      (.keep ⟨_, _, rfl, rfl, .cons disclosure .nil⟩ (.drop rfl (.drop rfl (.drop rfl
        (.drop rfl .nil))))))), by decide, (List.reverse_perm _).symm⟩

theorem repeats_twice : (Layout.record slots).Repeats twice := by
  refine ⟨_, rfl, .inr ⟨_, List.mem_cons_of_mem _ List.mem_cons_self, _,
    List.mem_cons_of_mem _ List.mem_cons_self, _, rfl, _, List.mem_cons_self, ?_⟩⟩
  refine ⟨_, rfl, .inr ⟨_, List.mem_cons_self, _, List.mem_cons_self, ?_⟩⟩
  exact ⟨_, rfl, .inl ⟨_, List.mem_cons_self, by decide⟩⟩

end SourceUnit.Sample

theorem SourceUnit.reads_variants_page :
    Json.parse? Sample.variant.compact = some Sample.variant ∧
      (Layout.record slots).Varies Sample.page.toJson Sample.variant ∧
      parse? Sample.variant.compact = some Sample.page ∧
      (Layout.record slots).Repeats Sample.twice ∧ parse? Sample.twice.compact = none := by
  have variant := Sample.numberless_variant.parse?_compact
  have twice := Sample.numberless_twice.parse?_compact
  refine ⟨variant, Sample.varies_variant, ?_, Sample.repeats_twice, ?_⟩
  · exact (reads_variants _ _ variant).1 Sample.page Sample.varies_variant
  · exact (reads_variants _ _ twice).2 Sample.repeats_twice

end DataTrail
