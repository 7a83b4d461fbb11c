import Mathlib.Data.List.Basic
import DataTrail.Proofs.Collections
import DataTrail.Proofs.JsonText
import DataTrail.Report.Form

/-! Reading the JSON forms of facts and reports. A form is read as the value it was made of wherever
there is room for how deep it nests. There is always room for a source unit, and there is room for a
report unless its purposes nest too deep. -/

namespace DataTrail

namespace Json

section Nesting

mutual

/-- How deep arrays and objects nest in a value. -/
def nesting : Json → Nat
  | .array items => nestingOfItems items + 1
  | .object members => nestingOfMembers members + 1
  | _ => 0

def nestingOfItems : List Json → Nat
  | [] => 0
  | v :: rest => max v.nesting (nestingOfItems rest)

def nestingOfMembers : List (Literal × Json) → Nat
  | [] => 0
  | (_, v) :: rest => max v.nesting (nestingOfMembers rest)

end

@[simp]
theorem nesting_text (t : String) : (text t).nesting = 0 := by simp [text, nesting]

@[simp]
theorem nesting_bool (b : Bool) : (bool b).nesting = 0 := by simp [nesting]

@[simp]
theorem nesting_textOrNull (t : Option String) : (textOrNull t).nesting = 0 := by
  cases t <;> simp [textOrNull, text, nesting]

theorem nestingOfItems_le {items : List Json} {room : Nat} :
    nestingOfItems items ≤ room ↔ ∀ v ∈ items, v.nesting ≤ room := by
  induction items with
  | nil => simp [nestingOfItems]
  | cons v rest ih => rw [nestingOfItems, Nat.max_le, ih, List.forall_mem_cons]

theorem nestingOfMembers_le {members : List (Literal × Json)} {room : Nat} :
    nestingOfMembers members ≤ room ↔ ∀ m ∈ members, m.2.nesting ≤ room := by
  induction members with
  | nil => simp [nestingOfMembers]
  | cons m rest ih => rw [nestingOfMembers, Nat.max_le, ih, List.forall_mem_cons]

@[simp]
theorem nesting_array_le {items : List Json} {room : Nat} :
    (array items).nesting ≤ room + 1 ↔ ∀ v ∈ items, v.nesting ≤ room := by
  rw [nesting, Nat.add_le_add_iff_right, nestingOfItems_le]

@[simp]
theorem nesting_fields_le {fs : List (String × Json)} {room : Nat} :
    (fields fs).nesting ≤ room + 1 ↔ ∀ f ∈ fs, f.2.nesting ≤ room := by
  rw [fields, nesting, Nat.add_le_add_iff_right, nestingOfMembers_le, List.forall_mem_map]

theorem room_of_array {items : List Json} {room : Nat} (fits : (array items).nesting ≤ room) :
    ∃ inner, room = inner + 1 := by
  refine Nat.exists_eq_succ_of_ne_zero fun none => ?_
  rw [nesting, none] at fits
  omega

theorem room_of_fields {fs : List (String × Json)} {room : Nat}
    (fits : (fields fs).nesting ≤ room) : ∃ inner, room = inner + 1 := by
  refine Nat.exists_eq_succ_of_ne_zero fun none => ?_
  rw [fields, nesting, none] at fits
  omega

end Nesting

section Forms

variable {α : Type} {read : Nat → Json → Option α}

/-- A value is read as `a` wherever there is room for it. -/
def ReadsAs (read : Nat → Json → Option α) (j : Json) (a : α) : Prop :=
  ∀ room, j.nesting ≤ room → read room j = some a

theorem mapM_map {f : Json → Option α} {form : α → Json} {as : List α}
    (each : ∀ a ∈ as, f (form a) = some a) : (as.map form).mapM f = some as := by
  rw [mapM_eq_some_iff, List.forall₂_map_left_iff, List.forall₂_same]
  exact each

theorem readsAs_list {form : α → Json} {as : List α} (each : ∀ a ∈ as, ReadsAs read (form a) a) :
    ReadsAs (list? read) (.array (as.map form)) as := by
  intro room fits
  obtain ⟨inner, rfl⟩ := room_of_array fits
  rw [nesting_array_le, List.forall_mem_map] at fits
  exact mapM_map fun a mem => each a mem inner (fits a mem)

theorem readsAs_texts (ts : List String) : ReadsAs texts? (.texts ts) ts :=
  readsAs_list fun _ _ _ _ => rfl

@[simp]
theorem text?_text (t : String) : (text t).text? = some t := rfl

@[simp]
theorem bool?_bool (b : Bool) : (bool b).bool? = some b := rfl

@[simp]
theorem orNull?_textOrNull (t : Option String) : orNull? text? (textOrNull t) = some t := by
  cases t <;> rfl

/-- The known fields of an object are read, unless one of them is given twice. -/
theorem fields?_eq_ite (names : List String) (fs : Fields) :
    (fields fs).fields? names =
      if ((fs.filter (names.contains ·.1)).map (·.1)).Nodup then
        some (fs.filter (names.contains ·.1))
      else none := by
  have keyed : (fs.map fun f => ((some f.1 : Literal), f.2)).mapM
      (fun m : Literal × Json => m.1.map (·, m.2)) = some fs := by
    rw [mapM_eq_some_iff, List.forall₂_map_left_iff, List.forall₂_same]
    exact fun f _ => rfl
  simp only [fields, fields?, keyed, Option.bind_eq_bind, Option.bind_some]

theorem fields?_fields {names : List String} {fs : Fields} (keys : fs.map (·.1) = names)
    (distinct : names.Nodup) : (fields fs).fields? names = some fs := by
  subst keys
  have known : fs.filter (fun f => (fs.map (·.1)).contains f.1) = fs :=
    List.filter_eq_self.mpr fun f mem => by simpa using ⟨f.2, mem⟩
  rw [fields?_eq_ite, known, if_pos distinct]

theorem readsAs_record {names : List String} {fs : Fields} {read : Nat → Fields → Option α} {a : α}
    (keys : fs.map (·.1) = names) (distinct : names.Nodup)
    (inner : ∀ room, (∀ f ∈ fs, f.2.nesting ≤ room) → read room fs = some a) :
    ReadsAs (record? names read) (.fields fs) a := by
  intro room fits
  obtain ⟨room, rfl⟩ := room_of_fields fits
  rw [record?, fields?_fields keys distinct]
  exact inner room (nesting_fields_le.mp fits)

end Forms

section Numberless

@[simp]
theorem numberless_text (t : String) : Numberless (text t) := .string (some t)

@[simp]
theorem numberless_bool (b : Bool) : Numberless (bool b) := .bool b

@[simp]
theorem numberless_textOrNull (t : Option String) : Numberless (textOrNull t) := by
  cases t with
  | none => exact .null
  | some t => exact .string (some t)

@[simp]
theorem numberless_array {items : List Json} :
    Numberless (array items) ↔ ∀ v ∈ items, Numberless v :=
  ⟨fun | .array _ each => each, .array items⟩

@[simp]
theorem numberless_fields {fs : List (String × Json)} :
    Numberless (fields fs) ↔ ∀ f ∈ fs, Numberless f.2 := by
  have object : Numberless (fields fs) ↔
      ∀ m ∈ fs.map fun f => ((some f.1 : Literal), f.2), Numberless m.2 :=
    ⟨fun | .object _ each => each, .object _⟩
  rw [object, List.forall_mem_map]

@[simp]
theorem numberless_texts (ts : List String) : Numberless (texts ts) := by simp [texts]

end Numberless

end Json

open Json

theorem MethodId.readsAs_toJson (m : MethodId) : ReadsAs ofJson? m.toJson m := by
  refine readsAs_record rfl (by decide) fun room fits => ?_
  simp only [List.forall_mem_cons] at fits
  obtain ⟨_, _, params, _⟩ := fits
  simp [Fields.required, Fields.optional, List.lookup_cons, readsAs_texts _ room params]

theorem Disclosure.readsAs_toJson (d : Disclosure) : ReadsAs ofJson? d.toJson d := by
  refine readsAs_record rfl (by decide) fun room _ => ?_
  simp [Fields.optional, List.lookup_cons]

theorem Facts.readsAs_toJson (f : Facts) : ReadsAs ofJson? f.toJson f := by
  refine readsAs_record rfl (by decide) fun room fits => ?_
  simp only [List.forall_mem_cons] at fits
  obtain ⟨method, callees, categories, disclosures, _, implements, _⟩ := fits
  simp [Fields.required, Fields.optional, List.lookup_cons, f.method.readsAs_toJson room method,
    readsAs_list (fun m _ => m.readsAs_toJson) room callees, readsAs_texts _ room categories,
    readsAs_list (fun d _ => d.readsAs_toJson) room disclosures,
    readsAs_list (fun m _ => m.readsAs_toJson) room implements]

theorem SourceUnit.readsAs_toJson (u : SourceUnit) : ReadsAs ofJson? u.toJson u := by
  refine readsAs_record rfl (by decide) fun room fits => ?_
  simp only [List.forall_mem_cons] at fits
  obtain ⟨_, methods, _⟩ := fits
  simp [Fields.required, Fields.optional, List.lookup_cons,
    readsAs_list (fun f _ => f.readsAs_toJson) room methods]

namespace Purpose

theorem induct {motive : Purpose → Prop}
    (step : ∀ p, (∀ q ∈ p.purposes, motive q) → motive p) (p : Purpose) : motive p :=
  step p fun q _ => induct step q
termination_by sizeOf p
decreasing_by
  have := List.sizeOf_lt_of_mem ‹_›
  cases p
  simp only [mk.sizeOf_spec] at this ⊢
  omega

theorem toJsons_eq (ps : List Purpose) : toJsons ps = ps.map toJson := by
  induction ps with
  | nil => rfl
  | cons p rest ih => rw [toJsons, ih, List.map_cons]

theorem toJson_eq (p : Purpose) : p.toJson = .fields
    [("name", .text p.name),
     ("optOut", .bool p.optOut),
     ("required", .bool p.required),
     ("retention", .textOrNull p.retention),
     ("description", .text p.description),
     ("pm", .textOrNull p.pm),
     ("purposes", .array (p.purposes.map toJson)),
     ("data", .texts p.data),
     ("transfers", .array (p.disclosures.map Disclosure.toJson))] := by
  cases p
  rw [toJson, toJsons_eq]

/-- A purpose is read as other records are; its own purposes are a list of such records. -/
theorem ofJson?_eq : ofJson? = record? fieldNames fun room fs => do
    return { name := ← fs.required "name" text?
             optOut := ← fs.optional "optOut" bool? false
             required := ← fs.optional "required" bool? true
             retention := ← fs.optional "retention" (orNull? text?) none
             description := ← fs.optional "description" text? ""
             pm := ← fs.optional "pm" (orNull? text?) none
             purposes := ← fs.optional "purposes" (list? ofJson? room) []
             data := ← fs.optional "data" (texts? room) []
             disclosures := ← fs.optional "transfers" (list? Disclosure.ofJson? room) [] } := by
  funext room j
  rcases room with _ | _ | room <;> rfl

theorem readsAs_toJson (p : Purpose) : ReadsAs ofJson? p.toJson p := by
  induction p using induct with
  | step p ih =>
    cases p
    rw [ofJson?_eq, toJson_eq]
    refine readsAs_record rfl (by decide) fun room fits => ?_
    simp only [List.forall_mem_cons] at fits
    obtain ⟨_, _, _, _, _, _, purposes, data, disclosures, _⟩ := fits
    simp [Fields.required, Fields.optional, List.lookup_cons, readsAs_list ih room purposes,
      readsAs_texts _ room data, readsAs_list (fun d _ => d.readsAs_toJson) room disclosures]

end Purpose

theorem Report.readsAs_toJson (r : Report) : ReadsAs ofJson? r.toJson r := by
  refine readsAs_record rfl (by decide) fun room fits => ?_
  simp only [List.forall_mem_cons] at fits
  obtain ⟨_, _, _, _, _, _, purposes, data, disclosures, _⟩ := fits
  simp [Fields.required, Fields.optional, List.lookup_cons,
    readsAs_list (fun p _ => p.readsAs_toJson) room purposes, readsAs_texts _ room data,
    readsAs_list (fun d _ => d.readsAs_toJson) room disclosures]

section Texts

@[simp]
theorem MethodId.numberless_toJson (m : MethodId) : Numberless m.toJson := by
  simp [toJson]

@[simp]
theorem Disclosure.numberless_toJson (d : Disclosure) : Numberless d.toJson := by
  simp [toJson]

@[simp]
theorem Facts.numberless_toJson (f : Facts) : Numberless f.toJson := by
  simp [toJson]

theorem SourceUnit.numberless_toJson (u : SourceUnit) : Numberless u.toJson := by
  simp [toJson]

@[simp]
theorem Purpose.numberless_toJson (p : Purpose) : Numberless p.toJson := by
  induction p using induct with
  | step p ih =>
    rw [toJson_eq]
    simpa using ih

theorem Report.numberless_toJson (r : Report) : Numberless r.toJson := by
  simp [toJson]

@[simp]
theorem MethodId.nesting_toJson (m : MethodId) (room : Nat) : m.toJson.nesting ≤ room + 2 := by
  simp [toJson, texts]

@[simp]
theorem Disclosure.nesting_toJson (d : Disclosure) (room : Nat) : d.toJson.nesting ≤ room + 1 := by
  simp [toJson]

@[simp]
theorem Facts.nesting_toJson (f : Facts) (room : Nat) : f.toJson.nesting ≤ room + 4 := by
  simp [toJson, texts]

theorem SourceUnit.nesting_toJson (u : SourceUnit) : u.toJson.nesting ≤ fullRoom := by
  simp [toJson, fullRoom]

/-- What is written for a unit is read as that unit. -/
theorem SourceUnit.parse?_render (u : SourceUnit) : parse? u.render = some u := by
  rw [parse?, render, u.numberless_toJson.parse?_compact, Option.bind_some]
  exact u.readsAs_toJson fullRoom u.nesting_toJson

/-- What is written for a report is read as that report, unless it nests too deep. -/
theorem Report.parse?_render {r : Report} (fits : r.toJson.nesting ≤ fullRoom) :
    parse? (r.render ++ "\n") = some r := by
  rw [parse?, render, r.numberless_toJson.parse?_pretty, Option.bind_some]
  exact r.readsAs_toJson fullRoom fits

end Texts

end DataTrail
