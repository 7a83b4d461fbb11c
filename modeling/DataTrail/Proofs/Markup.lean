import Mathlib.Data.Finset.Card
import DataTrail.Page
import DataTrail.Proofs.Collections

/-! The tags of a page. A page is made of markup, in which every tag that is opened is closed, and
of escaped text, which opens none. So the tags of a page are those of its markup, and the markup
depends on how many things a page shows but not on what it says about them. -/

namespace DataTrail.Page

open Fragment

section Tags

/-- The tags of a document: what stands from a `<` to the next `>`. -/
def tags : List Char → List (List Char)
  | [] => []
  | c :: rest =>
    if c = '<' ∧ '>' ∈ rest then (c :: rest.takeWhile (· != '>') ++ ['>']) :: tags rest
    else tags rest

/-- Every `<` is followed by a `>`. -/
def closed : List Char → Bool
  | [] => true
  | c :: rest => (c ≠ '<' || '>' ∈ rest) && closed rest

variable {a b : List Char}

theorem takeWhile_append_of_mem (stop : '>' ∈ a) :
    (a ++ b).takeWhile (· != '>') = a.takeWhile (· != '>') := by
  induction a with
  | nil => contradiction
  | cons c rest ih =>
    by_cases found : c = '>'
    · simp [found]
    · have later : '>' ∈ rest := (List.mem_cons.mp stop).resolve_left (Ne.symm found)
      simp [found, ih later]

theorem tags_append (h : closed a) : tags (a ++ b) = tags a ++ tags b := by
  induction a with
  | nil => rfl
  | cons c rest ih =>
    rw [closed, Bool.and_eq_true] at h
    obtain ⟨first, others⟩ := h
    rw [List.cons_append, tags, tags, ih others]
    by_cases opens : c = '<'
    · have stop : '>' ∈ rest := by simpa [opens] using first
      simp [opens, stop, takeWhile_append_of_mem stop]
    · simp [opens]

theorem closed_append (h : closed a) (h' : closed b) : closed (a ++ b) := by
  induction a with
  | nil => exact h'
  | cons c rest ih =>
    rw [closed, Bool.and_eq_true] at h
    rw [List.cons_append, closed, ih h.2, Bool.and_true]
    have first := h.1
    simp only [Bool.or_eq_true, decide_eq_true_eq] at first ⊢
    exact first.imp_right (List.mem_append_left b)

/-- A literal is taken as the list of its characters. -/
theorem closed_toList (h : closed a) : closed (String.ofList a).toList := by
  rwa [String.toList_ofList]

theorem closed_toList_append {s t : String} (h : closed s.toList) (h' : closed t.toList) :
    closed (s ++ t).toList := by
  rw [String.toList_append]
  exact closed_append h h'

theorem closed_of_not_mem (h : '<' ∉ a) : closed a := by
  induction a with
  | nil => rfl
  | cons c rest ih =>
    obtain ⟨first, others⟩ := not_or.mp (mt List.mem_cons.mpr h)
    simp [closed, Ne.symm first, ih others]

theorem tags_of_not_mem (h : '<' ∉ a) : tags a = [] := by
  induction a with
  | nil => rfl
  | cons c rest ih =>
    obtain ⟨first, others⟩ := not_or.mp (mt List.mem_cons.mpr h)
    simp [tags, Ne.symm first, ih others]

theorem not_mem_escapeChar (c : Char) : '<' ∉ escapeChar c := by
  unfold escapeChar
  split <;> simp_all [eq_comm]

theorem not_mem_escape (text : String) : '<' ∉ (escape text).toList := by
  rw [escape, String.toList_ofList, List.mem_flatMap]
  rintro ⟨c, _, mem⟩
  exact not_mem_escapeChar c mem

end Tags

section Alike

/-- Two pages differ in their texts only, and no markup of theirs leaves a tag open. -/
inductive Alike : List Fragment → List Fragment → Prop
  | nil : Alike [] []
  | markup {source : String} {fs gs : List Fragment} (whole : closed source.toList)
      (rest : Alike fs gs) : Alike (.markup source :: fs) (.markup source :: gs)
  | text {fs gs : List Fragment} (content content' : String) (rest : Alike fs gs) :
      Alike (.text content :: fs) (.text content' :: gs)

namespace Alike

variable {fs gs fs' gs' : List Fragment}

theorem append (h : Alike fs gs) (h' : Alike fs' gs') : Alike (fs ++ fs') (gs ++ gs') := by
  induction h with
  | nil => exact h'
  | markup whole _ ih => exact .markup whole ih
  | text content content' _ ih => exact .text content content' ih

theorem flatMap {α : Type} {part : α → List Fragment} {xs ys : List α}
    (each : List.Forall₂ (fun x y => Alike (part x) (part y)) xs ys) :
    Alike (xs.flatMap part) (ys.flatMap part) := by
  induction each with
  | nil => exact .nil
  | cons first _ ih => exact first.append ih

/-- Parts that are always alike need only be as many. -/
theorem flatMap_of_length {α : Type} {part : α → List Fragment} {xs ys : List α}
    (same : ∀ x y, Alike (part x) (part y)) (length : xs.length = ys.length) :
    Alike (xs.flatMap part) (ys.flatMap part) :=
  flatMap (List.forall₂_iff_zip.mpr ⟨length, fun {x y} _ => same x y⟩)

theorem render_cons (f : Fragment) (fs : List Fragment) :
    (render (f :: fs)).toList = f.render.toList ++ (render fs).toList := by
  simp [render, String.join_cons]

theorem tags_eq (h : Alike fs gs) : tags (render fs).toList = tags (render gs).toList := by
  induction h with
  | nil => rfl
  | markup whole _ ih => rw [render_cons, render_cons, Fragment.render, tags_append whole, ih,
      tags_append whole]
  | text content content' _ ih =>
    have silent (t : String) (rest : List Char) : tags ((escape t).toList ++ rest) = tags rest := by
      have none := not_mem_escape t
      rw [tags_append (closed_of_not_mem none), tags_of_not_mem none, List.nil_append]
    rw [render_cons, render_cons, Fragment.render, Fragment.render, silent, silent, ih]

end Alike

theorem alike_heading (label label' name name' : String) :
    Alike (heading label name) (heading label' name') := by
  apply Alike.markup (closed_toList rfl)
  apply Alike.text
  apply Alike.markup (closed_toList rfl)
  apply Alike.text
  exact Alike.markup (closed_toList rfl) .nil

/-- The key of a row is part of its markup. -/
theorem alike_row {key : String} (plain : closed key.toList) (content content' : String) :
    Alike (row key [.text content]) (row key [.text content']) := by
  refine Alike.markup ?_ (.text _ _ (.markup (closed_toList rfl) .nil))
  apply closed_toList_append
  · exact closed_toList_append (closed_toList rfl) plain
  · exact closed_toList rfl

theorem alike_card {lastRow lastRow' : List Fragment} (last : Alike lastRow lastRow')
    (label label' : String) (c c' : Card) :
    Alike (card label c lastRow) (card label' c' lastRow') := by
  unfold card
  refine Alike.append (Alike.append ?_ last) (.markup (closed_toList rfl) .nil)
  refine Alike.append ?_ (alike_row (closed_toList rfl) _ _)
  refine Alike.append ?_ (alike_row (closed_toList rfl) _ _)
  refine Alike.append ?_ (alike_row (closed_toList rfl) _ _)
  refine Alike.append ?_ (alike_row (closed_toList rfl) _ _)
  refine Alike.append ?_ (alike_row (closed_toList rfl) _ _)
  refine Alike.append ?_ (alike_row (closed_toList rfl) _ _)
  refine Alike.append ?_ (alike_row (closed_toList rfl) _ _)
  exact Alike.append (.markup (closed_toList rfl) .nil) (alike_heading _ _ _ _)

theorem alike_parentCard (l l' : Lane) : Alike (parentCard l) (parentCard l') :=
  alike_card (alike_row (closed_toList rfl) _ _) _ _ _ _

theorem alike_childCard (child child' : Nat × Purpose) :
    Alike (childCard child) (childCard child') :=
  alike_card .nil _ _ _ _

theorem alike_dataItem (item item' : Nat × String) : Alike (dataItem item) (dataItem item') := by
  refine Alike.append ?_ (.markup (closed_toList rfl) .nil)
  exact Alike.append (.markup (closed_toList rfl) .nil) (alike_heading _ _ _ _)

theorem alike_recipientItem (item item' : Nat × Disclosure) :
    Alike (recipientItem item) (recipientItem item') := by
  refine Alike.append ?_ (.markup (closed_toList rfl) .nil)
  refine Alike.append ?_ (alike_row (closed_toList rfl) _ _)
  exact Alike.append (.markup (closed_toList rfl) .nil) (alike_heading _ _ _ _)

theorem alike_composedChild (child child' : Nat × Purpose) :
    Alike (composedChild child) (composedChild child') := by
  refine Alike.append ?_ (.markup (closed_toList rfl) .nil)
  refine Alike.append (.markup ?_ .nil) (alike_heading _ _ _ _)
  apply closed_toList_append
  · exact closed_toList_append (closed_toList rfl) (closed_toList rfl)
  · exact closed_toList rfl

theorem alike_composed {l l' : Lane} (same : l.children.length = l'.children.length) :
    Alike (composed l) (composed l') := by
  refine Alike.append ?_ (.markup (closed_toList rfl) .nil)
  refine Alike.append ?_ (.flatMap_of_length alike_composedChild same)
  refine Alike.append ?_ (.markup (closed_toList rfl) .nil)
  exact Alike.append (.markup (closed_toList rfl) .nil) (alike_heading _ _ _ _)

end Alike

section Shape

/-- How much a page shows. -/
structure Shape where
  /-- For each report with data, the number of its purposes with data. -/
  purposes : List Nat
  /-- The number of different data of these reports. -/
  data : Nat
  /-- The number of different disclosures of these reports. -/
  disclosures : Nat
deriving DecidableEq

def Shape.ofReports (reports : List Report) : Shape where
  purposes := (shownReports reports).map fun r => (shownPurposes r).length
  data := ((shownReports reports).flatMap (·.data)).toFinset.card
  disclosures := ((shownReports reports).flatMap (·.disclosures)).toFinset.card

@[simp]
theorem map_snd_numberFrom {α : Type} (start : Nat) (xs : List α) :
    (numberFrom start xs).map (·.2) = xs := by
  rw [numberFrom, List.map_map]
  exact List.zipIdx_map_fst start xs

theorem map_lanesFrom (next : Nat) (numbered : List (Nat × Report)) :
    (lanesFrom next numbered).map (fun l => (l.report, l.children.map (·.2))) =
      numbered.map fun n => (n.2, shownPurposes n.2) := by
  induction numbered generalizing next with
  | nil => rfl
  | cons first rest ih => simp [lanesFrom, ih]

/-- The lanes are the shown reports with their shown purposes. -/
theorem map_lanes (reports : List Report) :
    (lanes reports).map (fun l => (l.report, l.children.map (·.2))) =
      (shownReports reports).map fun r => (r, shownPurposes r) := by
  rw [lanes, map_lanesFrom, ← map_snd_numberFrom 1 (shownReports reports), List.map_map,
    map_snd_numberFrom]
  rfl

theorem map_report_lanes (reports : List Report) :
    (lanes reports).map (·.report) = shownReports reports := by
  simpa [Function.comp_def] using congrArg (List.map Prod.fst) (map_lanes reports)

theorem map_length_children_lanes (reports : List Report) :
    (lanes reports).map (·.children.length) = (Shape.ofReports reports).purposes := by
  simpa [Function.comp_def, Shape.ofReports] using
    congrArg (List.map (·.2.length)) (map_lanes reports)

theorem length_eq_card {α : Type} [DecidableEq α] {items all : List α} (distinct : items.Nodup)
    (same : ∀ a, a ∈ items ↔ a ∈ all) : items.length = all.toFinset.card := by
  rw [← List.toFinset_card_of_nodup distinct]
  congr 1
  ext a
  simp [same]

theorem length_shownData (reports : List Report) :
    (shownData (lanes reports)).length = (Shape.ofReports reports).data := by
  refine length_eq_card (nodup_toList _) fun name => ?_
  rw [← map_report_lanes, List.flatMap_map, shownData, Std.ExtTreeSet.mem_toList,
    Std.ExtTreeSet.mem_ofList, List.contains_iff_mem]

theorem length_shownDisclosures (reports : List Report) :
    (shownDisclosures (lanes reports)).length = (Shape.ofReports reports).disclosures := by
  rw [shownDisclosures, List.length_mergeSort]
  refine length_eq_card (nodup_eraseDups _) fun d => ?_
  rw [← map_report_lanes, List.flatMap_map, List.mem_eraseDups]

@[simp]
theorem length_numberFrom {α : Type} (start : Nat) (xs : List α) :
    (numberFrom start xs).length = xs.length := by
  simp [numberFrom]

theorem alike_fragments {reports reports' : List Report}
    (same : Shape.ofReports reports = Shape.ofReports reports') (title title' : String) :
    Alike (fragments title reports) (fragments title' reports') := by
  have children : (lanes reports).map (·.children.length) =
      (lanes reports').map (·.children.length) := by
    rw [map_length_children_lanes, map_length_children_lanes, same]
  have lanes : (lanes reports).length = (lanes reports').length := by
    simpa using congrArg List.length children
  have purposes : ((Page.lanes reports).flatMap (·.children)).length =
      ((Page.lanes reports').flatMap (·.children)).length := by
    rw [List.length_flatMap, List.length_flatMap, children]
  have data : (numberFrom 1 (shownData (Page.lanes reports))).length =
      (numberFrom 1 (shownData (Page.lanes reports'))).length := by
    rw [length_numberFrom, length_numberFrom, length_shownData, length_shownData, same]
  have disclosures : (numberFrom 1 (shownDisclosures (Page.lanes reports))).length =
      (numberFrom 1 (shownDisclosures (Page.lanes reports'))).length := by
    rw [length_numberFrom, length_numberFrom, length_shownDisclosures, length_shownDisclosures,
      same]
  have composed : List.Forall₂ (fun l l' => Alike (composed l) (composed l'))
      (Page.lanes reports) (Page.lanes reports') := by
    rw [← List.forall₂_eq_eq_eq, List.forall₂_map_left_iff, List.forall₂_map_right_iff] at children
    exact children.imp fun _ _ => alike_composed
  unfold fragments
  refine Alike.append ?_ (.markup (closed_toList rfl) .nil)
  refine Alike.append ?_ (.flatMap composed)
  refine Alike.append ?_ (.markup (closed_toList rfl) .nil)
  refine Alike.append ?_ (.flatMap_of_length alike_recipientItem disclosures)
  refine Alike.append ?_ (.markup (closed_toList rfl) .nil)
  refine Alike.append ?_ (.flatMap_of_length alike_dataItem data)
  refine Alike.append ?_ (.markup (closed_toList rfl) .nil)
  refine Alike.append ?_ (.flatMap_of_length alike_childCard purposes)
  refine Alike.append ?_ (.flatMap_of_length alike_parentCard lanes)
  refine Alike.markup ?_ (.text _ _ (.markup (closed_toList rfl) .nil))
  exact closed_toList_append (closed_toList rfl) (closed_toList rfl)

/-- Whatever the titles and the reports say, two pages that show as many things have the same tags
in the same order. -/
theorem tags_determined_by_shape (title title' : String) (reports reports' : List Report)
    (same : Shape.ofReports reports = Shape.ofReports reports') :
    tags (ofReports title reports).toList = tags (ofReports title' reports').toList :=
  (alike_fragments same title title').tags_eq

namespace Sample

/-- A report whose every text tries to be markup. -/
def hostile : Report :=
  { name := "<b>\"&"
    description := "--><script>"
    retention := some "<"
    pm := some "</table>"
    purposes := [{ name := "x#<img src=\"y\">(", data := ["<"] }, { name := "<i>" }]
    data := ["a.<i>", "a.<i>"]
    disclosures := [{ recipient := "\"><a href=\"z\">", policy := "<!--" }] }

def plain : Report :=
  { name := "org.shop.Page"
    purposes := [{ name := "org.shop.Page#show()", data := ["Email"] }]
    data := ["Email"]
    disclosures := [{ recipient := "mail", policy := "" }] }

end Sample

theorem tags_determined_by_shape_hostile :
    Shape.ofReports [Sample.hostile, { name := "<hr>" }] =
        { purposes := [1], data := 1, disclosures := 1 } ∧
      tags (ofReports "</h1>" [Sample.hostile, { name := "<hr>" }]).toList =
        tags (ofReports "Shop" [Sample.plain]).toList := by
  refine ⟨by decide +kernel, ?_⟩
  exact tags_determined_by_shape "</h1>" "Shop" [Sample.hostile, { name := "<hr>" }] [Sample.plain]
    (by decide +kernel)

end Shape

end DataTrail.Page
