import DataTrail.Proofs.Markup

/-! The lanes of a page. The numbers of the reports and then those of the purposes run on without a
gap, because the purposes of each lane are numbered from where those of the lane before it end. The
recipients are sorted without mixing up the disclosures to any one of them, so these stay in the
order in which they first occur. -/

namespace DataTrail.Page

section Numbers

/-- All numbers that lanes give: those of the reports, then those of the purposes, lane by lane. -/
def numbersOf (ls : List Lane) : List Nat :=
  ls.map (·.number) ++ ls.flatMap fun l => l.children.map (·.1)

/-- The purposes that lanes show, lane by lane. -/
def purposesOf (ls : List Lane) : List Purpose := ls.flatMap fun l => l.children.map (·.2)

theorem shownReports_eq (reports : List Report) :
    shownReports reports = reports.filter (·.data ≠ []) := by
  refine List.filter_congr fun r _ => ?_
  cases r.data <;> rfl

theorem shownPurposes_eq (r : Report) : shownPurposes r = r.purposes.filter (·.data ≠ []) := by
  refine List.filter_congr fun p _ => ?_
  cases p.data <;> rfl

theorem map_fst_numberFrom {α : Type} (start : Nat) (xs : List α) :
    (numberFrom start xs).map (·.1) = List.range' start xs.length := by
  rw [numberFrom, List.map_map]
  exact List.zipIdx_map_snd start xs

theorem map_number_lanesFrom (next : Nat) (numbered : List (Nat × Report)) :
    (lanesFrom next numbered).map (·.number) = numbered.map (·.1) := by
  induction numbered generalizing next with
  | nil => rfl
  | cons first rest ih => simp [lanesFrom, ih]

/-- The purposes of numbered reports take one number after the other from `next` on. -/
theorem childNumbers_lanesFrom (next : Nat) (numbered : List (Nat × Report)) :
    ((lanesFrom next numbered).flatMap fun l => l.children.map (·.1)) =
      List.range' next (numbered.flatMap fun n => shownPurposes n.2).length := by
  induction numbered generalizing next with
  | nil => rfl
  | cons first rest ih =>
    obtain ⟨number, report⟩ := first
    simp only [lanesFrom, List.flatMap_cons, List.length_append, map_fst_numberFrom, ih]
    exact List.range'_append_1

theorem flatMap_numberFrom (next : Nat) (reports : List Report) :
    ((numberFrom next reports).flatMap fun n => shownPurposes n.2) =
      reports.flatMap shownPurposes := by
  conv_rhs => rw [← map_snd_numberFrom next reports, List.flatMap_map]

theorem numbersOf_lanes (reports : List Report) :
    numbersOf (lanes reports) = List.range' 1
      ((shownReports reports).length + ((shownReports reports).flatMap shownPurposes).length) := by
  rw [numbersOf, lanes, map_number_lanesFrom, childNumbers_lanesFrom, map_fst_numberFrom,
    flatMap_numberFrom, Nat.add_comm _ 1]
  exact List.range'_append_1

theorem purposesOf_lanes (reports : List Report) :
    purposesOf (lanes reports) = (shownReports reports).flatMap shownPurposes := by
  have shown : (lanes reports).map (fun l => l.children.map (·.2)) =
      (shownReports reports).map shownPurposes := by
    simpa [Function.comp_def] using congrArg (List.map Prod.snd) (map_lanes reports)
  rw [purposesOf, List.flatMap_def, shown, ← List.flatMap_def]

/-- A report that joins its purposes has data as soon as one of them has. -/
theorem data_ofPurposes_eq_nil_iff {name : String} {purposes : List Purpose} :
    (Report.ofPurposes name purposes).data = [] ↔ ∀ p ∈ purposes, p.data = [] := by
  simp only [Report.ofPurposes, List.eq_nil_iff_forall_not_mem, Std.ExtTreeSet.mem_toList,
    Std.ExtTreeSet.mem_ofList, List.contains_iff_mem, List.mem_flatMap]
  constructor
  · intro none p hp item mem
    exact none item ⟨p, hp, mem⟩
  · rintro none item ⟨p, hp, mem⟩
    exact none p hp item mem

theorem shownPurposes_of_hidden {r : Report} {name : String} {purposes : List Purpose}
    (joined : r = Report.ofPurposes name purposes) (hidden : r.data = []) :
    shownPurposes r = [] := by
  subst joined
  have none := data_ofPurposes_eq_nil_iff.mp hidden
  rw [shownPurposes_eq, List.filter_eq_nil_iff]
  intro p hp
  simpa using none p hp

/-- Reports that join their purposes have no purpose with data if they are left out. -/
theorem flatMap_shownReports {reports : List Report}
    (joined : ∀ r ∈ reports, ∃ name purposes, r = Report.ofPurposes name purposes) :
    (shownReports reports).flatMap shownPurposes = reports.flatMap shownPurposes := by
  rw [shownReports_eq]
  induction reports with
  | nil => rfl
  | cons r rest ih =>
    obtain ⟨⟨name, purposes, first⟩, others⟩ := List.forall_mem_cons.mp joined
    by_cases hidden : r.data = []
    · rw [List.filter_cons_of_neg (by simpa using hidden), ih others, List.flatMap_cons,
        shownPurposes_of_hidden first hidden, List.nil_append]
    · rw [List.filter_cons_of_pos (by simpa using hidden), List.flatMap_cons, List.flatMap_cons,
        ih others]

theorem flatMap_shownPurposes (reports : List Report) :
    reports.flatMap shownPurposes = (reports.flatMap (·.purposes)).filter (·.data ≠ []) := by
  rw [List.filter_flatMap]
  exact congrArg (reports.flatMap ·) (funext shownPurposes_eq)

/-- The numbers of a page are those from one on, without gap or repetition, for the reports with
data and then for their purposes with data. The lanes are these reports and purposes in their order.
If the reports join their purposes, all purposes with data are shown. -/
theorem numbers_exact (reports : List Report) :
    let shown := reports.filter (·.data ≠ [])
    let carrying := (shown.flatMap (·.purposes)).filter (·.data ≠ [])
    numbersOf (lanes reports) = List.range' 1 (shown.length + carrying.length) ∧
      (lanes reports).map (fun l => (l.report, l.children.map (·.2))) =
        shown.map (fun r => (r, r.purposes.filter (·.data ≠ []))) ∧
      ((∀ r ∈ reports, ∃ name purposes, r = Report.ofPurposes name purposes) →
        purposesOf (lanes reports) =
          (reports.flatMap (·.purposes)).filter (·.data ≠ [])) := by
  intro shown carrying
  refine ⟨?_, ?_, fun joined => ?_⟩
  · rw [numbersOf_lanes, flatMap_shownPurposes, shownReports_eq]
  · rw [map_lanes, shownReports_eq]
    simp only [shownPurposes_eq, shown]
  · rw [purposesOf_lanes, flatMap_shownReports joined, flatMap_shownPurposes]

namespace Sample

/-- One report has no data, one has a purpose without data, and two have purposes with data. -/
def drafts : List Report :=
  [.ofPurposes "Empty" [{ name := "Empty#open()" }],
   .ofPurposes "Users" [{ name := "Users#list()", data := ["Email"] }, { name := "Users#ping()" },
     { name := "Users#find()", data := ["Phone", "Email"] }],
   .ofPurposes "Orders" [{ name := "Orders#buy()", data := ["Address"] }]]

end Sample

theorem numbers_exact_drafts :
    (∀ r ∈ Sample.drafts, ∃ name purposes, r = Report.ofPurposes name purposes) ∧
      numbersOf (lanes Sample.drafts) = [1, 2, 3, 4, 5] ∧
      (purposesOf (lanes Sample.drafts)).map (·.name) =
        ["Users#list()", "Users#find()", "Orders#buy()"] := by
  have joined : ∀ r ∈ Sample.drafts, ∃ name purposes, r = Report.ofPurposes name purposes := by
    simp only [Sample.drafts, List.forall_mem_cons]
    exact ⟨⟨_, _, rfl⟩, ⟨_, _, rfl⟩, ⟨_, _, rfl⟩, List.forall_mem_nil _⟩
  obtain ⟨numbers, _, purposes⟩ := numbers_exact Sample.drafts
  refine ⟨joined, numbers.trans (by decide +kernel), ?_⟩
  rw [purposes joined]
  decide +kernel

end Numbers

section Recipients

variable {ds : List Disclosure}

/-- Disclosures in the order of their recipients. -/
def byRecipient (ds : List Disclosure) : List Disclosure :=
  ds.mergeSort fun a b => decide (a.recipient ≤ b.recipient)

theorem recipient_trans (a b c : Disclosure) (ab : decide (a.recipient ≤ b.recipient))
    (bc : decide (b.recipient ≤ c.recipient)) : decide (a.recipient ≤ c.recipient) := by
  rw [decide_eq_true_eq] at ab bc ⊢
  exact String.le_trans ab bc

theorem recipient_total (a b : Disclosure) :
    decide (a.recipient ≤ b.recipient) || decide (b.recipient ≤ a.recipient) := by
  simpa using String.le_total a.recipient b.recipient

theorem byRecipient_perm (ds : List Disclosure) : (byRecipient ds).Perm ds :=
  List.mergeSort_perm ds _

theorem pairwise_byRecipient (ds : List Disclosure) :
    (byRecipient ds).Pairwise fun a b => a.recipient ≤ b.recipient :=
  (List.pairwise_mergeSort recipient_trans recipient_total ds).imp of_decide_eq_true

/-- Sorting leaves the disclosures to one recipient as they were. -/
theorem filter_byRecipient (ds : List Disclosure) (recipient : String) :
    (byRecipient ds).filter (·.recipient = recipient) =
      ds.filter (·.recipient = recipient) := by
  have alike : (ds.filter (·.recipient = recipient)).Pairwise
      fun a b => decide (a.recipient ≤ b.recipient) := by
    refine List.pairwise_of_forall_mem_list fun a ha b hb => ?_
    rw [List.mem_filter, decide_eq_true_eq] at ha hb
    rw [ha.2, hb.2]
    exact decide_eq_true (String.le_refl recipient)
  have kept := (List.sublist_mergeSort recipient_trans recipient_total alike
    List.filter_sublist).filter (·.recipient = recipient)
  rw [List.filter_filter] at kept
  simp only [Bool.and_self] at kept
  have length := ((byRecipient_perm ds).filter (·.recipient = recipient)).length_eq
  exact (kept.eq_of_length length.symm).symm

/-- Sorting keeps how the disclosures to one recipient were ordered. -/
theorem pairwise_byRecipient_of_pairwise {R : Disclosure → Disclosure → Prop}
    (ordered : ds.Pairwise R) :
    (byRecipient ds).Pairwise fun a b => a.recipient = b.recipient → R a b := by
  refine List.pairwise_iff_forall_sublist.mpr fun {a b} pair same => ?_
  have chosen := pair.filter (·.recipient = b.recipient)
  rw [filter_byRecipient, List.filter_cons_of_pos (by simpa using same),
    List.filter_cons_of_pos (by simp), List.filter_nil] at chosen
  exact List.pairwise_iff_forall_sublist.mp ordered (chosen.trans List.filter_sublist)

theorem shownDisclosures_lanes (reports : List Report) :
    shownDisclosures (lanes reports) =
      byRecipient ((reports.filter (·.data ≠ [])).flatMap (·.disclosures)).eraseDups := by
  rw [← shownReports_eq, ← map_report_lanes, List.flatMap_map]
  rfl

/-- The lane of recipients shows each disclosure of the reports with data once and no other, in the
order of the recipients; disclosures to one recipient are in the order in which these reports first
mention them. -/
theorem recipients_stable (reports : List Report) :
    let shown := shownDisclosures (lanes reports)
    let mentioned := (reports.filter (·.data ≠ [])).flatMap (·.disclosures)
    shown.Nodup ∧
      (∀ d, d ∈ shown ↔ ∃ r ∈ reports, r.data ≠ [] ∧ d ∈ r.disclosures) ∧
      (shown.Pairwise fun a b => a.recipient ≤ b.recipient) ∧
      shown.Pairwise fun a b =>
        a.recipient = b.recipient → mentioned.idxOf a < mentioned.idxOf b := by
  intro shown mentioned
  have sorted : shown = byRecipient mentioned.eraseDups := shownDisclosures_lanes reports
  rw [sorted]
  refine ⟨?_, fun d => ?_, pairwise_byRecipient _, ?_⟩
  · exact (byRecipient_perm _).nodup_iff.mpr (nodup_eraseDups mentioned)
  · rw [(byRecipient_perm _).mem_iff, List.mem_eraseDups]
    simp [mentioned, and_assoc]
  · exact pairwise_byRecipient_of_pairwise (pairwise_idxOf_eraseDups mentioned)

namespace Sample

def mailFirst : Disclosure := ⟨"mail", "b"⟩

def mailSecond : Disclosure := ⟨"mail", "a"⟩

/-- The first report has no data, so what it mentions first does not count. -/
def mailings : List Report :=
  [{ name := "Hidden", disclosures := [mailSecond] },
   { name := "Users", data := ["Email"], disclosures := [⟨"post", "x"⟩, mailFirst] },
   { name := "Orders", data := ["Email"], disclosures := [mailSecond, ⟨"bank", "z"⟩, mailFirst] }]

end Sample

open Sample in
theorem recipients_stable_mailings :
    (shownDisclosures (lanes mailings)).Nodup ∧
      mailFirst ∈ shownDisclosures (lanes mailings) ∧
      mailSecond ∈ shownDisclosures (lanes mailings) ∧
      ¬[mailSecond, mailFirst].Sublist (shownDisclosures (lanes mailings)) := by
  obtain ⟨once, members, _, ties⟩ := recipients_stable mailings
  refine ⟨once, (members _).mpr (by decide), (members _).mpr (by decide), fun swapped => ?_⟩
  have earlier := List.pairwise_iff_forall_sublist.mp ties swapped rfl
  exact absurd earlier (by decide)

end Recipients

end DataTrail.Page
