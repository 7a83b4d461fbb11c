import Mathlib.Data.List.Basic
import DataTrail.WaitList
import DataTrail.Proofs.Collections

/-! The two halves of the wait-list agree: a name is found from a method just when its entry waits
for the method. Every operation keeps that, and each has an equation that says which entries are on
the list after it. -/

namespace DataTrail

/-- What is left of an entry once the methods of `arrived` are there: nothing, if it waits for no
other. -/
def Deferred.awaiting? (d : Deferred) (arrived : List MethodId) : Option Deferred :=
  let left := d.waitingFor.filter (!arrived.contains ·)
  if left.isEmpty then none else some { d with waitingFor := left }

namespace Deferred

variable {d d' : Deferred} {arrived : List MethodId} {m : MethodId}

theorem awaiting?_eq_none : d.awaiting? arrived = none ↔ ∀ m ∈ d.waitingFor, m ∈ arrived := by
  unfold awaiting?
  simp only [ite_eq_left_iff, reduceCtorEq, imp_false, not_not, Std.ExtTreeSet.isEmpty_iff,
    Std.ExtTreeSet.eq_empty_iff_forall_not_mem]
  simp

theorem awaiting?_eq_some_iff :
    d.awaiting? arrived = some d' ↔ ¬(∀ m ∈ d.waitingFor, m ∈ arrived) ∧
      { d with waitingFor := d.waitingFor.filter (!arrived.contains ·) } = d' := by
  rw [← awaiting?_eq_none, awaiting?]
  simp

theorem awaiting?_congr {arrived' : List MethodId} (same : ∀ m, m ∈ arrived' ↔ m ∈ arrived) :
    d.awaiting? arrived' = d.awaiting? arrived := by
  have left : d.waitingFor.filter (!arrived'.contains ·) =
      d.waitingFor.filter (!arrived.contains ·) := by
    refine Std.ExtTreeSet.ext_mem fun m => ?_
    simp [same]
  rw [awaiting?, awaiting?, left]

theorem awaiting?_eq_some (h : d.awaiting? arrived = some d') :
    d'.name = d.name ∧ d'.entryPoints = d.entryPoints ∧ d'.waitingFor ≠ ∅ ∧
      ∀ m, m ∈ d'.waitingFor ↔ m ∈ d.waitingFor ∧ m ∉ arrived := by
  unfold awaiting? at h
  simp only [Option.ite_none_left_eq_some, Std.ExtTreeSet.isEmpty_iff, Option.some.injEq] at h
  obtain ⟨left, rfl⟩ := h
  exact ⟨rfl, rfl, left, fun m => by simp⟩

/-- Methods that an entry does not wait for leave it as it is. -/
theorem awaiting?_eq_self (waits : d.waitingFor ≠ ∅) (h : ∀ m ∈ d.waitingFor, m ∉ arrived) :
    d.awaiting? arrived = some d := by
  have same : d.waitingFor.filter (!arrived.contains ·) = d.waitingFor := by
    refine Std.ExtTreeSet.ext_mem fun m => ?_
    simpa using h m
  rw [awaiting?, same, if_neg (mt Std.ExtTreeSet.isEmpty_iff.mp waits)]

theorem awaiting?_singleton :
    d.awaiting? [m] = if (d.waitingFor.erase m).isEmpty then none
      else some { d with waitingFor := d.waitingFor.erase m } := by
  have same : d.waitingFor.filter (! [m].contains ·) = d.waitingFor.erase m := by
    refine Std.ExtTreeSet.ext_mem fun k => ?_
    rw [mem_filter_iff, Std.ExtTreeSet.mem_erase]
    simp [and_comm, eq_comm (a := m)]
  rw [awaiting?, same]

/-- Methods may arrive in two lots. -/
theorem awaiting?_bind {later : List MethodId} :
    (d.awaiting? arrived).bind (·.awaiting? later) = d.awaiting? (arrived ++ later) := by
  cases h : d.awaiting? arrived with
  | none =>
    have all := awaiting?_eq_none.mp h
    exact (awaiting?_eq_none.mpr fun m hm => List.mem_append_left _ (all m hm)).symm
  | some d' =>
    obtain ⟨_, rfl⟩ := awaiting?_eq_some_iff.mp h
    have same : (d.waitingFor.filter (!arrived.contains ·)).filter (!later.contains ·) =
        d.waitingFor.filter (!(arrived ++ later).contains ·) := by
      refine Std.ExtTreeSet.ext_mem fun m => ?_
      simp [and_assoc, and_left_comm]
    simp only [Option.bind_some, awaiting?, same]

/-- What is waited for afterwards is what was waited for and has not arrived. -/
theorem exists_awaiting?_mem :
    (∃ d', d.awaiting? arrived = some d' ∧ m ∈ d'.waitingFor) ↔
      m ∈ d.waitingFor ∧ m ∉ arrived := by
  constructor
  · rintro ⟨d', left, hm⟩
    exact ((awaiting?_eq_some left).2.2.2 m).mp hm
  · rintro ⟨hm, other⟩
    cases left : d.awaiting? arrived with
    | none => exact absurd (awaiting?_eq_none.mp left m hm) other
    | some d' => exact ⟨d', rfl, ((awaiting?_eq_some left).2.2.2 m).mpr ⟨hm, other⟩⟩

/-- An entry that has nothing left to wait for. -/
def freed (d : Deferred) : Deferred := { d with waitingFor := ∅ }

theorem freed_of_awaiting? (h : d.awaiting? arrived = some d') : d'.freed = d.freed := by
  obtain ⟨name, entryPoints, _, _⟩ := awaiting?_eq_some h
  rw [freed, freed, name, entryPoints]

end Deferred

/-- The entry is that of `n`, waits for something and lists each entry point once. -/
structure Deferred.Proper (d : Deferred) (n : String) : Prop where
  named : d.name = n
  waits : d.waitingFor ≠ ∅
  distinct : d.entryPoints.Nodup

namespace WaitList

variable {w : WaitList} {name n : String} {m k : MethodId}

/-- No method is watched for nobody. -/
def Needed (watchers : Std.ExtTreeMap MethodId NameSet) : Prop :=
  ∀ (m : MethodId) (names : NameSet), watchers[m]? = some names → names ≠ ∅

/-- The two halves of the list agree, and every entry is a proper one. -/
structure Valid (w : WaitList) : Prop where
  watched : ∀ m n, n ∈ w.watchers.getD m ∅ ↔ ∃ d, w.find? n = some d ∧ m ∈ d.waitingFor
  needed : Needed w.watchers
  proper : ∀ n d, w.find? n = some d → d.Proper n

theorem Valid.empty : Valid .empty := by
  constructor <;> simp [WaitList.empty, find?, Needed]

theorem Needed.ext {t t' : Std.ExtTreeMap MethodId NameSet} (h : Needed t) (h' : Needed t')
    (same : ∀ m n, n ∈ t'.getD m ∅ ↔ n ∈ t.getD m ∅) : t' = t := by
  refine Std.ExtTreeMap.ext_getElem? fun m => ?_
  have sets : t'.getD m ∅ = t.getD m ∅ := Std.ExtTreeSet.ext_mem (same m)
  rw [Std.ExtTreeMap.getD_eq_getD_getElem?, Std.ExtTreeMap.getD_eq_getD_getElem?] at sets
  cases old : t[m]? with
  | none =>
    cases new : t'[m]? with
    | none => rfl
    | some names =>
      rw [old, new] at sets
      exact absurd sets (h' m names new)
  | some names =>
    cases new : t'[m]? with
    | none =>
      rw [old, new] at sets
      exact absurd sets.symm (h m names old)
    | some names' =>
      rw [old, new] at sets
      exact congrArg some sets

/-- The entries determine the list. -/
theorem Valid.ext {w' : WaitList} (h : w.Valid) (h' : w'.Valid) (same : ∀ n, w'.find? n = w.find? n) : w' = w := by
  have entries : w'.entries = w.entries := Std.ExtTreeMap.ext_getElem? same
  have watchers : w'.watchers = w.watchers := by
    refine h.needed.ext h'.needed fun m n => ?_
    rw [h.watched, h'.watched, same]
  exact congrArg₂ WaitList.mk entries watchers

/-- Dropping an empty set loses no name. -/
theorem getD_unwatch_self {t : Std.ExtTreeMap MethodId NameSet} :
    (unwatch t name m).getD m ∅ = (t.getD m ∅).erase name := by
  rw [unwatch, Std.ExtTreeMap.getD_alter_self, Std.ExtTreeMap.getD_eq_getD_getElem?]
  cases t[m]? with
  | none => simp
  | some names =>
    show (if (names.erase name).isEmpty then none else some (names.erase name)).getD ∅ = _
    split
    case isTrue last => exact (Std.ExtTreeSet.isEmpty_iff.mp last).symm
    case isFalse => rfl

theorem mem_getD_unwatch {t : Std.ExtTreeMap MethodId NameSet} :
    n ∈ (unwatch t name m).getD k ∅ ↔ n ∈ t.getD k ∅ ∧ ¬(m = k ∧ name = n) := by
  by_cases hk : m = k
  · subst hk
    rw [getD_unwatch_self, Std.ExtTreeSet.mem_erase]
    simp [and_comm]
  · rw [unwatch, Std.ExtTreeMap.getD_alter]
    simp [hk]

theorem Needed.unwatch {t : Std.ExtTreeMap MethodId NameSet} (h : Needed t) :
    Needed (WaitList.unwatch t name m) := by
  intro k names hk
  rw [WaitList.unwatch, Std.ExtTreeMap.getElem?_alter] at hk
  split at hk
  · obtain ⟨old, _, hk⟩ := Option.bind_eq_some_iff.mp hk
    simp only [Option.ite_none_left_eq_some, Option.some.injEq] at hk
    rw [← hk.2]
    exact fun empty => hk.1 (Std.ExtTreeSet.isEmpty_iff.mpr empty)
  · exact h k names hk

theorem Needed.watch {t : Std.ExtTreeMap MethodId NameSet} (h : Needed t) :
    Needed (WaitList.watch t name m) := by
  intro k names hk
  rw [WaitList.watch, Std.ExtTreeMap.getElem?_insert] at hk
  split at hk
  · rw [Option.some.injEq] at hk
    exact hk ▸ Std.ExtTreeSet.ne_empty_of_mem Std.ExtTreeSet.mem_insert_self
  · exact h k names hk

theorem mem_getD_foldl_unwatch {t : Std.ExtTreeMap MethodId NameSet} {ms : List MethodId} :
    n ∈ (ms.foldl (unwatch · name ·) t).getD k ∅ ↔ n ∈ t.getD k ∅ ∧ ¬(k ∈ ms ∧ name = n) := by
  have gone := foldl_iff (unwatch · name ·) (n ∉ ·.getD k ∅) (fun m => m = k ∧ name = n)
    (fun t m => by rw [mem_getD_unwatch, not_and_or, not_not]) t ms
  rw [← not_iff_not, gone]
  simp [imp_iff_not_or]

theorem mem_getD_foldl_watch {t : Std.ExtTreeMap MethodId NameSet} {ms : List MethodId} :
    n ∈ (ms.foldl (watch · name ·) t).getD k ∅ ↔ n ∈ t.getD k ∅ ∨ k ∈ ms ∧ name = n := by
  rw [foldl_iff (watch · name ·) (n ∈ ·.getD k ∅) (fun m => m = k ∧ name = n)
    (fun _ _ => mem_getD_insert_insert)]
  simp

theorem mem_mergeEntryPoints {known added : List MethodId} {e : MethodId} :
    e ∈ mergeEntryPoints known added ↔ e ∈ known ∨ e ∈ added := by
  unfold mergeEntryPoints
  rw [foldl_iff _ (e ∈ ·) (· = e)]
  · simp
  · intro eps k
    split
    case isTrue old =>
      rw [List.contains_iff_mem] at old
      refine (or_iff_left_of_imp ?_).symm
      rintro rfl
      exact old
    case isFalse => rw [List.mem_append, List.mem_singleton, eq_comm]

theorem mergeEntryPoints_nodup {known added : List MethodId} (h : known.Nodup) :
    (mergeEntryPoints known added).Nodup := by
  refine List.foldlRecOn added _ h fun eps heps e _ => ?_
  split
  case isTrue => exact heps
  case isFalse new =>
    rw [List.contains_iff_mem] at new
    refine List.nodup_append.mpr ⟨heps, by simp, fun a ha b hb => ?_⟩
    rw [List.mem_singleton] at hb
    exact fun hab => new (hb ▸ hab ▸ ha)

theorem mergeEntryPoints_of_nodup {known added : List MethodId} (h : (known ++ added).Nodup) :
    mergeEntryPoints known added = known ++ added := by
  induction added generalizing known with
  | nil => simp [mergeEntryPoints]
  | cons e rest ih =>
    have new : known.contains e = false := by
      rw [← Bool.not_eq_true, List.contains_iff_mem]
      intro old
      exact (List.nodup_append.mp h).2.2 e old e List.mem_cons_self rfl
    rw [mergeEntryPoints, List.foldl_cons, new, if_neg Bool.false_ne_true, ← mergeEntryPoints, ih]
    · simp
    · simpa using h

theorem mergeEntryPoints_of_subset {known added : List MethodId} (h : ∀ e ∈ added, e ∈ known) :
    mergeEntryPoints known added = known := by
  induction added with
  | nil => rfl
  | cons e rest ih =>
    have old : known.contains e = true := List.contains_iff_mem.mpr (h e List.mem_cons_self)
    rw [mergeEntryPoints, List.foldl_cons, old, if_pos rfl, ← mergeEntryPoints]
    exact ih fun e he => h e (List.mem_cons_of_mem _ he)

section Defer

variable {eps : List MethodId} {pending : MethodSet} {stillMissing : MethodId → Bool}

/-- Deferring a report changes its entry only. -/
theorem find?_defer :
    (w.defer name eps pending stillMissing).find? n =
      if name = n then
        if (w.deferral name eps pending stillMissing).waitingFor.isEmpty then none
        else some (w.deferral name eps pending stillMissing)
      else w.find? n := by
  unfold defer find?
  dsimp only
  by_cases hn : name = n
  · subst hn
    split <;> simp [*]
  · split <;> simp [Std.ExtTreeMap.getElem?_erase, Std.ExtTreeMap.getElem?_insert, hn]

theorem mem_waitingFor_deferral :
    m ∈ (w.deferral name eps pending stillMissing).waitingFor ↔
      (∃ d, w.find? name = some d ∧ m ∈ d.waitingFor ∧ stillMissing m) ∨ m ∈ pending := by
  unfold deferral
  rw [Std.ExtTreeSet.mem_union_iff]
  cases w.find? name with
  | none => simp
  | some d => simp

theorem mem_entryPoints_deferral {e : MethodId} :
    e ∈ (w.deferral name eps pending stillMissing).entryPoints ↔
      (∃ d, w.find? name = some d ∧ e ∈ d.entryPoints) ∨ e ∈ eps := by
  unfold deferral
  rw [mem_mergeEntryPoints]
  cases w.find? name with
  | none => simp
  | some d => simp

/-- A report that is deferred with the entry points it had keeps them. -/
theorem entryPoints_deferral_self (distinct : eps.Nodup)
    (same : ∀ d, w.find? name = some d → d.entryPoints = eps) :
    (w.deferral name eps pending stillMissing).entryPoints = eps := by
  rw [deferral]
  cases known : w.find? name with
  | none => exact mergeEntryPoints_of_nodup distinct
  | some d =>
    simp only [Option.getD_some, same d known]
    exact mergeEntryPoints_of_subset fun e he => he

/-- An entry that is deferred again for the same methods stays as it is. -/
theorem deferral_again {w' : WaitList}
    (known : w'.find? name = some (w.deferral name eps pending stillMissing)) :
    w'.deferral name eps pending stillMissing = w.deferral name eps pending stillMissing := by
  have entryPoints : (w'.deferral name eps pending stillMissing).entryPoints =
      (w.deferral name eps pending stillMissing).entryPoints := by
    rw [deferral, known]
    exact mergeEntryPoints_of_subset fun e he => mem_entryPoints_deferral.mpr (.inr he)
  have waitingFor : (w'.deferral name eps pending stillMissing).waitingFor =
      (w.deferral name eps pending stillMissing).waitingFor := by
    refine Std.ExtTreeSet.ext_mem fun m => ?_
    simp only [mem_waitingFor_deferral, known, Option.some.injEq, exists_eq_left']
    grind
  exact congrArg₂ (Deferred.mk name) entryPoints waitingFor

theorem Valid.deferral (h : w.Valid)
    (waits : (w.deferral name eps pending stillMissing).waitingFor.isEmpty = false) :
    (w.deferral name eps pending stillMissing).Proper name where
  named := rfl
  waits := Std.ExtTreeSet.isEmpty_eq_false_iff.mp waits
  distinct := by
    refine mergeEntryPoints_nodup ?_
    cases hd : w.find? name with
    | none => exact List.nodup_nil
    | some d => exact (h.proper name d hd).distinct

theorem Valid.defer (h : w.Valid) : (w.defer name eps pending stillMissing).Valid where
  watched m n := by
    rw [find?_defer]
    simp only [WaitList.defer, mem_getD_foldl_watch, mem_getD_foldl_unwatch,
      Std.ExtTreeSet.mem_toList, h.watched]
    by_cases hn : name = n
    · subst hn
      have entry : (∃ d, (if (w.deferral name eps pending stillMissing).waitingFor.isEmpty then none
            else some (w.deferral name eps pending stillMissing)) = some d ∧ m ∈ d.waitingFor) ↔
          m ∈ (w.deferral name eps pending stillMissing).waitingFor := by
        split
        case isTrue none => simp [Std.ExtTreeSet.isEmpty_iff.mp none]
        case isFalse => simp
      rw [if_pos rfl, entry, mem_waitingFor_deferral]
      cases w.find? name with
      | none => simp
      | some d =>
        simp only [Option.elim_some, Option.some.injEq, exists_eq_left', and_true,
          mem_filter_iff, Bool.not_eq_true']
        cases stillMissing m <;> simp
    · simp [hn]
  needed := by
    refine List.foldlRecOn (motive := Needed) _ _ (List.foldlRecOn (motive := Needed) _ _ h.needed ?_) ?_
    · exact fun t ht m _ => ht.unwatch
    · exact fun t ht m _ => ht.watch
  proper n d hd := by
    rw [find?_defer] at hd
    split at hd
    case isTrue hn =>
      subst hn
      simp only [Option.ite_none_left_eq_some, Option.some.injEq, Bool.not_eq_true] at hd
      exact hd.2 ▸ h.deferral hd.1
    case isFalse => exact h.proper n d hd

end Defer

theorem find?_remove : (w.remove name).find? n = if name = n then none else w.find? n := by
  unfold remove
  split
  case h_1 none =>
    by_cases hn : name = n
    · rw [if_pos hn, ← hn, none]
    · rw [if_neg hn]
  case h_2 =>
    rw [find?, Std.ExtTreeMap.getElem?_erase]
    simp [find?]

theorem Valid.remove (h : w.Valid) : (w.remove name).Valid where
  watched m n := by
    rw [find?_remove]
    unfold WaitList.remove
    split
    case h_1 none =>
      by_cases hn : name = n
      · subst hn
        simp [h.watched, none]
      · simp [h.watched, hn]
    case h_2 d hd =>
      rw [mem_getD_foldl_unwatch, h.watched]
      by_cases hn : name = n
      · subst hn
        simp [hd]
      · simp [hn]
  needed := by
    unfold WaitList.remove
    split
    · exact h.needed
    · exact List.foldlRecOn (motive := Needed) _ _ h.needed fun t ht m _ => ht.unwatch
  proper n d hd := by
    rw [find?_remove] at hd
    split at hd
    · simp at hd
    · exact h.proper n d hd

theorem watchers_cross : (cross m w name).1.watchers = w.watchers := by
  unfold cross
  split
  · rfl
  · dsimp only
    split <;> rfl

theorem find?_cross :
    (cross m w name).1.find? n =
      if name = n then (w.find? n).bind (·.awaiting? [m]) else w.find? n := by
  unfold cross
  split
  case h_1 none =>
    by_cases hn : name = n
    · rw [if_pos hn, ← hn, none, Option.bind_none]
    · rw [if_neg hn]
  case h_2 d hd =>
    dsimp only
    by_cases hn : name = n
    · subst hn
      rw [if_pos rfl, hd, Option.bind_some, Deferred.awaiting?_singleton]
      split <;> simp [find?]
    · rw [if_neg hn]
      split <;> simp [find?, Std.ExtTreeMap.getElem?_erase, Std.ExtTreeMap.getElem?_insert, hn]

theorem released_cross {e : Deferred} :
    (cross m w name).2 = some e ↔
      ∃ d, w.find? name = some d ∧ d.awaiting? [m] = none ∧ e = d.freed := by
  unfold cross
  split
  case h_1 none => simp [none]
  case h_2 d hd =>
    simp only [hd, Option.some.injEq, exists_eq_left', Deferred.awaiting?_singleton]
    split
    case isTrue last =>
      have last := Std.ExtTreeSet.isEmpty_iff.mp last
      simp [Deferred.freed, last, eq_comm]
    case isFalse => simp

/-- Crossing a method off several entries, one after the other. -/
theorem foldl_cross {names : List String} (distinct : names.Nodup) (w : WaitList)
    (acc : List Deferred) :
    let s := names.foldl
      (fun s name => ((cross m s.1 name).1, s.2 ++ (cross m s.1 name).2.toList)) (w, acc)
    s.1.watchers = w.watchers ∧
      (∀ n, s.1.find? n =
        if n ∈ names then (w.find? n).bind (·.awaiting? [m]) else w.find? n) ∧
      ∀ e, e ∈ s.2 ↔ e ∈ acc ∨
        ∃ n ∈ names, ∃ d, w.find? n = some d ∧ d.awaiting? [m] = none ∧ e = d.freed := by
  induction names generalizing w acc with
  | nil => simp
  | cons name rest ih =>
    obtain ⟨fresh, distinct⟩ := List.nodup_cons.mp distinct
    obtain ⟨watchers, entries, released⟩ :=
      ih distinct (cross m w name).1 (acc ++ (cross m w name).2.toList)
    refine ⟨watchers.trans watchers_cross, fun n => ?_, fun e => ?_⟩
    · rw [List.foldl_cons, entries n, find?_cross]
      by_cases hn : name = n
      · subst hn
        simp [fresh]
      · simp [hn, Ne.symm hn]
    · rw [List.foldl_cons, released e, List.mem_append, Option.mem_toList, released_cross, or_assoc]
      have rest_eq : (∃ n ∈ rest, ∃ d, (cross m w name).1.find? n = some d ∧
          d.awaiting? [m] = none ∧ e = d.freed) ↔
          ∃ n ∈ rest, ∃ d, w.find? n = some d ∧ d.awaiting? [m] = none ∧ e = d.freed := by
        refine exists_congr fun n => and_congr_right fun hn => ?_
        rw [find?_cross, if_neg (by rintro rfl; exact fresh hn)]
      rw [rest_eq]
      simp

/-- An entry is returned under the name at which it was crossed off. -/
theorem foldl_cross_names (names : List String) (w : WaitList) (acc : List Deferred)
    (named : ∀ n d, w.find? n = some d → d.name = n) :
    ∃ freed, (names.foldl
        (fun s name => ((cross m s.1 name).1, s.2 ++ (cross m s.1 name).2.toList)) (w, acc)).2 =
          acc ++ freed ∧ (freed.map (·.name)).Sublist names := by
  induction names generalizing w acc with
  | nil => exact ⟨[], (List.append_nil acc).symm, List.Sublist.refl _⟩
  | cons name rest ih =>
    have named' : ∀ n d, (cross m w name).1.find? n = some d → d.name = n := by
      intro n d hd
      rw [find?_cross] at hd
      split at hd
      · obtain ⟨old, hold, left⟩ := Option.bind_eq_some_iff.mp hd
        exact (Deferred.awaiting?_eq_some left).1.trans (named n old hold)
      · exact named n d hd
    obtain ⟨freed, listed, sublist⟩ :=
      ih (cross m w name).1 (acc ++ (cross m w name).2.toList) named'
    refine ⟨(cross m w name).2.toList ++ freed, ?_, ?_⟩
    · rw [List.foldl_cons, listed, List.append_assoc]
    · cases hit : (cross m w name).2 with
      | none => exact sublist.cons name
      | some e =>
        obtain ⟨d, hd, _, rfl⟩ := released_cross.mp hit
        have same : d.freed.name = name := named name d hd
        simpa [same] using sublist

theorem find?_release (h : w.Valid) :
    (w.release m).1.find? n = (w.find? n).bind (·.awaiting? [m]) := by
  obtain ⟨_, entries, _⟩ := foldl_cross (m := m) (nodup_toList (w.watchers.getD m ∅))
    { w with watchers := w.watchers.erase m } []
  rw [show (w.release m).1.find? n = _ from entries n]
  split
  case isTrue => rfl
  case isFalse idle =>
    rw [Std.ExtTreeSet.mem_toList, h.watched] at idle
    show w.find? n = _
    cases hd : w.find? n with
    | none => rfl
    | some d =>
      have off : ∀ k ∈ d.waitingFor, k ∉ [m] := fun k hk hm =>
        idle ⟨d, hd, List.mem_singleton.mp hm ▸ hk⟩
      rw [Option.bind_some, Deferred.awaiting?_eq_self (h.proper n d hd).waits off]

/-- An entry waits for none but the methods of `ms`, and is `e` once they are there. -/
def Frees (w : WaitList) (ms : List MethodId) (e : Deferred) : Prop :=
  ∃ n d, w.find? n = some d ∧ d.awaiting? ms = none ∧ e = d.freed

theorem mem_release (h : w.Valid) {e : Deferred} : e ∈ (w.release m).2 ↔ w.Frees [m] e := by
  obtain ⟨_, _, released⟩ := foldl_cross (m := m) (nodup_toList (w.watchers.getD m ∅))
    { w with watchers := w.watchers.erase m } []
  rw [show e ∈ (w.release m).2 ↔ _ from released e]
  constructor
  · rintro (h | ⟨n, _, d, hd⟩)
    · exact absurd h List.not_mem_nil
    · exact ⟨n, d, hd⟩
  · rintro ⟨n, d, hd, last, he⟩
    refine .inr ⟨n, ?_, d, hd, last, he⟩
    -- The entry waits for something, and for nothing but `m`.
    obtain ⟨k, hk⟩ := exists_mem_of_ne_empty (h.proper n d hd).waits
    have hkm := List.mem_singleton.mp (Deferred.awaiting?_eq_none.mp last k hk)
    rw [Std.ExtTreeSet.mem_toList, h.watched]
    exact ⟨d, hd, hkm ▸ hk⟩

theorem watchers_release : (w.release m).1.watchers = w.watchers.erase m :=
  (foldl_cross (nodup_toList (w.watchers.getD m ∅)) { w with watchers := w.watchers.erase m } []).1

theorem Valid.release (h : w.Valid) : (w.release m).1.Valid := by
  constructor
  case watched =>
    intro k n
    have left : (∃ d', (w.release m).1.find? n = some d' ∧ k ∈ d'.waitingFor) ↔
        ∃ d, w.find? n = some d ∧ k ∈ d.waitingFor ∧ k ∉ [m] := by
      rw [find?_release h]
      cases w.find? n with
      | none => simp
      | some d =>
        simp only [Option.bind_some, Option.some.injEq, exists_eq_left']
        exact Deferred.exists_awaiting?_mem
    rw [left, watchers_release, Std.ExtTreeMap.getD_erase]
    by_cases hk : m = k
    · simp [hk]
    · simpa [hk, Ne.symm hk] using h.watched k n
  case needed =>
    intro k names hk
    rw [watchers_release, Std.ExtTreeMap.getElem?_erase] at hk
    split at hk
    · simp at hk
    · exact h.needed k names hk
  case proper =>
    intro n d' hd'
    rw [find?_release h] at hd'
    obtain ⟨d, hd, left⟩ := Option.bind_eq_some_iff.mp hd'
    obtain ⟨name, eps, waits, _⟩ := Deferred.awaiting?_eq_some left
    have old := h.proper n d hd
    exact ⟨name.trans old.named, waits, eps ▸ old.distinct⟩

theorem not_frees_nil (h : w.Valid) {e : Deferred} : ¬w.Frees [] e := by
  rintro ⟨n, d, hd, none, _⟩
  obtain ⟨m, hm⟩ := exists_mem_of_ne_empty (h.proper n d hd).waits
  exact List.not_mem_nil (Deferred.awaiting?_eq_none.mp none m hm)

/-- An entry is freed by the first method, or by the others once the first is crossed off. -/
theorem frees_cons (h : w.Valid) {ms : List MethodId} {e : Deferred} :
    w.Frees (m :: ms) e ↔ w.Frees [m] e ∨ (w.release m).1.Frees ms e := by
  have both : ∀ d : Deferred, d.awaiting? (m :: ms) = (d.awaiting? [m]).bind (·.awaiting? ms) :=
    fun d => by rw [Deferred.awaiting?_bind, List.singleton_append]
  constructor
  · rintro ⟨n, d, hd, last, he⟩
    rw [both] at last
    cases left : d.awaiting? [m] with
    | none => exact .inl ⟨n, d, hd, left, he⟩
    | some d' =>
      rw [left, Option.bind_some] at last
      refine .inr ⟨n, d', ?_, last, he.trans (Deferred.freed_of_awaiting? left).symm⟩
      rw [find?_release h, hd, Option.bind_some, left]
  · rintro (⟨n, d, hd, last, he⟩ | ⟨n, d', hd', last, he⟩)
    · exact ⟨n, d, hd, by rw [both, last, Option.bind_none], he⟩
    · rw [find?_release h] at hd'
      obtain ⟨d, hd, left⟩ := Option.bind_eq_some_iff.mp hd'
      refine ⟨n, d, hd, ?_, he.trans (Deferred.freed_of_awaiting? left)⟩
      rw [both, left, Option.bind_some, last]

/-- What a list of methods leaves on the list, and what it takes off. -/
theorem foldl_release (ms : List MethodId) (h : w.Valid) (acc : List Released) :
    let s := ms.foldl
      (fun s m => ((s.1.release m).1, s.2 ++ (s.1.release m).2.map (⟨·, m⟩ : _ → Released))) (w, acc)
    s.1.Valid ∧ (∀ n, s.1.find? n = (w.find? n).bind (·.awaiting? ms)) ∧
      ∀ e, e ∈ s.2.map (·.entry) ↔ e ∈ acc.map (·.entry) ∨ w.Frees ms e := by
  induction ms generalizing w acc with
  | nil =>
    refine ⟨h, fun n => ?_, fun e => (or_iff_left (not_frees_nil h)).symm⟩
    show w.find? n = _
    cases hd : w.find? n with
    | none => rfl
    | some d =>
      rw [Option.bind_some, Deferred.awaiting?_eq_self (h.proper n d hd).waits]
      exact fun _ _ => List.not_mem_nil
  | cons m ms ih =>
    obtain ⟨valid, entries, released⟩ := ih h.release
      (acc ++ (w.release m).2.map (⟨·, m⟩ : _ → Released))
    refine ⟨valid, fun n => ?_, fun e => ?_⟩
    · rw [List.foldl_cons, entries n, find?_release h, Option.bind_assoc]
      simp only [Deferred.awaiting?_bind, List.singleton_append]
    · have now : e ∈ ((w.release m).2.map (⟨·, m⟩ : _ → Released)).map (·.entry) ↔
          w.Frees [m] e := by
        rw [← mem_release h]
        simp
      rw [frees_cons h, List.foldl_cons, released e, List.map_append, List.mem_append, now, or_assoc]

theorem nodup_names_release (h : w.Valid) : ((w.release m).2.map (·.name)).Nodup := by
  obtain ⟨freed, listed, sublist⟩ := foldl_cross_names (m := m) (w.watchers.getD m ∅).toList
    { w with watchers := w.watchers.erase m } [] fun n d hd => (h.proper n d hd).named
  rw [show (w.release m).2 = freed from listed]
  exact (nodup_toList _).sublist sublist

/-- What is returned has left the list, so no name is returned twice. -/
theorem nodup_foldl_release (ms : List MethodId) (h : w.Valid) (acc : List Released)
    (distinct : (acc.map (·.entry.name)).Nodup) (gone : ∀ r ∈ acc, w.find? r.entry.name = none) :
    ((ms.foldl (fun s m =>
        ((s.1.release m).1, s.2 ++ (s.1.release m).2.map (⟨·, m⟩ : _ → Released)))
      (w, acc)).2.map (·.entry.name)).Nodup := by
  induction ms generalizing w acc with
  | nil => exact distinct
  | cons m ms ih =>
    have listed : ∀ e ∈ (w.release m).2, ∃ d, w.find? e.name = some d ∧ d.awaiting? [m] = none := by
      intro e he
      obtain ⟨n, d, hd, last, rfl⟩ := (mem_release h).mp he
      refine ⟨d, ?_, last⟩
      rw [Deferred.freed, (h.proper n d hd).named]
      exact hd
    apply ih h.release
    · rw [List.map_append, List.map_map]
      refine List.nodup_append.mpr ⟨distinct, nodup_names_release h, ?_⟩
      intro a ha b hb same
      obtain ⟨r, hr, rfl⟩ := List.mem_map.mp ha
      obtain ⟨e, he, rfl⟩ := List.mem_map.mp hb
      obtain ⟨d, hd, _⟩ := listed e he
      have none := gone r hr
      rw [same] at none
      simp [hd] at none
    · intro r hr
      rw [find?_release h]
      rcases List.mem_append.mp hr with old | new
      · rw [gone r old, Option.bind_none]
      · obtain ⟨e, he, rfl⟩ := List.mem_map.mp new
        obtain ⟨d, hd, last⟩ := listed e he
        rw [hd, Option.bind_some, last]

theorem Valid.releaseEach (h : w.Valid) (ms : List MethodId) : (w.releaseEach ms).1.Valid :=
  (foldl_release ms h []).1

theorem find?_releaseEach (h : w.Valid) (ms : List MethodId) :
    (w.releaseEach ms).1.find? n = (w.find? n).bind (·.awaiting? ms) :=
  (foldl_release ms h []).2.1 n

/-- The entries taken off the list are those that wait for none but the given methods. -/
theorem mem_inNameOrder_releaseEach (h : w.Valid) (ms : List MethodId) {e : Deferred} :
    e ∈ inNameOrder (w.releaseEach ms).2 ↔ w.Frees ms e := by
  rw [inNameOrder, (List.mergeSort_perm _ _).mem_iff]
  exact ((foldl_release ms h []).2.2 e).trans (or_iff_right List.not_mem_nil)

theorem nodup_inNameOrder_releaseEach (h : w.Valid) (ms : List MethodId) :
    ((inNameOrder (w.releaseEach ms).2).map (·.name)).Nodup := by
  have each := nodup_foldl_release ms h [] List.nodup_nil fun _ hr => absurd hr List.not_mem_nil
  rw [inNameOrder, ((List.mergeSort_perm _ _).map _).nodup_iff, List.map_map]
  exact each

end WaitList

end DataTrail
