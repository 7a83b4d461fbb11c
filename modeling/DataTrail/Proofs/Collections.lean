import Mathlib.Data.List.Forall2
import Mathlib.Data.List.Induction
import Std.Data.ExtTreeMap
import Std.Data.ExtTreeSet

/-! What a fold over a list adds up to, lists that are read item by item, and maps to sets read as
relations: a key is related to the members of its set. -/

namespace DataTrail

/-- If each step makes `P` true just when its item satisfies `Q`, and never makes it false, the fold
ends in `P` just when it began there or met such an item. -/
theorem foldl_iff {σ β : Type} (step : σ → β → σ) (P : σ → Prop) (Q : β → Prop)
    (h : ∀ s b, P (step s b) ↔ P s ∨ Q b) (s : σ) (items : List β) :
    P (items.foldl step s) ↔ P s ∨ ∃ b ∈ items, Q b := by
  induction items generalizing s with
  | nil => simp
  | cons b rest ih =>
    rw [List.foldl_cons, ih, h]
    simp [or_assoc]

theorem mapM_eq_some_iff {α β : Type} {f : α → Option β} {items : List α} {results : List β} :
    items.mapM f = some results ↔ List.Forall₂ (fun a b => f a = some b) items results := by
  induction items generalizing results with
  | nil => cases results <;> simp
  | cons a rest ih => cases results <;> simp [List.mapM_cons, Option.bind_eq_some_iff, ih]

theorem nodup_eraseDups {α : Type} [DecidableEq α] : ∀ items : List α, items.eraseDups.Nodup
  | [] => List.nodup_nil
  | a :: rest => by
    rw [List.eraseDups_cons]
    refine List.nodup_cons.mpr ⟨?_, nodup_eraseDups _⟩
    simp [List.mem_eraseDups]
termination_by items => items.length
decreasing_by exact Nat.lt_succ_of_le (List.length_filter_le _ _)

/-- Removing repetitions keeps items in the order in which they first occur. -/
theorem pairwise_idxOf_eraseDups {α : Type} [DecidableEq α] (items : List α) :
    items.eraseDups.Pairwise fun a b => items.idxOf a < items.idxOf b := by
  induction items using List.reverseRecOn with
  | nil => exact List.Pairwise.nil
  | append_singleton items a ih =>
    have before : ∀ b ∈ items.eraseDups, (items ++ [a]).idxOf b = items.idxOf b := by
      intro b mem
      exact List.idxOf_append_of_mem (List.mem_eraseDups.mp mem)
    have kept : items.eraseDups.Pairwise
        fun b c => (items ++ [a]).idxOf b < (items ++ [a]).idxOf c := by
      refine ih.imp_of_mem fun {b c} hb hc lt => ?_
      rwa [before b hb, before c hc]
    rw [List.eraseDups_append]
    by_cases old : a ∈ items
    · have none : ([a].removeAll items).eraseDups = [] := by simp [List.removeAll, old]
      rwa [none, List.append_nil]
    · have one : ([a].removeAll items).eraseDups = [a] := by
        simp [List.removeAll, old, List.eraseDups_cons]
      rw [one, List.pairwise_append]
      refine ⟨kept, List.pairwise_singleton _ a, fun b hb c hc => ?_⟩
      obtain rfl := List.mem_singleton.mp hc
      have inside := List.idxOf_lt_length_iff.mpr (List.mem_eraseDups.mp hb)
      rw [before b hb, List.idxOf_append_of_notMem old]
      omega

theorem exists_mem_of_ne_empty {α : Type} [Ord α] [Std.TransOrd α] {s : Std.ExtTreeSet α}
    (h : s ≠ ∅) : ∃ a, a ∈ s := by
  refine Classical.byContradiction fun none => ?_
  exact h (Std.ExtTreeSet.eq_empty_iff_forall_not_mem.mpr fun a ha => none ⟨a, ha⟩)

theorem values_eq_map_toList {α β : Type} [Ord α] [Std.TransOrd α] (t : Std.ExtTreeMap α β) :
    t.values = t.toList.map (·.2) := by
  -- The library says this of the trees below the maps only.
  obtain ⟨⟨m⟩⟩ := t
  induction m using Quotient.inductionOn with
  | h m =>
    show m.inner.values = (Std.DTreeMap.Internal.Impl.Const.toList m.inner).map (·.2)
    rw [Std.DTreeMap.Internal.Impl.values_eq_map_snd,
      Std.DTreeMap.Internal.Impl.Const.toList_eq_toListModel_map]
    simp

section Relation

variable {α β : Type} [Ord α] [Std.TransOrd α] [Std.LawfulEqOrd α] [Ord β] [Std.TransOrd β]
  [Std.LawfulEqOrd β]

theorem mem_filter_iff {s : Std.ExtTreeSet α} {f : α → Bool} {a : α} :
    a ∈ s.filter f ↔ a ∈ s ∧ f a := by
  simp [Std.ExtTreeSet.mem_filter]

theorem nodup_toList (s : Std.ExtTreeSet α) : s.toList.Nodup := by
  refine Std.ExtTreeSet.distinct_toList.imp ?_
  rintro a b h rfl
  exact h Std.ReflOrd.compare_self

/-- Adding `b` to the set of `a` relates the two and changes nothing else. -/
theorem mem_getD_insert_insert {t : Std.ExtTreeMap α (Std.ExtTreeSet β)} {a a' : α} {b b' : β} :
    b' ∈ (t.insert a ((t.getD a ∅).insert b)).getD a' ∅ ↔ b' ∈ t.getD a' ∅ ∨ a = a' ∧ b = b' := by
  rw [Std.ExtTreeMap.getD_insert]
  by_cases ha : a = a'
  · subst ha
    simp [or_comm]
  · simp [ha]

theorem insert_insert_eq_self {t : Std.ExtTreeMap α (Std.ExtTreeSet β)} {a : α} {b : β}
    (h : b ∈ t.getD a ∅) : t.insert a ((t.getD a ∅).insert b) = t := by
  have same : (t.getD a ∅).insert b = t.getD a ∅ := by
    refine Std.ExtTreeSet.ext_mem fun c => ?_
    rw [Std.ExtTreeSet.mem_insert, Std.LawfulEqCmp.compare_eq_iff_eq, or_iff_right_of_imp]
    rintro rfl
    exact h
  refine Std.ExtTreeMap.ext_getElem? fun k => ?_
  rw [Std.ExtTreeMap.getElem?_insert, same]
  by_cases hk : a = k
  · subst hk
    rw [Std.ExtTreeMap.getD_eq_getD_getElem?] at h ⊢
    cases found : t[a]? with
    | none => simp [found] at h
    | some names => simp
  · simp [hk]

end Relation

end DataTrail
