import DataTrail.Proofs.Survey

/-! How a program grows. A registered record stays as it is, and the dispatch table mirrors the
registry: its pairs are those that the registered records declare. So all that a call may run is
read off the registry, and what changes between a program and a later one is told by two relations:
a method arrives, or it gains an implementor. -/

namespace DataTrail

theorem Dispatch.isImplemented_iff {d : Dispatch} {i : MethodId} :
    d.isImplemented i ↔ ∃ j, j ∈ d.implementors i := by
  rw [isImplemented, Bool.not_eq_true', List.isEmpty_eq_false_iff_exists_mem]

theorem Dispatch.mem_implementors_add {d : Dispatch} {i m k j : MethodId} :
    j ∈ (d.add i m).implementors k ↔ j ∈ d.implementors k ∨ i = k ∧ m = j := by
  unfold add lists
  split
  case isTrue known =>
    have known : m ∈ d.implementors i := List.contains_iff_mem.mp known
    refine ⟨.inl, ?_⟩
    rintro (h | ⟨rfl, rfl⟩)
    · exact h
    · exact known
  case isFalse =>
    rw [implementors, Std.ExtTreeMap.getD_insert]
    by_cases hk : i = k
    · subst hk
      simp [eq_comm]
    · simp [hk, implementors]

theorem Dispatch.mem_implementors_foldl_add {d : Dispatch} {interfaces : List MethodId}
    {m k j : MethodId} :
    j ∈ (interfaces.foldl (fun d i => d.add i m) d).implementors k ↔
      j ∈ d.implementors k ∨ k ∈ interfaces ∧ m = j := by
  rw [foldl_iff (fun d i => add d i m) (j ∈ ·.implementors k) (fun i => i = k ∧ m = j)
    (fun _ _ => mem_implementors_add)]
  simp

theorem Registry.find?_register {r : Registry} {m j : MethodId} {record : Record} :
    (r.register m record).find? j = (r.find? j).or (if m = j then some record else none) := by
  unfold register find?
  rw [Std.ExtTreeMap.getElem?_insertIfNew]
  by_cases hj : m = j
  · subst hj
    cases h : r.records[m]? with
    | none => simp [Std.ExtTreeMap.mem_iff_isSome_getElem?, h]
    | some old => simp [Std.ExtTreeMap.mem_iff_isSome_getElem?, h]
  · simp [hj]

namespace Program

variable {p q : Program} {f : Facts} {i j m : MethodId} {r : Record}

theorem find?_register :
    (p.register f).registry.find? j =
      (p.registry.find? j).or (if f.method = j then some (.ofFacts f) else none) := by
  unfold register
  split
  case isTrue known =>
    rw [Registry.contains_eq_isSome_find?] at known
    by_cases hj : f.method = j
    · subst hj
      rw [Option.or_of_isSome known]
    · simp [hj]
  case isFalse => exact Registry.find?_register

theorem mem_implementors_register :
    j ∈ (p.register f).dispatch.implementors i ↔
      j ∈ p.dispatch.implementors i ∨
        p.registry.find? f.method = none ∧ i ∈ f.implements ∧ f.method = j := by
  unfold register
  rw [Registry.contains_eq_isSome_find?]
  split
  case isTrue known => simp [Option.isSome_iff_ne_none.mp known]
  case isFalse new =>
    rw [Dispatch.mem_implementors_foldl_add]
    simp [Option.not_isSome_iff_eq_none.mp new]

/-- The dispatch table has the pairs that the registered records declare, and no others. -/
def Mirrored (p : Program) : Prop :=
  ∀ i j, j ∈ p.dispatch.implementors i ↔ ∃ r, p.registry.find? j = some r ∧ i ∈ r.implements

theorem Mirrored.empty : Mirrored {} := by
  intro i j
  simp

theorem Mirrored.register (h : p.Mirrored) (f : Facts) : (p.register f).Mirrored := by
  intro i j
  rw [mem_implementors_register, find?_register, h i j]
  cases known : p.registry.find? j with
  | some old =>
    simp only [Option.some_or, Option.some.injEq]
    refine or_iff_left ?_
    rintro ⟨hnew, _, rfl⟩
    simp [hnew] at known
  | none =>
    by_cases hj : f.method = j
    · subst hj
      simp [known, Record.ofFacts]
    · simp [hj]

theorem Mirrored.isImplemented_iff (h : p.Mirrored) :
    p.dispatch.isImplemented i ↔ ∃ j r, p.registry.find? j = some r ∧ i ∈ r.implements := by
  simp only [Dispatch.isImplemented_iff, h i]

/-- A call of a method that is not implemented runs the method's own record. -/
theorem mem_recordsOf_own (h : p.dispatch.isImplemented m = false) :
    r ∈ p.recordsOf m ↔ p.registry.find? m = some r := by
  have none : p.dispatch.implementors m = [] := by
    simpa [Dispatch.isImplemented] using h
  simp [recordsOf, none]

/-- A call of an implemented method runs the records that declare to implement it. -/
theorem Mirrored.mem_recordsOf (h : p.Mirrored) (implemented : p.dispatch.isImplemented m) :
    r ∈ p.recordsOf m ↔ ∃ j, p.registry.find? j = some r ∧ m ∈ r.implements := by
  unfold recordsOf
  split
  case h_1 none => simp [Dispatch.isImplemented, none] at implemented
  case h_2 =>
    rw [List.mem_filterMap]
    constructor
    · rintro ⟨j, hj, hr⟩
      obtain ⟨r', hr', hm⟩ := (h m j).mp hj
      rw [hr, Option.some.injEq] at hr'
      exact ⟨j, hr, hr' ▸ hm⟩
    · rintro ⟨j, hr, hm⟩
      exact ⟨j, (h m j).mpr ⟨r, hr, hm⟩, hr⟩

theorem isMissing_iff : p.isMissing m ↔
    p.registry.find? m = none ∧ p.dispatch.isImplemented m = false := by
  simp [isMissing, Registry.contains_eq_isSome_find?]

/-- Everything registered in `p` is registered in `q`, with the same record. -/
def Extends (p q : Program) : Prop :=
  ∀ j r, p.registry.find? j = some r → q.registry.find? j = some r

theorem Extends.refl (p : Program) : p.Extends p := fun _ _ h => h

theorem Extends.trans {p q s : Program} (h1 : p.Extends q) (h2 : q.Extends s) : p.Extends s :=
  fun j r h => h2 j r (h1 j r h)

theorem extends_register (p : Program) (f : Facts) : p.Extends (p.register f) := by
  intro j r h
  rw [find?_register, h, Option.some_or]

/-- `m` is registered in `q`, but not yet in `p`. -/
def Arrives (p q : Program) (m : MethodId) : Prop :=
  p.registry.find? m = none ∧ q.registry.find? m ≠ none

/-- A method that arrives between `p` and `q` implements `i`. -/
def Gains (p q : Program) (i : MethodId) : Prop :=
  ∃ j r, p.registry.find? j = none ∧ q.registry.find? j = some r ∧ i ∈ r.implements

theorem not_gains_self (p : Program) (i : MethodId) : ¬p.Gains p i := by
  rintro ⟨j, r, hn, hr, _⟩
  simp [hn] at hr

theorem not_arrives_self (p : Program) (m : MethodId) : ¬p.Arrives p m :=
  fun h => h.2 h.1

theorem Extends.find?_none (h : p.Extends q) (hq : q.registry.find? j = none) :
    p.registry.find? j = none := by
  cases hp : p.registry.find? j with
  | none => rfl
  | some r => simp [h j r hp] at hq

theorem gains_trans {s : Program} (h1 : p.Extends q) (h2 : q.Extends s) :
    p.Gains s i ↔ p.Gains q i ∨ q.Gains s i := by
  constructor
  · rintro ⟨j, r, hp, hs, hi⟩
    cases hq : q.registry.find? j with
    | none => exact .inr ⟨j, r, hq, hs, hi⟩
    | some r' =>
      have hr := h2 j r' hq
      rw [hs, Option.some.injEq] at hr
      exact .inl ⟨j, r', hp, hq, hr ▸ hi⟩
  · rintro (⟨j, r, hp, hq, hi⟩ | ⟨j, r, hq, hs, hi⟩)
    · exact ⟨j, r, hp, h2 j r hq, hi⟩
    · exact ⟨j, r, h1.find?_none hq, hs, hi⟩

theorem arrives_trans {s : Program} (h1 : p.Extends q) (h2 : q.Extends s) :
    p.Arrives s m ↔ p.Arrives q m ∨ q.Arrives s m := by
  constructor
  · rintro ⟨hp, hs⟩
    by_cases hq : q.registry.find? m = none
    · exact .inr ⟨hq, hs⟩
    · exact .inl ⟨hp, hq⟩
  · rintro (⟨hp, hq⟩ | ⟨hq, hs⟩)
    · exact ⟨hp, fun hs => hq (h2.find?_none hs)⟩
    · exact ⟨h1.find?_none hq, hs⟩

/-- The first registration of a method brings it and a new implementor for its interfaces. -/
theorem gains_register (new : p.registry.find? f.method = none) :
    p.Gains (p.register f) i ↔ i ∈ f.implements := by
  simp only [Gains, find?_register]
  constructor
  · rintro ⟨j, r, hp, hq, hi⟩
    rw [hp, Option.none_or] at hq
    split at hq
    · rw [Option.some.injEq] at hq
      simpa [← hq, Record.ofFacts] using hi
    · simp at hq
  · intro hi
    exact ⟨f.method, .ofFacts f, new, by simp [new], by simpa [Record.ofFacts] using hi⟩

theorem arrives_register (new : p.registry.find? f.method = none) :
    p.Arrives (p.register f) m ↔ f.method = m := by
  simp only [Arrives, find?_register]
  constructor
  · rintro ⟨hp, hq⟩
    rw [hp, Option.none_or] at hq
    by_contra hm
    simp [hm] at hq
  · rintro rfl
    exact ⟨new, by simp [new]⟩

/-- A later program implements what the earlier one does and what has gained an implementor. -/
theorem Extends.isImplemented_iff (h : p.Extends q) (hp : p.Mirrored) (hq : q.Mirrored) :
    q.dispatch.isImplemented i ↔ p.dispatch.isImplemented i ∨ p.Gains q i := by
  rw [hp.isImplemented_iff, hq.isImplemented_iff]
  constructor
  · rintro ⟨j, r, hr, hi⟩
    cases old : p.registry.find? j with
    | none => exact .inr ⟨j, r, old, hr, hi⟩
    | some r' =>
      have same := h j r' old
      rw [hr, Option.some.injEq] at same
      exact .inl ⟨j, r', old, same ▸ hi⟩
  · rintro (⟨j, r, hr, hi⟩ | ⟨j, r, _, hr, hi⟩)
    · exact ⟨j, r, h j r hr, hi⟩
    · exact ⟨j, r, hr, hi⟩

/-- What is missing in an earlier program is missing later unless it arrives or gains an
implementor. -/
theorem Extends.isMissing_iff (h : p.Extends q) (hp : p.Mirrored) (hq : q.Mirrored) :
    q.isMissing m ↔ p.isMissing m ∧ ¬p.Arrives q m ∧ ¬p.Gains q m := by
  have implemented := h.isImplemented_iff (i := m) hp hq
  simp only [Program.isMissing_iff, ← Bool.not_eq_true, implemented, Arrives]
  constructor
  · rintro ⟨hr, hi⟩
    exact ⟨⟨h.find?_none hr, fun hi' => hi (.inl hi')⟩, fun ha => ha.2 hr, fun hg => hi (.inr hg)⟩
  · rintro ⟨⟨hr, hi⟩, ha, hg⟩
    exact ⟨by_contra fun hr' => ha ⟨hr, hr'⟩, fun h' => h'.elim hi hg⟩

/-- A call of a method that is known and gains no implementor means the same later. -/
theorem Extends.agreeAt (h : p.Extends q) (hp : p.Mirrored) (hq : q.Mirrored)
    (known : p.isMissing m = false) (same : ¬p.Gains q m) : p.AgreeAt q m := by
  have implemented : p.dispatch.isImplemented m = q.dispatch.isImplemented m := by
    rw [Bool.eq_iff_iff, h.isImplemented_iff hp hq, or_iff_left same]
  have later : q.isMissing m = false := by
    rw [← Bool.not_eq_true, h.isMissing_iff hp hq, known]
    simp
  refine ⟨implemented, known.trans later.symm, fun r => ?_⟩
  by_cases hi : p.dispatch.isImplemented m = true
  · rw [hp.mem_recordsOf hi, hq.mem_recordsOf (implemented ▸ hi)]
    constructor
    · rintro ⟨j, hr, hm⟩
      exact ⟨j, h j r hr, hm⟩
    · rintro ⟨j, hr, hm⟩
      cases old : p.registry.find? j with
      | none => exact absurd ⟨j, r, old, hr, hm⟩ same
      | some r' =>
        have hr' := h j r' old
        rw [hr, Option.some.injEq] at hr'
        exact ⟨j, hr' ▸ old, hm⟩
  · rw [Bool.not_eq_true] at hi
    rw [mem_recordsOf_own hi, mem_recordsOf_own (implemented ▸ hi)]
    refine ⟨h m r, fun hr => ?_⟩
    cases old : p.registry.find? m with
    | none => simp [Program.isMissing_iff.mpr ⟨old, hi⟩] at known
    | some r' =>
      have hr' := h m r' old
      rwa [hr, eq_comm] at hr'

/-- `m` has a record and no implementor in `p`, and has implementors in `q`: a call of it no longer
runs its own record. -/
def Overtaken (p q : Program) (m : MethodId) : Prop :=
  p.registry.find? m ≠ none ∧ p.dispatch.isImplemented m = false ∧ q.dispatch.isImplemented m

/-- A method that is not overtaken keeps the records that a call of it may run. -/
theorem Extends.recordsOf_subset (h : p.Extends q) (hp : p.Mirrored) (hq : q.Mirrored)
    (kept : ¬p.Overtaken q m) (hr : r ∈ p.recordsOf m) : r ∈ q.recordsOf m := by
  by_cases hi : p.dispatch.isImplemented m = true
  · obtain ⟨j, hj, hm⟩ := (hp.mem_recordsOf hi).mp hr
    have hi := (h.isImplemented_iff hp hq).mpr (.inl hi)
    exact (hq.mem_recordsOf hi).mpr ⟨j, h j r hj, hm⟩
  · rw [Bool.not_eq_true] at hi
    have hr := (mem_recordsOf_own hi).mp hr
    have hi : q.dispatch.isImplemented m = false := by
      by_contra hq
      exact kept ⟨by simp [hr], hi, by simpa using hq⟩
    exact (mem_recordsOf_own hi).mpr (h m r hr)

theorem Extends.calleesOf_subset (h : p.Extends q) (hp : p.Mirrored) (hq : q.Mirrored)
    (kept : ¬p.Overtaken q m) {k : MethodId} (hk : k ∈ p.calleesOf m) : k ∈ q.calleesOf m := by
  obtain ⟨r, hr, hk⟩ := mem_calleesOf.mp hk
  exact mem_calleesOf.mpr ⟨r, h.recordsOf_subset hp hq kept hr, hk⟩

/-- Control gets from `e` to `m` in `p`, past no method that is overtaken in `q`; `m` itself may
be. -/
inductive Clear (p q : Program) (e : MethodId) : MethodId → Prop where
  | refl : Clear p q e e
  | call {n k : MethodId} : Clear p q e n → ¬p.Overtaken q n → k ∈ p.calleesOf n → Clear p q e k

/-- What is reached in the clear stays reached. -/
theorem Extends.reaches_of_clear (h : p.Extends q) (hp : p.Mirrored) (hq : q.Mirrored)
    {e : MethodId} (hm : p.Clear q e m) : q.Reaches e m := by
  induction hm with
  | refl => exact .refl
  | call _ kept hk ih => exact .call ih (h.calleesOf_subset hp hq kept hk)

/-- `k` is the first method on a way from `e` whose own record is read in `p`, and its implementors
in `q`. -/
structure DivertedAt (p q : Program) (e k : MethodId) : Prop where
  clear : p.Clear q e k
  overtaken : p.Overtaken q k

theorem Reaches.clear_or {e : MethodId} (h : p.Reaches e m) (q : Program) :
    p.Clear q e m ∨ ∃ k, p.DivertedAt q e k ∧ p.Reaches k m := by
  induction h with
  | refl => exact .inl .refl
  | @call n m _ hm ih =>
    rcases ih with clear | ⟨k, diverted, below⟩
    · by_cases overtaken : p.Overtaken q n
      · exact .inr ⟨n, ⟨clear, overtaken⟩, .call .refl hm⟩
      · exact .inl (.call clear overtaken hm)
    · exact .inr ⟨k, diverted, .call below hm⟩

/-- As long as no method is overtaken, more and more is reached. -/
theorem Extends.reaches (h : p.Extends q) (hp : p.Mirrored) (hq : q.Mirrored)
    (kept : ∀ m, ¬p.Overtaken q m) {e : MethodId} (hm : p.Reaches e m) : q.Reaches e m := by
  rcases hm.clear_or q with clear | ⟨k, diverted, _⟩
  · exact h.reaches_of_clear hp hq clear
  · exact absurd diverted.overtaken (kept k)

section Registered

variable (fs : List Facts)

theorem find?_foldl_register :
    (fs.foldl register p).registry.find? j =
      (p.registry.find? j).or ((fs.find? (·.method = j)).map .ofFacts) := by
  induction fs generalizing p with
  | nil => simp
  | cons f rest ih =>
    rw [List.foldl_cons, ih, find?_register, Option.or_assoc, List.find?_cons]
    by_cases hj : f.method = j <;> simp [hj]

theorem contains_foldl_register {fs : List Facts} (listed : f ∈ fs) :
    (fs.foldl register p).registry.contains f.method := by
  have found : (fs.find? (·.method = f.method)).isSome :=
    List.find?_isSome.mpr ⟨f, listed, by simp⟩
  rw [Registry.contains_eq_isSome_find?, find?_foldl_register, Option.isSome_or,
    Option.isSome_map, found, Bool.or_true]

theorem Mirrored.foldl_register (h : p.Mirrored) : (fs.foldl Program.register p).Mirrored := by
  induction fs generalizing p with
  | nil => exact h
  | cons f rest ih => exact ih (h.register f)

theorem extends_foldl_register (p : Program) : p.Extends (fs.foldl register p) := by
  intro j r h
  rw [find?_foldl_register, h, Option.some_or]

end Registered

end Program

end DataTrail
