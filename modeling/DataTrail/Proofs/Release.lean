import Mathlib.Data.List.Induction
import DataTrail.Proofs.Survey
import DataTrail.Proofs.WaitList

/-! The wait-list under all its operations, in any order. Each of them keeps the two halves of the
list in step, so they agree whatever was done. A batch of methods releases the entries that wait for
nothing else, in the order of their names, whichever way the batch is listed. -/

namespace DataTrail

namespace WaitList

variable {w : WaitList}

/-- What can be done to a wait-list. -/
inductive Operation where
  | defer (name : String) (entryPoints : List MethodId) (pending : MethodSet)
      (stillMissing : MethodId → Bool)
  | release (m : MethodId)
  | releaseAll (methods : List MethodId)
  | remove (name : String)
  | drain

/-- The list after an operation. -/
def perform (w : WaitList) : Operation → WaitList
  | .defer name entryPoints pending stillMissing => w.defer name entryPoints pending stillMissing
  | .release m => (w.release m).1
  | .releaseAll methods => (w.releaseAll methods).1
  | .remove name => w.remove name
  | .drain => w.drain.1

/-- A new list after a number of operations. -/
def afterAll (operations : List Operation) : WaitList := operations.foldl perform .empty

theorem Valid.perform (h : w.Valid) (operation : Operation) : (w.perform operation).Valid := by
  cases operation with
  | defer name entryPoints pending stillMissing => exact h.defer
  | release m => exact h.release
  | releaseAll methods => exact h.releaseEach methods
  | remove name => exact h.remove
  | drain => exact Valid.empty

theorem valid_afterAll (operations : List Operation) : (afterAll operations).Valid := by
  induction operations using List.reverseRecOn with
  | nil => exact Valid.empty
  | append_singleton operations operation ih =>
    rw [afterAll, List.foldl_append]
    exact ih.perform operation

/-- Whatever was done to the list, a name is found from a method just when its entry waits for the
method, no method is kept for nobody, and every entry waits for something, stands under its own name
and has each entry point once. -/
theorem halves_agree (operations : List Operation) :
    let w := afterAll operations
    (∀ m n, n ∈ w.watchers.getD m ∅ ↔ ∃ d, w.find? n = some d ∧ m ∈ d.waitingFor) ∧
      (∀ (m : MethodId) (names : NameSet), w.watchers[m]? = some names → names ≠ ∅) ∧
      ∀ n d, w.find? n = some d → d.waitingFor ≠ ∅ ∧ d.name = n ∧ d.entryPoints.Nodup := by
  intro w
  have valid := valid_afterAll operations
  refine ⟨valid.watched, valid.needed, fun n d waits => ?_⟩
  obtain ⟨named, waits, distinct⟩ := valid.proper n d waits
  exact ⟨waits, named, distinct⟩

/-- Sorting puts the names in order, and no two entries on the list have the same name. -/
theorem increasing_inNameOrder_releaseEach (h : w.Valid) (ms : List MethodId) :
    Increasing ((inNameOrder (w.releaseEach ms).2).map (·.name)) := by
  have distinct := nodup_inNameOrder_releaseEach h ms
  have sorted : ((inNameOrder (w.releaseEach ms).2).map (·.name)).Pairwise
      fun a b => (compare a b).isLE := by
    rw [List.pairwise_map]
    apply List.pairwise_mergeSort
    · intro a b c
      exact Std.TransCmp.isLE_trans
    · intro a b
      rw [Std.OrientedOrd.eq_swap (a := b.name)]
      cases compare a.name b.name <;> rfl
  refine (sorted.and distinct).imp ?_
  rintro a b ⟨le, ne⟩
  cases order : compare a b with
  | lt => rfl
  | eq => exact absurd (Std.LawfulEqOrd.eq_of_compare order) ne
  | gt => simp [order] at le

theorem frees_iff (h : w.Valid) {ms : List MethodId} {e : Deferred} :
    w.Frees ms e ↔ ∃ d, w.find? e.name = some d ∧ (∀ m ∈ d.waitingFor, m ∈ ms) ∧ d.freed = e := by
  unfold Frees
  simp only [Deferred.awaiting?_eq_none]
  constructor
  · rintro ⟨n, d, waits, last, rfl⟩
    rw [← (h.proper n d waits).named] at waits
    exact ⟨d, waits, last, rfl⟩
  · rintro ⟨d, waits, last, freed⟩
    exact ⟨e.name, d, waits, last, freed.symm⟩

/-- A batch does the same in any order, and however often a method is in it. -/
theorem releaseAll_congr (h : w.Valid) {ms ms' : List MethodId} (same : ∀ m, m ∈ ms' ↔ m ∈ ms) :
    w.releaseAll ms' = w.releaseAll ms := by
  have left (d : Deferred) : d.awaiting? ms' = d.awaiting? ms := Deferred.awaiting?_congr same
  have rest : (w.releaseEach ms').1 = (w.releaseEach ms).1 := by
    refine (h.releaseEach ms).ext (h.releaseEach ms') fun n => ?_
    simp only [find?_releaseEach h, left]
  have freed : inNameOrder (w.releaseEach ms').2 = inNameOrder (w.releaseEach ms).2 := by
    refine Increasing.eq_of_mem_iff (increasing_inNameOrder_releaseEach h ms')
      (increasing_inNameOrder_releaseEach h ms) fun e => ?_
    simp only [mem_inNameOrder_releaseEach h, Frees, left]
  exact Prod.ext rest freed

/-- A batch of methods frees the entries that wait for nothing else, in the order of their names.
The others stay, and wait for what is not in the batch. -/
theorem releaseAll_frees_exactly (operations : List Operation) (ms : List MethodId) :
    let w := afterAll operations
    let rest := (w.releaseAll ms).1
    let freed := (w.releaseAll ms).2
    Increasing (freed.map (·.name)) ∧
      (∀ e, e ∈ freed ↔ ∃ d, w.find? e.name = some d ∧ (∀ m ∈ d.waitingFor, m ∈ ms) ∧
        { d with waitingFor := ∅ } = e) ∧
      (∀ n e, rest.find? n = some e ↔ ∃ d, w.find? n = some d ∧ ¬(∀ m ∈ d.waitingFor, m ∈ ms) ∧
        { d with waitingFor := d.waitingFor.filter (!ms.contains ·) } = e) ∧
      ∀ ms', (∀ m, m ∈ ms' ↔ m ∈ ms) → w.releaseAll ms' = (rest, freed) := by
  intro w rest freed
  have valid : w.Valid := valid_afterAll operations
  refine ⟨increasing_inNameOrder_releaseEach valid ms, fun e => ?_, fun n e => ?_,
    fun ms' same => releaseAll_congr valid same⟩
  · exact (mem_inNameOrder_releaseEach valid ms).trans (frees_iff valid)
  · show (w.releaseEach ms).1.find? n = some e ↔ _
    simp only [find?_releaseEach valid, Option.bind_eq_some_iff, Deferred.awaiting?_eq_some_iff]

end WaitList

namespace Sample

def load : MethodId := ⟨"com.shop.Store", "load", []⟩

def save : MethodId := ⟨"com.shop.Store", "save", []⟩

def send : MethodId := ⟨"com.shop.Mail", "send", []⟩

/-- Three reports come on the list. -/
def queue : List WaitList.Operation :=
  [.defer "Till" [send] (.ofList [load, send]) fun _ => true,
    .defer "Page" [load] (.ofList [load]) fun _ => true,
    .defer "Cart" [save, load] (.ofList [save, load]) fun _ => true]

end Sample

open Sample in
/-- The store frees `Page` and `Cart`, and `Till` still waits for the mail. -/
theorem WaitList.releaseAll_frees_exactly_queue :
    let w := afterAll queue
    let rest := (w.releaseAll [save, load, save]).1
    let freed := (w.releaseAll [save, load, save]).2
    Increasing (freed.map (·.name)) ∧
      ⟨"Page", [load], ∅⟩ ∈ freed ∧ ⟨"Cart", [save, load], ∅⟩ ∈ freed ∧
      rest.find? "Till" = some ⟨"Till", [send], .ofList [send]⟩ ∧
      w.releaseAll [load, save] = (rest, freed) := by
  have ⟨page, cart, till⟩ :
      (afterAll queue).find? "Page" = some ⟨"Page", [load], .ofList [load] compare⟩ ∧
      (afterAll queue).find? "Cart" = some ⟨"Cart", [save, load], .ofList [save, load] compare⟩ ∧
      (afterAll queue).find? "Till" = some ⟨"Till", [send], .ofList [load, send] compare⟩ := by
    decide +kernel
  have all : ∀ m, m ∈ [load, save] ↔ m ∈ [save, load, save] := by simp [or_comm]
  have ⟨increasing, mem, left, same⟩ := releaseAll_frees_exactly queue [save, load, save]
  refine ⟨increasing, (mem _).mpr ⟨_, page, ?_, rfl⟩, (mem _).mpr ⟨_, cart, ?_, rfl⟩,
    (left _ _).mpr ⟨_, till, ?_, by decide +kernel⟩, same [load, save] all⟩
  · simp
  · simp
  · simp [load, save, send]

end DataTrail
