import DataTrail.Proofs.Findings
import DataTrail.Proofs.Pieces

/-! Namespaces of packages. No segment of a package is empty or holds a dot, so the segments that
make up a namespace can be read off it again. Comparing two namespaces is therefore comparing two
lists of segments, and packages that agree in many segments agree in fewer. -/

namespace DataTrail

variable {p q s : String} {m n : Nat}

/-- The first `n` segments of a package between its dots, leaving out the empty ones. -/
def leadingSegments (n : Nat) (package : String) : List (List Char) :=
  ((package.toList.splitOn '.').filter (· ≠ [])).take n

/-- A text that can be a segment of a package. -/
structure IsSegment (s : String) : Prop where
  given : s ≠ ""
  plain : '.' ∉ s.toList

theorem isSegment_of_mem (mem : s ∈ packageSegments p) : IsSegment s := by
  rw [packageSegments, List.mem_filter, Text.pieces, List.mem_map] at mem
  obtain ⟨⟨piece, mem, rfl⟩, given⟩ := mem
  refine ⟨by simpa using given, ?_⟩
  rw [String.toList_ofList]
  exact Text.not_mem_of_mem_piecesOf mem

theorem packageSegments_joinWith {segments : List String} (each : ∀ s ∈ segments, IsSegment s) :
    packageSegments (Text.joinWith "." segments) = segments := by
  cases segments with
  | nil => decide
  | cons first rest =>
    have cut : Text.pieces '.' (Text.joinWith "." (first :: rest)) = first :: rest :=
      Text.pieces_joinWith (List.cons_ne_nil first rest) fun s mem => (each s mem).plain
    rw [packageSegments, cut, List.filter_eq_self]
    intro s mem
    exact decide_eq_true (each s mem).given

/-- The segments of a namespace are the leading ones of the package. -/
theorem packageSegments_namespaceOf (p : String) (n : Nat) :
    packageSegments (namespaceOf p n) = (packageSegments p).take n :=
  packageSegments_joinWith fun _ mem => isSegment_of_mem (List.mem_of_mem_take mem)

theorem namespaceOf_namespaceOf (p : String) (m n : Nat) :
    namespaceOf (namespaceOf p m) n = namespaceOf p (min m n) := by
  rw [namespaceOf, packageSegments_namespaceOf, List.take_take, Nat.min_comm, namespaceOf]

theorem map_toList_packageSegments (p : String) (n : Nat) :
    ((packageSegments p).take n).map String.toList = leadingSegments n p := by
  have given : (fun s : String => decide (s ≠ "")) ∘ String.ofList =
      fun piece => decide (piece ≠ []) := by
    funext piece
    simp
  rw [leadingSegments, packageSegments, Text.pieces, Text.piecesOf_eq_splitOn, List.filter_map,
    given, List.map_take, List.map_map]
  simp [Function.comp_def]

theorem namespaceOf_eq_iff :
    namespaceOf p n = namespaceOf q n ↔ leadingSegments n p = leadingSegments n q := by
  rw [← map_toList_packageSegments, ← map_toList_packageSegments,
    List.map_inj_right fun _ _ => String.toList_injective]
  constructor
  · intro same
    rw [← packageSegments_namespaceOf, same, packageSegments_namespaceOf]
  · intro same
    rw [namespaceOf, same, namespaceOf]

/-- Methods of one namespace share every wider one. -/
theorem MethodId.namespaceAt_eq_of_le {e k : MethodId} (le : n ≤ m)
    (same : k.namespaceAt m = e.namespaceAt m) : k.namespaceAt n = e.namespaceAt n := by
  have widen (package : String) :
      namespaceOf (namespaceOf package m) n = namespaceOf package n := by
    rw [namespaceOf_namespaceOf, Nat.min_eq_right le]
  rw [namespaceAt, namespaceAt] at same ⊢
  rw [← widen, same, widen]

theorem classify_eq_pending_iff {depth : Nat} {scope : String} {k : MethodId} :
    classify depth scope k = .pending ↔ k.namespaceAt depth = scope := by
  rw [classify]
  split <;> simp_all

theorem Program.mem_pending_of_le {program : Program} {e k : MethodId} (le : n ≤ m)
    (mem : k ∈ (program.resolveEntry m e).pending) :
    k ∈ (program.resolveEntry n e).pending := by
  rw [← Findings.pending_mem, mem_resolveEntry] at mem ⊢
  obtain ⟨k', reached, same, missing, within⟩ := mem
  exact ⟨k', reached, same, missing, MethodId.namespaceAt_eq_of_le le within⟩

/-- Shortening a package twice is shortening it once, to the smaller depth. Two packages have the
same namespace just when their leading segments are the same. So a missing method that an entry
point may wait for at one depth is one that it may wait for at every smaller depth. -/
theorem namespaces_compose (p q : String) (m n : Nat) :
    namespaceOf (namespaceOf p m) n = namespaceOf p (min m n) ∧
      (namespaceOf p n = namespaceOf q n ↔ leadingSegments n p = leadingSegments n q) ∧
      (n ≤ m → ∀ e k : MethodId,
        (classify m (e.namespaceAt m) k = .pending → classify n (e.namespaceAt n) k = .pending) ∧
        ∀ program : Program, k ∈ (program.resolveEntry m e).pending →
          k ∈ (program.resolveEntry n e).pending) := by
  refine ⟨namespaceOf_namespaceOf p m n, namespaceOf_eq_iff, fun le e k => ⟨?_, ?_⟩⟩
  · rw [classify_eq_pending_iff, classify_eq_pending_iff]
    exact MethodId.namespaceAt_eq_of_le le
  · intro program
    exact Program.mem_pending_of_le le

namespace Sample

def letterBox : MethodId := { owner := "org.shop.web.LetterBox", name := "open" }

/-- A method of the same package, which is written with stray dots. -/
def postman : MethodId := { owner := ".org..shop.web..Postman", name := "ring" }

/-- The letter box calls the postman, of whom nothing is known. -/
def doorstep : Program where
  registry := Registry.empty.register letterBox (.ofFacts ((Facts.bare letterBox).calling postman))
  dispatch := .empty

end Sample

open Sample in
set_option maxRecDepth 10000 in
/-- Packages with dots in front, in a row and at the end. -/
theorem namespaces_compose_stray_dots :
    namespaceOf (namespaceOf "..org.shop..web." 3) 2 = "org.shop" ∧
      namespaceOf "..org.shop..web." 2 = namespaceOf "org..shop.mail" 2 ∧
      2 ≤ 3 ∧ classify 3 (letterBox.namespaceAt 3) postman = .pending ∧
      classify 2 (letterBox.namespaceAt 2) postman = .pending ∧
      postman ∈ (doorstep.resolveEntry 3 letterBox).pending ∧
      postman ∈ (doorstep.resolveEntry 2 letterBox).pending := by
  obtain ⟨twice, same, smaller⟩ :=
    namespaces_compose "..org.shop..web." "org..shop.mail" 3 2
  obtain ⟨classified, found⟩ := smaller (by decide) letterBox postman
  have within : classify 3 (letterBox.namespaceAt 3) postman = .pending := by decide +kernel
  have waits : postman ∈ (doorstep.resolveEntry 3 letterBox).pending := by decide +kernel
  refine ⟨twice.trans (by decide +kernel), same.mpr (by decide +kernel), by decide, within,
    classified within, waits, found doorstep waits⟩

end DataTrail
