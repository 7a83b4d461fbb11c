import DataTrail.Proofs.Growth
import DataTrail.Proofs.Order

/-! The registry and the dispatch table, whatever was asked. Both are read off the units that came:
the first body of a method stands, the table has the pairs that the registered records declare, and
its lists only grow at their ends. -/

namespace DataTrail

namespace Dispatch

variable {d : Dispatch}

/-- No list of the table is empty or has a method twice. -/
def Tidy (d : Dispatch) : Prop :=
  ∀ (i : MethodId) (js : List MethodId), d.table[i]? = some js → js ≠ [] ∧ js.Nodup

theorem Tidy.nodup (h : d.Tidy) (i : MethodId) : (d.implementors i).Nodup := by
  rw [implementors, Std.ExtTreeMap.getD_eq_getD_getElem?]
  cases listed : d.table[i]? with
  | none => exact List.nodup_nil
  | some js => exact (h i js listed).2

theorem Tidy.add (h : d.Tidy) (i m : MethodId) : (d.add i m).Tidy := by
  unfold Dispatch.add
  split
  case isTrue => exact h
  case isFalse new =>
    rw [lists, List.contains_iff_mem] at new
    intro k js listed
    rw [Std.ExtTreeMap.getElem?_insert] at listed
    split at listed
    · have same : d.implementors i ++ [m] = js := by simpa using listed
      rw [← same]
      refine ⟨by simp, List.nodup_append.mpr ⟨h.nodup i, by simp, fun a ha b hb => ?_⟩⟩
      rintro rfl
      exact new (List.mem_singleton.mp hb ▸ ha)
    · exact h k js listed

theorem implementors_add (d : Dispatch) (i m k : MethodId) :
    d.implementors k <+: (d.add i m).implementors k := by
  unfold add
  split
  case isTrue => exact List.prefix_refl _
  case isFalse =>
    rw [implementors, implementors, Std.ExtTreeMap.getD_insert]
    by_cases hk : i = k
    · subst hk
      simp [implementors]
    · simp [hk]

theorem implementors_foldl_add (d : Dispatch) (interfaces : List MethodId) (m k : MethodId) :
    d.implementors k <+: (interfaces.foldl (fun d i => d.add i m) d).implementors k := by
  induction interfaces generalizing d with
  | nil => exact List.prefix_refl _
  | cons i rest ih => exact (d.implementors_add i m k).trans (ih (d.add i m))

end Dispatch

namespace Program

variable {p : Program}

theorem tidy_register (h : p.dispatch.Tidy) (f : Facts) : (p.register f).dispatch.Tidy := by
  unfold register
  split
  case isTrue => exact h
  case isFalse =>
    exact List.foldlRecOn (motive := Dispatch.Tidy) f.implements _ h fun d hd i _ => hd.add i f.method

theorem tidy_ofFacts (fs : List Facts) : (ofFacts fs).dispatch.Tidy := by
  induction fs using List.reverseRecOn with
  | nil =>
    intro i js listed
    simp [ofFacts, Dispatch.empty] at listed
  | append_singleton fs f ih =>
    rw [ofFacts, List.foldl_append]
    exact tidy_register ih f

theorem implementors_register (p : Program) (f : Facts) (i : MethodId) :
    p.dispatch.implementors i <+: (p.register f).dispatch.implementors i := by
  unfold register
  split
  case isTrue => exact List.prefix_refl _
  case isFalse =>
    exact p.dispatch.implementors_foldl_add f.implements f.method i

theorem implementors_foldl_register (p : Program) (fs : List Facts) (i : MethodId) :
    p.dispatch.implementors i <+: (fs.foldl register p).dispatch.implementors i := by
  induction fs generalizing p with
  | nil => exact List.prefix_refl _
  | cons f rest ih => exact (p.implementors_register f i).trans (ih (p.register f))

end Program

/-- The units that the requests bring, in order. -/
def Request.units (requests : List Request) : List SourceUnit :=
  requests.filterMap fun
    | .ingest unit => some unit
    | _ => none

namespace Session

variable {s : Session}

/-- The program is that of the units alone. -/
theorem program_after_units (settings : Settings) (requests : List Request) :
    (after settings requests).program =
      (after settings ((Request.units requests).map .ingest)).program := by
  induction requests using List.reverseRecOn with
  | nil => rfl
  | append_singleton requests request ih =>
    have sound := sound_after settings requests
    have sound' := sound_after settings ((Request.units requests).map .ingest)
    rw [Request.units, List.filterMap_append, ← Request.units, after_append, program_serve]
    cases request with
    | ingest u =>
      have now := program_ingest sound u
      have alone := program_ingest sound' u
      rw [settings_after, ih] at now
      rw [settings_after, ← now] at alone
      rw [show [Request.ingest u].filterMap _ = [u] from rfl, after_ingest]
      exact alone.symm
    | handle name eps =>
      rw [show [Request.handle name eps].filterMap _ = [] from rfl, List.append_nil, ih]
    | finish => rw [show [Request.finish].filterMap _ = [] from rfl, List.append_nil, ih]

theorem program_after_eq_ofFacts (settings : Settings) (requests : List Request) :
    (after settings requests).program = .ofFacts (settings.bodies (Request.units requests)) := by
  rw [program_after_units, program_after]

/-- Whatever was asked, the dispatch table has the pairs that the registered records declare, in
lists that are not empty and have no method twice, and the record of a method is that of its first
body. A further unit changes no record and adds to the lists only at their ends. -/
theorem dispatch_mirrors_registry (settings : Settings) (requests : List Request) (u : SourceUnit) :
    let p := (after settings requests).program
    let q := ((after settings requests).ingest u).1.program
    (∀ i j, j ∈ p.dispatch.implementors i ↔
        ∃ r, p.registry.find? j = some r ∧ i ∈ r.implements) ∧
      (∀ (i : MethodId) (js : List MethodId), p.dispatch.table[i]? = some js → js ≠ [] ∧ js.Nodup) ∧
      (∀ j, p.registry.find? j =
        ((settings.bodies (Request.units requests)).find? (·.method = j)).map .ofFacts) ∧
      (∀ j r, p.registry.find? j = some r → q.registry.find? j = some r) ∧
      ∀ i, p.dispatch.implementors i <+: q.dispatch.implementors i := by
  intro p q
  have sound := sound_after settings requests
  have delivered : p = .ofFacts (settings.bodies (Request.units requests)) :=
    program_after_eq_ofFacts settings requests
  refine ⟨sound.mirrored, ?_, fun j => ?_, extends_ingest sound u, fun i => ?_⟩
  · rw [delivered]
    exact Program.tidy_ofFacts _
  · rw [delivered, Program.find?_ofFacts]
  · rw [show q = _ from program_ingest sound u]
    split
    · exact List.prefix_refl _
    · exact p.implementors_foldl_register u.bodies i

end Session

end DataTrail
