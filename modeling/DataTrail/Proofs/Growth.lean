import DataTrail.Proofs.Wakeup

/-! What stays true while the program grows. The data that an entry point reaches are found again
after every unit, except below a method whose record was read and which the unit is the first to
implement. Where interfaces and bodies are apart there is no such method, and then a deferred report
waits for methods that its entry points reach still: a new survey of them would wait for these
too. -/

namespace DataTrail

/-- The items that records give. -/
def Finding.IsData : Finding → Prop
  | .category _ => True
  | .disclosure _ => True
  | _ => False

namespace Sample

/-- A base method that may be called itself. -/
def base : SourceUnit where
  name := "Base"
  methods := [(Facts.bare (method "Base" "run")).handling "Email"]

/-- A page once more, with an entry point that sends mails. -/
def mailForm : SourceUnit where
  name := "Page"
  methods := [(Facts.bare (method "Page" "mail")).asEntryPoint.calling (method "Mail" "send")]

end Sample

namespace Program

variable {p q : Program} {depth : Nat} {e m : MethodId} {x : Finding}

theorem yields_iff_of_isData (data : x.IsData) {scope : String} :
    p.Yields depth scope m x ↔ ∃ r ∈ p.recordsOf m, r.Gives x := by
  cases x with
  | category c => exact Iff.rfl
  | disclosure d => exact Iff.rfl
  | _ => exact data.elim

/-- In `p` the item `x` is found from `e`, but only at or below methods that are overtaken in
`q`. -/
structure CutOff (p q : Program) (depth : Nat) (e : MethodId) (x : Finding) : Prop where
  below : ∃ k, p.DivertedAt q e k ∧ x ∈ p.resolveEntry depth k
  only : ∀ m, p.Clear q e m → (∃ r ∈ p.recordsOf m, r.Gives x) → p.Overtaken q m

/-- Data that an entry point reaches are found again in a later program unless they are cut off. -/
theorem Extends.mem_resolveEntry_or (h : p.Extends q) (hp : p.Mirrored) (hq : q.Mirrored)
    (data : x.IsData) (found : x ∈ p.resolveEntry depth e) :
    x ∈ q.resolveEntry depth e ∨ p.CutOff q depth e x := by
  by_cases kept : x ∈ q.resolveEntry depth e
  · exact .inl kept
  -- Where the way is clear and the method is not overtaken, the record is run still.
  have only : ∀ m, p.Clear q e m → (∃ r ∈ p.recordsOf m, r.Gives x) → p.Overtaken q m := by
    rintro m clear ⟨r, run, gives⟩
    by_contra overtaken
    refine kept (mem_resolveEntry.mpr ⟨m, h.reaches_of_clear hp hq clear, ?_⟩)
    exact (yields_iff_of_isData data).mpr ⟨r, h.recordsOf_subset hp hq overtaken run, gives⟩
  refine .inr ⟨?_, only⟩
  obtain ⟨m, reached, yields⟩ := mem_resolveEntry.mp found
  have gives := (yields_iff_of_isData data).mp yields
  have belongs {k : MethodId} (below : p.Reaches k m) : x ∈ p.resolveEntry depth k :=
    mem_resolveEntry.mpr ⟨m, below, (yields_iff_of_isData data).mpr gives⟩
  rcases reached.clear_or q with clear | ⟨k, diverted, below⟩
  · exact ⟨m, ⟨clear, only m clear gives⟩, belongs .refl⟩
  · exact ⟨k, diverted, belongs below⟩

/-- No registered method implements a registered method. -/
def Layered (p : Program) : Prop :=
  ∀ j r, p.registry.find? j = some r → ∀ i ∈ r.implements, p.registry.find? i = none

theorem layered_iff : p.Layered ↔ ∀ entry ∈ p.registry.toList,
    ∀ i ∈ entry.2.implements.toList, p.registry.contains i = false := by
  simp only [Layered, Prod.forall, Registry.contains_eq_isSome_find?, Option.isSome_eq_false_iff,
    Option.isNone_iff_eq_none, Std.ExtTreeSet.mem_toList]
  refine forall₂_congr fun j r => ?_
  rw [Registry.toList, Std.ExtTreeMap.mem_toList_iff_getElem?_eq_some]
  rfl

instance : Decidable p.Layered := decidable_of_iff _ layered_iff.symm

theorem Layered.of_extends (layered : q.Layered) (h : p.Extends q) : p.Layered :=
  fun j r known i hi => h.find?_none (layered j r (h j r known) i hi)

theorem Layered.not_overtaken (layered : q.Layered) (h : p.Extends q) (hq : q.Mirrored)
    (m : MethodId) : ¬p.Overtaken q m := by
  rintro ⟨known, _, implemented⟩
  obtain ⟨j, r, hr, hm⟩ := hq.isImplemented_iff.mp implemented
  exact known (h.find?_none (layered j r hr m hm))

end Program

namespace Session

variable {s s' : Session} {name n : String} {eps : List MethodId} {verdict : Verdict}

theorem extends_ingest (sound : s.Sound) (u : SourceUnit) :
    s.program.Extends (s.ingest u).1.program := by
  rw [program_ingest sound]
  split
  · exact .refl _
  · exact Program.extends_foldl_register u.bodies s.program

theorem extends_serve (sound : s.Sound) (request : Request) :
    s.program.Extends (s.serve request).program := by
  rw [program_serve]
  cases request with
  | ingest u => exact extends_ingest sound u
  | handle name eps => exact .refl _
  | finish => exact .refl _

theorem extends_after (settings : Settings) (requests more : List Request) :
    (after settings requests).program.Extends (after settings (requests ++ more)).program := by
  induction more using List.reverseRecOn with
  | nil =>
    rw [List.append_nil]
    exact .refl _
  | append_singleton more request ih =>
    rw [← List.append_assoc, after_append]
    exact ih.trans (extends_serve (sound_after settings (requests ++ more)) request)

/-- After any requests, a unit takes from an entry point only such data as was found nowhere but at
or below methods that had a record and no implementor, and have one with the unit. -/
theorem data_kept_or_cut_off (settings : Settings) (requests : List Request) (u : SourceUnit)
    (e : MethodId) :
    let p := (after settings requests).program
    let q := ((after settings requests).ingest u).1.program
    let depth := settings.namespaceDepth
    (∀ c ∈ (p.resolveEntry depth e).categories,
        c ∈ (q.resolveEntry depth e).categories ∨ p.CutOff q depth e (.category c)) ∧
      ∀ d ∈ (p.resolveEntry depth e).disclosures,
        d ∈ (q.resolveEntry depth e).disclosures ∨ p.CutOff q depth e (.disclosure d) := by
  intro p q depth
  have sound := sound_after settings requests
  have grows : p.Extends q := extends_ingest sound u
  have later : q.Mirrored := (sound.ingest u).mirrored
  constructor
  · intro c found
    exact grows.mem_resolveEntry_or (x := .category c) sound.mirrored later trivial found
  · intro d found
    exact grows.mem_resolveEntry_or (x := .disclosure d) sound.mirrored later trivial found

open Sample in
set_option maxRecDepth 10000 in
/-- A base method that handles e-mail addresses is implemented by one that does not. -/
theorem not_every_category_is_kept :
    ¬∀ (settings : Settings) (requests : List Request) (u : SourceUnit) (e : MethodId),
      let p := (after settings requests).program
      let q := ((after settings requests).ingest u).1.program
      let depth := settings.namespaceDepth
      (∀ c ∈ (p.resolveEntry depth e).categories, c ∈ (q.resolveEntry depth e).categories) ∧
        ∀ d ∈ (p.resolveEntry depth e).disclosures, d ∈ (q.resolveEntry depth e).disclosures := by
  intro kept
  have email := (kept {} [.ingest base] (implementor "Other" "Phone" (method "Base" "run"))
    (method "Base" "run")).1 "Email" (by decide +kernel)
  revert email
  decide +kernel

/-- What the report `n` waits for is reached from an entry point of the same namespace. -/
def Due (s : Session) (n : String) : Prop :=
  ∀ d, s.waitList.find? n = some d → ∀ m ∈ d.waitingFor, ∃ e ∈ d.entryPoints,
    s.program.Reaches e m ∧
      m.namespaceAt s.settings.namespaceDepth = e.namespaceAt s.settings.namespaceDepth

theorem SameAt.due (same : s.SameAt s' n) (program : s'.program = s.program)
    (settings : s'.settings = s.settings) (h : s.Due n) : s'.Due n := by
  unfold Due
  rw [same.waitList, program, settings]
  exact h

theorem Quiet.due (quiet : s.Quiet s') : s.Due n → s'.Due n :=
  (quiet.sameAt n).due quiet.program quiet.settings

theorem Registers.due {fs : List Facts} {done : Registration} (registered : s.Registers fs s' done)
    (mirrored : s.program.Mirrored) (kept : ∀ m, ¬s.program.Overtaken s'.program m)
    (h : s.Due n) : s'.Due n := by
  intro d waits m hm
  rw [registered.waitList] at waits
  obtain ⟨e, he, reaches, inside⟩ := h d waits m hm
  have later : s'.program.Mirrored := registered.program ▸ mirrored.foldl_register fs
  refine ⟨e, he, registered.extends.reaches mirrored later kept reaches, ?_⟩
  rw [registered.settings]
  exact inside

theorem Resolves.due_of_pending {part : Report} {waitingFor : MethodSet}
    (resolved : s.Resolves n eps (.pending part waitingFor) s') (h : s.Due n) : s'.Due n := by
  intro d waits m hm
  rw [resolved.waitList, if_pos rfl, deferredBy, Option.some.injEq] at waits
  subst waits
  rw [resolved.program, resolved.settings]
  -- An old method is reached from an old entry point, a new one from those that were resolved now.
  rcases WaitList.mem_waitingFor_deferral.mp hm with ⟨old, known, hm, _⟩ | new
  · obtain ⟨e, he, reaches, inside⟩ := h old known m hm
    exact ⟨e, WaitList.mem_entryPoints_deferral.mpr (.inl ⟨old, known, he⟩), reaches, inside⟩
  · cases resolved.fits with
    | pending inside _ exact =>
      obtain ⟨e, he, reaches, missing⟩ := (exact m).mp new
      refine ⟨e, WaitList.mem_entryPoints_deferral.mpr (.inr he), reaches, ?_⟩
      by_contra outside
      exact inside m ⟨e, he, reaches, missing, outside⟩

theorem Resolves.due (resolved : s.Resolves name eps verdict s') (h : s.Due n) : s'.Due n := by
  by_cases other : name = n
  · subst other
    have waitList := resolved.waitList name
    rw [if_pos rfl] at waitList
    intro d waits
    rw [waitList] at waits
    cases verdict with
    | finalized report =>
      rw [resolved.program, resolved.settings]
      exact h d waits
    | pending part waitingFor => exact resolved.due_of_pending h d (waitList.trans waits)
    | blocked part external => exact absurd waits.symm (Option.some_ne_none d)
  · exact (resolved.sameAt other).due resolved.program resolved.settings h

theorem Due.releasing (h : s.Due n) (arrived : List MethodId) (valid : s.waitList.Valid) :
    (s.releasing arrived).Due n := by
  intro d waits m hm
  obtain ⟨old, known, entryPoints, waitingFor⟩ := find?_releasing valid waits
  rw [entryPoints]
  exact h old known m (waitingFor m hm).1

theorem Due.serve (h : s.Due n) (sound : s.Sound) (request : Request)
    (layered : (s.serve request).program.Layered) : (s.serve request).Due n := by
  cases request with
  | ingest u =>
    rcases ingest_cases sound.mirrored u with ⟨_, skipped⟩ | ⟨_, absorbed⟩
    · exact skipped.due h
    · have kept := layered.not_overtaken (extends_ingest sound u) (sound.ingest u).mirrored
      rw [Session.serve, answer, clearJournal, absorbed.program] at kept
      refine absorbed.preserves (P := (·.Due n)) sound (fun registered => ?_) Quiet.due Resolves.due
        (fun arrived valid h => h.releasing arrived valid) h
      exact registered.due sound.mirrored (registered.program ▸ kept)
  | handle name eps => exact (handle_resolves s name eps).due h
  | finish =>
    obtain ⟨journal, eq⟩ := finish_eq s
    intro d waits
    rw [Session.serve, answer, eq] at waits
    simp [clearJournal, WaitList.find?, WaitList.empty] at waits

theorem due_after {settings : Settings} {requests : List Request}
    (layered : (after settings requests).program.Layered) (n : String) :
    (after settings requests).Due n := by
  induction requests using List.reverseRecOn with
  | nil =>
    intro d waits
    simp [after, start, WaitList.find?, WaitList.empty] at waits
  | append_singleton requests request ih =>
    have earlier := layered.of_extends (extends_after settings requests [request])
    rw [after_append] at layered ⊢
    exact (ih earlier).serve (sound_after settings requests) request layered

/-- As long as no registered method implements a registered one, a deferred report waits for
something, and only for what a new survey of its entry points waits for. So these reach a method
that is neither registered nor implemented. -/
theorem waits_for_what_is_pending (settings : Settings) (requests before : List Request)
    (earlier : before <+: requests) (layered : (after settings requests).program.Layered)
    (n : String) (d : Deferred) (waits : (after settings before).waitList.find? n = some d) :
    let s := after settings before
    d.waitingFor ≠ ∅ ∧
      (∀ m ∈ d.waitingFor, m ∈ (s.survey n d.entryPoints).findings.pending) ∧
      ∃ m, s.program.ReachedFrom d.entryPoints m ∧ s.program.registry.contains m = false ∧
        s.program.dispatch.isImplemented m = false := by
  intro s
  obtain ⟨more, rfl⟩ := earlier
  have sound : s.Sound := sound_after settings before
  have due : s.Due n := due_after (layered.of_extends (extends_after settings before more)) n
  have missing : ∀ m ∈ d.waitingFor, s.program.isMissing m := fun m hm =>
    (sound.awaits n d waits m hm).resolve_right List.not_mem_nil
  have nonempty := (sound.valid.proper n d waits).waits
  refine ⟨nonempty, fun m hm => ?_, ?_⟩
  · obtain ⟨e, he, reaches, inside⟩ := due d waits m hm
    exact Program.mem_pending_survey.mpr ⟨e, he, reaches, missing m hm, inside⟩
  · obtain ⟨m, hm⟩ := exists_mem_of_ne_empty nonempty
    obtain ⟨e, he, reaches, _⟩ := due d waits m hm
    refine ⟨m, ⟨e, he, reaches⟩, ?_⟩
    simpa [Program.isMissing] using missing m hm

end Session

open Sample in
set_option maxRecDepth 10000 in
/-- A page waits for a store and, since a second unit of its name, for a mailer. The store is
implemented, and another page comes to wait for the mailer. -/
theorem Session.waits_for_what_is_pending_mail_form :
    let before : List Request := [.ingest (caller "Page" (method "Store" "load")),
      .ingest mailForm, .ingest (implementor "Disk" "Email" (method "Store" "load"))]
    let requests := before ++ [.ingest (caller "Form" (method "Mail" "send"))]
    let d : Deferred :=
      ⟨"Page", [method "Page" "show", method "Page" "mail"], .ofList [method "Mail" "send"]⟩
    let s := after {} before
    (before <+: requests ∧ (after {} requests).program.Layered ∧
      s.waitList.find? "Page" = some d) ∧
      d.waitingFor ≠ ∅ ∧
      (∀ m ∈ d.waitingFor, m ∈ (s.survey "Page" d.entryPoints).findings.pending) ∧
      ∃ m, s.program.ReachedFrom d.entryPoints m ∧ s.program.registry.contains m = false ∧
        s.program.dispatch.isImplemented m = false := by
  intro before requests d s
  have earlier : before <+: requests := List.prefix_append _ _
  have layered : (after {} requests).program.Layered := by decide +kernel
  have waits : (after {} before).waitList.find? "Page" = some d := by decide +kernel
  exact ⟨⟨earlier, layered, waits⟩,
    waits_for_what_is_pending {} requests before earlier layered "Page" d waits⟩

end DataTrail
