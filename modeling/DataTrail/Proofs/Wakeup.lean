import DataTrail.Proofs.Ingest

/-! No wake-up is lost. Between two requests a deferred report waits for missing methods only: what
arrives is announced to the wait-list while its unit is taken in. -/

namespace DataTrail

namespace Session

variable {s s' t : Session} {name : String} {eps : List MethodId} {verdict : Verdict}
  {fs : List Facts} {done : Registration} {calls : List (String × List MethodId)}
  {results : List (String × Verdict)} {arrived : List MethodId}

theorem ResolvesAll.valid (h : s.ResolvesAll calls results s') :
    s.waitList.Valid → s'.waitList.Valid :=
  h.preserves (fun q valid => q.waitList ▸ valid) Resolves.valid

/-- Deferred reports wait for methods that are missing or that have arrived just now. -/
def Awaits (s : Session) (arrived : List MethodId) : Prop :=
  ∀ n d, s.waitList.find? n = some d → ∀ m ∈ d.waitingFor, s.program.isMissing m ∨ m ∈ arrived

theorem Quiet.awaits (q : s.Quiet s') (h : s.Awaits arrived) : s'.Awaits arrived := by
  unfold Awaits
  rw [q.waitList, q.program]
  exact h

/-- Of the missing methods those are announced that are missing no more. -/
theorem Registers.mem_announced_iff {m : MethodId} (registered : s.Registers fs s' done)
    (mirrored : s.program.Mirrored) (missing : s.program.isMissing m) :
    m ∈ done.announced ↔ s'.program.isMissing m = false := by
  have later : s'.program.Mirrored := registered.program ▸ mirrored.foldl_register fs
  rw [registered.mem_announced, ← Bool.not_eq_true, registered.extends.isMissing_iff mirrored later]
  simp only [missing, true_and, not_and_or, not_not]

theorem Registers.not_mem_announced {m : MethodId} (registered : s.Registers fs s' done)
    (mirrored : s.program.Mirrored) (missing : s'.program.isMissing m) : m ∉ done.announced := by
  have later : s'.program.Mirrored := registered.program ▸ mirrored.foldl_register fs
  rw [registered.mem_announced, not_or]
  exact ((registered.extends.isMissing_iff mirrored later).mp missing).2

theorem Registers.awaits (registered : s.Registers fs s' done) (mirrored : s.program.Mirrored)
    (h : s.Awaits []) : s'.Awaits done.announced := by
  intro n d hd m hm
  rw [registered.waitList] at hd
  have missing : s.program.isMissing m := (h n d hd m hm).resolve_right List.not_mem_nil
  rw [registered.mem_announced_iff mirrored missing]
  exact Bool.eq_false_or_eq_true _

theorem Resolves.awaits (resolved : s.Resolves name eps verdict s') (h : s.Awaits arrived) :
    s'.Awaits arrived := by
  intro n d hd m hm
  rw [resolved.waitList] at hd
  rw [resolved.program]
  split at hd
  case isFalse => exact h n d hd m hm
  case isTrue =>
    have fits := resolved.fits
    cases verdict with
    | finalized report => exact h name d hd m hm
    | blocked part external => simp [deferredBy] at hd
    | pending part waitingFor =>
      rw [deferredBy, Option.some.injEq] at hd
      subst hd
      left
      -- Of the old methods the missing ones stay, and a pending method is missing.
      rcases WaitList.mem_waitingFor_deferral.mp hm with ⟨old, _, _, missing⟩ | new
      · exact missing
      · cases fits with
        | pending _ _ exact =>
          obtain ⟨e, _, _, missing⟩ := (exact m).mp new
          exact missing

theorem ResolvesAll.awaits (h : s.ResolvesAll calls results s') :
    s.Awaits arrived → s'.Awaits arrived :=
  h.preserves Quiet.awaits Resolves.awaits

theorem Awaits.releasing (h : s.Awaits arrived) (valid : s.waitList.Valid) :
    (s.releasing arrived).Awaits [] := by
  intro n d hd m hm
  obtain ⟨old, hold, _, waitingFor⟩ := find?_releasing valid hd
  obtain ⟨hm, still⟩ := waitingFor m hm
  exact .inl ((h n old hold m hm).resolve_right still)

/-- What holds between two requests. -/
structure Sound (s : Session) : Prop where
  mirrored : s.program.Mirrored
  valid : s.waitList.Valid
  awaits : s.Awaits []

theorem sound_start (settings : Settings) : (start settings).Sound where
  mirrored := Program.Mirrored.empty
  valid := WaitList.Valid.empty
  awaits := by
    intro n d hd
    simp [start, WaitList.find?, WaitList.empty] at hd

theorem Quiet.sound (q : s.Quiet s') (h : s.Sound) : s'.Sound where
  mirrored := q.program ▸ h.mirrored
  valid := q.waitList ▸ h.valid
  awaits := q.awaits h.awaits

theorem Resolves.sound (resolved : s.Resolves name eps verdict s') (h : s.Sound) : s'.Sound where
  mirrored := resolved.program ▸ h.mirrored
  valid := resolved.valid h.valid
  awaits := resolved.awaits h.awaits

theorem Absorbs.sound {u : SourceUnit} {outcome : Outcome} (absorbed : s.Absorbs u s' outcome)
    (h : s.Sound) : s'.Sound := by
  obtain ⟨done, s₁, s₂, s₃, again, registered, own, retried, refreshed, _⟩ := absorbed
  have mirrored : s₁.program.Mirrored := registered.program ▸ h.mirrored.foldl_register u.bodies
  have valid : s₂.waitList.Valid := own.valid (registered.waitList ▸ h.valid)
  have awaits : s₂.Awaits done.announced := own.awaits (registered.awaits h.mirrored h.awaits)
  have released : (s₂.releasing done.announced).Sound := {
    mirrored := own.program ▸ mirrored
    valid := valid.releaseEach done.announced
    awaits := awaits.releasing valid }
  have retried : s₃.Sound := retried.preserves Quiet.sound Resolves.sound released
  exact refreshed.preserves Quiet.sound Resolves.sound retried

/-- What each phase keeps is kept while a unit is taken in. -/
theorem Absorbs.preserves {P : Session → Prop} {u : SourceUnit} {outcome : Outcome}
    (absorbed : s.Absorbs u s' outcome) (sound : s.Sound)
    (register : ∀ {t : Session} {done}, s.Registers u.bodies t done → P s → P t)
    (quiet : ∀ {a b : Session}, a.Quiet b → P a → P b)
    (resolve : ∀ {a b : Session} {name eps verdict}, a.Resolves name eps verdict b → P a → P b)
    (release : ∀ {a : Session} (arrived : List MethodId), a.waitList.Valid → P a →
      P (a.releasing arrived))
    (start : P s) : P s' := by
  obtain ⟨done, s₁, s₂, s₃, again, registered, own, retried, refreshed, _⟩ := absorbed
  have valid : s₂.waitList.Valid := own.valid (registered.waitList ▸ sound.valid)
  have at₂ : P s₂ := own.preserves quiet resolve (register registered start)
  have at₃ : P s₃ := retried.preserves quiet resolve (release done.announced valid at₂)
  exact refreshed.preserves quiet resolve at₃

theorem Sound.ingest (h : s.Sound) (u : SourceUnit) : (s.ingest u).1.Sound := by
  rcases ingest_cases h.mirrored u with ⟨_, skipped⟩ | ⟨_, absorbed⟩
  · exact skipped.sound h
  · exact absorbed.sound h

/-- Closing a report goes to the journal only. -/
theorem foldl_close (notice : String → List MethodId → Notice) (entries : List Deferred)
    (s : Session) : ∃ journal, entries.foldl (close notice) s = { s with journal } := by
  induction entries generalizing s with
  | nil => exact ⟨s.journal, rfl⟩
  | cons entry rest ih =>
    obtain ⟨first, h⟩ : ∃ journal, close notice s entry = { s with journal } := by
      cases asked : s.settings.emitPartialOnFinish <;>
        simp only [close, nameUnwritten, noteExternal, noteAll_eq, note, offer, record, asked,
          Bool.false_eq_true, if_true, if_false] <;>
        exact ⟨_, rfl⟩
    obtain ⟨last, ih⟩ := ih { s with journal := first }
    rw [List.foldl_cons, h, ih]
    exact ⟨last, rfl⟩

theorem finish_eq (s : Session) :
    ∃ journal, s.finish.1 = { s with waitList := .empty, blocked := ∅, journal } := by
  obtain ⟨first, h⟩ := foldl_close .neverResolved s.waitList.toList
    { s with waitList := .empty, blocked := ∅ }
  obtain ⟨last, h'⟩ := foldl_close .blockedOutside s.blocked.values
    { s with waitList := .empty, blocked := ∅, journal := first }
  refine ⟨last, ?_⟩
  simp only [finish, letGo, WaitList.drain, h, h']

theorem Sound.finish (h : s.Sound) : s.finish.1.Sound := by
  obtain ⟨journal, eq⟩ := finish_eq s
  rw [eq]
  refine ⟨h.mirrored, WaitList.Valid.empty, ?_⟩
  intro n d hd
  simp [WaitList.find?, WaitList.empty] at hd

theorem Sound.serve (h : s.Sound) (request : Request) : (s.serve request).Sound := by
  have answered : (s.answer request).Sound := by
    cases request with
    | ingest unit => exact h.ingest unit
    | handle name eps => exact (handle_resolves s name eps).sound h
    | finish => exact h.finish
  exact ⟨answered.mirrored, answered.valid, answered.awaits⟩

theorem sound_after (settings : Settings) (requests : List Request) :
    (after settings requests).Sound := by
  induction requests using List.reverseRecOn with
  | nil => exact sound_start settings
  | append_singleton requests request ih =>
    rw [after_append]
    exact ih.serve request

theorem program_ingest (h : s.Sound) (u : SourceUnit) :
    (s.ingest u).1.program = if s.settings.skipsUnit u.name then s.program
      else u.bodies.foldl Program.register s.program := by
  rcases ingest_cases h.mirrored u with ⟨skips, skipped⟩ | ⟨takes, absorbed⟩
  · rw [if_pos skips, skipped.program]
  · rw [takes, if_neg Bool.false_ne_true, absorbed.program]

/-- Only a unit changes the program. -/
theorem program_serve (s : Session) (request : Request) :
    (s.serve request).program = match request with
      | .ingest u => (s.ingest u).1.program
      | .handle _ _ | .finish => s.program := by
  cases request with
  | ingest u => rfl
  | handle name eps => exact (handle_resolves s name eps).program
  | finish =>
    obtain ⟨journal, eq⟩ := finish_eq s
    rw [serve, answer, eq, clearJournal]

theorem settings_serve (h : s.Sound) (request : Request) :
    (s.serve request).settings = s.settings := by
  cases request with
  | ingest unit =>
    rcases ingest_cases h.mirrored unit with ⟨_, skipped⟩ | ⟨_, absorbed⟩
    · exact skipped.settings
    · exact absorbed.settings
  | handle name eps => exact (handle_resolves s name eps).settings
  | finish =>
    obtain ⟨journal, eq⟩ := finish_eq s
    rw [serve, answer, eq, clearJournal]

theorem settings_after (settings : Settings) (requests : List Request) :
    (after settings requests).settings = settings := by
  induction requests using List.reverseRecOn with
  | nil => rfl
  | append_singleton requests request ih =>
    rw [after_append, settings_serve (sound_after settings requests), ih]

theorem after_ingest (settings : Settings) (units : List SourceUnit) (u : SourceUnit) :
    after settings ((units ++ [u]).map .ingest) =
      ((after settings (units.map .ingest)).ingest u).1.clearJournal := by
  rw [List.map_append, List.map_cons, List.map_nil, after_append]
  rfl

theorem ingest_after_cases (settings : Settings) (units : List SourceUnit) (u : SourceUnit) :
    settings.skipsUnit u.name = true ∧ (after settings (units.map .ingest)).Quiet
        ((after settings (units.map .ingest)).ingest u).1 ∨
      settings.skipsUnit u.name = false ∧ (after settings (units.map .ingest)).Absorbs u
        ((after settings (units.map .ingest)).ingest u).1
        ((after settings (units.map .ingest)).ingest u).2 := by
  have cases := ingest_cases (sound_after settings (units.map .ingest)).mirrored u
  rwa [settings_after] at cases

/-- Whatever was asked, a deferred report waits for something, and for nothing that is there. -/
theorem no_lost_wakeup (settings : Settings) (requests : List Request) (n : String) (d : Deferred)
    (hd : (after settings requests).waitList.find? n = some d) :
    d.waitingFor ≠ ∅ ∧ ∀ m ∈ d.waitingFor,
      (after settings requests).program.registry.contains m = false ∧
        (after settings requests).program.dispatch.isImplemented m = false := by
  have sound := sound_after settings requests
  refine ⟨(sound.valid.proper n d hd).waits, fun m hm => ?_⟩
  have missing := (sound.awaits n d hd m hm).resolve_right List.not_mem_nil
  rw [Program.isMissing_iff, ← Option.not_isSome_iff_eq_none,
    ← Registry.contains_eq_isSome_find?, Bool.not_eq_true] at missing
  exact missing

end Session

namespace Sample

def method (owner name : String) : MethodId := { owner := "org.shop.web.app." ++ owner, name }

/-- A page that runs a base method and loads from a store. -/
def page : SourceUnit where
  name := "Page"
  methods := [((Facts.bare (method "Page" "show")).asEntryPoint.calling
    (method "Base" "run")).calling (method "Store" "load")]

def store : SourceUnit where
  name := "Store"
  methods := [(Facts.bare (method "Store" "load")).handling "Phone"]

/-- A unit whose one method is an entry point and makes one call. -/
def caller (name : String) (callee : MethodId) : SourceUnit where
  name
  methods := [(Facts.bare (method name "show")).asEntryPoint.calling callee]

/-- A unit of one method, which handles one category and implements one method. -/
def implementor (name category : String) (interface : MethodId) : SourceUnit where
  name
  methods := [((Facts.bare (method name "go")).handling category).implementing interface]

end Sample

open Sample in
set_option maxRecDepth 10000 in
theorem Session.no_lost_wakeup_page :
    let requests : List Request := [.ingest page, .finish, .ingest page, .ingest store,
      .handle "Other" [method "Base" "run"]]
    let d : Deferred := ⟨"Page", [method "Page" "show"], .ofList [method "Base" "run"]⟩
    (after {} requests).waitList.find? "Page" = some d ∧
      d.waitingFor ≠ ∅ ∧ ∀ m ∈ d.waitingFor,
        (after {} requests).program.registry.contains m = false ∧
          (after {} requests).program.dispatch.isImplemented m = false := by
  intro requests d
  have deferred : (after {} requests).waitList.find? "Page" = some d := by decide +kernel
  exact ⟨deferred, no_lost_wakeup {} requests "Page" d deferred⟩

end DataTrail
