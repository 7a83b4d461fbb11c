import Std.Data.ExtTreeMap
import DataTrail.MethodId

/-! The wait-list holds the reports that cannot be written yet. Each entry knows the methods it
waits for; `watchers` is the same relation read the other way, so that a new method finds the
entries that wait for it. An entry leaves the list when its last missing method arrives. -/

namespace DataTrail

/-- A report that waits for missing methods. -/
structure Deferred where
  /-- The name of the report. -/
  name : String
  /-- The entry points of the report, in order. -/
  entryPoints : List MethodId
  /-- The missing methods. -/
  waitingFor : MethodSet
deriving DecidableEq

/-- The deferred reports. -/
structure WaitList where
  /-- The entries by their names. -/
  entries : Std.ExtTreeMap String Deferred := ∅
  /-- For each missing method the names of the entries that wait for it. -/
  watchers : Std.ExtTreeMap MethodId NameSet := ∅

namespace WaitList

/-- A list without entries. -/
def empty : WaitList := {}

/-- The entry of a name. -/
def find? (w : WaitList) (name : String) : Option Deferred := w.entries[name]?

/-- The entries in the order of their names. -/
def toList (w : WaitList) : List Deferred := w.entries.values

/-- The number of entries. -/
def size (w : WaitList) : Nat := w.entries.size

/-- No longer finds `name` from the method `m`. -/
def unwatch (watchers : Std.ExtTreeMap MethodId NameSet) (name : String) (m : MethodId) :
    Std.ExtTreeMap MethodId NameSet :=
  watchers.alter m fun names? => do
    let names := (← names?).erase name
    if names.isEmpty then none else some names

/-- From now on finds `name` from the method `m`. -/
def watch (watchers : Std.ExtTreeMap MethodId NameSet) (name : String) (m : MethodId) :
    Std.ExtTreeMap MethodId NameSet :=
  watchers.insert m ((watchers.getD m ∅).insert name)

/-- Appends the entry points of `added` that `known` does not have. -/
def mergeEntryPoints (known added : List MethodId) : List MethodId :=
  added.foldl (fun eps e => if eps.contains e then eps else eps ++ [e]) known

/-- The entry of `name` after it is deferred for `pending`: new entry points come after the old
ones, and of the methods it waited for those stay that are `stillMissing`. -/
def deferral (w : WaitList) (name : String) (entryPoints : List MethodId) (pending : MethodSet)
    (stillMissing : MethodId → Bool) : Deferred :=
  let known := (w.find? name).getD ⟨name, [], ∅⟩
  { name
    entryPoints := mergeEntryPoints known.entryPoints entryPoints
    waitingFor := known.waitingFor.filter stillMissing ∪ pending }

/-- Defers the report `name` until the methods of `pending` have arrived. An entry that is left with
nothing to wait for goes off the list. -/
def defer (w : WaitList) (name : String) (entryPoints : List MethodId) (pending : MethodSet)
    (stillMissing : MethodId → Bool) : WaitList :=
  let entry := w.deferral name entryPoints pending stillMissing
  let old := (w.find? name).elim ∅ (·.waitingFor)
  let stale := old.filter (!stillMissing ·)
  { entries :=
      if entry.waitingFor.isEmpty then w.entries.erase name else w.entries.insert name entry
    watchers :=
      pending.toList.foldl (watch · name ·) (stale.toList.foldl (unwatch · name ·) w.watchers) }

/-- Crosses `m` off the entry `name`. If that was the last method it waited for, the entry goes off
the list and is returned too. -/
def cross (m : MethodId) (w : WaitList) (name : String) : WaitList × Option Deferred :=
  match w.find? name with
  | none => (w, none)
  | some entry =>
    let entry := { entry with waitingFor := entry.waitingFor.erase m }
    if entry.waitingFor.isEmpty then ({ w with entries := w.entries.erase name }, some entry)
    else ({ w with entries := w.entries.insert name entry }, none)

/-- Crosses `m` off every entry that waits for it, and returns those that wait no more, in the order
of their names. -/
def release (w : WaitList) (m : MethodId) : WaitList × List Deferred :=
  let names := (w.watchers.getD m ∅).toList
  names.foldl
    (fun (w, released) name =>
      let (w, entry?) := cross m w name
      (w, released ++ entry?.toList))
    ({ w with watchers := w.watchers.erase m }, [])

/-- A deferred report whose last missing method has arrived. -/
structure Released where
  entry : Deferred
  /-- The method that arrived last. -/
  unblockedBy : MethodId
deriving DecidableEq

/-- Releases the entries for one method after the other, in the order of the methods. -/
def releaseEach (w : WaitList) (methods : List MethodId) : WaitList × List Released :=
  methods.foldl
    (fun (w, released) m =>
      let (w, entries) := w.release m
      (w, released ++ entries.map (⟨·, m⟩)))
    (w, [])

/-- The released entries in the order of their names. -/
def inNameOrder (released : List Released) : List Deferred :=
  (released.map (·.entry)).mergeSort fun a b => (compare a.name b.name).isLE

/-- Releases the entries that wait for none but the given methods, and returns them in the order of
their names. -/
def releaseAll (w : WaitList) (methods : List MethodId) : WaitList × List Deferred :=
  let (w, released) := w.releaseEach methods
  (w, inNameOrder released)

/-- Takes the entry of a name off the list. -/
def remove (w : WaitList) (name : String) : WaitList :=
  match w.find? name with
  | none => w
  | some entry =>
    { entries := w.entries.erase name
      watchers := entry.waitingFor.toList.foldl (unwatch · name ·) w.watchers }

/-- Empties the list, and returns what was on it in the order of the names. -/
def drain (w : WaitList) : WaitList × List Deferred := (.empty, w.toList)

end WaitList

end DataTrail
