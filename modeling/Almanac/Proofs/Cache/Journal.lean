import Mathlib
import Almanac.Cache.Supplier

/-!
# Runs of a cache, with a journal

A run of a cache is a list of uses. Its journal is a record beside it: what has been handed out and
when, and which call of the supplier an instance was built from. Time is counted in epochs, and a
reset or an invalidation begins a new one, also while the supplier is being asked.

* `Use`, `Desk.perform`, `Desk.after`: uses of a cache, and runs.
* `Slot` and `Cache.get?`: the places of a cache, one for each calendar and one for the current one.
* `Journal.perform`, `Journal.after`: the same runs with a journal.
* **`Journal.toDesk_after`**: the journal changes nothing of the run.
-/

namespace Almanac

/-! ## Runs -/

/-- A use of a cache. -/
inductive Use where
  /-- Asks for the instance of a calendar. -/
  | fixed (calendar : Calendar)
  /-- Asks for the current instance. -/
  | current
  /-- Asks a handle to the current calendar. -/
  | latest
  /-- Reads the size. -/
  | size
  /-- Requests a reset. -/
  | reset
  /-- Moves the generation number. -/
  | invalidate
  /-- From now on the current calendar is supplied in this way. -/
  | supply (supplier : Supplier)

/-- A cache in use, and who supplies the current calendar. -/
structure Desk where
  session : Session := {}
  supplier : Supplier

/-- One use of a cache: the instance that is handed out, if any, and what becomes of the cache. -/
def Desk.perform (d : Desk) : Use → Option Instance × Desk
  | .fixed calendar =>
    let (found, session) := d.session.fixed calendar
    (some found, { d with session })
  | .current =>
    let (found, session) := d.session.current d.supplier
    (some found, { d with session })
  | .latest =>
    let (found, session) := d.session.latest d.supplier
    (some found, { d with session })
  | .size => (none, { d with session := d.session.size.2 })
  | .reset => (none, { d with session := d.session.reset })
  | .invalidate => (none, { d with session := d.session.invalidate })
  | .supply supplier => (none, { d with supplier })

/-- The cache after one use after the other. -/
def Desk.after (d : Desk) (uses : List Use) : Desk := uses.foldl (fun d u => (d.perform u).2) d

/-! ## Places of a cache -/

/-- A place of a cache: that of a calendar asked for by its settings, or the current one's. -/
inductive Slot where
  | fixed (calendar : Calendar)
  | current
deriving DecidableEq

def Cache.get? (cache : Cache) : Slot → Option Instance
  | .fixed calendar => cache.find? calendar
  | .current => cache.current

/-- The place that a use asks for. -/
def Use.slot? : Use → Option Slot
  | .fixed calendar => some (.fixed calendar)
  | .current | .latest => some .current
  | _ => none

/-- Whether a use begins a new epoch. -/
def Use.beginsEpoch : Use → Bool
  | .reset | .invalidate => true
  | _ => false

/-! ## The journal

The functions from here on have the names of those of a session, a supplier (`record` is `answer`)
and a desk. They do the same, and note what is handed out. -/

/-- An instance that has been handed out, from which place and in which epoch. -/
structure Handout where
  slot : Slot
  found : Instance
  epoch : Nat

/-- The epochs in which a call of the supplier began and ended. -/
structure Call where
  began : Nat
  ended : Nat
deriving DecidableEq

/-- A run with its journal: the number of the epoch, what has been handed out, the latest first,
and the call that the instance of an identity was built from. -/
structure Journal extends Desk where
  epoch : Nat := 0
  handouts : List Handout := []
  call? : Nat → Option Call := fun _ => none

namespace Journal

/-- Notes that an instance is handed out. -/
def handOut (j : Journal) (slot : Slot) (found : Instance) (session : Session) :
    Instance × Journal :=
  (found, { j with session, handouts := ⟨slot, found, j.epoch⟩ :: j.handouts })

def fixed (j : Journal) (calendar : Calendar) : Instance × Journal :=
  let (found, session) := j.session.fixed calendar
  j.handOut (.fixed calendar) found session

def size (j : Journal) : Nat × Journal :=
  let (n, session) := j.session.size
  (n, { j with session })

def reset (j : Journal) : Journal := { j with session := j.session.reset, epoch := j.epoch + 1 }

def invalidate (j : Journal) : Journal :=
  { j with session := j.session.invalidate, epoch := j.epoch + 1 }

def obtain (ask : Journal → Calendar × Journal) (j : Journal) : Instance × Journal :=
  let s := j.session.refresh
  match s.cache.current with
  | some known => j.handOut .current known s
  | none =>
    let (calendar, k) := ask { j with session := { s with requests := s.requests + 1 } }
    let (built, s) := k.session.build calendar
    let (found, s) := s.refresh.keepCurrent built
    -- the call began in the epoch of `j`, and the answer arrives in that of `k`
    { k with call? := Function.update k.call? built.id (some ⟨j.epoch, k.epoch⟩) }.handOut
      .current found s

end Journal

def Supplier.record : Supplier → Journal → Calendar × Journal
  | give calendar, j => (calendar, j)
  | size next, j =>
    let (n, j) := j.size
    (next n).record j
  | fixed calendar next, j =>
    let (found, j) := j.fixed calendar
    (next found).record j
  | invalidate next, j => next.record j.invalidate
  | reset next, j => next.record j.reset
  | current inner next, j =>
    let (found, j) := j.obtain inner.record
    (next found).record j

namespace Journal

def current (j : Journal) : Instance × Journal := j.obtain j.supplier.record

def perform (j : Journal) : Use → Option Instance × Journal
  | .fixed calendar => (j.fixed calendar).map some id
  | .current | .latest => j.current.map some id
  | .size => (none, j.size.2)
  | .reset => (none, j.reset)
  | .invalidate => (none, j.invalidate)
  | .supply supplier => (none, { j with supplier })

def after (j : Journal) (uses : List Use) : Journal := uses.foldl (fun j u => (j.perform u).2) j

/-! ## The run under a journal -/

/-- What asks with a journal does as what asks without one, and leaves the supplier in place. -/
def Follows (ask : Journal → Calendar × Journal) (plain : Session → Calendar × Session) : Prop :=
  ∀ j, (ask j).1 = (plain j.session).1 ∧
    (ask j).2.toDesk = { j.toDesk with session := (plain j.session).2 }

theorem obtain_eq {ask : Journal → Calendar × Journal} {plain : Session → Calendar × Session}
    (h : Follows ask plain) (j : Journal) :
    (j.obtain ask).1 = (j.session.obtain plain).1 ∧
      (j.obtain ask).2.toDesk = { j.toDesk with session := (j.session.obtain plain).2 } := by
  unfold obtain Session.obtain
  cases hcur : j.session.refresh.cache.current with
  | some known => simp [hcur, handOut]
  | none =>
    obtain ⟨hcalendar, hdesk⟩ := h { j with session :=
      { j.session.refresh with requests := j.session.refresh.requests + 1 } }
    have hsession := congrArg Desk.session hdesk
    have hsupplier := congrArg Desk.supplier hdesk
    dsimp only at hcalendar hsession hsupplier
    simp only [hcur, hcalendar, hsession, handOut, hsupplier, and_self]

end Journal

theorem Supplier.follows_record (supplier : Supplier) :
    Journal.Follows supplier.record supplier.answer := by
  intro j
  induction supplier generalizing j with
  | give calendar => exact ⟨rfl, rfl⟩
  | size next ih => exact ih j.session.size.1 j.size.2
  | fixed calendar next ih => exact ih (j.session.fixed calendar).1 (j.fixed calendar).2
  | invalidate next ih => exact ih j.invalidate
  | reset next ih => exact ih j.reset
  | current inner next ihInner ih =>
    obtain ⟨hfound, hdesk⟩ := Journal.obtain_eq ihInner j
    have hsession := congrArg Desk.session hdesk
    obtain ⟨hcalendar, hdesk'⟩ := ih (j.session.obtain inner.answer).1 (j.obtain inner.record).2
    rw [hsession, hdesk] at hdesk'
    rw [hsession] at hcalendar
    simp only [record, answer, hfound]
    exact ⟨hcalendar, hdesk'⟩

namespace Journal

theorem perform_eq (j : Journal) (u : Use) :
    (j.perform u).1 = (j.toDesk.perform u).1 ∧ (j.perform u).2.toDesk = (j.toDesk.perform u).2 := by
  have hcurrent := obtain_eq j.supplier.follows_record j
  cases u with
  | fixed calendar => exact ⟨rfl, rfl⟩
  | current | latest => exact ⟨congrArg some hcurrent.1, hcurrent.2⟩
  | size => exact ⟨rfl, rfl⟩
  | reset => exact ⟨rfl, rfl⟩
  | invalidate => exact ⟨rfl, rfl⟩
  | supply supplier => exact ⟨rfl, rfl⟩

/-- **The journal changes nothing of the run.** -/
theorem toDesk_after (j : Journal) (uses : List Use) :
    (j.after uses).toDesk = j.toDesk.after uses := by
  induction uses generalizing j with
  | nil => rfl
  | cons u uses ih =>
    have h := ih (j.perform u).2
    rw [(j.perform_eq u).2] at h
    exact h

end Journal

end Almanac
