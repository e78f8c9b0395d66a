import Almanac.TimeUnit

/-!
# Sets of units

* `TimeUnits`: a set of time units, decided by membership.
* `TimeUnits.toList`: its units in order.
-/

namespace Almanac

/-- A set of time units. -/
structure TimeUnits where
  has : TimeUnit → Bool

namespace TimeUnits

instance : Membership TimeUnit TimeUnits := ⟨fun s u => s.has u = true⟩

instance (u : TimeUnit) (s : TimeUnits) : Decidable (u ∈ s) :=
  inferInstanceAs (Decidable (s.has u = true))

@[ext]
theorem ext_mem {s t : TimeUnits} (h : ∀ u : TimeUnit, u ∈ s ↔ u ∈ t) : s = t := by
  obtain ⟨s⟩ := s
  obtain ⟨t⟩ := t
  congr 1
  funext u
  exact Bool.eq_iff_iff.mpr (h u)

instance : DecidableEq TimeUnits := fun s t =>
  decidable_of_iff (∀ u ∈ TimeUnit.all, u ∈ s ↔ u ∈ t)
    ⟨fun h => ext_mem fun u => h u u.mem_all, fun h _ _ => h ▸ Iff.rfl⟩

/-- The set without units. -/
def empty : TimeUnits := ⟨fun _ => false⟩

/-- The set of every unit. -/
def full : TimeUnits := ⟨fun _ => true⟩

/-- The set with `u` added. -/
def insert (s : TimeUnits) (u : TimeUnit) : TimeUnits := ⟨fun v => v = u || s.has v⟩

/-- The set of the units of a list. -/
def ofList (units : List TimeUnit) : TimeUnits := units.foldl insert empty

/-- The units of the set, in order. -/
def toList (s : TimeUnits) : List TimeUnit := TimeUnit.all.filter s.has

/-- Whether the set has no units. -/
def isEmpty (s : TimeUnits) : Bool := s = empty

@[simp]
theorem not_mem_empty (u : TimeUnit) : ¬ u ∈ empty := by simp [Membership.mem, empty]

@[simp]
theorem mem_full (u : TimeUnit) : u ∈ full := rfl

@[simp]
theorem mem_insert {s : TimeUnits} {u v : TimeUnit} : v ∈ s.insert u ↔ v = u ∨ v ∈ s := by
  simp [Membership.mem, insert]

@[simp]
theorem mem_toList {s : TimeUnits} {u : TimeUnit} : u ∈ s.toList ↔ u ∈ s := by
  simp [toList, TimeUnit.mem_all]
  rfl

@[simp]
theorem mem_ofList {units : List TimeUnit} {u : TimeUnit} : u ∈ ofList units ↔ u ∈ units := by
  suffices h : ∀ s : TimeUnits, u ∈ units.foldl insert s ↔ u ∈ s ∨ u ∈ units by simp [ofList, h]
  induction units with
  | nil => simp
  | cons v units ih => intro s; simp [ih, or_assoc, or_comm (a := u = v)]

/-- A set is the set of its units. -/
@[simp]
theorem ofList_toList (s : TimeUnits) : ofList s.toList = s := ext_mem fun u => by simp

end TimeUnits

end Almanac
