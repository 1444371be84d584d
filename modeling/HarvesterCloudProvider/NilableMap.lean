import Mathlib

namespace HarvesterCloudProvider

/-!
# Maps that may be nil

A Go map value is either nil or a finite map.  Reading a missing key, also
from a nil map, yields the zero value of the element type; deleting from a nil
map does nothing; writing needs a map to write to, so the code under study
always replaces a nil map by an empty one first.

Finite maps are extensional tree maps: two maps with the same entries are
equal, and their entry list is sorted by key.
-/

/-- A finite map or nil. -/
abbrev NilableMap (Key Element : Type) [Ord Key] :=
  Option (Std.ExtTreeMap Key Element)

namespace NilableMap

variable {Key Element : Type}
variable [Ord Key] [Std.TransOrd Key]

/-- The entry stored under a key, as in the two-value form of a Go read. -/
def lookup
    (map : NilableMap Key Element)
    (key : Key) :
    Option Element :=
  map.bind fun entries => entries[key]?

/-- The one-value form of a Go read: the zero value stands for a missing key. -/
def read
    [Inhabited Element]
    (map : NilableMap Key Element)
    (key : Key) :
    Element :=
  (map.lookup key).getD default

/-- Write one entry, making the map first when it is nil. -/
def write
    (map : NilableMap Key Element)
    (key : Key)
    (element : Element) :
    NilableMap Key Element :=
  some ((map.getD ∅).insert key element)

/-- Delete one entry. -/
def remove
    (map : NilableMap Key Element)
    (key : Key) :
    NilableMap Key Element :=
  Option.map (fun entries => entries.erase key) map

@[simp] theorem lookup_none (key : Key) :
    lookup (none : NilableMap Key Element) key = none :=
  rfl

@[simp] theorem lookup_some
    (entries : Std.ExtTreeMap Key Element)
    (key : Key) :
    lookup (some entries) key = entries[key]? :=
  rfl

variable [Std.LawfulEqOrd Key]

@[simp] theorem lookup_write_self
    (map : NilableMap Key Element)
    (key : Key)
    (element : Element) :
    (map.write key element).lookup key = some element := by
  simp [write]

theorem lookup_write_of_ne
    (map : NilableMap Key Element)
    {key other : Key}
    (different : other ≠ key)
    (element : Element) :
    (map.write key element).lookup other = map.lookup other := by
  have notSame : compare key other ≠ .eq := by
    intro same
    exact different (Std.LawfulEqOrd.eq_of_compare same).symm
  cases map <;>
    simp [write, Std.ExtTreeMap.getElem?_insert, notSame]

@[simp] theorem lookup_remove_self
    (map : NilableMap Key Element)
    (key : Key) :
    (map.remove key).lookup key = none := by
  cases map <;> simp [remove]

theorem lookup_remove_of_ne
    (map : NilableMap Key Element)
    {key other : Key}
    (different : other ≠ key) :
    (map.remove key).lookup other = map.lookup other := by
  have notSame : compare key other ≠ .eq := by
    intro same
    exact different (Std.LawfulEqOrd.eq_of_compare same).symm
  cases map <;>
    simp [remove, Std.ExtTreeMap.getElem?_erase, notSame]

/-- What a map holds after a write. -/
theorem lookup_write
    [DecidableEq Key]
    (map : NilableMap Key Element)
    (key : Key)
    (element : Element)
    (other : Key) :
    (map.write key element).lookup other =
      if other = key then some element else map.lookup other := by
  split
  · rename_i same
    rw [same, lookup_write_self]
  · rename_i different
    exact lookup_write_of_ne map different element

/-- What a map holds after a deletion. -/
theorem lookup_remove
    [DecidableEq Key]
    (map : NilableMap Key Element)
    (key other : Key) :
    (map.remove key).lookup other = if other = key then none else map.lookup other := by
  split
  · rename_i same
    rw [same, lookup_remove_self]
  · rename_i different
    exact lookup_remove_of_ne map different

/-- Maps that are nil together and have the same entries are equal. -/
theorem eq_of_lookup
    {first second : NilableMap Key Element}
    (bothNil : first = none ↔ second = none)
    (sameEntries : ∀ key, first.lookup key = second.lookup key) :
    first = second := by
  cases first with
  | none =>
      exact (bothNil.mp rfl).symm
  | some firstEntries =>
      cases second with
      | none =>
          exact bothNil.mpr rfl
      | some secondEntries =>
          exact congrArg some (Std.ExtTreeMap.ext_getElem? sameEntries)

/-- Maps that are not nil and have the same entries are equal. -/
theorem eq_of_lookup_of_isSome
    {first second : NilableMap Key Element}
    (firstMade : first.isSome = true)
    (secondMade : second.isSome = true)
    (sameEntries : ∀ key, first.lookup key = second.lookup key) :
    first = second := by
  rw [Option.isSome_iff_ne_none] at firstMade secondMade
  exact eq_of_lookup (iff_of_false firstMade secondMade) sameEntries

variable [Inhabited Element]

omit [Std.LawfulEqOrd Key] in
theorem read_of_lookup
    {map : NilableMap Key Element}
    {key : Key}
    {element : Element}
    (found : map.lookup key = some element) :
    map.read key = element := by
  simp [read, found]

omit [Std.LawfulEqOrd Key] in
/-- Only a stored entry is read as something other than the zero value. -/
theorem lookup_of_read
    {map : NilableMap Key Element}
    {key : Key}
    {element : Element}
    (found : map.read key = element)
    (nonzero : element ≠ default) :
    map.lookup key = some element := by
  unfold read at found
  cases stored : map.lookup key with
  | none =>
      rw [stored] at found
      exact (nonzero found.symm).elim
  | some other =>
      rw [stored] at found
      exact congrArg some found

@[simp] theorem read_write_self
    (map : NilableMap Key Element)
    (key : Key)
    (element : Element) :
    (map.write key element).read key = element := by
  simp [read]

theorem read_write_of_ne
    (map : NilableMap Key Element)
    {key other : Key}
    (different : other ≠ key)
    (element : Element) :
    (map.write key element).read other = map.read other := by
  simp [read, lookup_write_of_ne map different element]

@[simp] theorem read_remove_self
    (map : NilableMap Key Element)
    (key : Key) :
    (map.remove key).read key = default := by
  simp [read]

theorem read_remove_of_ne
    (map : NilableMap Key Element)
    {key other : Key}
    (different : other ≠ key) :
    (map.remove key).read other = map.read other := by
  simp [read, lookup_remove_of_ne map different]

end NilableMap

end HarvesterCloudProvider
