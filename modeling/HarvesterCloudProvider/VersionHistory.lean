import Mathlib

namespace HarvesterCloudProvider

/-!
# Histories of versioned objects

An object under one name is written, removed and made again by many clients.
Every write gets a version that was never used before, so that a version stands
for one state of the object.  A client that read some state and finds its
version still current knows that nobody wrote in between.
-/

/-- The states an object went through, with versions that are never reused. -/
structure VersionHistory (Object : Type) (versionOf : Object → Nat) where
  current : Option Object
  /-- Every state so far, the current one included. -/
  states : List (Option Object)
  /-- The latest version that was given out. -/
  counter : Nat
  recorded : current ∈ states
  bounded : ∀ {object : Object}, some object ∈ states → versionOf object ≤ counter
  distinct :
    ∀ {first second : Object},
      some first ∈ states →
      some second ∈ states →
      versionOf first = versionOf second →
      first = second

namespace VersionHistory

variable {Object : Type}
variable {versionOf : Object → Nat}

/-- A name without an object. -/
def empty : VersionHistory Object versionOf where
  current := none
  states := [none]
  counter := 0
  recorded := by simp
  bounded := by
    intro object member
    simp at member
  distinct := by
    intro first second member
    simp at member

/-- The next state is an object with the next version. -/
def store
    (history : VersionHistory Object versionOf)
    (object : Object)
    (fresh : versionOf object = history.counter + 1) :
    VersionHistory Object versionOf where
  current := some object
  states := some object :: history.states
  counter := history.counter + 1
  recorded := List.mem_cons_self
  bounded := by
    intro other member
    rcases List.mem_cons.mp member with same | earlier
    · cases same
      exact fresh.le
    · exact (history.bounded earlier).trans (Nat.le_succ _)
  distinct := by
    intro first second firstMember secondMember sameVersion
    rcases List.mem_cons.mp firstMember with firstNew | firstOld
    · rcases List.mem_cons.mp secondMember with secondNew | secondOld
      · rw [← secondNew, Option.some.injEq] at firstNew
        exact firstNew
      · cases firstNew
        have old := history.bounded secondOld
        omega
    · rcases List.mem_cons.mp secondMember with secondNew | secondOld
      · cases secondNew
        have old := history.bounded firstOld
        omega
      · exact history.distinct firstOld secondOld sameVersion

/-- The next state is the absence of the object. -/
def remove (history : VersionHistory Object versionOf) : VersionHistory Object versionOf where
  current := none
  states := none :: history.states
  counter := history.counter
  recorded := List.mem_cons_self
  bounded := by
    intro object member
    exact history.bounded (by simpa using member)
  distinct := by
    intro first second firstMember secondMember sameVersion
    exact history.distinct (by simpa using firstMember) (by simpa using secondMember)
      sameVersion

/-- A state with the version of the current object is the current one. -/
theorem eq_current
    {history : VersionHistory Object versionOf}
    {seen stored : Object}
    (member : some seen ∈ history.states)
    (current : history.current = some stored)
    (sameVersion : versionOf stored = versionOf seen) :
    stored = seen :=
  history.distinct (current ▸ history.recorded) member sameVersion

end VersionHistory

end HarvesterCloudProvider
