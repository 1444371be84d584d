import Mathlib

namespace HarvesterCloudProvider

/-!
# Marking the first wanted item of each class

Items come in a list, every item belongs to a class, and some items are wanted.
Marking picks the first wanted item of each class.  A loop can do this with one
flag for each class that says whether an item was picked already.
-/

section Marking

variable {Item Class : Type}
variable [DecidableEq Class]
variable (classOf : Item → Class)
variable (wanted : Item → Bool)

/-- Some item of a class is wanted. -/
def anyWanted (items : List Item) (kind : Class) : Bool :=
  items.any fun item => decide (classOf item = kind) && wanted item

/-- Mark the wanted items that no earlier item of their class preceded. -/
def markFirst : List Item → List Item → List (Item × Bool)
  | _, [] => []
  | earlier, item :: rest =>
      (item, wanted item && !anyWanted classOf wanted earlier (classOf item)) ::
        markFirst (earlier ++ [item]) rest

variable {classOf wanted}

theorem anyWanted_append
    (first second : List Item)
    (kind : Class) :
    anyWanted classOf wanted (first ++ second) kind =
      (anyWanted classOf wanted first kind || anyWanted classOf wanted second kind) :=
  List.any_append

theorem anyWanted_singleton (item : Item) (kind : Class) :
    anyWanted classOf wanted [item] kind =
      (decide (classOf item = kind) && wanted item) := by
  simp [anyWanted]

/-- Marking loses no item and keeps the order. -/
theorem markFirst_items (earlier items : List Item) :
    (markFirst classOf wanted earlier items).map Prod.fst = items := by
  induction items generalizing earlier with
  | nil =>
      rfl
  | cons item rest inductionHypothesis =>
      simp [markFirst, inductionHypothesis]

/-- Marking goes through a list from the front. -/
theorem markFirst_append (earlier first second : List Item) :
    markFirst classOf wanted earlier (first ++ second) =
      markFirst classOf wanted earlier first ++
        markFirst classOf wanted (earlier ++ first) second := by
  induction first generalizing earlier with
  | nil =>
      simp [markFirst]
  | cons item rest inductionHypothesis =>
      simp [markFirst, inductionHypothesis]

/-- Marking looks at earlier items only for the classes that are taken. -/
theorem markFirst_congr
    {earlier other : List Item}
    (sameTaken :
      ∀ kind, anyWanted classOf wanted earlier kind = anyWanted classOf wanted other kind)
    (items : List Item) :
    markFirst classOf wanted earlier items = markFirst classOf wanted other items := by
  induction items generalizing earlier other with
  | nil =>
      rfl
  | cons item rest inductionHypothesis =>
      rw [markFirst, markFirst, sameTaken]
      refine congrArg (List.cons _) (inductionHypothesis fun kind => ?_)
      rw [anyWanted_append, anyWanted_append, sameTaken]

/-- An item is marked for what stands before it. -/
theorem markFirst_marked
    {earlier items : List Item}
    {before after : List (Item × Bool)}
    {entry : Item × Bool}
    (split : markFirst classOf wanted earlier items = before ++ entry :: after) :
    entry.2 = true ↔
      wanted entry.1 = true ∧
        anyWanted classOf wanted (earlier ++ before.map Prod.fst)
          (classOf entry.1) = false := by
  induction items generalizing earlier before with
  | nil =>
      simp [markFirst] at split
  | cons item rest inductionHypothesis =>
      cases before with
      | nil =>
          simp only [markFirst, List.nil_append, List.cons.injEq] at split
          rw [← split.1]
          simp
      | cons first before =>
          simp only [markFirst, List.cons_append, List.cons.injEq] at split
          obtain ⟨rfl, tail⟩ := split
          rw [inductionHypothesis tail]
          simp

/-- The marked items of a class: the first wanted one, unless there was one before. -/
theorem markFirst_class
    (earlier items : List Item)
    (kind : Class) :
    ((markFirst classOf wanted earlier items).filter fun entry =>
        entry.2 && decide (classOf entry.1 = kind)).map Prod.fst =
      if anyWanted classOf wanted earlier kind then
        []
      else
        ((items.filter fun item =>
          decide (classOf item = kind) && wanted item).head?).toList := by
  induction items generalizing earlier with
  | nil =>
      simp [markFirst]
  | cons item rest inductionHypothesis =>
      simp only [markFirst, List.filter_cons]
      by_cases sameClass : classOf item = kind
      · subst sameClass
        cases isWanted : wanted item with
        | false =>
            simp [inductionHypothesis, anyWanted_append, anyWanted_singleton, isWanted]
        | true =>
            cases already : anyWanted classOf wanted earlier (classOf item) with
            | false =>
                simp [inductionHypothesis, anyWanted_append, anyWanted_singleton,
                  isWanted]
            | true =>
                simp [inductionHypothesis, anyWanted_append, already]
      · simp [inductionHypothesis, anyWanted_append, anyWanted_singleton, sameClass]

/-- Only wanted items are marked. -/
theorem wanted_of_marked
    {earlier items : List Item}
    {entry : Item × Bool}
    (member : entry ∈ markFirst classOf wanted earlier items)
    (marked : entry.2 = true) :
    wanted entry.1 = true := by
  obtain ⟨before, after, split⟩ := List.append_of_mem member
  exact ((markFirst_marked split).mp marked).1

/-- An item is marked exactly if it is found first among the wanted items of its class. -/
theorem mem_markFirst_iff
    {items : List Item}
    {item : Item} :
    (item, true) ∈ markFirst classOf wanted [] items ↔
      (items.find? fun other =>
        decide (classOf other = classOf item) && wanted other) = some item := by
  have marked :=
    @markFirst_class Item Class _ classOf wanted [] items (classOf item)
  rw [anyWanted, List.any_nil, if_neg Bool.false_ne_true, List.head?_filter] at marked
  have listed :
      (item, true) ∈ markFirst classOf wanted [] items ↔
        item ∈ ((markFirst classOf wanted [] items).filter fun entry =>
          entry.2 && decide (classOf entry.1 = classOf item)).map Prod.fst := by
    constructor
    · intro member
      exact List.mem_map.mpr ⟨(item, true), List.mem_filter.mpr ⟨member, by simp⟩, rfl⟩
    · intro member
      obtain ⟨⟨_, mark⟩, kept, rfl⟩ := List.mem_map.mp member
      obtain ⟨inList, isMarked⟩ := List.mem_filter.mp kept
      rw [Bool.and_eq_true] at isMarked
      rw [← show mark = true from isMarked.1]
      exact inList
  rw [listed, marked, Option.mem_toList]

/-- Where an item is wanted, one of its class is marked. -/
theorem exists_marked
    {items : List Item}
    {item : Item}
    (member : item ∈ items)
    (isWanted : wanted item = true) :
    ∃ entry ∈ markFirst classOf wanted [] items,
      entry.2 = true ∧ classOf entry.1 = classOf item := by
  have marked :=
    @markFirst_class Item Class _ classOf wanted [] items (classOf item)
  rw [anyWanted, List.any_nil, if_neg Bool.false_ne_true] at marked
  have found :
      item ∈ items.filter fun other =>
        decide (classOf other = classOf item) && wanted other := by
    simp [member, isWanted]
  cases candidates : items.filter fun other =>
      decide (classOf other = classOf item) && wanted other with
  | nil =>
      rw [candidates] at found
      cases found
  | cons first rest =>
      rw [candidates, List.head?_cons, Option.toList_some] at marked
      obtain ⟨entry, kept, -⟩ :=
        List.mem_map.mp (marked.symm ▸ List.mem_singleton_self first)
      obtain ⟨listed, isMarked⟩ := List.mem_filter.mp kept
      rw [Bool.and_eq_true, decide_eq_true_eq] at isMarked
      exact ⟨entry, listed, isMarked.1, isMarked.2⟩

end Marking

end HarvesterCloudProvider
