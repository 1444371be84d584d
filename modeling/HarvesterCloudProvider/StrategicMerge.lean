import Mathlib

namespace HarvesterCloudProvider

/-!
# Patching a list by keys

A strategic merge patch brings a list of items and may ask to replace the stored
list.  Otherwise it is merged: each of its items takes the place of the first
stored item with the same key, or goes to the end, and the order is that of the
patch as far as the patch speaks about the keys.

Keys that are not unique corrupt a merged list: of two items with one key the
second overwrites the first.  A patch that meets its own items loses none of them
unless it leaves an item twice.
-/

namespace StrategicMerge

/-- What a patch says about one list; the items name all their fields. -/
structure ListPatch (Item : Type) where
  items : List Item
  replaces : Bool

variable {Item Key : Type}
variable [DecidableEq Key]
variable (keyOf : Item → Key)

section Definitions

/-- Overwrite the first item with the key of the given one, or append it. -/
def mergeItem (original : List Item) (item : Item) : List Item :=
  match original with
  | [] => [item]
  | first :: rest =>
      if keyOf first = keyOf item then
        item :: rest
      else
        first :: mergeItem rest item

/-- `mergeSliceWithoutSpecialElements`. -/
def mergeItems (original items : List Item) : List Item :=
  items.foldl (mergeItem keyOf) original

/-- Whether a list has an item with the key of the given one. -/
def hasKey (items : List Item) (item : Item) : Bool :=
  items.any fun other => keyOf other = keyOf item

/-- The place of the first item with the key of the given one. -/
def index (order : List Item) (item : Item) : Nat :=
  order.findIdx fun other => keyOf other = keyOf item

/-- `normalizeSliceOrder`: a stable sort of items whose keys are all in the order. -/
def normalizeSliceOrder (toSort order : List Item) : List Item :=
  toSort.insertionSort fun first second => index keyOf order first ≤ index keyOf order second

/-- `mergeSortedSlice`: a left item goes first where both keys are known in this order. -/
def mergeSortedSlice (left right serverOrder : List Item) : List Item :=
  List.merge left right fun first second =>
    hasKey keyOf serverOrder first && hasKey keyOf serverOrder second &&
      index keyOf serverOrder first < index keyOf serverOrder second

/-- The end of `mergeSlice`: the order of the patch, then that of the server. -/
def normalizeElementOrder (merged patchOrder serverOrder : List Item) : List Item :=
  let patchItems := merged.filter fun item => hasKey keyOf patchOrder item
  let serverOnlyItems := merged.filter fun item => !hasKey keyOf patchOrder item
  mergeSortedSlice keyOf
    (normalizeSliceOrder keyOf serverOnlyItems serverOrder)
    (normalizeSliceOrder keyOf patchItems patchOrder)
    serverOrder

/-- `mergeSlice`; a replacing patch stands for the original. -/
def mergeSlice (original : List Item) (patch : ListPatch Item) : List Item :=
  if patch.replaces then
    normalizeElementOrder keyOf patch.items [] patch.items
  else
    normalizeElementOrder keyOf (mergeItems keyOf original patch.items) patch.items original

/-- The list after a patch.  An empty list is not in the document, so the items are taken. -/
def applyPatch (stored : List Item) (patch : ListPatch Item) : List Item :=
  if stored = [] then patch.items else mergeSlice keyOf stored patch

end Definitions

section Permutations

variable {keyOf}

theorem normalizeElementOrder_perm (merged patchOrder serverOrder : List Item) :
    (normalizeElementOrder keyOf merged patchOrder serverOrder).Perm merged := by
  unfold normalizeElementOrder mergeSortedSlice normalizeSliceOrder
  refine (List.merge_perm_append _).trans ?_
  refine ((List.perm_insertionSort _ _).append (List.perm_insertionSort _ _)).trans ?_
  exact List.perm_append_comm.trans (List.filter_append_perm _ merged)

/-- Merging brings in no item of its own. -/
theorem mem_of_mem_mergeItem
    {original : List Item}
    {item other : Item}
    (member : other ∈ mergeItem keyOf original item) :
    other = item ∨ other ∈ original := by
  induction original with
  | nil =>
      exact .inl (List.mem_singleton.mp member)
  | cons first rest inductionHypothesis =>
      rw [mergeItem] at member
      split at member
      · rcases List.mem_cons.mp member with same | later
        · exact .inl same
        · exact .inr (List.mem_cons_of_mem _ later)
      · rcases List.mem_cons.mp member with same | later
        · exact .inr (same ▸ List.mem_cons_self)
        · rcases inductionHypothesis later with same | earlier
          · exact .inl same
          · exact .inr (List.mem_cons_of_mem _ earlier)

/-- An item whose key is there overwrites one and does not change the keys. -/
theorem map_mergeItem
    {original : List Item}
    {item : Item}
    (known : keyOf item ∈ original.map keyOf) :
    (mergeItem keyOf original item).map keyOf = original.map keyOf := by
  induction original with
  | nil =>
      cases known
  | cons first rest inductionHypothesis =>
      rw [mergeItem]
      split
      · rename_i same
        rw [List.map_cons, List.map_cons, same]
      · rename_i different
        rw [List.map_cons, List.map_cons]
        refine congrArg _ (inductionHypothesis ?_)
        rcases List.mem_cons.mp known with same | later
        · exact (different same.symm).elim
        · exact later

theorem mem_of_mem_mergeItems
    {original items : List Item}
    {other : Item}
    (member : other ∈ mergeItems keyOf original items) :
    other ∈ items ∨ other ∈ original := by
  induction items generalizing original with
  | nil =>
      exact .inr member
  | cons item rest inductionHypothesis =>
      rcases inductionHypothesis member with later | merged
      · exact .inl (List.mem_cons_of_mem _ later)
      · rcases mem_of_mem_mergeItem merged with same | earlier
        · exact .inl (same ▸ List.mem_cons_self)
        · exact .inr earlier

/-- Items whose keys are all there overwrite and do not change the number. -/
theorem length_mergeItems
    {original items : List Item}
    (known : ∀ item ∈ items, keyOf item ∈ original.map keyOf) :
    (mergeItems keyOf original items).length = original.length := by
  induction items generalizing original with
  | nil =>
      rfl
  | cons item rest inductionHypothesis =>
      have sameKeys := map_mergeItem (known item List.mem_cons_self)
      have later :=
        @inductionHypothesis (mergeItem keyOf original item) fun other member => by
          rw [sameKeys]
          exact known other (List.mem_cons_of_mem _ member)
      refine later.trans ?_
      rw [← List.length_map keyOf, sameKeys, List.length_map]

/-- Items that are merged into themselves stay, unless one of them is left twice. -/
theorem mergeItems_perm
    {original items : List Item}
    (present : original.Perm items)
    (distinct : (mergeItems keyOf original items).Nodup) :
    (mergeItems keyOf original items).Perm items := by
  have among : mergeItems keyOf original items ⊆ items := by
    intro other member
    rcases mem_of_mem_mergeItems member with own | stored
    · exact own
    · exact present.subset stored
  have sameLength : (mergeItems keyOf original items).length = items.length := by
    rw [← present.length_eq]
    refine length_mergeItems fun item member => ?_
    exact List.mem_map_of_mem (present.symm.subset member)
  exact (List.subperm_of_subset distinct among).perm_of_length_le sameLength.ge

variable {stored : List Item}
variable {patch : ListPatch Item}

/-- A patch that replaces or meets an empty list leaves its items in some order. -/
theorem applyPatch_perm
    (free : patch.replaces = true ∨ stored = []) :
    (applyPatch keyOf stored patch).Perm patch.items := by
  unfold applyPatch
  split
  · exact .refl _
  · rename_i something
    unfold mergeSlice
    rw [if_pos (free.resolve_right something)]
    exact normalizeElementOrder_perm _ _ _

/-- A patch that meets its own items leaves them, unless it leaves an item twice. -/
theorem applyPatch_perm_of_present
    (present : stored.Perm patch.items)
    (distinct : (applyPatch keyOf stored patch).Nodup) :
    (applyPatch keyOf stored patch).Perm patch.items := by
  by_cases free : patch.replaces = true ∨ stored = []
  · exact applyPatch_perm free
  · obtain ⟨merges, something⟩ := not_or.mp free
    unfold applyPatch mergeSlice at distinct ⊢
    rw [if_neg something, if_neg merges] at distinct ⊢
    have sorted :=
      @normalizeElementOrder_perm _ _ _ keyOf (mergeItems keyOf stored patch.items)
        patch.items stored
    exact sorted.trans (mergeItems_perm present (sorted.nodup_iff.mp distinct))

end Permutations

/-- Of two items with one key the second overwrites the first and is there twice. -/
example :
    mergeItems Prod.fst [("a", 1), ("a", 2), ("b", 3)] [("a", 1), ("a", 2), ("b", 3)] =
      [("a", 2), ("a", 2), ("b", 3)] := by
  decide

end StrategicMerge

end HarvesterCloudProvider
