import BigFrames.Analysis.PruneSchema

/-!
# Pruning in stages

For `U ⊆ V`, pruning to `V` and then to `U` gives the same tree as pruning to `U` at once, for
every tree without a `WindowOpNode` (`prune_prune_of_subset`): each override keeps its own
columns and adds to the set it passes down a part of what it reads that only shrinks with the set
it is given, so the two routes meet at every node.

`WindowOpNode` breaks the law, and with it idempotence. When its output is not requested it
returns `self.child` itself, where `PromoteOffsetsNode` and `ProjectionNode`, in the same
situation, return `self.child.prune(used_cols)`; pruning that child a second time removes what the
first pass left (`prune_windowOverRead_not_idempotent`).
-/

set_option autoImplicit false

namespace BigFrames

namespace BigFrameNode

/-- `n` is a `WindowOpNode`. -/
def isWindowOpNode : BigFrameNode → Bool
  | windowOpNode .. => true
  | _ => false

/-- INTERNAL: filtering to `U` after filtering to a `V ⊇ U` filters to `U`. -/
theorem filter_mem_filter_mem {α : Type} (key : α → ColumnId) {U V : ColumnSet} (hUV : U ⊆ V)
    (l : List α) :
    (l.filter fun a => key a ∈ V).filter (fun a => key a ∈ U) = l.filter fun a => key a ∈ U := by
  rw [List.filter_filter]
  refine List.filter_congr fun a _ => ?_
  by_cases h : key a ∈ U
  · simp [h, hUV h]
  · simp [h]

/-- INTERNAL: the columns a list of items references, over a sublist, are among those over the
list. -/
theorem flatMap_toFinset_subset {α : Type} (refs : α → List ColumnId) {l l' : List α}
    (h : l'.Sublist l) : (l'.flatMap refs).toFinset ⊆ (l.flatMap refs).toFinset :=
  fun _ hx => List.mem_toFinset.mpr (mem_flatMap_of_sublist refs h (List.mem_toFinset.mp hx))

/-- Outside `WindowOpNode`, pruning to `V` and then to `U ⊆ V` is pruning to `U`.
PYLINE: nodes.py:243-244, 497-507, 615-663, 676-707, 750-799, 875-883, 986-993 -/
theorem prune_prune_of_subset :
    ∀ (n : BigFrameNode), Every (fun m => isWindowOpNode m = false) n →
      ∀ (U V : ColumnSet), U ⊆ V → prune (prune n V) U = prune n U
  | readLocalNode .., _, U, V, hUV | readTableNode .., _, U, V, hUV
  | cachedTableNode .., _, U, V, hUV => by
      simp only [prune, filter_mem_filter_mem ScanItem.id hUV]
  | promoteOffsetsNode c col, h, U, V, hUV => by
      have ih := prune_prune_of_subset c (h.child (List.mem_singleton_self c))
      by_cases hV : col ∈ V
      · by_cases hU : col ∈ U
        · simp [prune, hU, hV, ih _ _ (Finset.sdiff_subset_sdiff hUV le_rfl)]
        · simp only [prune, hU, hV, not_true_eq_false, not_false_eq_true, ↓reduceIte]
          exact ih _ _ fun x hx => Finset.mem_sdiff.mpr
            ⟨hUV hx, fun hxc => hU (Finset.mem_singleton.mp hxc ▸ hx)⟩
      · have hU : col ∉ U := fun hU => hV (hUV hU)
        simp [prune, hU, hV, ih _ _ hUV]
  | filterNode c p, h, U, V, hUV => by
      simp [prune, prune_prune_of_subset c (h.child (List.mem_singleton_self c)) _ _
        (Finset.union_subset_union hUV le_rfl)]
  | orderByNode c b, h, U, V, hUV => by
      simp [prune, prune_prune_of_subset c (h.child (List.mem_singleton_self c)) _ _
        (Finset.union_subset_union hUV le_rfl)]
  | reversedNode c _, h, U, V, hUV | rowCountNode c, h, U, V, hUV
  | reprojectOpNode c, h, U, V, hUV | randomSampleNode c _, h, U, V, hUV => by
      simp [prune, prune_prune_of_subset c (h.child (List.mem_singleton_self c)) _ _ hUV]
  | selectionNode c pairs, h, U, V, hUV => by
      have ih := prune_prune_of_subset c (h.child (List.mem_singleton_self c))
      have hsub : (pairs.filter (·.2 ∈ U)).Sublist (pairs.filter (·.2 ∈ V)) := by
        rw [← filter_mem_filter_mem Prod.snd hUV pairs]; exact List.filter_sublist _
      simp only [prune, filter_mem_filter_mem Prod.snd hUV]
      rw [ih _ _ fun x hx => by
        simp only [List.mem_toFinset] at hx ⊢; exact (hsub.map _).subset hx]
  | projectionNode c as, h, U, V, hUV => by
      have ih := prune_prune_of_subset c (h.child (List.mem_singleton_self c))
      have hsub : (as.filter (·.2 ∈ U)).Sublist (as.filter (·.2 ∈ V)) := by
        rw [← filter_mem_filter_mem Prod.snd hUV as]; exact List.filter_sublist _
      by_cases hV : (as.filter (·.2 ∈ V)).length = 0
      · have hU : (as.filter (·.2 ∈ U)).length = 0 := by
          simpa [hV] using hsub.length_le
        simp [prune, hU, hV, ih _ _ hUV]
      · by_cases hU : (as.filter (·.2 ∈ U)).length = 0
        · simp only [prune, hV, hU, ↓reduceIte, filter_mem_filter_mem Prod.snd hUV]
          exact ih _ _ (hUV.trans Finset.subset_union_left)
        · simp only [prune, hV, hU, ↓reduceIte, filter_mem_filter_mem Prod.snd hUV]
          rw [ih _ _ (Finset.union_subset_union hUV (flatMap_toFinset_subset _ hsub))]
  | aggregateNode c aggs byIds dropna, h, U, V, hUV => by
      have ih := prune_prune_of_subset c (h.child (List.mem_singleton_self c))
      have hsub : (aggs.filter (·.2 ∈ U)).Sublist (aggs.filter (·.2 ∈ V)) := by
        rw [← filter_mem_filter_mem Prod.snd hUV aggs]; exact List.filter_sublist _
      simp only [prune, filter_mem_filter_mem Prod.snd hUV]
      rw [ih _ _ (by
        simpa only [List.toFinset_append] using
          Finset.union_subset_union le_rfl (flatMap_toFinset_subset _ hsub))]
  | windowOpNode .., h, _, _, _ => nomatch h.self
  | explodeNode c cols, h, U, V, hUV => by
      simp [prune, prune_prune_of_subset c (h.child (List.mem_singleton_self c)) _ _
        (Finset.union_subset_union hUV le_rfl)]
  | joinNode l r conds ty, h, U, V, hUV => by
      simp [prune, prune_prune_of_subset l (h.child (show l ∈ [l, r] by simp)) _ _
        (Finset.union_subset_union hUV le_rfl),
        prune_prune_of_subset r (h.child (show r ∈ [l, r] by simp)) _ _
        (Finset.union_subset_union hUV le_rfl)]
  | concatNode _, _, _, _, _ | fromRangeNode .., _, _, _, _ => rfl

/-- `prune_prune_of_subset` on `filterOverRead`, pruned to `a` and `b` and then to `b`. -/
theorem prune_prune_filterOverRead :
    Every (fun m => isWindowOpNode m = false) filterOverRead ∧
      ({⟨"b"⟩} : ColumnSet) ⊆ {⟨"a"⟩, ⟨"b"⟩} ∧
      prune (prune filterOverRead {⟨"a"⟩, ⟨"b"⟩}) {⟨"b"⟩} = prune filterOverRead {⟨"b"⟩} := by
  have h : Every (fun m => isWindowOpNode m = false) filterOverRead :=
    Every.of_leaf_child rfl rfl rfl rfl
  have hsub : ({⟨"b"⟩} : ColumnSet) ⊆ {⟨"a"⟩, ⟨"b"⟩} := by simp
  exact ⟨h, hsub, prune_prune_of_subset filterOverRead h _ _ hsub⟩

/-- A window over a read of `a` and `b`, computed from `a` into `o`, with an empty
specification. -/
def windowOverRead : BigFrameNode :=
  windowOpNode
    (readLocalNode [] ⟨[]⟩ 2 ⟨[⟨⟨"a"⟩, intDtype, "a"⟩, ⟨⟨"b"⟩, intDtype, "b"⟩]⟩ none)
    ⟨"a"⟩ ⟨"cumsum"⟩ ⟨[], [], "rows", 0⟩ ⟨"o"⟩ false false

/-- Pruning `windowOverRead` to `a` twice does not give what pruning it once gives: the first
pass returns the read unpruned, the second drops `b` from it. -/
theorem prune_windowOverRead_not_idempotent :
    WellFormed ExprTyping.firstInputType windowOverRead ∧
      prune (prune windowOverRead {⟨"a"⟩}) {⟨"a"⟩} ≠ prune windowOverRead {⟨"a"⟩} := by
  refine ⟨Every.of_leaf_child (by decide) rfl (by decide) rfl, ?_⟩
  simp [windowOverRead, prune]

end BigFrameNode

end BigFrames
