import BigFrames.Analysis.PruneSchema

/-!
# Pruning and the columns nodes read

Every override of `prune` passes down, with the columns asked of it, the columns the node itself
reads from its child, so a rebuilt node still reads only ids of its pruned child
(`prune_readsScoped`), with one exception. `WindowOpNode.prune` adds its input column but not the
columns its `window_spec` partitions and orders by, where `FilterNode` and `OrderByNode` add all
of theirs: a window partitioned by a column nothing above it asks for is left reading a column
its pruned child no longer has (`prune_windowByPartition_not_scoped`). The law holds for every
tree whose window specifications read at most the window's input column.
-/

set_option autoImplicit false

namespace BigFrames

namespace BigFrameNode

/-- The node's window specification, if it has one, reads at most the window's input column. -/
def SpecReadsInputOnly : BigFrameNode → Prop
  | windowOpNode _ columnName _ windowSpec _ _ _ =>
      ∀ x ∈ windowSpec.allReferencedColumns, x = columnName
  | _ => True

variable (T : ExprTyping)

/-- INTERNAL: a rebuilt node that reads from `prune c V` only columns in `V` which it read from
`c` reads only ids of `prune c V`. -/
theorem readsScoped_prune_child {c : BigFrameNode} {V : ColumnSet} {cols cols' : List ColumnId}
    (hsc : ∀ x ∈ cols, x ∈ ids T c) (hsub : ∀ x ∈ cols', x ∈ cols) (hV : ∀ x ∈ cols', x ∈ V) :
    ∀ x ∈ cols', x ∈ ids T (prune c V) :=
  fun x hx => mem_ids_prune T (hV x hx) (hsc x (hsub x hx))

/-- INTERNAL: a node rebuilt over `prune c V` in place of `c`, reading from it only columns in
`V` that the original read from `c`, reads only ids of its child when the original did. -/
theorem readsScoped_rebuilt {n m c : BigFrameNode} {V : ColumnSet} {cols cols' : List ColumnId}
    (hn : reads n = [(cols, c)]) (hm : reads m = [(cols', prune c V)]) (h : ReadsScoped T n)
    (hsub : ∀ x ∈ cols', x ∈ cols ∧ x ∈ V) : ReadsScoped T m := by
  intro p hp
  rw [hm, List.mem_singleton] at hp
  subst hp
  exact readsScoped_prune_child T (h _ (hn ▸ List.mem_singleton_self _))
    (fun x hx => (hsub x hx).1) fun x hx => (hsub x hx).2

/-- Pruning keeps every node reading only ids of its own pruned child, on trees whose window
specifications read at most the window's input column.
PYLINE: nodes.py:330-335, 676-707, 750-799, 875-883, 914-920, 986-993 -/
theorem prune_readsScoped :
    ∀ (n : BigFrameNode), Every (ReadsScoped T) n → Every SpecReadsInputOnly n →
      ∀ U, Every (ReadsScoped T) (prune n U) := by
  intro n h hs U
  induction n, U using pruneInduction with
  | readLocal | readTable | cachedTable =>
      exact Every.intro _ (fun _ hp => nomatch hp) fun _ hd => nomatch hd
  | promoteOffsetsDropped c _ _ hcol ih | projectionDropped c _ _ _ hcol ih =>
      rw [prune, if_pos hcol]
      exact ih (h.child (List.mem_singleton_self c)) (hs.child (List.mem_singleton_self c))
  | windowOpDropped c _ _ _ _ _ _ _ hout =>
      rw [prune, if_pos hout]; exact h.child (List.mem_singleton_self c)
  | promoteOffsets c _ _ hcol ih =>
      rw [prune, if_neg hcol]
      exact Every.of_child (fun _ hp => nomatch hp) rfl
        (ih (h.child (List.mem_singleton_self c)) (hs.child (List.mem_singleton_self c)))
  | filter c _ _ ih | orderBy c _ _ ih | explode c _ _ ih =>
      exact Every.of_child (readsScoped_rebuilt T (by rfl) (by rfl) h.self
          fun x hx => ⟨hx, by simp [hx]⟩) rfl
        (ih (h.child (List.mem_singleton_self c)) (hs.child (List.mem_singleton_self c)))
  | reversed c _ _ ih | rowCount c _ ih | reprojectOp c _ ih | randomSample c _ _ ih =>
      exact Every.of_child (fun _ hp => nomatch hp) rfl
        (ih (h.child (List.mem_singleton_self c)) (hs.child (List.mem_singleton_self c)))
  | selection c _ _ _ ih =>
      refine Every.of_child (readsScoped_rebuilt T (by rfl) (by rfl) h.self fun x hx =>
          ⟨?_, List.mem_toFinset.mpr hx⟩) rfl
        (ih (h.child (List.mem_singleton_self c)) (hs.child (List.mem_singleton_self c)))
      obtain ⟨q, hq, rfl⟩ := List.mem_map.mp hx
      exact List.mem_map_of_mem _ (List.mem_of_mem_filter hq)
  | projection c _ _ _ hP ih =>
      rw [prune, if_neg hP]
      refine Every.of_child (readsScoped_rebuilt T (by rfl) (by rfl) h.self fun x hx =>
          ⟨?_, Finset.mem_union_right _ (List.mem_toFinset.mpr hx)⟩) rfl
        (ih (h.child (List.mem_singleton_self c)) (hs.child (List.mem_singleton_self c)))
      obtain ⟨a, ha, hx⟩ := List.mem_flatMap.mp hx
      exact List.mem_flatMap.mpr ⟨a, List.mem_of_mem_filter ha, hx⟩
  | aggregate c _ _ _ _ _ ih =>
      refine Every.of_child (readsScoped_rebuilt T (by rfl) (by rfl) h.self fun x hx =>
          ⟨?_, List.mem_toFinset.mpr hx⟩) rfl
        (ih (h.child (List.mem_singleton_self c)) (hs.child (List.mem_singleton_self c)))
      rcases List.mem_append.mp hx with hx | hx
      · exact List.mem_append_left _ hx
      · obtain ⟨a, ha, hx⟩ := List.mem_flatMap.mp hx
        exact List.mem_append_right _ (List.mem_flatMap.mpr ⟨a, List.mem_of_mem_filter ha, hx⟩)
  | windowOp c col _ _ _ _ _ _ hout ih =>
      rw [prune, if_neg hout]
      have hspec : ∀ x ∈ _, x = col := hs.self
      refine Every.of_child (readsScoped_rebuilt T (by rfl) (by rfl) h.self fun x hx =>
          ⟨hx, ?_⟩) rfl
        (ih (h.child (List.mem_singleton_self c)) (hs.child (List.mem_singleton_self c)))
      rcases List.mem_cons.mp hx with rfl | hx
      · simp
      · simp [hspec x hx]
  | join l r conds ty _ _ ihl ihr =>
      have hl : l ∈ childNodes (joinNode l r conds ty) := List.mem_cons_self l _
      have hr : r ∈ childNodes (joinNode l r conds ty) :=
        List.mem_cons_of_mem l (List.mem_singleton_self r)
      have hsc := h.self
      simp only [ReadsScoped, reads, List.mem_cons, List.mem_singleton, List.not_mem_nil,
        or_false, forall_eq_or_imp, forall_eq] at hsc
      refine Every.intro _ ?_ (by simpa [prune, childNodes] using
        ⟨ihl (h.child hl) (hs.child hl), ihr (h.child hr) (hs.child hr)⟩)
      simp only [ReadsScoped, prune, reads, List.mem_cons, List.mem_singleton, List.not_mem_nil,
        or_false, forall_eq_or_imp, forall_eq]
      refine ⟨readsScoped_prune_child T hsc.1 (fun x hx => hx) fun x hx => ?_,
        readsScoped_prune_child T hsc.2 (fun x hx => hx) fun x hx => ?_⟩ <;>
      · obtain ⟨q, hq, rfl⟩ := List.mem_map.mp hx
        exact Finset.mem_union_right _ (List.mem_toFinset.mpr
          (List.mem_flatMap.mpr ⟨q, hq, by simp⟩))
  | concat | fromRange => exact h

/-- `prune_readsScoped` on `filterOverRead` pruned to `b`. -/
theorem prune_readsScoped_filterOverRead :
    Every (ReadsScoped ExprTyping.firstInputType) filterOverRead ∧
      Every SpecReadsInputOnly filterOverRead ∧
      Every (ReadsScoped ExprTyping.firstInputType) (prune filterOverRead {⟨"b"⟩}) := by
  have h : Every (ReadsScoped ExprTyping.firstInputType) filterOverRead :=
    Every.of_leaf_child (by decide) rfl (by decide) rfl
  have hs : Every SpecReadsInputOnly filterOverRead := Every.of_leaf_child trivial rfl trivial rfl
  exact ⟨h, hs, prune_readsScoped _ filterOverRead h hs _⟩

/-- A window over a read of `a` and `p`, computed from `a` into `o` within partitions of `p`. -/
def windowByPartition : BigFrameNode :=
  windowOpNode
    (readLocalNode [] ⟨[]⟩ 2 ⟨[⟨⟨"a"⟩, intDtype, "a"⟩, ⟨⟨"p"⟩, intDtype, "p"⟩]⟩ none)
    ⟨"a"⟩ ⟨"cumsum"⟩ ⟨[⟨"p"⟩], [], "rows", 0⟩ ⟨"o"⟩ false false

/-- Pruning `windowByPartition` to its output `o` leaves the window partitioned by `p` over a read
that no longer has `p`. -/
theorem prune_windowByPartition_not_scoped :
    Every (ReadsScoped ExprTyping.firstInputType) windowByPartition ∧
      ¬ ReadsScoped ExprTyping.firstInputType (prune windowByPartition {⟨"o"⟩}) :=
  ⟨Every.of_leaf_child (by decide) rfl (by decide) rfl, by decide⟩

end BigFrameNode

end BigFrames
