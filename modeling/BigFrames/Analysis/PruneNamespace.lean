import BigFrames.Program.Namespace
import BigFrames.Analysis.PruneSchema

/-!
# Pruning defines no new name

What a pruned tree defines is among what the original defines. Every node `prune` rebuilds has
the class of the node it came from, so it starts a namespace exactly when that one does, and its
own names are among the original's, by `fields_prune`. A node `prune` drops
(`PromoteOffsetsNode`, `ProjectionNode`, `WindowOpNode`: nodes.py:658-663, 791-799, 914-920)
starts no namespace, so its child defines no name it does not define. Hence `defined_variables`
of `prune T U` is a subset of that of `T` whenever the latter is computable
(`definedVariables_prune`).

On the columns it is asked for, pruning changes no type: `get_type` of a requested id gives
the same dtype on the pruned tree, and raises there exactly when it raises on the original
(`getType_prune`).
-/

set_option autoImplicit false

namespace BigFrames

namespace BigFrameNode

variable (T : ExprTyping)

/-! ## Narrowing sets of names -/

/-- INTERNAL: where `b` is a set of names, `a` is a set of names within it. -/
def Narrows (a b : Option (List String)) : Prop :=
  ∀ S, b = some S → ∃ S', a = some S' ∧ S' ⊆ S

/-- INTERNAL: a set of names narrows itself. -/
theorem Narrows.refl (a : Option (List String)) : Narrows a a :=
  fun S h => ⟨S, h, List.Subset.refl S⟩

/-- INTERNAL: narrowing composes. -/
theorem Narrows.trans {a b c : Option (List String)} (hab : Narrows a b) (hbc : Narrows b c) :
    Narrows a c := fun S h =>
  let ⟨_, h₁, hs₁⟩ := hbc S h
  let ⟨S₂, h₂, hs₂⟩ := hab _ h₁
  ⟨S₂, h₂, hs₂.trans hs₁⟩

/-- INTERNAL: concatenations of subsets are subsets. -/
theorem append_subset_append {a' a b' b : List String} (ha : a' ⊆ a) (hb : b' ⊆ b) :
    a' ++ b' ⊆ a ++ b :=
  List.append_subset.mpr
    ⟨List.subset_append_of_subset_left _ ha, List.subset_append_of_subset_right _ hb⟩

/-- INTERNAL: unions of narrowing sets narrow. -/
theorem Narrows.append {a' a b' b : Option (List String)} (ha : Narrows a' a)
    (hb : Narrows b' b) :
    Narrows (do return (← a') ++ (← b')) (do return (← a) ++ (← b)) := by
  intro S h
  simp only [Option.bind_eq_bind, Option.bind_eq_some, Option.pure_def, Option.some.injEq] at h
  obtain ⟨x, hx, y, hy, rfl⟩ := h
  obtain ⟨x', hx', hsx⟩ := ha x hx
  obtain ⟨y', hy', hsy⟩ := hb y hy
  exact ⟨x' ++ y', by simp [hx', hy'], append_subset_append hsx hsy⟩

/-! ## One node -/

/-- INTERNAL: a pruned node's own names are among the original's. -/
theorem names_schema_prune {n : BigFrameNode} {s : ArraySchema} (h : schema T n = some s)
    (U : ColumnSet) : ∃ s', schema T (prune n U) = some s' ∧ s'.names ⊆ s.names := by
  simp only [schema, Option.map_eq_some'] at h
  obtain ⟨fs, hfs, rfl⟩ := h
  obtain ⟨fs', hfs', hp⟩ := fields_prune T n U hfs
  refine ⟨_, by rw [schema, hfs', Option.map_some'], ?_⟩
  simpa only [ArraySchema.names, List.map_map] using (hp.1.map ColumnId.name).subset

/-- INTERNAL: a node `prune` rebuilds, over children whose defined variables narrow the
original children's, has defined variables that narrow the original's. `hm` and `hn` unfold
`defined_variables` at the two nodes. -/
theorem narrows_of_rebuilt {n m : BigFrameNode} (U : ColumnSet) (hpm : prune n U = m)
    {a b : Option (List String)} (hm : definedVariables T m = ownAndInherited T m a)
    (hn : definedVariables T n = ownAndInherited T n b)
    (hns : definesNamespace m = definesNamespace n) (hab : Narrows a b) :
    Narrows (definedVariables T m) (definedVariables T n) := by
  intro S h
  rw [hn] at h
  rw [hm]
  simp only [ownAndInherited, Option.bind_eq_some] at h
  obtain ⟨s, hs, hS⟩ := h
  obtain ⟨s', hs', hsub⟩ := names_schema_prune T hs U
  rw [hpm] at hs'
  simp only [ownAndInherited, hs', Option.some_bind, hns]
  cases hn : definesNamespace n <;> simp only [hn, if_true, Bool.false_eq_true, if_false,
    Option.some.injEq, Option.map_eq_some'] at hS ⊢
  case true => exact ⟨_, rfl, hS ▸ hsub⟩
  case false =>
    obtain ⟨B, hB, rfl⟩ := hS
    obtain ⟨A, hA, hAB⟩ := hab B hB
    exact ⟨_, ⟨A, hA, rfl⟩, append_subset_append hsub hAB⟩

/-- INTERNAL: a node with one child that starts no namespace defines every name its child
does. -/
theorem narrows_child {n c : BigFrameNode} (h : childNodes n = [c])
    (hns : definesNamespace n = false) :
    Narrows (definedVariables T c) (definedVariables T n) := by
  intro S hS
  rw [definedVariables_of_child T h] at hS
  simp only [ownAndInherited, hns, Bool.false_eq_true, if_false, Option.bind_eq_some,
    Option.map_eq_some'] at hS
  obtain ⟨_, _, B, hB, rfl⟩ := hS
  exact ⟨B, hB, List.subset_append_right _ _⟩

/-! ## The tree -/

/-- INTERNAL: the induction along `prune`'s branches. -/
theorem narrows_prune (n : BigFrameNode) (U : ColumnSet) :
    Narrows (definedVariables T (prune n U)) (definedVariables T n) := by
  induction n, U using pruneInduction
  case promoteOffsetsDropped h ih | projectionDropped h ih =>
    rw [prune, if_pos h]; exact ih.trans (narrows_child T (by rfl) rfl)
  case windowOpDropped h => rw [prune, if_pos h]; exact narrows_child T (by rfl) rfl
  case promoteOffsets U h ih | projection U _ h ih | windowOp U h ih =>
    rw [prune, if_neg h]; exact narrows_of_rebuilt T U (by rw [prune, if_neg h]) rfl rfl rfl ih
  case join ihl ihr => exact narrows_of_rebuilt T _ rfl rfl rfl rfl (ihl.append ihr)
  case concat | fromRange => exact Narrows.refl _
  case readLocal | readTable | cachedTable =>
    exact narrows_of_rebuilt T _ rfl rfl rfl rfl (Narrows.refl _)
  all_goals exact narrows_of_rebuilt T _ rfl rfl rfl rfl ‹_›

/-- Pruning defines no new variable: where `defined_variables` of `n` is computable, that of
`prune n U` is too, and is a subset of it.
PYLINE: nodes.py:226-236, 243-244, 658-663, 791-799, 914-920 -/
theorem definedVariables_prune (n : BigFrameNode) (U : ColumnSet) {S : List String}
    (h : definedVariables T n = some S) :
    ∃ S', definedVariables T (prune n U) = some S' ∧ S' ⊆ S :=
  narrows_prune T n U S h

/-- `definedVariables_prune` on `filterOverRead` asked for `b`: the read keeps `a` for the
filter and drops `c`. -/
theorem definedVariables_prune_filterOverRead :
    definedVariables ExprTyping.firstInputType filterOverRead =
        some ["a", "b", "c", "a", "b", "c"] ∧
      ∃ S', definedVariables ExprTyping.firstInputType (prune filterOverRead {⟨"b"⟩}) =
        some S' ∧ S' ⊆ ["a", "b", "c", "a", "b", "c"] :=
  have h : definedVariables ExprTyping.firstInputType filterOverRead =
      some ["a", "b", "c", "a", "b", "c"] := by decide
  -- elaborated on its own first: matched against the statement with `S` still open, Lean
  -- evaluates `definedVariables` on the tree by unfolding, which takes seconds
  ⟨h, (definedVariables_prune _ filterOverRead {⟨"b"⟩} h :)⟩

/-! ## Types -/

/-- Pruning keeps the type of every requested column: where `n` has a schema, `get_type` of an
id in `U` gives on `prune n U` what it gives on `n`, a `KeyError` included. No hypothesis on the
ids is needed: where they repeat, both lookups see the last field with the id.
PYLINE: nodes.py:238-244 -/
theorem getType_prune {n : BigFrameNode} (hn : (fields T n).isSome) (U : ColumnSet)
    {x : ColumnId} (hx : x ∈ U) : getType T (prune n U) x = getType T n x := by
  obtain ⟨fs, hfs⟩ := Option.isSome_iff_exists.mp hn
  obtain ⟨fs', hfs', hp⟩ := fields_prune T n U hfs
  simp only [getType, hfs, hfs', Option.some_bind, hp.2 x hx]

/-- `getType_prune` on `filterOverRead` asked for `b`. -/
theorem getType_prune_filterOverRead :
    (fields ExprTyping.firstInputType filterOverRead).isSome ∧
      (⟨"b"⟩ : ColumnId) ∈ ({⟨"b"⟩} : ColumnSet) ∧
      getType ExprTyping.firstInputType (prune filterOverRead {⟨"b"⟩}) ⟨"b"⟩ =
        getType ExprTyping.firstInputType filterOverRead ⟨"b"⟩ :=
  ⟨by decide, Finset.mem_singleton_self _,
    getType_prune _ (by decide) {⟨"b"⟩} (Finset.mem_singleton_self _)⟩

end BigFrameNode

end BigFrames
