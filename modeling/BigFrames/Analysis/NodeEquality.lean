import BigFrames.Program.Equality

/-!
# Node equality is structural equality

`a == b` holds exactly when `a` and `b` are the same node: the same class, and equal in every
declared field, `CachedTableNode.original_node` included (`eq_iff_and_hash`). Equal nodes have
equal hashes, so neither short-circuit of `__eq__` changes what the full field comparison
`fieldsEqual` gives. A `CachedTableNode`'s tuple holds `original_node`, so two caches of the same
table made from different trees compare unequal (`eq_cachedOf_ne`): `original_node` is left out
of `child_nodes`, but not out of equality or hashing.

The proof goes through `tupleEq` once, for any `wrap` that decides equality whenever the tuple
comparison it is given does (`tupleEq_iff`). Both `eqBy is` and the identity are such a `wrap`.
-/

set_option autoImplicit false

namespace BigFrames

namespace BigFrameNode

section

variable {wrap : BigFrameNode → BigFrameNode → Bool → Bool}
  (hwrap : ∀ a b t, (t = true ↔ a = b) → (wrap a b t = true ↔ a = b))

include hwrap in
mutual

/-- INTERNAL: the tuple comparison decides equality once the nodes it holds are compared by a
`wrap` that decides it.
PYLINE: nodes.py:98-100, 106-114 -/
theorem tupleEq_iff : ∀ a b, tupleEq wrap a b = true ↔ a = b
  | readLocalNode .., b | readTableNode .., b => by
      cases b <;> simp [tupleEq, and_assoc]
  | cachedTableNode _ _ _ o, b => by
      cases b <;> simp [tupleEq, and_assoc, hwrap _ _ _ (tupleEq_iff o _)]
  | promoteOffsetsNode c _, b | filterNode c _, b | orderByNode c _, b | reversedNode c _, b
  | selectionNode c _, b | projectionNode c _, b | rowCountNode c, b | aggregateNode c .., b
  | windowOpNode c .., b | reprojectOpNode c, b | randomSampleNode c _, b
  | explodeNode c _, b => by
      cases b <;> simp [tupleEq, and_assoc, hwrap _ _ _ (tupleEq_iff c _)]
  | joinNode l r .., b | fromRangeNode l r _, b => by
      cases b <;>
        simp [tupleEq, and_assoc, hwrap _ _ _ (tupleEq_iff l _), hwrap _ _ _ (tupleEq_iff r _)]
  | concatNode cs, b => by
      cases b <;> simp [tupleEq, tupleEqList_iff cs]

/-- INTERNAL: two tuples of nodes compare equal exactly when they are equal. -/
theorem tupleEqList_iff : ∀ cs cs', tupleEq.tupleEqList wrap cs cs' = true ↔ cs = cs'
  | [], [] | [], _ :: _ | _ :: _, [] => by simp [tupleEq.tupleEqList]
  | c :: cs, c' :: cs' => by
      simp [tupleEq.tupleEqList, hwrap _ _ _ (tupleEq_iff c c'), tupleEqList_iff cs cs']

end

end

/-- INTERNAL: a node is an instance of its own class. -/
theorem isInstance_className (n : BigFrameNode) : isInstance n (className n) = true := by
  simp [isInstance]

/-- INTERNAL: `__eq__`'s short-circuits keep a comparison that decides equality deciding it:
the same node passes `isinstance`, only equal nodes are the same object, and equal nodes have
equal hashes.
PYLINE: nodes.py:106-114 -/
theorem eqBy_iff (is : Identity) (a b : BigFrameNode) (t : Bool) (ht : t = true ↔ a = b) :
    eqBy is a b t = true ↔ a = b := by
  unfold eqBy
  split_ifs with hinst hsame hhash
  · refine iff_of_false not_false fun hab => ?_
    simp [hab, isInstance_className] at hinst
  · exact iff_of_true rfl (is.eq_of_isSame hsame)
  · refine iff_of_false not_false fun hab => ?_
    simp [hab] at hhash
  · exact ht

/-- INTERNAL: `__eq__` decides equality. -/
theorem eq_iff (is : Identity) (a b : BigFrameNode) : eq is a b = true ↔ a = b :=
  eqBy_iff is a b _ (tupleEq_iff (eqBy_iff is) a b)

/-- INTERNAL: the full field comparison decides equality. -/
theorem fieldsEqual_iff (a b : BigFrameNode) : fieldsEqual a b = true ↔ a = b :=
  tupleEq_iff (fun _ _ _ h => h) a b

/-- Nodes are compared by all their fields. -/
instance : DecidableEq BigFrameNode := fun a b => decidable_of_iff _ (fieldsEqual_iff a b)

/-- Node equality is structural equality over every declared field, `original_node` included:
`a == b` exactly when `a` and `b` are the same node, equal nodes hash alike, and so the identity
and hash short-circuits of `__eq__` never change the outcome of the full field comparison.
PYLINE: nodes.py:98-121, 622-626 -/
theorem eq_iff_and_hash (is : Identity) (a b : BigFrameNode) :
    (eq is a b = true ↔ a = b) ∧ (eq is a b = true → cachedHash a = cachedHash b) ∧
      eq is a b = fieldsEqual a b :=
  ⟨eq_iff is a b, fun h => congrArg cachedHash ((eq_iff is a b).mp h),
    Bool.eq_iff_iff.mpr ((eq_iff is a b).trans (fieldsEqual_iff a b).symm)⟩

/-- A table with no columns, read with no time travel, predicate or known ordering. -/
def emptyTable : BigqueryDataSource :=
  ⟨⟨"project", "dataset", "table", [], 0, true, none⟩, none, none, none⟩

/-- A cache of `emptyTable`, made in place of the tree `originalNode`. -/
def cachedOf (originalNode : BigFrameNode) : BigFrameNode :=
  cachedTableNode emptyTable ⟨[]⟩ ⟨0⟩ originalNode

/-- An empty local read of `nRows` rows. -/
def emptyRead (nRows : Nat) : BigFrameNode :=
  readLocalNode [] ⟨[]⟩ nRows ⟨[]⟩ none

/-- Object identity between separately constructed nodes: never the same object. -/
def separateObjects : Identity :=
  ⟨fun _ _ => false, fun h => absurd h Bool.false_ne_true⟩

/-- Two caches of one table, constructed separately, that agree in every field but
`original_node` are unequal. -/
theorem eq_cachedOf_ne :
    eq separateObjects (cachedOf (emptyRead 0)) (cachedOf (emptyRead 1)) = false :=
  Bool.eq_false_iff.mpr fun h => absurd ((eq_iff separateObjects _ _).mp h) (by decide)

end BigFrameNode

end BigFrames
