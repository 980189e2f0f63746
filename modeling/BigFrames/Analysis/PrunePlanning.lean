import BigFrames.Program.Prune
import BigFrames.Program.Complexity
import Mathlib.Algebra.Order.BigOperators.Group.List

/-!
# What the planner reads of a pruned tree

Pruning feeds the compiler a tree it reads in two more ways than through its schema: the ordering
flags (`order_ambiguous`, `explicitly_ordered`, nodes.py:259-270 and the overrides) decide whether
an ordering must be materialised, and `planning_complexity` (nodes.py:178-208) decides whether
the computation is decomposed. Pruning keeps both flags, and never raises the estimate.

Every proof follows `prune`'s own branches (`pruneInduction`). Where `prune` rebuilds a node over
its pruned children, the node's own contribution is unchanged, or smaller where it counts a list
that `prune` filters (scan lists, assignments, aggregations), and the children's contributions
compare by induction. Where it drops a node, three overrides return the child or its pruning.
In each of them the node contributes nothing to the flags and to `total_joins`, and a
non-negative count to the other totals:
`PromoteOffsetsNode.prune` (nodes.py:658-663) and `ProjectionNode.prune` (nodes.py:791-799) with
nothing of theirs used, and `WindowOpNode.prune` (nodes.py:914-920) with its output unused.
-/

set_option autoImplicit false

namespace BigFrames

namespace BigFrameNode

/-! ## Ordering flags -/

/-- Pruning keeps `order_ambiguous`. -/
theorem orderAmbiguous_prune (n : BigFrameNode) (U : ColumnSet) :
    orderAmbiguous (prune n U) = orderAmbiguous n := by
  induction n, U using pruneInduction
  case promoteOffsetsDropped h ih | projectionDropped h ih => rw [prune, if_pos h]; exact ih
  case windowOpDropped h => rw [prune, if_pos h]; rfl
  case promoteOffsets h ih | projection h ih | windowOp h ih => rw [prune, if_neg h]; exact ih
  all_goals first | exact ‹_› | rfl

/-- Pruning keeps `explicitly_ordered`. -/
theorem explicitlyOrdered_prune (n : BigFrameNode) (U : ColumnSet) :
    explicitlyOrdered (prune n U) = explicitlyOrdered n := by
  induction n, U using pruneInduction
  case promoteOffsetsDropped h ih | projectionDropped h ih => rw [prune, if_pos h]; exact ih
  case windowOpDropped h => rw [prune, if_pos h]; rfl
  case promoteOffsets h ih | projection h ih | windowOp h ih => rw [prune, if_neg h]; exact ih
  all_goals first | exact ‹_› | rfl

/-- Pruning keeps both ordering flags of every tree, for every set of used columns, where it
drops a node at the root as well as where it rebuilds one.
PYLINE: nodes.py:259-270, 595-603, 658-663, 914-920 -/
theorem prune_keeps_orderingFlags (n : BigFrameNode) (U : ColumnSet) :
    orderAmbiguous (prune n U) = orderAmbiguous n ∧
      explicitlyOrdered (prune n U) = explicitlyOrdered n :=
  ⟨orderAmbiguous_prune n U, explicitlyOrdered_prune n U⟩

/-! ## The totals that cannot raise -/

section TreeTotal

variable (own : BigFrameNode → Nat)

/-- INTERNAL: a node whose own count is at most another's, over children whose totals are at
most the other's children's, has at most the other's total. -/
theorem treeTotal_le_of_children {n' n : BigFrameNode} (hown : own n' ≤ own n)
    (hcs : List.Forall₂ (fun a b => treeTotal own a ≤ treeTotal own b) (childNodes n')
      (childNodes n)) :
    treeTotal own n' ≤ treeTotal own n := by
  have hsum := (List.forall₂_map_right_iff.mpr (List.forall₂_map_left_iff.mpr hcs)).sum_le_sum
  rw [treeTotal_eq, treeTotal_eq]
  omega

/-- INTERNAL: the equality version of `treeTotal_le_of_children`. -/
theorem treeTotal_eq_of_children {n' n : BigFrameNode} (hown : own n' = own n)
    (hcs : List.Forall₂ (fun a b => treeTotal own a = treeTotal own b) (childNodes n')
      (childNodes n)) :
    treeTotal own n' = treeTotal own n := by
  have hmap : (childNodes n').map (treeTotal own) = (childNodes n).map (treeTotal own) :=
    List.forall₂_eq_eq_eq ▸ List.forall₂_map_right_iff.mpr (List.forall₂_map_left_iff.mpr hcs)
  rw [treeTotal_eq, treeTotal_eq, hown, hmap]

/-- INTERNAL: what is at most an only child's total is at most its parent's. -/
theorem le_treeTotal_of_child {n c : BigFrameNode} (hc : childNodes n = [c]) {x : Nat}
    (h : x ≤ treeTotal own c) : x ≤ treeTotal own n := by
  rw [treeTotal_eq, hc]
  simp only [List.map_cons, List.map_nil, List.sum_cons, List.sum_nil]
  omega

/-- INTERNAL: a node that counts nothing has its only child's total. -/
theorem treeTotal_of_child {n c : BigFrameNode} (hc : childNodes n = [c]) (hown : own n = 0) :
    treeTotal own n = treeTotal own c := by
  rw [treeTotal_eq, hc, hown]
  simp only [List.map_cons, List.map_nil, List.sum_cons, List.sum_nil, Nat.add_zero,
    Nat.zero_add]

end TreeTotal

/-- Pruning never raises `total_relational_ops`. -/
theorem totalRelationalOps_prune_le (n : BigFrameNode) (U : ColumnSet) :
    totalRelationalOps (prune n U) ≤ totalRelationalOps n := by
  unfold totalRelationalOps
  induction n, U using pruneInduction
  case promoteOffsetsDropped h ih | projectionDropped h ih =>
    rw [prune, if_pos h]; exact le_treeTotal_of_child _ (by rfl) ih
  case windowOpDropped h => rw [prune, if_pos h]; exact le_treeTotal_of_child _ (by rfl) le_rfl
  case promoteOffsets h ih | projection h ih | windowOp h ih =>
    rw [prune, if_neg h]; exact treeTotal_le_of_children _ le_rfl (.cons ih .nil)
  case join ihl ihr => exact treeTotal_le_of_children _ le_rfl (.cons ihl (.cons ihr .nil))
  case concat | fromRange => exact le_rfl
  all_goals first
    | exact treeTotal_le_of_children _ le_rfl .nil
    | exact treeTotal_le_of_children _ le_rfl (.cons ‹_› .nil)

/-- Pruning keeps `total_joins`: the nodes it drops do not join. -/
theorem totalJoins_prune (n : BigFrameNode) (U : ColumnSet) :
    totalJoins (prune n U) = totalJoins n := by
  unfold totalJoins
  induction n, U using pruneInduction
  case promoteOffsetsDropped h ih | projectionDropped h ih =>
    rw [prune, if_pos h, ih]; exact (treeTotal_of_child _ (by rfl) rfl).symm
  case windowOpDropped h => rw [prune, if_pos h]; exact (treeTotal_of_child _ (by rfl) rfl).symm
  case promoteOffsets h ih | projection h ih | windowOp h ih =>
    rw [prune, if_neg h]; exact treeTotal_eq_of_children _ rfl (.cons ih .nil)
  case join ihl ihr => exact treeTotal_eq_of_children _ rfl (.cons ihl (.cons ihr .nil))
  case concat | fromRange => rfl
  all_goals first
    | exact treeTotal_eq_of_children _ rfl .nil
    | exact treeTotal_eq_of_children _ rfl (.cons ‹_› .nil)

/-! ## `total_variables` -/

/-- INTERNAL: two counts of which the first raises exactly when the second does, and is then at
most the second. -/
theorem optionRel_le_refl : ∀ x : Option Nat, Option.Rel (· ≤ ·) x x
  | none => .none
  | some _ => .some le_rfl

/-- INTERNAL: the sums of two pairs of counts that may raise compare as the pairs do. -/
theorem optionRel_le_add {x x' y y' : Option Nat} (hx : Option.Rel (· ≤ ·) x x')
    (hy : Option.Rel (· ≤ ·) y y') :
    Option.Rel (· ≤ ·) (x.bind fun a => y.bind fun b => some (a + b))
      (x'.bind fun a => y'.bind fun b => some (a + b)) := by
  cases hx with
  | none => exact .none
  | some hab =>
      cases hy with
      | none => exact .none
      | some hcd => exact .some (Nat.add_le_add hab hcd)

variable (T : ExprTyping)

/-- INTERNAL: the children's sums compare as the children's totals do. -/
theorem sumTotalVariables_rel {cs' cs : List BigFrameNode}
    (h : List.Forall₂ (fun a b => Option.Rel (· ≤ ·) (totalVariables T a) (totalVariables T b))
      cs' cs) :
    Option.Rel (· ≤ ·) (totalVariables.sumTotalVariables T cs')
      (totalVariables.sumTotalVariables T cs) := by
  induction h with
  | nil => exact .some le_rfl
  | cons hab _ ih => exact optionRel_le_add hab ih

/-- INTERNAL: the `Option` version of `treeTotal_le_of_children`. -/
theorem totalVariables_rel_of_children {n' n : BigFrameNode}
    (hown : Option.Rel (· ≤ ·) (variablesIntroduced T n') (variablesIntroduced T n))
    (hcs : List.Forall₂ (fun a b => Option.Rel (· ≤ ·) (totalVariables T a) (totalVariables T b))
      (childNodes n') (childNodes n)) :
    Option.Rel (· ≤ ·) (totalVariables T n') (totalVariables T n) := by
  rw [totalVariables_eq, totalVariables_eq]
  exact optionRel_le_add hown (sumTotalVariables_rel T hcs)

/-- INTERNAL: the `Option` version of `le_treeTotal_of_child`, for a parent whose own count does
not raise. -/
theorem rel_totalVariables_of_child {n c : BigFrameNode} (hc : childNodes n = [c]) {k : Nat}
    (hk : variablesIntroduced T n = some k) {x : Option Nat}
    (h : Option.Rel (· ≤ ·) x (totalVariables T c)) :
    Option.Rel (· ≤ ·) x (totalVariables T n) := by
  rw [totalVariables_eq, hc, hk]
  simp only [totalVariables.sumTotalVariables, Option.some_bind, Option.bind_assoc]
  generalize totalVariables T c = y at h ⊢
  cases h with
  | none => exact .none
  | some hab => exact .some (by omega)

/-- Pruning never raises `total_variables`, and makes it raise exactly where it raised before. -/
theorem totalVariables_prune_rel (n : BigFrameNode) (U : ColumnSet) :
    Option.Rel (· ≤ ·) (totalVariables T (prune n U)) (totalVariables T n) := by
  induction n, U using pruneInduction
  case readLocal | readTable | cachedTable =>
    exact totalVariables_rel_of_children T
      (.some (Nat.succ_le_succ (List.length_filter_le _ _))) .nil
  case promoteOffsetsDropped h ih | projectionDropped h ih =>
    rw [prune, if_pos h]; exact rel_totalVariables_of_child T (by rfl) (by rfl) ih
  case windowOpDropped h =>
    rw [prune, if_pos h]
    exact rel_totalVariables_of_child T (by rfl) (by rfl) (optionRel_le_refl _)
  case promoteOffsets h ih | windowOp h ih =>
    rw [prune, if_neg h]; exact totalVariables_rel_of_children T (.some le_rfl) (.cons ih .nil)
  case projection h ih =>
    rw [prune, if_neg h]
    exact totalVariables_rel_of_children T
      (.some ((List.filter_sublist _).countP_le _)) (.cons ih .nil)
  case aggregate ih =>
    exact totalVariables_rel_of_children T
      (.some (Nat.add_le_add_right (List.length_filter_le _ _) _)) (.cons ih .nil)
  case join ihl ihr =>
    exact totalVariables_rel_of_children T (.some le_rfl) (.cons ihl (.cons ihr .nil))
  case concat | fromRange => exact optionRel_le_refl _
  all_goals exact totalVariables_rel_of_children T (.some le_rfl) (.cons ‹_› .nil)

/-! ## The estimate -/

/-- Pruning never raises the complexity estimate of a tree: for every set of used columns it
raises where the original raises, and otherwise `total_variables` and `total_relational_ops` do
not grow, `total_joins` is the same, and so `planning_complexity` does not grow.
PYLINE: nodes.py:178-208, 785-799, 859-883, 905-920 -/
theorem prune_planningComplexity_le (n : BigFrameNode) (U : ColumnSet) :
    Option.Rel (· ≤ ·) (totalVariables T (prune n U)) (totalVariables T n) ∧
      totalRelationalOps (prune n U) ≤ totalRelationalOps n ∧
      totalJoins (prune n U) = totalJoins n ∧
      Option.Rel (· ≤ ·) (planningComplexity T (prune n U)) (planningComplexity T n) := by
  have hv := totalVariables_prune_rel T n U
  have hr := totalRelationalOps_prune_le n U
  have hj := totalJoins_prune n U
  refine ⟨hv, hr, hj, ?_⟩
  unfold planningComplexity
  rw [hj]
  generalize totalVariables T (prune n U) = x at hv ⊢
  generalize totalVariables T n = y at hv ⊢
  cases hv with
  | none => exact .none
  | some hab => exact .some (Nat.mul_le_mul_right _ (Nat.mul_le_mul hab hr))

/- A window whose output is not used is dropped with its relational operations: the estimate of
a window over a read of `a` and `b` falls from `4 * 5 * 1` to `3 * 1 * 1` when only `a` is used. -/
example :
    planningComplexity ExprTyping.firstInputType
        (windowOpNode (readLocalNode [] ⟨[]⟩ 2
          ⟨[⟨⟨"a"⟩, intDtype, "a"⟩, ⟨⟨"b"⟩, intDtype, "b"⟩]⟩ none)
          ⟨"a"⟩ ⟨"cumsum"⟩ ⟨[], [], "rows", 0⟩ ⟨"o"⟩ false false) = some 20 ∧
      planningComplexity ExprTyping.firstInputType
        (prune (windowOpNode (readLocalNode [] ⟨[]⟩ 2
          ⟨[⟨⟨"a"⟩, intDtype, "a"⟩, ⟨⟨"b"⟩, intDtype, "b"⟩]⟩ none)
          ⟨"a"⟩ ⟨"cumsum"⟩ ⟨[], [], "rows", 0⟩ ⟨"o"⟩ false false) {⟨"a"⟩}) = some 3 := by
  decide

end BigFrameNode

end BigFrames
