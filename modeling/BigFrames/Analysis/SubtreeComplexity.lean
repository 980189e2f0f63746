import BigFrames.Program.Complexity
import BigFrames.Analysis.PruneStages
import Mathlib.Algebra.Order.BigOperators.Group.List

/-!
# No subtree is more complex than its tree

`planning_complexity` (nodes.py:198-208) multiplies three totals, each of which adds a node's own
count to its children's (nodes.py:178-192). A child's totals are among the summands of its
parent's, so they are at most the parent's. `total_variables` raises where a node's own
`variables_introduced` or any child's total raises, so a parent whose total is computable has
children whose totals are computable. The estimate thus never grows going down the tree: where the
root's `planning_complexity` is computable, every node reachable through `child_nodes` has one,
no larger (`planningComplexity_le_root`). A tree that is not complex enough to be decomposed has
no subtree that is.
-/

set_option autoImplicit false

namespace BigFrames

namespace BigFrameNode

/-- INTERNAL: a child's total is at most its parent's. -/
theorem treeTotal_child_le (own : BigFrameNode → Nat) {n c : BigFrameNode}
    (hc : c ∈ childNodes n) : treeTotal own c ≤ treeTotal own n := by
  rw [treeTotal_eq own n]
  exact (List.le_sum_of_mem (List.mem_map_of_mem _ hc)).trans (Nat.le_add_left _ _)

variable (T : ExprTyping)

/-- INTERNAL: a sum of children's `total_variables` that does not raise bounds each of them. -/
theorem sumTotalVariables_of_mem {cs : List BigFrameNode} {s : Nat}
    (h : totalVariables.sumTotalVariables T cs = some s) {c : BigFrameNode} (hc : c ∈ cs) :
    ∃ t, totalVariables T c = some t ∧ t ≤ s := by
  induction cs generalizing s with
  | nil => nomatch hc
  | cons d ds ih =>
      simp only [totalVariables.sumTotalVariables, Option.bind_eq_bind, Option.bind_eq_some,
        Option.pure_def, Option.some.injEq] at h
      obtain ⟨a, ha, b, hb, rfl⟩ := h
      rcases List.mem_cons.mp hc with rfl | hc
      · exact ⟨a, ha, Nat.le_add_right a b⟩
      · obtain ⟨t, ht, hle⟩ := ih hb hc
        exact ⟨t, ht, by omega⟩

/-- INTERNAL: where a node's `total_variables` is computable, each child's is, and is at most
the node's. -/
theorem totalVariables_child_le {n c : BigFrameNode} (hc : c ∈ childNodes n) {v : Nat}
    (h : totalVariables T n = some v) : ∃ t, totalVariables T c = some t ∧ t ≤ v := by
  rw [totalVariables_eq] at h
  simp only [Option.bind_eq_some, Option.some.injEq] at h
  obtain ⟨k, -, s, hs, rfl⟩ := h
  obtain ⟨t, ht, hts⟩ := sumTotalVariables_of_mem T hs hc
  exact ⟨t, ht, by omega⟩

/-- INTERNAL: where a node's `planning_complexity` is computable, each child's is, and is at
most the node's. -/
theorem planningComplexity_child_le {n c : BigFrameNode} (hc : c ∈ childNodes n) {v : Nat}
    (h : planningComplexity T n = some v) : ∃ w, planningComplexity T c = some w ∧ w ≤ v := by
  simp only [planningComplexity, Option.map_eq_some'] at h ⊢
  obtain ⟨tv, htv, rfl⟩ := h
  obtain ⟨tc, htc, hle⟩ := totalVariables_child_le T hc htv
  have hops : totalRelationalOps c ≤ totalRelationalOps n := treeTotal_child_le _ hc
  have hjoins : totalJoins c ≤ totalJoins n := treeTotal_child_le _ hc
  exact ⟨_, ⟨tc, htc, rfl⟩,
    Nat.mul_le_mul (Nat.mul_le_mul hle hops) (Nat.add_le_add_left hjoins 1)⟩

/-- No node of a tree is more complex than the tree: where the root's `planning_complexity` is
computable, that of every node reachable through `child_nodes` is too, and is at most the root's.
PYLINE: nodes.py:178-208 -/
theorem planningComplexity_le_root (n : BigFrameNode) {v : Nat}
    (h : planningComplexity T n = some v) :
    Every (fun m => ∃ w, planningComplexity T m = some w ∧ w ≤ v) n := by
  induction n using childInduction generalizing v with
  | step n ih =>
      refine Every.intro n ⟨v, h, le_rfl⟩ fun c hc => ?_
      obtain ⟨w, hw, hwv⟩ := planningComplexity_child_le T hc h
      exact (ih c hc hw).imp fun m ⟨w', hm, hle⟩ => ⟨w', hm, hle.trans hwv⟩

/-- `planningComplexity_le_root` on `windowOverRead`, whose estimate is `4 * 5 * 1`. -/
theorem planningComplexity_le_root_windowOverRead :
    planningComplexity ExprTyping.firstInputType windowOverRead = some 20 ∧
      Every (fun m => ∃ w, planningComplexity ExprTyping.firstInputType m = some w ∧ w ≤ 20)
        windowOverRead :=
  have h : planningComplexity ExprTyping.firstInputType windowOverRead = some 20 := by decide
  ⟨h, (planningComplexity_le_root _ windowOverRead h :)⟩

end BigFrameNode

end BigFrames
