import BigFrames.Program.Fields
import Mathlib.Algebra.Order.Ring.Nat

/-!
# The planning-complexity estimate

`planning_complexity` (nodes.py:198-208) is the heuristic by which a computation that has grown
too complex is decomposed: `total_variables * total_relational_ops * (1 + total_joins)`. Each
total (nodes.py:178-192) adds the node's own count to its children's totals, over
`child_nodes`: the values the node creates (`variables_introduced`), the relational operations
it generates (`relation_ops_created`), and whether it joins (`joins`).

`ConcatNode` and `FromRangeNode` count the items of their schema, which raises where `fields`
does; `variables_introduced`, `total_variables` and `planning_complexity` are `none` there. The
other two totals cannot raise, and share one definition, `treeTotal`.
-/

set_option autoImplicit false

namespace BigFrames

/-- `OVERHEAD_VARIABLES`. -/
def overheadVariables : Nat := 5

namespace BigFrameNode

/-- A node's own count plus its children's totals, in `child_nodes` order: the shape of
`total_relational_ops` and `total_joins`. -/
def treeTotal (own : BigFrameNode → Nat) : BigFrameNode → Nat
  | n@(readLocalNode ..) | n@(readTableNode ..) | n@(cachedTableNode ..) => own n
  | n@(promoteOffsetsNode c _) | n@(filterNode c _) | n@(orderByNode c _) | n@(reversedNode c _)
  | n@(selectionNode c _) | n@(projectionNode c _) | n@(rowCountNode c)
  | n@(aggregateNode c _ _ _) | n@(windowOpNode c _ _ _ _ _ _) | n@(reprojectOpNode c)
  | n@(randomSampleNode c _) | n@(explodeNode c _) => own n + treeTotal own c
  | n@(joinNode l r _ _) | n@(fromRangeNode l r _) => own n + (treeTotal own l + treeTotal own r)
  | n@(concatNode cs) => own n + sumTotals cs
where
  /-- `sum(map(lambda x: x.total, children))`. -/
  sumTotals : List BigFrameNode → Nat
    | [] => 0
    | c :: cs => treeTotal own c + sumTotals cs

/-- INTERNAL: the children's totals add up as a `List.sum`. -/
theorem treeTotal.sumTotals_eq (own : BigFrameNode → Nat) (cs : List BigFrameNode) :
    treeTotal.sumTotals own cs = (cs.map (treeTotal own)).sum := by
  induction cs with
  | nil => rfl
  | cons c cs ih => simp only [treeTotal.sumTotals, ih, List.map_cons, List.sum_cons]

/-- A node's total is its own count plus the sum of its children's. -/
theorem treeTotal_eq (own : BigFrameNode → Nat) (n : BigFrameNode) :
    treeTotal own n = own n + ((childNodes n).map (treeTotal own)).sum := by
  cases n <;> simp [treeTotal, childNodes, treeTotal.sumTotals_eq]

/-- `total_relational_ops`. -/
def totalRelationalOps : BigFrameNode → Nat := treeTotal relationOpsCreated

/-- `total_joins`: `int(self.joins)` plus the children's. -/
def totalJoins : BigFrameNode → Nat := treeTotal fun n => (joins n).toNat

variable (T : ExprTyping)

/-- `variables_introduced`, `none` where the schema it reads raises. A projection counts its
assignments that are not a bare column reference. -/
def variablesIntroduced : BigFrameNode → Option Nat
  | readLocalNode _ _ _ scanList _ | readTableNode _ scanList _ | cachedTableNode _ scanList _ _ =>
      some (scanList.items.length + 1)
  | promoteOffsetsNode .. | filterNode .. | rowCountNode .. | windowOpNode ..
  | randomSampleNode .. => some 1
  | orderByNode .. | reversedNode .. | selectionNode .. | reprojectOpNode .. => some 0
  | projectionNode _ assignments => some (assignments.countP fun a => !a.1.isIdentity)
  | aggregateNode _ aggregations byColumnIds _ => some (aggregations.length + byColumnIds.length)
  | explodeNode _ columnIds => some (columnIds.length + 1)
  | joinNode .. => some overheadVariables
  | n@(concatNode _) | n@(fromRangeNode ..) =>
      (schema T n).map fun s => s.items.length + overheadVariables

/-- `total_variables`, `none` where the `variables_introduced` of a node of the tree raises. -/
def totalVariables : BigFrameNode → Option Nat
  | n@(readLocalNode ..) | n@(readTableNode ..) | n@(cachedTableNode ..) => variablesIntroduced T n
  | n@(promoteOffsetsNode c _) | n@(filterNode c _) | n@(orderByNode c _) | n@(reversedNode c _)
  | n@(selectionNode c _) | n@(projectionNode c _) | n@(rowCountNode c)
  | n@(aggregateNode c _ _ _) | n@(windowOpNode c _ _ _ _ _ _) | n@(reprojectOpNode c)
  | n@(randomSampleNode c _) | n@(explodeNode c _) => do
      return (← variablesIntroduced T n) + (← totalVariables c)
  | n@(joinNode l r _ _) | n@(fromRangeNode l r _) => do
      return (← variablesIntroduced T n) + ((← totalVariables l) + (← totalVariables r))
  | n@(concatNode cs) => do return (← variablesIntroduced T n) + (← sumTotalVariables cs)
where
  /-- `sum(map(lambda x: x.total_variables, children))`; a child that raises makes it raise. -/
  sumTotalVariables : List BigFrameNode → Option Nat
    | [] => some 0
    | c :: cs => do return (← totalVariables c) + (← sumTotalVariables cs)

/-- A node's total is its own count plus the sum of its children's totals, the first that raises
making it raise. -/
theorem totalVariables_eq (n : BigFrameNode) :
    totalVariables T n = (variablesIntroduced T n).bind fun v =>
      (totalVariables.sumTotalVariables T (childNodes n)).bind fun s => some (v + s) := by
  cases n <;> simp [totalVariables, totalVariables.sumTotalVariables, childNodes, Option.bind_assoc]

/-- `planning_complexity`. -/
def planningComplexity (n : BigFrameNode) : Option Nat :=
  (totalVariables T n).map fun v => v * totalRelationalOps n * (1 + totalJoins n)

end BigFrameNode

end BigFrames
