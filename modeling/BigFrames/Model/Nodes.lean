import BigFrames.Model.Basic
import Mathlib.Data.Rat.Defs

/-!
# The node tree

`BigFrameNode` and its subclasses in `bigframes/core/nodes.py`, as one inductive type with a
constructor per concrete class. A constructor's arguments are the dataclass fields in declaration
order, the inherited `child` first, so that `_as_tuple` of a node is its argument list.
`CachedTableNode.original_node` is an argument but not a child: `childNodes` leaves it out, as
`child_nodes` does.

Every node is reached from the root through `childNodes`; `Every P t` says `P` holds at every
node so reached, and `childInduction` is the induction over that relation, which the analyses use
instead of the twenty-odd cases of the recursor. The per-class properties that do not depend on
the schema (ordering, locality, namespaces) are here too.
-/

set_option autoImplicit false

namespace BigFrames

/-- The join kinds `JoinNode.type` admits. -/
inductive JoinType
  | inner | outer | left | right | cross
deriving DecidableEq, Hashable, Repr

/-- `GbqTable`: the catalog's description of a table. -/
structure GbqTable where
  projectId : String
  datasetId : String
  tableId : String
  physicalSchema : List SchemaField
  nRows : Nat
  isPhysicalTable : Bool
  clusterCols : Option (List String)
deriving DecidableEq, Hashable, Repr

/-- `BigqueryDataSource`: a table, read as of `atTime` (seconds), filtered by `sqlPredicate`,
with the ordering it is known to have. -/
structure BigqueryDataSource where
  table : GbqTable
  atTime : Option Int
  sqlPredicate : Option String
  ordering : Option RowOrdering
deriving DecidableEq, Hashable, Repr

/-- The node classes of `nodes.py`. `DerefOp` arguments are represented by the column they
dereference, and `RandomSampleNode.fraction` by the value of the float. -/
inductive BigFrameNode where
  | readLocalNode (featherBytes : List UInt8) (dataSchema : ArraySchema) (nRows : Nat)
      (scanList : ScanList) (session : Option Session)
  | readTableNode (source : BigqueryDataSource) (scanList : ScanList) (tableSession : Session)
  | cachedTableNode (source : BigqueryDataSource) (scanList : ScanList) (tableSession : Session)
      (originalNode : BigFrameNode)
  | promoteOffsetsNode (child : BigFrameNode) (colId : ColumnId)
  | filterNode (child : BigFrameNode) (predicate : Expression)
  | orderByNode (child : BigFrameNode) (by_ : List OrderingExpression)
  | reversedNode (child : BigFrameNode) (reversed : Bool)
  | selectionNode (child : BigFrameNode) (inputOutputPairs : List (ColumnId × ColumnId))
  | projectionNode (child : BigFrameNode) (assignments : List (Expression × ColumnId))
  | rowCountNode (child : BigFrameNode)
  | aggregateNode (child : BigFrameNode) (aggregations : List (Aggregation × ColumnId))
      (byColumnIds : List ColumnId) (dropna : Bool)
  | windowOpNode (child : BigFrameNode) (columnName : ColumnId) (op : UnaryWindowOp)
      (windowSpec : WindowSpec) (outputName : ColumnId) (neverSkipNulls : Bool)
      (skipReprojectUnsafe : Bool)
  | reprojectOpNode (child : BigFrameNode)
  | randomSampleNode (child : BigFrameNode) (fraction : ℚ)
  | explodeNode (child : BigFrameNode) (columnIds : List ColumnId)
  | joinNode (leftChild rightChild : BigFrameNode) (conditions : List (ColumnId × ColumnId))
      (type : JoinType)
  | concatNode (children : List BigFrameNode)
  | fromRangeNode (start end_ : BigFrameNode) (step : Int)
deriving Repr

namespace BigFrameNode

/-- `child_nodes`: the direct children, never `original_node`. -/
def childNodes : BigFrameNode → List BigFrameNode
  | readLocalNode .. | readTableNode .. | cachedTableNode .. => []
  | promoteOffsetsNode c _ | filterNode c _ | orderByNode c _ | reversedNode c _
  | selectionNode c _ | projectionNode c _ | rowCountNode c | aggregateNode c _ _ _
  | windowOpNode c _ _ _ _ _ _ | reprojectOpNode c | randomSampleNode c _
  | explodeNode c _ => [c]
  | joinNode l r _ _ => [l, r]
  | concatNode cs => cs
  | fromRangeNode s e _ => [s, e]

/-- INTERNAL: a child is smaller than its parent, the measure `childInduction` descends.
PYLINE: nodes.py:80-83 -/
theorem sizeOf_lt_of_mem_childNodes {c n : BigFrameNode} (h : c ∈ childNodes n) :
    sizeOf c < sizeOf n := by
  cases n with
  | concatNode cs =>
      have := List.sizeOf_lt_of_mem (show c ∈ cs from h)
      simp only [concatNode.sizeOf_spec]
      omega
  | joinNode l r _ _ | fromRangeNode l r _ =>
      simp only [childNodes, List.mem_cons, List.mem_singleton, List.not_mem_nil, or_false] at h
      rcases h with rfl | rfl <;> simp only [joinNode.sizeOf_spec, fromRangeNode.sizeOf_spec] <;>
        omega
  | _ =>
      simp only [childNodes, List.mem_singleton, List.not_mem_nil] at h <;> subst h <;> simp <;>
        omega

/-- Induction over the tree: what holds of a node whenever it holds of its children holds of
every node. -/
theorem childInduction {motive : BigFrameNode → Prop}
    (step : ∀ n, (∀ c ∈ childNodes n, motive c) → motive n) (n : BigFrameNode) : motive n :=
  (measure (sizeOf : BigFrameNode → ℕ)).wf.induction n fun n ih =>
    step n fun c hc => ih c (sizeOf_lt_of_mem_childNodes hc)

/-- `P` holds at every node reachable from the root through `child_nodes`. -/
inductive Every (P : BigFrameNode → Prop) : BigFrameNode → Prop
  | intro (n : BigFrameNode) : P n → (∀ c ∈ childNodes n, Every P c) → Every P n

/-- What holds of every node of a tree holds of its root. -/
theorem Every.self {P : BigFrameNode → Prop} {n : BigFrameNode} (h : Every P n) : P n := by
  cases h; assumption

/-- What holds of every node of a tree holds of every node of a child's subtree. -/
theorem Every.child {P : BigFrameNode → Prop} {n c : BigFrameNode} (h : Every P n)
    (hc : c ∈ childNodes n) : Every P c := by
  cases h with
  | intro _ _ hs => exact hs c hc

/-- INTERNAL: `P` holds at every node of a node with one child when it holds at the node and at
every node of the child. -/
theorem Every.of_child {P : BigFrameNode → Prop} {n c : BigFrameNode} (hn : P n)
    (hcs : childNodes n = [c]) (hc : Every P c) : Every P n :=
  Every.intro n hn fun d hd => by rw [hcs, List.mem_singleton] at hd; exact hd ▸ hc

/-- INTERNAL: `P` holds at every node of a node over one leaf when it holds at both. -/
theorem Every.of_leaf_child {P : BigFrameNode → Prop} {n c : BigFrameNode} (hn : P n)
    (hcs : childNodes n = [c]) (hc : P c) (hleaf : childNodes c = []) : Every P n :=
  Every.of_child hn hcs (Every.intro c hc fun e he => by simp [hleaf] at he)

/-- INTERNAL: what holds at every node under `P` holds at every node under anything `P`
implies. -/
theorem Every.imp {P Q : BigFrameNode → Prop} (hPQ : ∀ m, P m → Q m) {n : BigFrameNode}
    (h : Every P n) : Every Q n := by
  induction h with
  | intro n hn _ ih => exact Every.intro n (hPQ n hn) ih

/-- `transform_children`: rebuild the node with `t` applied to each direct child. -/
def transformChildren (t : BigFrameNode → BigFrameNode) : BigFrameNode → BigFrameNode
  | n@(readLocalNode ..) | n@(readTableNode ..) | n@(cachedTableNode ..) => n
  | promoteOffsetsNode c i => promoteOffsetsNode (t c) i
  | filterNode c p => filterNode (t c) p
  | orderByNode c b => orderByNode (t c) b
  | reversedNode c r => reversedNode (t c) r
  | selectionNode c p => selectionNode (t c) p
  | projectionNode c a => projectionNode (t c) a
  | rowCountNode c => rowCountNode (t c)
  | aggregateNode c a b d => aggregateNode (t c) a b d
  | windowOpNode c n o s out k r => windowOpNode (t c) n o s out k r
  | reprojectOpNode c => reprojectOpNode (t c)
  | randomSampleNode c f => randomSampleNode (t c) f
  | explodeNode c i => explodeNode (t c) i
  | joinNode l r c ty => joinNode (t l) (t r) c ty
  | concatNode cs => concatNode (cs.map t)
  | fromRangeNode s e st => fromRangeNode (t s) (t e) st

/-- `transform_children` is a structural map: the new children are the old ones, transformed. -/
theorem childNodes_transformChildren (t : BigFrameNode → BigFrameNode) (n : BigFrameNode) :
    childNodes (transformChildren t n) = (childNodes n).map t := by
  cases n <;> rfl

/-! ## Per-class properties -/

/-- `deterministic`. -/
def deterministic : BigFrameNode → Bool
  | randomSampleNode .. => false
  | _ => true

/-- `row_preserving`. -/
def rowPreserving : BigFrameNode → Bool
  | joinNode .. | filterNode .. | rowCountNode .. | aggregateNode .. | randomSampleNode ..
  | explodeNode .. => false
  | _ => true

/-- `non_local`. -/
def nonLocal : BigFrameNode → Bool
  | joinNode .. | promoteOffsetsNode .. | rowCountNode .. | aggregateNode .. | windowOpNode .. =>
      true
  | _ => false

/-- `joins`. -/
def joins : BigFrameNode → Bool
  | joinNode .. => true
  | _ => false

/-- `defines_namespace`. -/
def definesNamespace : BigFrameNode → Bool
  | joinNode .. | selectionNode .. | rowCountNode .. | aggregateNode .. | explodeNode .. => true
  | _ => false

/-- `relation_ops_created`. -/
def relationOpsCreated : BigFrameNode → Nat
  | readTableNode .. | cachedTableNode .. => 3
  | promoteOffsetsNode .. => 2
  | orderByNode .. | reversedNode .. | reprojectOpNode .. => 0
  | windowOpNode _ _ _ _ _ _ skipReprojectUnsafe => if skipReprojectUnsafe then 0 else 4
  | explodeNode .. => 3
  | _ => 1

/-- `order_ambiguous`: unary nodes inherit their child's, except `AggregateNode`. -/
def orderAmbiguous : BigFrameNode → Bool
  | readLocalNode .. => false
  | readTableNode source _ _ | cachedTableNode source _ _ _ =>
      match source.ordering with
      | none => true
      | some o => !o.isTotalOrdering
  | promoteOffsetsNode c _ | filterNode c _ | orderByNode c _ | reversedNode c _
  | selectionNode c _ | projectionNode c _ | rowCountNode c | windowOpNode c _ _ _ _ _ _
  | reprojectOpNode c | randomSampleNode c _ | explodeNode c _ => orderAmbiguous c
  | aggregateNode .. => false
  | joinNode .. => true
  | concatNode cs => anyOrderAmbiguous cs
  | fromRangeNode .. => false
where
  /-- `any(child.order_ambiguous for child in children)`. -/
  anyOrderAmbiguous : List BigFrameNode → Bool
    | [] => false
    | c :: cs => orderAmbiguous c || anyOrderAmbiguous cs

/-- INTERNAL: the children's `order_ambiguous` is `any` over the list. -/
theorem orderAmbiguous.anyOrderAmbiguous_eq (cs : List BigFrameNode) :
    orderAmbiguous.anyOrderAmbiguous cs = cs.any orderAmbiguous := by
  induction cs with
  | nil => rfl
  | cons c cs ih => simp [orderAmbiguous.anyOrderAmbiguous, ih]

/-- `explicitly_ordered`: unary nodes inherit their child's, except `OrderByNode` and
`AggregateNode`. -/
def explicitlyOrdered : BigFrameNode → Bool
  | readLocalNode .. => true
  | readTableNode source _ _ | cachedTableNode source _ _ _ => source.ordering.isSome
  | promoteOffsetsNode c _ | filterNode c _ | reversedNode c _
  | selectionNode c _ | projectionNode c _ | rowCountNode c | windowOpNode c _ _ _ _ _ _
  | reprojectOpNode c | randomSampleNode c _ | explodeNode c _ => explicitlyOrdered c
  | orderByNode .. | aggregateNode .. => true
  | joinNode .. => false
  | concatNode .. | fromRangeNode .. => true

end BigFrameNode

end BigFrames
