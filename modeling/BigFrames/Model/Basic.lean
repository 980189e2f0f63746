import Mathlib.Data.Finset.Basic

/-!
# Column identifiers, schemas and the expression interface

The vocabulary of `bigframes/core/nodes.py` below the node tree: column identifiers and the
`Field`s that make up a node's output schema, the scan lists that map a source's columns into
identifier space, and the schema record `BigFrameNode.schema` builds.

The expression subsystem (`bigframes.core.expression`, `bigframes.core.window_spec`,
`bigframes.operations.aggregations`) is not part of this repository sample: the node model
consumes it as opaque values and reads only their column references. Each kind of expression is
therefore a record of what the node model reads, plus an opaque `op` standing for the rest of
the value. Their types come from `ExprTyping`, whose two laws say an output type is decided by
the types of the columns the expression references, which is how the subsystem computes it
(a `DerefOp` looks its column up, an operation combines its inputs' types).
-/

set_option autoImplicit false

namespace BigFrames

/-- `bigframes.core.identifiers.ColumnId`: a symbolic column name. -/
structure ColumnId where
  name : String
deriving DecidableEq, Hashable, Repr

/-- A `bigframes.dtypes.Dtype`, known to the node model only by name. -/
structure Dtype where
  name : String
deriving DecidableEq, Hashable, Repr

/-- `bigframes.dtypes.INT_DTYPE`, the pandas nullable `Int64`. -/
def intDtype : Dtype := ⟨"Int64"⟩

/-- `Field`: one column of a node's output schema. -/
structure Field where
  id : ColumnId
  dtype : Dtype
deriving DecidableEq, Hashable, Repr

/-- A session object. Sessions compare by identity, which `id` stands for. -/
structure Session where
  id : Nat
deriving DecidableEq, Hashable, Repr

/-- `schemata.SchemaItem`: a column label and its dtype. -/
structure SchemaItem where
  column : String
  dtype : Dtype
deriving DecidableEq, Hashable, Repr

/-- `schemata.ArraySchema`. -/
structure ArraySchema where
  items : List SchemaItem
deriving DecidableEq, Hashable, Repr

/-- `ArraySchema.names`. -/
def ArraySchema.names (s : ArraySchema) : List String := s.items.map (·.column)

/-- `ArraySchema.dtypes`. -/
def ArraySchema.dtypes (s : ArraySchema) : List Dtype := s.items.map (·.dtype)

/-- `ScanItem`: an output column, its dtype, and the source column it reads. -/
structure ScanItem where
  id : ColumnId
  dtype : Dtype
  sourceId : String
deriving DecidableEq, Hashable, Repr

/-- `ScanList`. -/
structure ScanList where
  items : List ScanItem
deriving DecidableEq, Hashable, Repr

/-- A `google.cloud.bigquery.SchemaField`; the node model reads only its `name`. -/
structure SchemaField where
  name : String
  fieldType : String
deriving DecidableEq, Hashable, Repr

/-! ## The expression interface -/

/-- A scalar `ex.Expression`. `isIdentity` is true for a bare column reference. -/
structure Expression where
  op : String
  columnReferences : List ColumnId
  isIdentity : Bool
deriving DecidableEq, Hashable, Repr

/-- An `ex.Aggregation`. -/
structure Aggregation where
  op : String
  columnReferences : List ColumnId
deriving DecidableEq, Hashable, Repr

/-- An `OrderingExpression`: one sort key. -/
structure OrderingExpression where
  op : String
  referencedColumns : List ColumnId
deriving DecidableEq, Hashable, Repr

/-- A `RowOrdering` as a data source declares it: its sort keys, and the two properties
`ReadTableNode` reads. -/
structure RowOrdering where
  orderingValueColumns : List OrderingExpression
  isTotalOrdering : Bool
  isSequential : Bool
deriving DecidableEq, Hashable, Repr

/-- An `agg_ops.UnaryWindowOp`. -/
structure UnaryWindowOp where
  name : String
deriving DecidableEq, Hashable, Repr

/-- A `window.WindowSpec`: the partition keys, the ordering inside a partition, and the frame
(`bounds` and `min_periods`, opaque here). -/
structure WindowSpec where
  groupingKeys : List ColumnId
  ordering : List OrderingExpression
  bounds : String
  minPeriods : Nat
deriving DecidableEq, Hashable, Repr

/-- Every column a window specification partitions or orders by. -/
def WindowSpec.allReferencedColumns (s : WindowSpec) : List ColumnId :=
  s.groupingKeys ++ s.ordering.flatMap (·.referencedColumns)

/-- The types the expression subsystem assigns, each `none` where the Python raises.
`outputType` is `dtype_for_etype(e.output_type(input_types))`. -/
structure ExprTyping where
  outputType : Expression → (ColumnId → Option Dtype) → Option Dtype
  aggOutputType : Aggregation → (ColumnId → Option Dtype) → Option Dtype
  windowOutputType : UnaryWindowOp → Dtype → Option Dtype
  /-- `arrow_dtype_to_bigframes_dtype(t.pyarrow_dtype.value_type)` for an exploded column. -/
  valueType : Dtype → Option Dtype
  outputType_local : ∀ e f g, (∀ c ∈ e.columnReferences, f c = g c) →
    outputType e f = outputType e g
  aggOutputType_local : ∀ a f g, (∀ c ∈ a.columnReferences, f c = g c) →
    aggOutputType a f = aggOutputType a g

/-- The typing in which every expression, aggregation and window takes the type of its first
input column, as `abs`, `first` or `cumsum` do, and an exploded list its element type unchanged.
The witnesses below are evaluated under it. -/
def ExprTyping.firstInputType : ExprTyping where
  outputType e f := e.columnReferences.head?.bind f
  aggOutputType a f := a.columnReferences.head?.bind f
  windowOutputType _ t := some t
  valueType t := some t
  outputType_local e f g h := by
    cases hr : e.columnReferences with
    | nil => simp [hr]
    | cons c cs => simp [hr, h c (by simp [hr])]
  aggOutputType_local a f g h := by
    cases hr : a.columnReferences with
    | nil => simp [hr]
    | cons c cs => simp [hr, h c (by simp [hr])]

/-! ## Lists -/

/-- INTERNAL: `mapM` into `Option` succeeds exactly when every call does. -/
theorem mapM_isSome_iff {α β : Type} (g : α → Option β) (l : List α) :
    (l.mapM g).isSome ↔ ∀ a ∈ l, (g a).isSome := by
  induction l with
  | nil => simp only [List.mapM_nil]; simp
  | cons a l ih =>
      simp only [List.mapM_cons, List.mem_cons, forall_eq_or_imp, ← ih]
      cases g a <;> cases l.mapM g <;> simp

/-- INTERNAL: `mapM` into `Option` only looks at the calls on the list's elements. -/
theorem mapM_congr {α β : Type} {g g' : α → Option β} {l : List α}
    (h : ∀ a ∈ l, g a = g' a) : l.mapM g = l.mapM g' := by
  induction l with
  | nil => rfl
  | cons a l ih =>
      simp only [List.mapM_cons, h a (List.mem_cons_self a l),
        ih fun b hb => h b (List.mem_cons_of_mem a hb)]

/-- INTERNAL: a search for elements the filter keeps finds the same element after it. -/
theorem find?_filter_of_imp {α : Type} {p q : α → Bool} (l : List α)
    (h : ∀ a, q a = true → p a = true) : (l.filter p).find? q = l.find? q := by
  rw [List.find?_filter]
  congr 1
  funext a
  by_cases hq : q a = true <;> simp [hq, h a]

/-- INTERNAL: the items of a sublist contribute to a `flatMap` only what the list does. -/
theorem mem_flatMap_of_sublist {α β : Type} (f : α → List β) {l l' : List α}
    (h : l'.Sublist l) {x : β} (hx : x ∈ l'.flatMap f) : x ∈ l.flatMap f := by
  obtain ⟨a, ha, hx⟩ := List.mem_flatMap.mp hx
  exact List.mem_flatMap.mpr ⟨a, h.subset ha, hx⟩

/-- A column set, `COLUMN_SET = frozenset[ColumnId]`. -/
abbrev ColumnSet := Finset ColumnId

end BigFrames
