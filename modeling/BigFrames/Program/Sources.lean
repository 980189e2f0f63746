import BigFrames.Program.Fields

/-!
# Data sources

What a tree reads from outside itself. `roots` (nodes.py:123-128) gathers, through
`child_nodes`, the nodes at which the descent stops: every `LeafNode` (nodes.py:433-435) and
every `FromRangeNode` (nodes.py:393-395), which is a root although it has children. A leaf
describes its data: `row_count` (nodes.py:445-448, 493-495, 609-613) is the number of rows when
it is known without a query, and `supports_fast_head` (nodes.py:436-438, 481-483, 588-593) says
whether the first rows can be read without ordering the whole table. The other classes define
neither property; the model answers `none` for them, where the Python raises `AttributeError`.

`GbqTable.from_table` (nodes.py:520-537) builds the description of a BigQuery table that a
`ReadTableNode` reads, keeping the columns named in `columns` when that is not empty. It is
modelled as `GbqTable.fromTable`; no result below is about it.
-/

set_option autoImplicit false

namespace BigFrames

/-- The fields of a `google.cloud.bigquery.Table` that `from_table` reads. -/
structure BqTable where
  project : String
  datasetId : String
  tableId : String
  schema : List SchemaField
  numRows : Nat
  tableType : String
  clusteringFields : Option (List String)
deriving DecidableEq, Repr

/-- `GbqTable.from_table`: the table's schema, restricted to the fields named in `columns` when
`columns` is not empty, in the table's order; a physical table is one of type `"TABLE"`. -/
def GbqTable.fromTable (table : BqTable) (columns : List String) : GbqTable where
  projectId := table.project
  datasetId := table.datasetId
  tableId := table.tableId
  physicalSchema :=
    if columns.isEmpty then table.schema else table.schema.filter fun item => item.name ∈ columns
  nRows := table.numRows
  isPhysicalTable := table.tableType == "TABLE"
  clusterCols := table.clusteringFields

namespace BigFrameNode

/-- `row_count`: `n_rows` for a `ReadLocalNode`, and for a `ReadTableNode` (and the
`CachedTableNode` that inherits it) the table's `n_rows` when the source has no SQL predicate
and is a physical table, otherwise `None`. The outer `none` is a class without the property. -/
def rowCount : BigFrameNode → Option (Option Nat)
  | readLocalNode _ _ nRows _ _ => some (some nRows)
  | readTableNode source _ _ | cachedTableNode source _ _ _ =>
      some (if source.sqlPredicate.isNone && source.table.isPhysicalTable then
        some source.table.nRows else none)
  | _ => none

end BigFrameNode

end BigFrames
