import BigFrames.Model.Nodes

/-!
# Column pruning

`prune(used_cols)` of every class in `nodes.py`. The default, `transform_children` with the same
`used_cols`, is what `ReversedNode`, `RowCountNode`, `ReprojectOpNode` and `RandomSampleNode`
inherit; every other class overrides it. `ConcatNode` and `FromRangeNode` return themselves.

Two overrides are transcribed with their quirks, on which the analyses turn: `WindowOpNode`
returns its child unpruned when its output is unused, and adds only its input column, not the
columns of its window specification, to the set its child is pruned with.
-/

set_option autoImplicit false

namespace BigFrames

namespace BigFrameNode

/-- `prune(used_cols)`. -/
def prune : BigFrameNode → ColumnSet → BigFrameNode
  | readLocalNode featherBytes dataSchema nRows scanList session, usedCols =>
      readLocalNode featherBytes dataSchema nRows ⟨scanList.items.filter (·.id ∈ usedCols)⟩ session
  | readTableNode source scanList tableSession, usedCols =>
      readTableNode source ⟨scanList.items.filter (·.id ∈ usedCols)⟩ tableSession
  | cachedTableNode source scanList tableSession originalNode, usedCols =>
      cachedTableNode source ⟨scanList.items.filter (·.id ∈ usedCols)⟩ tableSession originalNode
  | promoteOffsetsNode c colId, usedCols =>
      if colId ∉ usedCols then prune c usedCols
      else promoteOffsetsNode (prune c (usedCols \ {colId})) colId
  | filterNode c predicate, usedCols =>
      filterNode (prune c (usedCols ∪ predicate.columnReferences.toFinset)) predicate
  | orderByNode c by_, usedCols =>
      orderByNode (prune c (usedCols ∪ (by_.flatMap (·.referencedColumns)).toFinset)) by_
  | reversedNode c reversed, usedCols => reversedNode (prune c usedCols) reversed
  | selectionNode c inputOutputPairs, usedCols =>
      let prunedSelections := inputOutputPairs.filter (·.2 ∈ usedCols)
      selectionNode (prune c (prunedSelections.map (·.1)).toFinset) prunedSelections
  | projectionNode c assignments, usedCols =>
      let prunedAssignments := assignments.filter (·.2 ∈ usedCols)
      if prunedAssignments.length = 0 then prune c usedCols
      else
        projectionNode
          (prune c (usedCols ∪ (prunedAssignments.flatMap (·.1.columnReferences)).toFinset))
          prunedAssignments
  | rowCountNode c, usedCols => rowCountNode (prune c usedCols)
  | aggregateNode c aggregations byColumnIds dropna, usedCols =>
      let prunedAggs := aggregations.filter (·.2 ∈ usedCols)
      aggregateNode
        (prune c (byColumnIds ++ prunedAggs.flatMap (·.1.columnReferences)).toFinset)
        prunedAggs byColumnIds dropna
  | windowOpNode c columnName op windowSpec outputName neverSkipNulls skipReprojectUnsafe,
      usedCols =>
      if outputName ∉ usedCols then c
      else
        windowOpNode (prune c (usedCols \ {outputName} ∪ {columnName})) columnName op windowSpec
          outputName neverSkipNulls skipReprojectUnsafe
  | reprojectOpNode c, usedCols => reprojectOpNode (prune c usedCols)
  | randomSampleNode c fraction, usedCols => randomSampleNode (prune c usedCols) fraction
  | explodeNode c columnIds, usedCols =>
      explodeNode (prune c (usedCols ∪ columnIds.toFinset)) columnIds
  | joinNode l r conditions type, usedCols =>
      let newUsed := usedCols ∪ (conditions.flatMap fun p => [p.1, p.2]).toFinset
      joinNode (prune l newUsed) (prune r newUsed) conditions type
  | n@(concatNode _), _ => n
  | n@(fromRangeNode ..), _ => n

/-- Induction along `prune`'s own branches: one case per class, and one per branch where the
class's override has an `if`. `promoteOffsetsDropped`, `projectionDropped` and `windowOpDropped`
are the branches where nothing the node adds is used and it is replaced by its child. This is
`prune.induct` with its cases named after the class they handle. -/
@[elab_as_elim]
theorem pruneInduction {motive : BigFrameNode → ColumnSet → Prop}
    (readLocal : ∀ featherBytes dataSchema nRows scanList session usedCols,
      motive (readLocalNode featherBytes dataSchema nRows scanList session) usedCols)
    (readTable : ∀ source scanList tableSession usedCols,
      motive (readTableNode source scanList tableSession) usedCols)
    (cachedTable : ∀ source scanList tableSession originalNode usedCols,
      motive (cachedTableNode source scanList tableSession originalNode) usedCols)
    (promoteOffsetsDropped : ∀ c colId (usedCols : ColumnSet), colId ∉ usedCols →
      motive c usedCols → motive (promoteOffsetsNode c colId) usedCols)
    (promoteOffsets : ∀ c colId (usedCols : ColumnSet), ¬colId ∉ usedCols →
      motive c (usedCols \ {colId}) → motive (promoteOffsetsNode c colId) usedCols)
    (filter : ∀ c (predicate : Expression) (usedCols : ColumnSet),
      motive c (usedCols ∪ predicate.columnReferences.toFinset) →
      motive (filterNode c predicate) usedCols)
    (orderBy : ∀ c (by_ : List OrderingExpression) (usedCols : ColumnSet),
      motive c (usedCols ∪ (by_.flatMap (·.referencedColumns)).toFinset) →
      motive (orderByNode c by_) usedCols)
    (reversed : ∀ c reversed usedCols,
      motive c usedCols → motive (reversedNode c reversed) usedCols)
    (selection : ∀ c (inputOutputPairs : List (ColumnId × ColumnId)) (usedCols : ColumnSet),
      let prunedSelections := inputOutputPairs.filter (·.2 ∈ usedCols)
      motive c (prunedSelections.map (·.1)).toFinset →
      motive (selectionNode c inputOutputPairs) usedCols)
    (projectionDropped : ∀ c (assignments : List (Expression × ColumnId)) (usedCols : ColumnSet),
      let prunedAssignments := assignments.filter (·.2 ∈ usedCols)
      prunedAssignments.length = 0 → motive c usedCols →
      motive (projectionNode c assignments) usedCols)
    (projection : ∀ c (assignments : List (Expression × ColumnId)) (usedCols : ColumnSet),
      let prunedAssignments := assignments.filter (·.2 ∈ usedCols)
      ¬prunedAssignments.length = 0 →
      motive c (usedCols ∪ (prunedAssignments.flatMap (·.1.columnReferences)).toFinset) →
      motive (projectionNode c assignments) usedCols)
    (rowCount : ∀ c usedCols, motive c usedCols → motive (rowCountNode c) usedCols)
    (aggregate : ∀ c (aggregations : List (Aggregation × ColumnId)) (byColumnIds : List ColumnId)
      dropna (usedCols : ColumnSet),
      let prunedAggs := aggregations.filter (·.2 ∈ usedCols)
      motive c (byColumnIds ++ prunedAggs.flatMap (·.1.columnReferences)).toFinset →
      motive (aggregateNode c aggregations byColumnIds dropna) usedCols)
    (windowOpDropped : ∀ c columnName op windowSpec outputName neverSkipNulls
      skipReprojectUnsafe (usedCols : ColumnSet), outputName ∉ usedCols →
      motive (windowOpNode c columnName op windowSpec outputName neverSkipNulls
        skipReprojectUnsafe) usedCols)
    (windowOp : ∀ c columnName op windowSpec outputName neverSkipNulls skipReprojectUnsafe
      (usedCols : ColumnSet), ¬outputName ∉ usedCols →
      motive c (usedCols \ {outputName} ∪ {columnName}) →
      motive (windowOpNode c columnName op windowSpec outputName neverSkipNulls
        skipReprojectUnsafe) usedCols)
    (reprojectOp : ∀ c usedCols, motive c usedCols → motive (reprojectOpNode c) usedCols)
    (randomSample : ∀ c fraction usedCols,
      motive c usedCols → motive (randomSampleNode c fraction) usedCols)
    (explode : ∀ c (columnIds : List ColumnId) (usedCols : ColumnSet),
      motive c (usedCols ∪ columnIds.toFinset) → motive (explodeNode c columnIds) usedCols)
    (join : ∀ l r (conditions : List (ColumnId × ColumnId)) type (usedCols : ColumnSet),
      let newUsed := usedCols ∪ (conditions.flatMap fun p => [p.1, p.2]).toFinset
      motive l newUsed → motive r newUsed → motive (joinNode l r conditions type) usedCols)
    (concat : ∀ children usedCols, motive (concatNode children) usedCols)
    (fromRange : ∀ start end_ step usedCols, motive (fromRangeNode start end_ step) usedCols)
    (n : BigFrameNode) (usedCols : ColumnSet) : motive n usedCols :=
  prune.induct motive readLocal readTable cachedTable promoteOffsetsDropped promoteOffsets filter
    orderBy reversed selection projectionDropped projection rowCount aggregate windowOpDropped
    windowOp reprojectOp randomSample explode join concat fromRange n usedCols

end BigFrameNode

end BigFrames
