import BigFrames.Model.Nodes

/-!
# What a tree computes

The meaning of a node tree, as the engine that runs the compiled query gives it: a table of
named columns and ordered rows. A node fails to evaluate when it reads a column that its child
does not have, which is what the compiled SQL does when it names a column the subquery below
it does not select. A query that selects no column fails as well: a `SELECT` lists at least one
column, so there is no relation without columns. Only three kinds of node can be left with none,
a read whose scan list is empty, a selection of no pair and an aggregation with neither keys nor
aggregations (`Table.select`); every other node keeps its children's columns or adds one.

The engine's operations are not part of this repository. They enter as a `Semantics`: the
rows of each source, an expression's value at a row, the order a sort puts rows in, an
aggregation's value over a group, a window function's values, and so on. Its laws say that each
operation depends only on the columns it reads: an expression on its column references, a sort
on its keys, an aggregation on its inputs, and a window function on its input column and the
columns its specification partitions and orders by. `Agree S` relates two lists of rows that
hold the same values in the columns `S`, row by row.

Grouping, joining, concatenation and the rest of the relational plumbing are defined here. The
order of groups is the order in which their keys first appear. A join lists the matches of each
left row in order, then, for a right or outer join, the unmatched right rows.
-/

set_option autoImplicit false

namespace BigFrames

/-- A row: the value in each column, `none` for a null or for a column the row does not
have. -/
abbrev Row (V : Type) := ColumnId → Option V

/-- `r` with the value `v` in column `c`. -/
def Row.set {V : Type} (r : Row V) (c : ColumnId) (v : Option V) : Row V :=
  fun c' => if c' = c then v else r c'

/-- The value of a query: its columns and its rows, in order. -/
structure Table (V : Type) where
  columns : List ColumnId
  rows : List (Row V)

/-- The table has every column of `cols`. -/
def Table.has {V : Type} (t : Table V) (cols : List ColumnId) : Bool :=
  cols.all (· ∈ t.columns)

/-- The table of a query that selects the columns `columns`, with the rows `rows`; `none` where
it selects no column. -/
def Table.select {V : Type} (columns : List ColumnId) (rows : List (Row V)) : Option (Table V) :=
  if columns = [] then none else some ⟨columns, rows⟩

/-- A query that selects a column has its columns and rows as its table. -/
theorem Table.select_of_ne_nil {V : Type} {columns : List ColumnId} (h : columns ≠ [])
    (rows : List (Row V)) : Table.select columns rows = some ⟨columns, rows⟩ :=
  if_neg h

/-- A query has a table exactly where it selects a column, and the table is its columns and
rows. -/
@[simp]
theorem Table.select_eq_some {V : Type} {columns : List ColumnId} {rows : List (Row V)}
    {t : Table V} : Table.select columns rows = some t ↔ columns ≠ [] ∧ ⟨columns, rows⟩ = t := by
  unfold Table.select
  split_ifs with h <;> simp [h]

/-- Two lists of rows hold the same values in the columns `S`, row by row. -/
def Agree {V : Type} (S : ColumnSet) (rows rows' : List (Row V)) : Prop :=
  List.Forall₂ (fun r r' => ∀ c ∈ S, r c = r' c) rows rows'

section

variable {V : Type}

/-- The set column holds the new value. -/
@[simp]
theorem Row.set_same (r : Row V) (c : ColumnId) (v : Option V) : r.set c v c = v :=
  if_pos rfl

/-- Every other column keeps its value. -/
theorem Row.set_ne (r : Row V) {c c' : ColumnId} (v : Option V) (h : c' ≠ c) :
    r.set c v c' = r c' :=
  if_neg h

namespace Agree

variable {S S' : ColumnSet} {rows rows' : List (Row V)}

/-- Rows agree with themselves. -/
theorem refl (S : ColumnSet) (rows : List (Row V)) : Agree S rows rows :=
  List.forall₂_same.mpr fun _ _ _ _ => rfl

/-- Rows that agree on `S` agree on every part of it. -/
theorem mono (h : Agree S rows rows') (hS : S' ⊆ S) : Agree S' rows rows' :=
  h.imp fun _ _ hr c hc => hr c (hS hc)

/-- Agreeing lists of rows have the same length. -/
theorem length_eq (h : Agree S rows rows') : rows.length = rows'.length :=
  List.Forall₂.length_eq h

/-- Agreeing lists concatenate to agreeing lists. -/
theorem append {more more' : List (Row V)} (h : Agree S rows rows') (hm : Agree S more more') :
    Agree S (rows ++ more) (rows' ++ more') :=
  List.rel_append h hm

/-- Reversal keeps rows agreeing. -/
theorem reverse (h : Agree S rows rows') : Agree S rows.reverse rows'.reverse :=
  List.rel_reverse h

/-- Maps that agree on `S'` wherever their arguments agree on `S`. -/
theorem map {f g : Row V → Row V} (h : Agree S rows rows')
    (hfg : ∀ r r', (∀ c ∈ S, r c = r' c) → ∀ c ∈ S', f r c = g r' c) :
    Agree S' (rows.map f) (rows'.map g) :=
  List.forall₂_map_left_iff.mpr (List.forall₂_map_right_iff.mpr (h.imp hfg))

/-- A map on the left rows that agrees on `S'` with the right rows wherever the rows agree on
`S`. -/
theorem map_left {f : Row V → Row V} (h : Agree S rows rows')
    (hf : ∀ r r' : Row V, (∀ c ∈ S, r c = r' c) → ∀ c ∈ S', f r c = r' c) :
    Agree S' (rows.map f) rows' :=
  List.forall₂_map_left_iff.mpr (h.imp hf)

/-- Two ways of building rows from one list that agree on `S` at each element. -/
theorem map_same {α : Type} (l : List α) {f g : α → Row V}
    (hfg : ∀ a ∈ l, ∀ c ∈ S, f a c = g a c) : Agree S (l.map f) (l.map g) :=
  List.forall₂_map_left_iff.mpr (List.forall₂_map_right_iff.mpr (List.forall₂_same.mpr hfg))

/-- Filters that decide alike on agreeing rows keep the rows agreeing. -/
theorem filter {p q : Row V → Bool} (h : Agree S rows rows')
    (hpq : ∀ r r', (∀ c ∈ S, r c = r' c) → p r = q r') :
    Agree S (rows.filter p) (rows'.filter q) :=
  List.rel_filter (fun r r' hr => by dsimp only; rw [hpq r r' hr]) h

/-- Expansions that agree on `S'` for rows that agree on `S` keep the rows agreeing on
`S'`. -/
theorem flatMap {f g : Row V → List (Row V)} (h : Agree S rows rows')
    (hfg : ∀ r r', (∀ c ∈ S, r c = r' c) → Agree S' (f r) (g r')) :
    Agree S' (rows.flatMap f) (rows'.flatMap g) :=
  List.rel_flatMap h hfg

/-- A test that answers alike on agreeing rows answers alike on agreeing lists. -/
theorem any_eq {f g : Row V → Bool} (h : Agree S rows rows')
    (hfg : ∀ r r', (∀ c ∈ S, r c = r' c) → f r = g r') : rows.any f = rows'.any g := by
  induction h with
  | nil => rfl
  | cons hr _ ih => simp only [List.any_cons, hfg _ _ hr, ih]

end Agree

end

/-- The engine's operations, each depending only on the columns it reads. -/
structure Semantics (V : Type) where
  /-- The rows of a local source, each giving a value by the source's column name. -/
  localRows : List UInt8 → ArraySchema → Nat → List (String → Option V)
  /-- The rows of a table source. -/
  tableRows : BigqueryDataSource → List (String → Option V)
  /-- An expression's value at a row. -/
  evalExpr : Expression → Row V → Option V
  /-- Whether a filter keeps a row, given its predicate's value. -/
  isTrue : Option V → Bool
  /-- The rows in the order the ordering expressions give. -/
  sortRows : List OrderingExpression → List (Row V) → List (Row V)
  /-- An aggregation's value over a group of rows. -/
  evalAgg : Aggregation → List (Row V) → Option V
  /-- A window function's value at the row of each index, over the whole input. -/
  evalWindow : UnaryWindowOp → WindowSpec → ColumnId → Bool → List (Row V) → Nat → Option V
  /-- The exploded columns' values in each row an exploded row becomes. -/
  explodeValues : List (Option V) → List (List (Option V))
  /-- Whether two join keys match. -/
  keysMatch : Option V → Option V → Bool
  /-- The offset of the row at an index. -/
  offset : Nat → V
  /-- A row count. -/
  count : Nat → V
  /-- The labels a range from `start` to `end` by `step` holds. -/
  rangeValues : Option V → Option V → Int → List (Option V)
  /-- A random sample of rows with the given fraction. -/
  sample : ℚ → List (Row V) → List (Row V)
  evalExpr_local : ∀ e (r r' : Row V), (∀ c ∈ e.columnReferences, r c = r' c) →
    evalExpr e r = evalExpr e r'
  sortRows_local : ∀ by_ (S : ColumnSet) (rows rows' : List (Row V)),
    (∀ c ∈ by_.flatMap (·.referencedColumns), c ∈ S) → Agree S rows rows' →
      Agree S (sortRows by_ rows) (sortRows by_ rows')
  evalAgg_local : ∀ a (S : ColumnSet) (g g' : List (Row V)), (∀ c ∈ a.columnReferences, c ∈ S) →
    Agree S g g' → evalAgg a g = evalAgg a g'
  evalWindow_local : ∀ op spec col neverSkipNulls (S : ColumnSet) (rows rows' : List (Row V)),
    col ∈ S → (∀ c ∈ spec.allReferencedColumns, c ∈ S) → Agree S rows rows' →
      evalWindow op spec col neverSkipNulls rows = evalWindow op spec col neverSkipNulls rows'

section

variable {V : Type} (sem : Semantics V)


/-- A source row read through a scan list: the item with id `c` puts the source's column
`sourceId` in column `c`. -/
def scanRow (scanList : ScanList) (src : String → Option V) : Row V :=
  fun c => (scanList.items.find? (·.id = c)).bind fun i => src i.sourceId

/-- The output row of one group: the key columns, then the aggregations over the group. -/
def aggregateRow (byColumnIds : List ColumnId) (aggregations : List (Aggregation × ColumnId))
    (group : List (Option V) × List (Row V)) : Row V :=
  fun c => match (byColumnIds.zip group.1).find? (·.1 = c) with
    | some p => p.2
    | none => (aggregations.find? (·.2 = c)).bind fun a => sem.evalAgg a.1 group.2

/-- Each row, from the `i`-th on, with `values i` in column `c`. -/
def setColumn (c : ColumnId) (values : Nat → Option V) : Nat → List (Row V) → List (Row V)
  | _, [] => []
  | i, r :: rs => r.set c (values i) :: setColumn c values (i + 1) rs

/-- Setting a column keeps the number of rows. -/
@[simp]
theorem length_setColumn (c : ColumnId) (values : Nat → Option V) (i : Nat) (rows : List (Row V)) :
    (setColumn c values i rows).length = rows.length := by
  induction rows generalizing i with
  | nil => rfl
  | cons r rs ih => simp [setColumn, ih]

/-- A pair of rows matches a join's conditions when every condition's keys match. -/
def rowsMatch (conditions : List (ColumnId × ColumnId)) (a b : Row V) : Bool :=
  conditions.all fun p => sem.keysMatch (a p.1) (b p.2)

/-- The joined row of a left row `a` and a right row `b`: `a`'s value in the left table's
columns, `b`'s elsewhere. -/
def combineRows (leftColumns : List ColumnId) (a b : Row V) : Row V :=
  fun c => if c ∈ leftColumns then a c else b c

/-- The row of nulls that stands for a missing match. -/
def nullRow : Row V := fun _ => none

/-- Each left row joined with its matches in order, or with nulls when it has none and
`keepUnmatched` holds. -/
def matchedRows (tl tr : Table V) (conditions : List (ColumnId × ColumnId))
    (keepUnmatched : Bool) : List (Row V) :=
  tl.rows.flatMap fun a =>
    let bs := tr.rows.filter (rowsMatch sem conditions a)
    if bs.isEmpty then (if keepUnmatched then [combineRows tl.columns a nullRow] else [])
    else bs.map (combineRows tl.columns a)

/-- The right rows no left row matches, joined with nulls. -/
def unmatchedRight (tl tr : Table V) (conditions : List (ColumnId × ColumnId)) : List (Row V) :=
  (tr.rows.filter fun b => !tl.rows.any fun a => rowsMatch sem conditions a b).map
    (combineRows tl.columns nullRow)

/-- The rows of a join of the given type. -/
def joinRows (tl tr : Table V) (conditions : List (ColumnId × ColumnId)) : JoinType → List (Row V)
  | .cross => tl.rows.flatMap fun a => tr.rows.map (combineRows tl.columns a)
  | .inner => matchedRows sem tl tr conditions false
  | .left => matchedRows sem tl tr conditions true
  | .right => matchedRows sem tl tr conditions false ++ unmatchedRight sem tl tr conditions
  | .outer => matchedRows sem tl tr conditions true ++ unmatchedRight sem tl tr conditions

/-! ## The plumbing reads only the columns it is given -/

variable {S : ColumnSet} {rows rows' : List (Row V)}

/-- INTERNAL: a scan list cut down to the ids in `U` reads the same value in every id of `U`.
PYLINE: nodes.py:497-507, 615-634 -/
theorem scanRow_filter {scanList : ScanList} {U : ColumnSet} (src : String → Option V)
    {c : ColumnId} (hc : c ∈ U) :
    scanRow ⟨scanList.items.filter (·.id ∈ U)⟩ src c = scanRow scanList src c := by
  simp only [scanRow]
  rw [find?_filter_of_imp]
  intro i hi
  simpa [of_decide_eq_true hi] using hc

/-- INTERNAL: setting one column to the same values keeps the rows agreeing, on that column
too. -/
theorem Agree.setColumn (c : ColumnId) (values : Nat → Option V) (i : Nat)
    (h : Agree S rows rows') :
    Agree (insert c S) (setColumn c values i rows) (setColumn c values i rows') := by
  induction h generalizing i with
  | nil => exact .nil
  | cons hr _ ih =>
      refine .cons (fun x hx => ?_) (ih (i + 1))
      by_cases hxc : x = c
      · simp only [hxc, Row.set_same]
      · rw [Row.set_ne _ _ hxc, Row.set_ne _ _ hxc]
        exact hr x ((Finset.mem_insert.mp hx).resolve_left hxc)

/-- INTERNAL: setting a column outside `S` leaves the rows agreeing on `S`. -/
theorem Agree.setColumn_left {c : ColumnId} (hc : c ∉ S) (values : Nat → Option V) (i : Nat)
    (h : Agree S rows rows') : Agree S (BigFrames.setColumn c values i rows) rows' := by
  induction h generalizing i with
  | nil => exact .nil
  | cons hr _ ih =>
      refine .cons (fun x hx => ?_) (ih (i + 1))
      rw [Row.set_ne _ _ (ne_of_mem_of_not_mem hx hc)]
      exact hr x hx

/-- Two lists of groups with the same keys, in the same order, whose rows agree on `S`. -/
def GroupsAgree (S : ColumnSet) (gs gs' : List (List (Option V) × List (Row V))) : Prop :=
  List.Forall₂ (fun g g' => g.1 = g'.1 ∧ Agree S g.2 g'.2) gs gs'

/-- INTERNAL: dropping the groups with a null key keeps agreeing groups agreeing. -/
theorem GroupsAgree.dropna {gs gs' : List (List (Option V) × List (Row V))}
    (h : GroupsAgree S gs gs') (dropna : Bool) :
    GroupsAgree S (if dropna then gs.filter (·.1.all Option.isSome) else gs)
      (if dropna then gs'.filter (·.1.all Option.isSome) else gs') := by
  cases dropna
  · exact h
  · exact List.rel_filter (fun g g' hg => by dsimp only; rw [hg.1]) h

/-- INTERNAL: rows agreeing on the columns of the conditions match alike. -/
theorem rowsMatch_congr {conditions : List (ColumnId × ColumnId)} {Sl Sr : ColumnSet}
    (hcond : ∀ p ∈ conditions, p.1 ∈ Sl ∧ p.2 ∈ Sr) {a a' b b' : Row V}
    (ha : ∀ c ∈ Sl, a c = a' c) (hb : ∀ c ∈ Sr, b c = b' c) :
    rowsMatch sem conditions a b = rowsMatch sem conditions a' b' := by
  unfold rowsMatch
  rw [Bool.eq_iff_iff, List.all_eq_true, List.all_eq_true]
  exact forall₂_congr fun p hp => by rw [ha _ (hcond p hp).1, hb _ (hcond p hp).2]

section Join

/-! A join of tables that agree, left on `Sl` and right on `Sr`, whose left columns are the same
in every column of `S`, and which read only columns of `S` from the side they come from. -/

variable {tl tr tl' tr' : Table V} {Sl Sr : ColumnSet}
  {conditions : List (ColumnId × ColumnId)}
  (hcols : ∀ x ∈ S, (x ∈ tl.columns ↔ x ∈ tl'.columns) ∧ (x ∈ tl.columns → x ∈ Sl) ∧
    (x ∉ tl.columns → x ∈ Sr))
  (hl : Agree Sl tl.rows tl'.rows) (hr : Agree Sr tr.rows tr'.rows)
  (hcond : ∀ p ∈ conditions, p.1 ∈ Sl ∧ p.2 ∈ Sr)

include hcols

/-- INTERNAL: joined rows of agreeing rows agree on `S`. -/
theorem combineRows_congr {a a' b b' : Row V} (ha : ∀ c ∈ Sl, a c = a' c)
    (hb : ∀ c ∈ Sr, b c = b' c) :
    ∀ x ∈ S, combineRows tl.columns a b x = combineRows tl'.columns a' b' x := by
  intro x hx
  obtain ⟨hmem, hleft, hright⟩ := hcols x hx
  by_cases h : x ∈ tl.columns
  · simp only [combineRows, h, hmem.mp h, if_true, ha x (hleft h)]
  · simp only [combineRows, h, mt hmem.mpr h, if_false, hb x (hright h)]

include hl hr hcond

/-- INTERNAL: the matched rows of agreeing tables agree. -/
theorem Agree.matchedRows (keepUnmatched : Bool) :
    Agree S (matchedRows sem tl tr conditions keepUnmatched)
      (matchedRows sem tl' tr' conditions keepUnmatched) := by
  refine hl.flatMap fun a a' ha => ?_
  have hbs : Agree Sr (tr.rows.filter (rowsMatch sem conditions a))
      (tr'.rows.filter (rowsMatch sem conditions a')) :=
    hr.filter fun b b' hb => rowsMatch_congr sem hcond ha hb
  have hempty : (tr.rows.filter (rowsMatch sem conditions a)).isEmpty =
      (tr'.rows.filter (rowsMatch sem conditions a')).isEmpty := by
    rw [Bool.eq_iff_iff, List.isEmpty_iff_length_eq_zero, List.isEmpty_iff_length_eq_zero,
      hbs.length_eq]
  dsimp only
  rw [hempty]
  split_ifs
  · exact .cons (combineRows_congr hcols ha fun _ _ => rfl) .nil
  · exact .nil
  · exact hbs.map fun b b' hb => combineRows_congr hcols ha hb

/-- INTERNAL: the unmatched right rows of agreeing tables agree. -/
theorem Agree.unmatchedRight :
    Agree S (unmatchedRight sem tl tr conditions) (unmatchedRight sem tl' tr' conditions) := by
  refine (hr.filter fun b b' hb => ?_).map fun b b' hb =>
    combineRows_congr hcols (fun _ _ => rfl) hb
  rw [hl.any_eq fun a a' ha => rowsMatch_congr sem hcond ha hb]

/-- The rows of a join of agreeing tables agree on `S`. -/
theorem Agree.joinRows (type : JoinType) :
    Agree S (joinRows sem tl tr conditions type) (joinRows sem tl' tr' conditions type) := by
  cases type with
  | cross => exact hl.flatMap fun a a' ha => hr.map fun b b' hb => combineRows_congr hcols ha hb
  | inner | left => exact Agree.matchedRows sem hcols hl hr hcond _
  | right | outer =>
      exact (Agree.matchedRows sem hcols hl hr hcond _).append
        (Agree.unmatchedRight sem hcols hl hr hcond)

end Join

end

section

variable {V : Type} [DecidableEq V] (sem : Semantics V)


/-- Add a row to the group of its key, or open a new group at the end. -/
def insertGroup (key : List (Option V)) (r : Row V) :
    List (List (Option V) × List (Row V)) → List (List (Option V) × List (Row V))
  | [] => [(key, [r])]
  | (k, rs) :: gs => if k = key then (k, rs ++ [r]) :: gs else (k, rs) :: insertGroup key r gs

/-- The groups of rows with equal values in the `keys` columns, in the order their keys first
appear. With no keys, all rows make one group. -/
def groupRows (keys : List ColumnId) (rows : List (Row V)) :
    List (List (Option V) × List (Row V)) :=
  if keys = [] then [([], rows)]
  else rows.foldl (fun gs r => insertGroup (keys.map r) r gs) []
variable {S : ColumnSet} {rows rows' : List (Row V)}


/-- INTERNAL: adding agreeing rows under one key keeps the groups agreeing. -/
theorem GroupsAgree.insertGroup (key : List (Option V)) {r r' : Row V}
    (hr : ∀ c ∈ S, r c = r' c) {gs gs' : List (List (Option V) × List (Row V))}
    (h : GroupsAgree S gs gs') : GroupsAgree S (insertGroup key r gs) (insertGroup key r' gs') := by
  induction h with
  | nil => exact .cons ⟨rfl, .cons hr .nil⟩ .nil
  | @cons g g' _ _ hg _ ih =>
      obtain ⟨k, rs⟩ := g
      obtain ⟨k', rs'⟩ := g'
      obtain ⟨rfl, hrs⟩ := hg
      simp only [BigFrames.insertGroup]
      split_ifs
      · exact .cons ⟨rfl, hrs.append (.cons hr .nil)⟩ ‹_›
      · exact .cons ⟨rfl, hrs⟩ ih

/-- INTERNAL: rows that agree on the grouping keys and on `S` fall into the same groups, in the
same order. -/
theorem GroupsAgree.groupRows {keys : List ColumnId} (hkeys : ∀ k ∈ keys, k ∈ S)
    (h : Agree S rows rows') : GroupsAgree S (groupRows keys rows) (groupRows keys rows') := by
  unfold BigFrames.groupRows
  split_ifs
  · exact .cons ⟨rfl, h⟩ .nil
  · suffices ∀ gs gs', GroupsAgree S gs gs' → GroupsAgree S
        (rows.foldl (fun gs r => BigFrames.insertGroup (keys.map r) r gs) gs)
        (rows'.foldl (fun gs r => BigFrames.insertGroup (keys.map r) r gs) gs') from
      this [] [] .nil
    induction h with
    | nil => exact fun _ _ hg => hg
    | @cons r r' _ _ hr _ ih =>
        intro gs gs' hg
        have hkey : keys.map r = keys.map r' :=
          List.map_congr_left fun k hk => hr k (hkeys k hk)
        refine ih _ _ ?_
        dsimp only
        rw [hkey]
        exact hg.insertGroup _ hr
/-- The first value of a table: its first column at its first row. -/
def Table.firstValue (t : Table V) : Option V :=
  t.rows.head?.bind fun r => t.columns.head?.bind r

/-- What a tree evaluates to, `none` when a node reads a column its child does not have or when a
query selects no column. -/
def eval : BigFrameNode → Option (Table V)
  | .readLocalNode featherBytes dataSchema nRows scanList _ =>
      Table.select (scanList.items.map (·.id))
        ((sem.localRows featherBytes dataSchema nRows).map (scanRow scanList))
  | .readTableNode source scanList _ | .cachedTableNode source scanList _ _ =>
      Table.select (scanList.items.map (·.id)) ((sem.tableRows source).map (scanRow scanList))
  | .promoteOffsetsNode c colId => (eval c).map fun t =>
      ⟨t.columns ++ [colId], setColumn colId (fun i => some (sem.offset i)) 0 t.rows⟩
  | .filterNode c predicate => (eval c).bind fun t =>
      if t.has predicate.columnReferences then
        some ⟨t.columns, t.rows.filter fun r => sem.isTrue (sem.evalExpr predicate r)⟩
      else none
  | .orderByNode c by_ => (eval c).bind fun t =>
      if t.has (by_.flatMap (·.referencedColumns)) then some ⟨t.columns, sem.sortRows by_ t.rows⟩
      else none
  | .reversedNode c _ => (eval c).map fun t => ⟨t.columns, t.rows.reverse⟩
  | .selectionNode c inputOutputPairs => (eval c).bind fun t =>
      if t.has (inputOutputPairs.map (·.1)) then
        Table.select (inputOutputPairs.map (·.2)) (t.rows.map fun r c' =>
          (inputOutputPairs.find? (·.2 = c')).bind fun p => r p.1)
      else none
  | .projectionNode c assignments => (eval c).bind fun t =>
      if t.has (assignments.flatMap (·.1.columnReferences)) then
        some ⟨t.columns ++ assignments.map (·.2), t.rows.map fun r c' =>
          match assignments.find? (·.2 = c') with
          | some a => sem.evalExpr a.1 r
          | none => r c'⟩
      else none
  | .rowCountNode c => (eval c).map fun t =>
      ⟨[⟨"count"⟩], [fun c' => if c' = ⟨"count"⟩ then some (sem.count t.rows.length) else none]⟩
  | .aggregateNode c aggregations byColumnIds dropna => (eval c).bind fun t =>
      if t.has (byColumnIds ++ aggregations.flatMap (·.1.columnReferences)) then
        let groups := groupRows byColumnIds t.rows
        let groups := if dropna then groups.filter (·.1.all Option.isSome) else groups
        Table.select (byColumnIds ++ aggregations.map (·.2))
          (groups.map (aggregateRow sem byColumnIds aggregations))
      else none
  | .windowOpNode c columnName op windowSpec outputName neverSkipNulls _ => (eval c).bind fun t =>
      if t.has (columnName :: windowSpec.allReferencedColumns) then
        let values := sem.evalWindow op windowSpec columnName neverSkipNulls t.rows
        some ⟨t.columns ++ [outputName], setColumn outputName values 0 t.rows⟩
      else none
  | .reprojectOpNode c => eval c
  | .randomSampleNode c fraction => (eval c).map fun t => ⟨t.columns, sem.sample fraction t.rows⟩
  | .explodeNode c columnIds => (eval c).bind fun t =>
      if t.has columnIds then
        some ⟨t.columns, t.rows.flatMap fun r =>
          (sem.explodeValues (columnIds.map r)).map fun vals c' =>
            ((columnIds.zip vals).find? (·.1 = c')).elim (r c') (·.2)⟩
      else none
  | .joinNode l r conditions type => (eval l).bind fun tl => (eval r).bind fun tr =>
      if tl.has (conditions.map (·.1)) && tr.has (conditions.map (·.2)) then
        some ⟨tl.columns ++ tr.columns, joinRows sem tl tr conditions type⟩
      else none
  | .concatNode children => (evalAll children).bind fun ts =>
      match ts with
      | [] => none
      | t :: _ =>
          let names : List ColumnId := t.columns.enum.map fun p => ⟨s!"column_{p.1}"⟩
          some ⟨names, ts.flatMap fun t' => t'.rows.map fun r c' =>
            ((t'.columns.zip names).find? (·.2 = c')).bind fun p => r p.1⟩
  | .fromRangeNode start end_ step => (eval start).bind fun ts => (eval end_).map fun te =>
      ⟨[⟨"labels"⟩], (sem.rangeValues ts.firstValue te.firstValue step).map fun v c' =>
        if c' = ⟨"labels"⟩ then v else none⟩
where
  /-- The tables of a list of trees, `none` when one fails. -/
  evalAll : List BigFrameNode → Option (List (Table V))
    | [] => some []
    | c :: cs => (eval c).bind fun t => (evalAll cs).map (t :: ·)

end

/-- A semantics over integers: every source column holds the row's index, an expression is the
value of its first column, a filter keeps the rows where that value is not null, a sort keeps
the order, an aggregation counts its group, a window function yields nulls, and a sample keeps
every row. -/
def indexSemantics : Semantics Int where
  localRows _ _ nRows := (List.range nRows).map fun i _ => some (i : Int)
  tableRows _ := []
  evalExpr e r := e.columnReferences.head?.bind r
  isTrue v := v.isSome
  sortRows _ rows := rows
  evalAgg _ g := some g.length
  evalWindow _ _ _ _ _ _ := none
  explodeValues vals := [vals]
  keysMatch a b := a == b
  offset i := i
  count n := n
  rangeValues _ _ _ := []
  sample _ rows := rows
  evalExpr_local e r r' h := by
    cases hr : e.columnReferences with
    | nil => simp [hr]
    | cons c cs => simp [hr, h c (by simp [hr])]
  sortRows_local _ _ _ _ _ h := h
  evalAgg_local _ _ _ _ _ h := by simp only [h.length_eq]
  evalWindow_local _ _ _ _ _ _ _ _ _ _ := rfl

end BigFrames
