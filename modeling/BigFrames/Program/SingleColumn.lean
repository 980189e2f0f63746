import Mathlib.Data.List.Basic

/-!
# Joining two compiled expressions

`bigframes/core/compile/single_column.py`. `join_by_column_ordered` and
`join_by_column_unordered` rename the columns of both sides apart before joining. Visible
columns take the names `standard_identifiers()` yields, from one generator shared by the two
sides, left first. An ordered input's hidden ordering columns take names from `generate_guid`.
The join conditions compare `value_to_join_key` of the two key values, which casts a non-string
value to text and replaces a null with the text `"$NULL_SENTINEL$"`.

`standard_identifiers` and `generate_guid` are not part of this repository sample. They enter
as a `NameSupply`, whose fields state what the join needs of them: the generator never repeats
a name, `generate_guid` never repeats a name for a prefix, and its names are never standard
identifiers. `generate_guid` draws from a process-wide counter, which the ordered join takes
and returns. The joined table's ordering (`join_orderings`) and the positions of the key
columns in the renamed tables (`_to_ibis_expr`) come from modules outside the sample and are
left out.
-/

set_option autoImplicit false

namespace BigFrames

/-! ## Join keys -/

/-- What `value_to_join_key` reads of a key column's type: whether it is a string type, and how
a non-null value reads as text, as the string itself or through `cast(str)`. -/
structure KeyType (α : Type) where
  isString : Bool
  /-- The value of a string column. -/
  str : α → String
  /-- `value.cast(ibis_dtypes.str)`. -/
  cast : α → String

/-- The text `value_to_join_key` puts in place of a null. -/
def nullSentinel : String := "$NULL_SENTINEL$"

section

variable {α : Type}

/-- `value_to_join_key` of one value, `none` standing for null: a non-string value is cast to
text, and a null becomes `nullSentinel` (`fillna`). -/
def valueToJoinKey (ty : KeyType α) (value : Option α) : String :=
  let value : Option String := if !ty.isString then value.map ty.cast else value.map ty.str
  value.getD nullSentinel

/-- One of `join_conditions` at a pair of rows: the join keys of the left and right values
are equal. -/
def joinConditionHolds (leftType rightType : KeyType α) (x y : Option α) : Bool :=
  valueToJoinKey leftType x == valueToJoinKey rightType y

end

/-! ## Renaming the two sides apart -/

/-- The names the join draws on. The fields after the first two are what the join needs of
them. The implementations, outside this sample, count up from zero, and their names carry a
`col_` or a `bfuid_` stem. -/
structure NameSupply where
  /-- The `i`-th name `standard_identifiers()` yields. -/
  standardIdentifiers : Nat → String
  /-- The name `generate_guid(prefix)` returns when the process-wide counter is at `n`. -/
  generateGuid : String → Nat → String
  standardIdentifiers_injective : Function.Injective standardIdentifiers
  generateGuid_injective : ∀ pre, Function.Injective (generateGuid pre)
  generateGuid_ne_standardIdentifiers : ∀ pre n i, generateGuid pre n ≠ standardIdentifiers i

/-- `d[key]` for the dict built from `pairs` in order: the value of the last pair with that key,
`none` (a `KeyError`) when there is none. `{**a, **b}` is `a ++ b`. -/
def dictLookup : List (String × String) → String → Option String
  | [], _ => none
  | (k, v) :: rest, key => (dictLookup rest key).or (if k = key then some v else none)

/-- Each key in order draws the next name from a counter at `next`: the pairs, and the counter
after them. This is `zip(keys, id_generator)` with the generator at `next`, where `zip` stops
when `keys` runs out, before drawing from the generator. It is also
`{id: generate_guid(prefix) for id in keys}` with the counter of `generate_guid` at `next`. -/
def drawNames (draw : Nat → String) : List String → Nat → List (String × String) × Nat
  | [], next => ([], next)
  | k :: ks, next =>
      let rest := drawNames draw ks (next + 1)
      ((k, draw next) :: rest.1, rest.2)

/-- What the join reads of a `compiled.OrderedIR`: the ids of its visible columns and of its
hidden ordering columns (`_hidden_column_ids`), in order. -/
structure OrderedIR where
  columnIds : List String
  hiddenColumnIds : List String
deriving DecidableEq, Repr

/-- What the join reads of a `compiled.UnorderedIR`: the ids of its columns. -/
structure UnorderedIR where
  columnIds : List String
deriving DecidableEq, Repr

/-- The joined `OrderedIR` as far as this model follows it: the two renamings, and the names
of its columns and hidden ordering columns. -/
structure OrderedJoin where
  lMapping : List (String × String)
  rMapping : List (String × String)
  columns : List String
  hiddenOrderingColumns : List String
deriving DecidableEq, Repr

/-- The joined `UnorderedIR`: the two renamings and the names of its columns. -/
structure UnorderedJoin where
  lMapping : List (String × String)
  rMapping : List (String × String)
  columns : List String
deriving DecidableEq, Repr

/-- `join_by_column_ordered`, with the `generate_guid` counter before and after. A lookup that
finds no name is a `KeyError`, `none`. -/
def joinByColumnOrdered (names : NameSupply) (left right : OrderedIR) (counter : Nat) :
    Option OrderedJoin × Nat :=
  let lValue := drawNames names.standardIdentifiers left.columnIds 0
  let rValue := drawNames names.standardIdentifiers right.columnIds lValue.2
  let lHidden := drawNames (names.generateGuid "hidden_") left.hiddenColumnIds counter
  let rHidden := drawNames (names.generateGuid "hidden_") right.hiddenColumnIds lHidden.2
  let lMapping := lValue.1 ++ lHidden.1
  let rMapping := rValue.1 ++ rHidden.1
  let joined : Option OrderedJoin := do
    let lColumns ← left.columnIds.mapM (dictLookup lMapping)
    let rColumns ← right.columnIds.mapM (dictLookup rMapping)
    let lHiddenColumns ← left.hiddenColumnIds.mapM (dictLookup lHidden.1)
    let rHiddenColumns ← right.hiddenColumnIds.mapM (dictLookup rHidden.1)
    pure ⟨lMapping, rMapping, lColumns ++ rColumns, lHiddenColumns ++ rHiddenColumns⟩
  (joined, rHidden.2)

/-- `join_by_column_unordered`. -/
def joinByColumnUnordered (names : NameSupply) (left right : UnorderedIR) :
    Option UnorderedJoin :=
  let lMapping := drawNames names.standardIdentifiers left.columnIds 0
  let rMapping := drawNames names.standardIdentifiers right.columnIds lMapping.2
  do
    let lColumns ← left.columnIds.mapM (dictLookup lMapping.1)
    let rColumns ← right.columnIds.mapM (dictLookup rMapping.1)
    pure ⟨lMapping.1, rMapping.1, lColumns ++ rColumns⟩

end BigFrames
