import Mathlib.Data.List.Basic

/-!
# The default ordering

`bigframes/core/compile/default_ordering.py`. A table with no known ordering is ordered by a
hash of each row's content, computed twice with different inputs, and then by a random value.
A row's content is `full_row_str`. For each column, `_convert_to_nonnull_string` turns the
value into text, replaces a null with the empty text, doubles every backslash, and puts one
backslash in front. `full_row_str` concatenates these texts in column order.

The engine's text conversions (a cast to `STRING`, `ST_ASTEXT`, `TO_JSON_STRING`) are functions
of the non-null value, collected in `TextForms`, and a null stays null through each. The hash
function is a parameter. The order columns' names come from `generate_guid`, do not depend on
the row, and are left out.
-/

set_option autoImplicit false

namespace BigFrames

/-- The column types `_convert_to_nonnull_string` tells apart. -/
inductive ColumnType
  | numeric | boolean | binary | temporal | geospatial | string | json | struct | array
deriving DecidableEq, Repr

namespace ColumnType

/-- Numeric, boolean, binary and temporal columns are cast to `STRING`. -/
def castsToString : ColumnType → Bool
  | numeric | boolean | binary | temporal => true
  | _ => false

end ColumnType

/-- The engine's text forms of a non-null value `v : V`. -/
structure TextForms (V : Type) where
  /-- `column.cast(String)`. -/
  castToString : V → String
  /-- `GeoSpatialColumn.as_text()`. -/
  asText : V → String
  /-- The value of a string column, which is already text. -/
  asString : V → String
  /-- `ToJsonString`, for JSON, struct and array columns. -/
  toJsonString : V → String

section

variable {V : Type} (forms : TextForms V)

/-- `result` in `_convert_to_nonnull_string`: the column's value as text, null if it is null. -/
def textOf (colType : ColumnType) (value : Option V) : Option String :=
  if colType.castsToString then value.map forms.castToString
  else if colType = .geospatial then value.map forms.asText
  else if colType = .string then value.map forms.asString
  else value.map forms.toJsonString

/-- `.replace("\\", "\\\\")`: every backslash doubled. -/
def escapeBackslashes (text : String) : String :=
  ⟨text.data.flatMap fun c => if c = '\\' then ['\\', '\\'] else [c]⟩

/-- `literal("\\").concat(escaped)`: a backslash, then the escaped text. -/
def delimitText (text : String) : String :=
  "\\" ++ escapeBackslashes text

/-- `_convert_to_nonnull_string`: a null becomes the empty text (`fill_null("")`), and then the
text is escaped and delimited. -/
def convertToNonnullString (colType : ColumnType) (value : Option V) : String :=
  delimitText ((textOf forms colType value).getD "")

/-- `full_row_str`: the first text concatenated with the rest, or the first alone. A table
with no column has no first text, and `str_values[0]` raises `IndexError`. -/
def fullRowStr : List String → Option String
  | [] => none
  | first :: rest => some (if rest.length + 1 > 1 then first ++ String.join rest else first)

/-- The value of one of the order columns `gen_default_ordering` builds, at one row. -/
inductive OrderValue
  /-- The hash of a text computed from the row. -/
  | rowHash (value : Int)
  /-- `ibis.random()`, drawn for each row. -/
  | randomValue
deriving DecidableEq, Repr

/-- `gen_default_ordering` at one row, given by the type and value of each column in order:
`[full_row_hash, full_row_hash_p2, random_value]`, or without the second hash when
`use_double_hash` is false. -/
def genDefaultOrdering (hash : String → Int) (useDoubleHash : Bool)
    (row : List (ColumnType × Option V)) : Option (List OrderValue) :=
  let strValues := row.map fun col => convertToNonnullString forms col.1 col.2
  (fullRowStr strValues).map fun fullRowStr =>
    let fullRowHash := OrderValue.rowHash (hash fullRowStr)
    let fullRowHashP2 := OrderValue.rowHash (hash (fullRowStr ++ "_"))
    if useDoubleHash then [fullRowHash, fullRowHashP2, .randomValue]
    else [fullRowHash, .randomValue]

end

end BigFrames
