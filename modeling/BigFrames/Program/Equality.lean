import BigFrames.Model.Nodes

/-!
# Node equality and hashing

`BigFrameNode.__eq__`, `__hash__` and `_cached_hash`. Every class is declared with `eq=False`, so
all of them inherit these three from `BigFrameNode`. `__eq__` returns `False` when `other` is not
an instance of `self`'s class, `True` when the two are the same object, `False` when the cached
hashes differ, and otherwise compares `_as_tuple()`, the tuple of the dataclass fields in
declaration order. That tuple holds the argument list of the node's constructor, so a
`CachedTableNode`'s tuple holds its `original_node`. Python's tuple comparison calls `==` on
the nodes the tuple holds, so the short-circuits apply again at every child.

Object identity cannot be seen in a value model, so `__eq__` takes it as a parameter, an
`Identity`. `tupleEq` takes as a parameter `wrap`, the comparison it applies to each node its
tuple holds. With `eqBy is`, which puts `__eq__`'s short-circuits around a node's own tuple
comparison, it is `__eq__`. With the identity `wrap`, it is the full field comparison with no
short-circuits.
-/

set_option autoImplicit false

namespace BigFrames

namespace BigFrameNode

/-- The name of a node's class. -/
def className : BigFrameNode → String
  | readLocalNode .. => "ReadLocalNode"
  | readTableNode .. => "ReadTableNode"
  | cachedTableNode .. => "CachedTableNode"
  | promoteOffsetsNode .. => "PromoteOffsetsNode"
  | filterNode .. => "FilterNode"
  | orderByNode .. => "OrderByNode"
  | reversedNode .. => "ReversedNode"
  | selectionNode .. => "SelectionNode"
  | projectionNode .. => "ProjectionNode"
  | rowCountNode .. => "RowCountNode"
  | aggregateNode .. => "AggregateNode"
  | windowOpNode .. => "WindowOpNode"
  | reprojectOpNode .. => "ReprojectOpNode"
  | randomSampleNode .. => "RandomSampleNode"
  | explodeNode .. => "ExplodeNode"
  | joinNode .. => "JoinNode"
  | concatNode .. => "ConcatNode"
  | fromRangeNode .. => "FromRangeNode"

/-- The node classes a node's class derives from, nearest first. -/
def baseClasses : BigFrameNode → List String
  | readLocalNode .. | readTableNode .. => ["LeafNode", "BigFrameNode"]
  | cachedTableNode .. => ["ReadTableNode", "LeafNode", "BigFrameNode"]
  | joinNode .. | concatNode .. | fromRangeNode .. => ["BigFrameNode"]
  | _ => ["UnaryNode", "BigFrameNode"]

/-- `isinstance(n, cls)`, for a node class `cls` given by name. -/
def isInstance (n : BigFrameNode) (cls : String) : Bool :=
  (className n :: baseClasses n).elem cls

/-- `hash` of a tuple, from the hashes of its elements in order. -/
def tupleHash (hashes : List UInt64) : UInt64 :=
  hashes.foldl mixHash 7

/-- `_cached_hash`: `hash(self._as_tuple())`. A node in the tuple is hashed by its own
`_cached_hash`; `ConcatNode.children` is a tuple of nodes. -/
def cachedHash : BigFrameNode → UInt64
  | readLocalNode featherBytes dataSchema nRows scanList session =>
      tupleHash [hash featherBytes, hash dataSchema, hash nRows, hash scanList, hash session]
  | readTableNode source scanList tableSession =>
      tupleHash [hash source, hash scanList, hash tableSession]
  | cachedTableNode source scanList tableSession originalNode =>
      tupleHash [hash source, hash scanList, hash tableSession, cachedHash originalNode]
  | promoteOffsetsNode c colId => tupleHash [cachedHash c, hash colId]
  | filterNode c predicate => tupleHash [cachedHash c, hash predicate]
  | orderByNode c by_ => tupleHash [cachedHash c, hash by_]
  | reversedNode c reversed => tupleHash [cachedHash c, hash reversed]
  | selectionNode c inputOutputPairs => tupleHash [cachedHash c, hash inputOutputPairs]
  | projectionNode c assignments => tupleHash [cachedHash c, hash assignments]
  | rowCountNode c => tupleHash [cachedHash c]
  | aggregateNode c aggregations byColumnIds dropna =>
      tupleHash [cachedHash c, hash aggregations, hash byColumnIds, hash dropna]
  | windowOpNode c columnName op windowSpec outputName neverSkipNulls skipReprojectUnsafe =>
      tupleHash [cachedHash c, hash columnName, hash op, hash windowSpec, hash outputName,
        hash neverSkipNulls, hash skipReprojectUnsafe]
  | reprojectOpNode c => tupleHash [cachedHash c]
  | randomSampleNode c fraction => tupleHash [cachedHash c, hash (fraction.num, fraction.den)]
  | explodeNode c columnIds => tupleHash [cachedHash c, hash columnIds]
  | joinNode l r conditions type =>
      tupleHash [cachedHash l, cachedHash r, hash conditions, hash type]
  | concatNode children => tupleHash [tupleHash (cachedHashes children)]
  | fromRangeNode start end_ step => tupleHash [cachedHash start, cachedHash end_, hash step]
where
  /-- The hashes of a tuple of nodes, in order. -/
  cachedHashes : List BigFrameNode → List UInt64
    | [] => []
    | c :: cs => cachedHash c :: cachedHashes cs

/-- `self is other`, which a value model cannot observe: any test that holds of two nodes only
when they are one object, which then has one set of fields. -/
structure Identity where
  isSame : BigFrameNode → BigFrameNode → Bool
  eq_of_isSame : ∀ {a b : BigFrameNode}, isSame a b = true → a = b

/-- `__eq__` of `self` and `other`, given `tupleEq`, the value of
`self._as_tuple() == other._as_tuple()`, which it reads only when the short-circuits let
the comparison reach it. -/
def eqBy (is : Identity) (self other : BigFrameNode) (tupleEq : Bool) : Bool :=
  if !isInstance other (className self) then false
  else if is.isSame self other then true
  else if cachedHash self != cachedHash other then false
  else tupleEq

/-- `self._as_tuple() == other._as_tuple()`. Tuples of different classes differ in length or in
a field's type, and so compare unequal. The fields that are not nodes are compared with their
own `==`. A node `c` of the tuple is compared with its counterpart `c'` by
`wrap c c' (tupleEq wrap c c')`. `ConcatNode.children` is compared as a tuple: same length, then
elementwise. -/
def tupleEq (wrap : BigFrameNode → BigFrameNode → Bool → Bool) :
    BigFrameNode → BigFrameNode → Bool
  | readLocalNode f d n s ss, other => match other with
    | readLocalNode f' d' n' s' ss' => f == f' && d == d' && n == n' && s == s' && ss == ss'
    | _ => false
  | readTableNode src s ts, other => match other with
    | readTableNode src' s' ts' => src == src' && s == s' && ts == ts'
    | _ => false
  | cachedTableNode src s ts o, other => match other with
    | cachedTableNode src' s' ts' o' =>
        src == src' && s == s' && ts == ts' && wrap o o' (tupleEq wrap o o')
    | _ => false
  | promoteOffsetsNode c i, other => match other with
    | promoteOffsetsNode c' i' => wrap c c' (tupleEq wrap c c') && i == i'
    | _ => false
  | filterNode c p, other => match other with
    | filterNode c' p' => wrap c c' (tupleEq wrap c c') && p == p'
    | _ => false
  | orderByNode c b, other => match other with
    | orderByNode c' b' => wrap c c' (tupleEq wrap c c') && b == b'
    | _ => false
  | reversedNode c r, other => match other with
    | reversedNode c' r' => wrap c c' (tupleEq wrap c c') && r == r'
    | _ => false
  | selectionNode c p, other => match other with
    | selectionNode c' p' => wrap c c' (tupleEq wrap c c') && p == p'
    | _ => false
  | projectionNode c a, other => match other with
    | projectionNode c' a' => wrap c c' (tupleEq wrap c c') && a == a'
    | _ => false
  | rowCountNode c, other => match other with
    | rowCountNode c' => wrap c c' (tupleEq wrap c c')
    | _ => false
  | aggregateNode c a b d, other => match other with
    | aggregateNode c' a' b' d' => wrap c c' (tupleEq wrap c c') && a == a' && b == b' && d == d'
    | _ => false
  | windowOpNode c n o s out k r, other => match other with
    | windowOpNode c' n' o' s' out' k' r' =>
        wrap c c' (tupleEq wrap c c') && n == n' && o == o' && s == s' && out == out' &&
          k == k' && r == r'
    | _ => false
  | reprojectOpNode c, other => match other with
    | reprojectOpNode c' => wrap c c' (tupleEq wrap c c')
    | _ => false
  | randomSampleNode c f, other => match other with
    | randomSampleNode c' f' => wrap c c' (tupleEq wrap c c') && f == f'
    | _ => false
  | explodeNode c i, other => match other with
    | explodeNode c' i' => wrap c c' (tupleEq wrap c c') && i == i'
    | _ => false
  | joinNode l r cs t, other => match other with
    | joinNode l' r' cs' t' =>
        wrap l l' (tupleEq wrap l l') && wrap r r' (tupleEq wrap r r') && cs == cs' && t == t'
    | _ => false
  | concatNode cs, other => match other with
    | concatNode cs' => tupleEqList wrap cs cs'
    | _ => false
  | fromRangeNode s e st, other => match other with
    | fromRangeNode s' e' st' =>
        wrap s s' (tupleEq wrap s s') && wrap e e' (tupleEq wrap e e') && st == st'
    | _ => false
where
  /-- Two tuples of nodes compared: the same length, and each pair equal. -/
  tupleEqList (wrap : BigFrameNode → BigFrameNode → Bool → Bool) :
      List BigFrameNode → List BigFrameNode → Bool
    | [], [] => true
    | c :: cs, c' :: cs' => wrap c c' (tupleEq wrap c c') && tupleEqList wrap cs cs'
    | _, _ => false

/-- `a == b`: `BigFrameNode.__eq__`, whose tuple comparison compares the nodes it holds with
`__eq__` again. -/
def eq (is : Identity) (a b : BigFrameNode) : Bool :=
  eqBy is a b (tupleEq (eqBy is) a b)

/-- The comparison of the declared fields all the way down, with no short-circuit. -/
def fieldsEqual : BigFrameNode → BigFrameNode → Bool :=
  tupleEq fun _ _ t => t

end BigFrameNode

end BigFrames
