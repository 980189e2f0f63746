import BigFrames.Model.Nodes

/-!
# Schemas and construction checks

`fields` is each class's `fields` property, `none` where the Python raises (a `KeyError` from
`get_type`, an `IndexError` from `children[0]` or `start.fields[0]`, a `TypeError` from an
expression's `output_type`). `postInit` is each class's `__post_init__`, with the error it
raises; a node is built by a successful constructor call exactly when it passes.

Two predicates over whole trees are defined here for the analyses: `BuiltOk` (every node passed
its constructor and has a schema) and `WellFormed` (every node has a schema with pairwise distinct
ids, and every column a node reads is an id of the child it reads it from).
-/

set_option autoImplicit false

namespace BigFrames

/-- `_dtype_lookup[id]`, the dict `{field.id: field.dtype for field in fields}`: a later field
with the same id wins, and a missing id is `none` (a `KeyError`). -/
def dtypeLookup (fs : List Field) (id : ColumnId) : Option Dtype :=
  (fs.reverse.find? fun f => f.id = id).map (·.dtype)

/-- `fields` restricted to the ids in `U`, in their order. -/
def restrict (U : ColumnSet) (fs : List Field) : List Field :=
  fs.filter fun f => f.id ∈ U

/-- INTERNAL: keeping every field with the looked-up id keeps the lookup.
PYLINE: nodes.py:235-240 -/
theorem dtypeLookup_filter (p : Field → Prop) [DecidablePred p] (fs : List Field) (id : ColumnId)
    (hp : ∀ f : Field, f.id = id → p f) : dtypeLookup (fs.filter p) id = dtypeLookup fs id := by
  unfold dtypeLookup
  rw [← List.filter_reverse, List.find?_filter]
  congr 2
  funext f
  by_cases h : f.id = id <;> simp [h, hp f]

/-- INTERNAL: a lookup of an id in `U` sees only the fields `restrict U` keeps. -/
theorem dtypeLookup_restrict {U : ColumnSet} {id : ColumnId} (fs : List Field) (h : id ∈ U) :
    dtypeLookup (restrict U fs) id = dtypeLookup fs id :=
  dtypeLookup_filter _ fs id fun f hf => by simpa [hf] using h

/-- INTERNAL: when every field `g` builds carries the id `key a`, the successful `mapM` over the
elements whose key is in `U` builds exactly the fields in `U`. -/
theorem mapM_filter_key {α : Type} {g : α → Option Field} {key : α → ColumnId} (U : ColumnSet)
    (hkey : ∀ a f, g a = some f → f.id = key a) {l : List α} {r : List Field}
    (h : l.mapM g = some r) : (l.filter fun a => key a ∈ U).mapM g = some (restrict U r) := by
  induction l generalizing r with
  | nil =>
      simp only [List.mapM_nil, Option.pure_def, Option.some.injEq] at h
      subst h; rfl
  | cons a l ih =>
      simp only [List.mapM_cons, Option.bind_eq_bind, Option.bind_eq_some, Option.pure_def,
        Option.some.injEq] at h
      obtain ⟨f, hf, rs, hrs, rfl⟩ := h
      have hid := hkey a f hf
      by_cases hU : key a ∈ U
      · rw [List.filter_cons_of_pos (by simpa using hU), List.mapM_cons, hf, ih hrs]
        simp [restrict, hid, hU]
      · rw [List.filter_cons_of_neg (by simpa using hU), ih hrs]
        simp [restrict, hid, hU]

/-- INTERNAL: when every field `g` builds carries the id `key a`, a successful `mapM` builds
the fields with the keys' ids. -/
theorem map_id_of_mapM_key {α : Type} {g : α → Option Field} {key : α → ColumnId}
    (hkey : ∀ a f, g a = some f → f.id = key a) {l : List α} {r : List Field}
    (h : l.mapM g = some r) : r.map (·.id) = l.map key := by
  induction l generalizing r with
  | nil =>
      simp only [List.mapM_nil, Option.pure_def, Option.some.injEq] at h
      subst h; rfl
  | cons a l ih =>
      simp only [List.mapM_cons, Option.bind_eq_bind, Option.bind_eq_some, Option.pure_def,
        Option.some.injEq] at h
      obtain ⟨f, hf, rs, hrs, rfl⟩ := h
      simp [ih hrs, hkey a f hf]

/-- INTERNAL: a field built from a looked-up type carries the id it was built with. -/
theorem Field.id_of_map_mk {o : Option Dtype} {k : ColumnId} {f : Field}
    (h : o.map (fun t => ⟨k, t⟩) = some f) : f.id = k := by
  obtain ⟨t, -, rfl⟩ := Option.map_eq_some'.mp h
  rfl

variable (T : ExprTyping)

/-- One field of `ExplodeNode.fields`: an exploded column takes the value type of its list
dtype, looked up in the child's schema `fs`; any other field is kept. -/
def explodeField (columnIds : List ColumnId) (fs : List Field) (f : Field) : Option Field :=
  if f.id ∈ columnIds then ((dtypeLookup fs f.id).bind T.valueType).map fun t => ⟨f.id, t⟩
  else some f

/-- INTERNAL: exploding a field keeps its id. -/
theorem explodeField_id {columnIds : List ColumnId} {fs : List Field} {f f' : Field}
    (h : explodeField T columnIds fs f = some f') : f'.id = f.id := by
  unfold explodeField at h
  split at h
  · exact Field.id_of_map_mk h
  · cases h; rfl

namespace BigFrameNode

/-- `fields`: the node's output schema, `none` where computing it raises. -/
def fields : BigFrameNode → Option (List Field)
  | readLocalNode _ _ _ scanList _ | readTableNode _ scanList _ | cachedTableNode _ scanList _ _ =>
      some (scanList.items.map fun i => ⟨i.id, i.dtype⟩)
  | promoteOffsetsNode c colId => (fields c).map (· ++ [⟨colId, intDtype⟩])
  | filterNode c _ | orderByNode c _ | reversedNode c _ | reprojectOpNode c
  | randomSampleNode c _ => fields c
  | selectionNode c inputOutputPairs => do
      let fs ← fields c
      inputOutputPairs.mapM fun p => (dtypeLookup fs p.1).map fun t => ⟨p.2, t⟩
  | projectionNode c assignments => do
      let fs ← fields c
      let newFields ← assignments.mapM fun a =>
        (T.outputType a.1 (dtypeLookup fs)).map fun t => ⟨a.2, t⟩
      pure (fs ++ newFields)
  | rowCountNode _ => some [⟨⟨"count"⟩, intDtype⟩]
  | aggregateNode c aggregations byColumnIds _ => do
      let fs ← fields c
      let byItems ← byColumnIds.mapM fun r => (dtypeLookup fs r).map fun t => ⟨r, t⟩
      let aggItems ← aggregations.mapM fun a =>
        (T.aggOutputType a.1 (dtypeLookup fs)).map fun t => ⟨a.2, t⟩
      pure (byItems ++ aggItems)
  | windowOpNode c columnName op _ outputName _ _ => do
      let fs ← fields c
      let inputType ← dtypeLookup fs columnName
      let newItemDtype ← T.windowOutputType op inputType
      pure (fs ++ [⟨outputName, newItemDtype⟩])
  | explodeNode c columnIds => do
      let fs ← fields c
      fs.mapM (explodeField T columnIds fs)
  | joinNode l r _ _ => do
      let a ← fields l
      let b ← fields r
      pure (a ++ b)
  | concatNode [] => none
  | concatNode (c :: _) =>
      (fields c).map fun fs => fs.enum.map fun p => ⟨⟨s!"column_{p.1}"⟩, p.2.dtype⟩
  | fromRangeNode start _ _ => do
      let fs ← fields start
      let f ← fs.head?
      pure [⟨⟨"labels"⟩, f.dtype⟩]

/-- `ids`, empty where the node has no schema. -/
def ids (n : BigFrameNode) : List ColumnId := ((fields T n).getD []).map (·.id)

/-- INTERNAL: the ids of a node with a schema are its fields' ids. -/
theorem ids_of_fields {n : BigFrameNode} {fs : List Field} (h : fields T n = some fs) :
    ids T n = fs.map (·.id) := by
  simp [ids, h]

/-- `schema`: the fields as labelled items, `SchemaItem(i.id.name, i.dtype)`. -/
def schema (n : BigFrameNode) : Option ArraySchema :=
  (fields T n).map fun fs => ⟨fs.map fun f => ⟨f.id.name, f.dtype⟩⟩

/-- `get_type`: the dtype `_dtype_lookup` gives the id, `none` where the lookup raises a
`KeyError` or the fields raise. -/
def getType (n : BigFrameNode) (id : ColumnId) : Option Dtype :=
  (fields T n).bind fun fs => dtypeLookup fs id

/-! ## Construction -/

/-- Why a constructor call raises. -/
inductive ConstructionError
  /-- `AssertionError("Join ids collide")`. -/
  | joinIdsCollide
  /-- `ValueError("Concat requires at least one input table. Zero provided.")`. -/
  | concatRequiresInput
  /-- `ValueError("All inputs must have identical dtypes. {child_schemas}")`: the source's
  message has no `f` prefix, so it is raised with the braces as written. -/
  | concatDtypesDiffer
  /-- `ValueError(f"Requested schema {scan_list} cannot be derived from table schemal
  {physical_schema}")`, with the two values it formats. -/
  | requestedSchemaUnderivable (scanList : ScanList) (physicalSchema : List SchemaField)
  /-- The `TypeError` an assignment's `output_type` raises. -/
  | assignmentTypeError (expression : Expression)
  /-- The bare `assert` of `ProjectionNode`'s append-only rule. -/
  | assignsExistingName
  /-- A child's schema raises while the check reads it. -/
  | childFieldsError
deriving DecidableEq, Repr

/-- `ConstructionError`'s message text, where the source gives one. -/
def ConstructionError.message : ConstructionError → String
  | .joinIdsCollide => "Join ids collide"
  | .concatRequiresInput => "Concat requires at least one input table. Zero provided."
  | .concatDtypesDiffer => "All inputs must have identical dtypes. \x7bchild_schemas\x7d"
  | _ => ""

/-- `__post_init__`. `nameEq` is Python's `==` between an assigned `ColumnId` and a schema
name (a `str`), which decides `name not in self.child.schema.names`. -/
def postInit (nameEq : ColumnId → String → Bool) :
    BigFrameNode → Except ConstructionError Unit
  | joinNode l r _ _ =>
      match fields T l, fields T r with
      | some a, some b =>
          if a.any fun f => b.any fun g => f.id = g.id then .error .joinIdsCollide else .ok ()
      | _, _ => .error .childFieldsError
  | concatNode [] => .error .concatRequiresInput
  | concatNode (c :: cs) =>
      match (c :: cs).mapM fun x => (schema T x).map ArraySchema.dtypes with
      | some (d :: ds) => if ds.all (· = d) then .ok () else .error .concatDtypesDiffer
      | _ => .error .childFieldsError
  | readTableNode source scanList _ | cachedTableNode source scanList _ _ =>
      if scanList.items.all fun s => s.sourceId ∈ source.table.physicalSchema.map (·.name) then
        .ok ()
      else .error (.requestedSchemaUnderivable scanList source.table.physicalSchema)
  | projectionNode c assignments =>
      match fields T c with
      | none => .error .childFieldsError
      | some fs =>
          match assignments.find? fun a => (T.outputType a.1 (dtypeLookup fs)).isNone with
          | some a => .error (.assignmentTypeError a.1)
          | none =>
              if assignments.all fun a => !(fs.map (·.id.name)).any (nameEq a.2) then .ok ()
              else .error .assignsExistingName
  | _ => .ok ()

/-- `JoinNode.__post_init__` passes exactly when both children have schemas with no id in
common. -/
theorem postInit_joinNode {nameEq : ColumnId → String → Bool} {l r : BigFrameNode}
    {conditions : List (ColumnId × ColumnId)} {type : JoinType} :
    postInit T nameEq (joinNode l r conditions type) = .ok () ↔
      ∃ a b, fields T l = some a ∧ fields T r = some b ∧ ∀ f ∈ a, ∀ g ∈ b, f.id ≠ g.id := by
  unfold postInit
  cases hl : fields T l <;> cases hr : fields T r <;> simp [hl, hr, List.any_eq_true]

/-- `ReadTableNode.__post_init__` passes exactly when every scanned column is a physical one. -/
theorem postInit_readTableNode {nameEq : ColumnId → String → Bool} {source : BigqueryDataSource}
    {scanList : ScanList} {tableSession : Session} :
    postInit T nameEq (readTableNode source scanList tableSession) = .ok () ↔
      ∀ s ∈ scanList.items, s.sourceId ∈ source.table.physicalSchema.map (·.name) := by
  simp [postInit, List.all_eq_true]

/-- `CachedTableNode` runs the inherited `ReadTableNode.__post_init__`. -/
theorem postInit_cachedTableNode {nameEq : ColumnId → String → Bool}
    {source : BigqueryDataSource} {scanList : ScanList} {tableSession : Session}
    {originalNode : BigFrameNode} :
    postInit T nameEq (cachedTableNode source scanList tableSession originalNode) = .ok () ↔
      ∀ s ∈ scanList.items, s.sourceId ∈ source.table.physicalSchema.map (·.name) := by
  simp [postInit, List.all_eq_true]

/-- `ProjectionNode.__post_init__` passes exactly when the child has a schema, every assignment
has a type over it, and no assigned id compares equal to a child's column name. -/
theorem postInit_projectionNode {nameEq : ColumnId → String → Bool} {c : BigFrameNode}
    {assignments : List (Expression × ColumnId)} :
    postInit T nameEq (projectionNode c assignments) = .ok () ↔
      ∃ fs, fields T c = some fs ∧
        (∀ a ∈ assignments, (T.outputType a.1 (dtypeLookup fs)).isSome) ∧
        ∀ a ∈ assignments, ∀ f ∈ fs, nameEq a.2 f.id.name = false := by
  unfold postInit
  cases hc : fields T c with
  | none => simp [hc]
  | some fs =>
      simp only [hc, Option.some.injEq, exists_eq_left']
      cases hf : assignments.find? fun a => (T.outputType a.1 (dtypeLookup fs)).isNone with
      | some a =>
          have ha := List.find?_some hf
          simp only [Option.isNone_iff_eq_none] at ha
          simp only [hf, reduceCtorEq, false_iff, not_and]
          exact fun hall => absurd (hall a (List.mem_of_find?_eq_some hf)) (by simp [ha])
      | none =>
          have hall := List.find?_eq_none.mp hf
          simp only [Option.isNone_iff_eq_none] at hall
          have hsome : ∀ a ∈ assignments, (T.outputType a.1 (dtypeLookup fs)).isSome :=
            fun a ha => Option.isSome_iff_ne_none.mpr (hall a ha)
          have hnames : (assignments.all fun a => !(fs.map (·.id.name)).any (nameEq a.2)) = true ↔
              ∀ a ∈ assignments, ∀ f ∈ fs, nameEq a.2 f.id.name = false := by
            simp [List.all_eq_true, List.any_eq_true]
          simp only [hf]
          by_cases hb : (assignments.all fun a => !(fs.map (·.id.name)).any (nameEq a.2)) = true
          · simp only [hb, ↓reduceIte, true_iff]
            exact ⟨hsome, hnames.mp hb⟩
          · simp only [hb, ↓reduceIte, reduceCtorEq, false_iff, not_and]
            exact fun _ h => hb (hnames.mpr h)

/-- `n` was built by a successful constructor call and its schema can be computed. -/
def NodeBuiltOk (nameEq : ColumnId → String → Bool) (n : BigFrameNode) : Prop :=
  postInit T nameEq n = .ok () ∧ (fields T n).isSome

/-- Whether a node was built by a successful constructor call is computed from the two checks. -/
instance (nameEq : ColumnId → String → Bool) (n : BigFrameNode) :
    Decidable (NodeBuiltOk T nameEq n) :=
  match h : postInit T nameEq n with
  | .ok () => decidable_of_iff ((fields T n).isSome) ⟨fun hs => ⟨h, hs⟩, fun hb => hb.2⟩
  | .error _ => isFalse fun hb => nomatch h.symm.trans hb.1

/-- Every node of the tree was built by a successful constructor call and has a schema. -/
def BuiltOk (nameEq : ColumnId → String → Bool) : BigFrameNode → Prop :=
  Every (NodeBuiltOk T nameEq)

/-! ## Well-formed trees -/

/-- The columns a node reads, each with the child it reads them from: predicates, sort keys,
selection inputs, assignment and aggregation inputs, group-by keys, a window's input column and
the columns its specification partitions and orders by, exploded columns, and join keys. -/
def reads : BigFrameNode → List (List ColumnId × BigFrameNode)
  | filterNode c predicate => [(predicate.columnReferences, c)]
  | orderByNode c by_ => [(by_.flatMap (·.referencedColumns), c)]
  | selectionNode c inputOutputPairs => [(inputOutputPairs.map (·.1), c)]
  | projectionNode c assignments => [(assignments.flatMap (·.1.columnReferences), c)]
  | aggregateNode c aggregations byColumnIds _ =>
      [(byColumnIds ++ aggregations.flatMap (·.1.columnReferences), c)]
  | windowOpNode c columnName _ windowSpec _ _ _ =>
      [(columnName :: windowSpec.allReferencedColumns, c)]
  | explodeNode c columnIds => [(columnIds, c)]
  | joinNode l r conditions _ => [(conditions.map (·.1), l), (conditions.map (·.2), r)]
  | _ => []

/-- Every column the node reads is an id of the child it reads it from. -/
def ReadsScoped (n : BigFrameNode) : Prop :=
  ∀ p ∈ reads n, ∀ c ∈ p.1, c ∈ ids T p.2

/-- The node has a schema whose ids are pairwise distinct, and it reads only its children's
ids. -/
def NodeWellFormed (n : BigFrameNode) : Prop :=
  (∃ fs, fields T n = some fs ∧ (fs.map (·.id)).Nodup) ∧ ReadsScoped T n

/-- Whether a node reads only its children's ids is computed over the columns it reads. -/
instance (n : BigFrameNode) : Decidable (ReadsScoped T n) :=
  inferInstanceAs (Decidable (∀ p ∈ reads n, ∀ c ∈ p.1, c ∈ ids T p.2))

/-- Whether a node is well formed is computed from its schema. -/
instance (n : BigFrameNode) : Decidable (NodeWellFormed T n) :=
  match h : fields T n with
  | some fs =>
      if hnd : (fs.map (·.id)).Nodup then
        decidable_of_iff (ReadsScoped T n) ⟨fun hr => ⟨⟨fs, h, hnd⟩, hr⟩, fun hw => hw.2⟩
      else isFalse fun ⟨⟨_, hg, hgn⟩, _⟩ => hnd (Option.some.inj (h.symm.trans hg) ▸ hgn)
  | none => isFalse fun ⟨⟨_, hg, _⟩, _⟩ => nomatch h.symm.trans hg

/-- A well-formed tree: every node is. -/
def WellFormed : BigFrameNode → Prop := Every (NodeWellFormed T)

end BigFrameNode

end BigFrames
