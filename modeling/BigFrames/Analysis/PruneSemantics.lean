import BigFrames.Interface.Semantics
import BigFrames.Analysis.PruneScope
import BigFrames.Analysis.PruneStages

/-!
# Pruning and what a tree computes

Pruning should leave unchanged what a tree computes in the columns asked for. It does, on every
well-formed tree whose window specifications read at most the window's input column and which
samples no rows, wherever pruning leaves every node a column (`eval_prune_agree`): the tree and
its pruned version both evaluate, the pruned table keeps every requested column of the tree, and
the two tables hold the same values in those columns, row for row. The proof is one induction
over the tree, with the induction hypothesis taken at the set each override of `prune` passes to
its child; the relational plumbing's part is the locality lemmas of `Interface.Semantics`.

The last hypothesis is not one pruning can be relied on to meet. A query selects at least one
column, so a node that pruning leaves with none has no value; where every node keeps one, a
well-formed tree evaluates (`eval_isSome`).
`JoinNode.prune` means to keep a column on each side of a cross join (nodes.py:330-335), but it
adds only the ids of the join conditions, and a cross join has none: pruned to no column, the
join of two reads is left with two reads that select nothing, and the pruned tree does not
evaluate.

`WindowOpNode` breaks the law without the hypothesis on its specification, through the same
defect as well-scopedness: its pruned child keeps the window's input column but not the columns
its specification partitions and orders by. The window then reads a column its child no longer
has, and the pruned tree fails to evaluate under every semantics, where the tree itself
evaluates (`eval_prune_windowByPartition`).
-/

set_option autoImplicit false

namespace BigFrames

namespace BigFrameNode

section

variable {V : Type} [DecidableEq V] (sem : Semantics V) (T : ExprTyping)

/-! ## The columns of a table are its node's ids -/

/-- INTERNAL: the tables of a list of trees are their `mapM`. -/
theorem eval.evalAll_eq (cs : List BigFrameNode) : eval.evalAll sem cs = cs.mapM (eval sem) := by
  induction cs with
  | nil => rfl
  | cons c cs ih =>
      rw [eval.evalAll, ih, List.mapM_cons]
      cases eval sem c <;> cases cs.mapM (eval sem) <;> rfl

/-- What a tree evaluates to has the columns its schema names, in order: the engine's table and
`fields` agree on the output columns of every node.
PYLINE: nodes.py:256-257, 307-308, 364-369, 410-411, 473-474, 580-581, 647-648, 732-736,
777-783, 815-816, 844-857, 900-903, 963-974 -/
theorem eval_columns (n : BigFrameNode) :
    ∀ {t : Table V} {fs : List Field}, eval sem n = some t → fields T n = some fs →
      t.columns = fs.map (·.id) := by
  induction n using childInduction with
  | step n ih =>
  intro t fs ht hfs
  cases n with
  | readLocalNode _ _ _ scanList _ | readTableNode _ scanList _
  | cachedTableNode _ scanList _ _ =>
      simp only [eval, fields, Table.select_eq_some, Option.some.injEq] at ht hfs
      obtain ⟨-, rfl⟩ := ht
      subst hfs
      simp [Function.comp_def]
  | promoteOffsetsNode c colId =>
      simp only [eval, fields, Option.map_eq_some'] at ht hfs
      obtain ⟨tc, hc, rfl⟩ := ht
      obtain ⟨fc, hfc, rfl⟩ := hfs
      simp [ih c (by simp [childNodes]) hc hfc]
  | filterNode c p | orderByNode c p =>
      simp only [eval, fields, Option.bind_eq_some, Option.ite_none_right_eq_some,
        Option.some.injEq] at ht hfs
      obtain ⟨tc, hc, -, rfl⟩ := ht
      dsimp only
      exact ih c (by simp [childNodes]) hc hfs
  | reversedNode c _ | randomSampleNode c _ =>
      simp only [eval, fields, Option.map_eq_some'] at ht hfs
      obtain ⟨tc, hc, rfl⟩ := ht
      dsimp only
      exact ih c (by simp [childNodes]) hc hfs
  | reprojectOpNode c => exact ih c (by simp [childNodes]) ht hfs
  | selectionNode c pairs =>
      simp only [eval, fields, Option.bind_eq_some, Option.ite_none_right_eq_some,
        Table.select_eq_some, Option.bind_eq_bind] at ht hfs
      obtain ⟨tc, hc, -, -, rfl⟩ := ht
      obtain ⟨fc, hfc, hm⟩ := hfs
      exact (map_id_of_mapM_key (fun _ _ => Field.id_of_map_mk) hm).symm
  | projectionNode c as =>
      simp only [eval, fields, Option.bind_eq_some, Option.ite_none_right_eq_some,
        Option.some.injEq, Option.bind_eq_bind, Option.pure_def] at ht hfs
      obtain ⟨tc, hc, -, rfl⟩ := ht
      obtain ⟨fc, hfc, nf, hnf, rfl⟩ := hfs
      simp [ih c (by simp [childNodes]) hc hfc,
        map_id_of_mapM_key (fun _ _ => Field.id_of_map_mk) hnf]
  | rowCountNode c =>
      simp only [eval, fields, Option.map_eq_some', Option.some.injEq] at ht hfs
      obtain ⟨tc, hc, rfl⟩ := ht
      subst hfs
      rfl
  | aggregateNode c aggs by_ dropna =>
      simp only [eval, fields, Option.bind_eq_some, Option.ite_none_right_eq_some,
        Table.select_eq_some, Option.some.injEq, Option.bind_eq_bind, Option.pure_def] at ht hfs
      obtain ⟨tc, hc, -, -, rfl⟩ := ht
      obtain ⟨fc, hfc, bi, hbi, ai, hai, rfl⟩ := hfs
      simp [map_id_of_mapM_key (fun _ _ => Field.id_of_map_mk) hbi,
        map_id_of_mapM_key (fun _ _ => Field.id_of_map_mk) hai]
  | windowOpNode c col op spec out nsn sru =>
      simp only [eval, fields, Option.bind_eq_some, Option.ite_none_right_eq_some,
        Option.some.injEq, Option.bind_eq_bind, Option.pure_def] at ht hfs
      obtain ⟨tc, hc, -, rfl⟩ := ht
      obtain ⟨fc, hfc, _, _, _, _, rfl⟩ := hfs
      simp [ih c (by simp [childNodes]) hc hfc]
  | explodeNode c cols =>
      simp only [eval, fields, Option.bind_eq_some, Option.ite_none_right_eq_some,
        Option.some.injEq, Option.bind_eq_bind] at ht hfs
      obtain ⟨tc, hc, -, rfl⟩ := ht
      obtain ⟨fc, hfc, hm⟩ := hfs
      rw [map_id_of_mapM_key (fun _ _ => explodeField_id T) hm]
      dsimp only
      exact ih c (by simp [childNodes]) hc hfc
  | joinNode l r conds type =>
      simp only [eval, fields, Option.bind_eq_some, Option.ite_none_right_eq_some,
        Option.some.injEq, Option.bind_eq_bind, Option.pure_def] at ht hfs
      obtain ⟨tl, hl, tr, hr, -, rfl⟩ := ht
      obtain ⟨fl, hfl, fr, hfr, rfl⟩ := hfs
      simp [ih l (by simp [childNodes]) hl hfl, ih r (by simp [childNodes]) hr hfr]
  | concatNode cs =>
      cases cs with
      | nil => simp [fields] at hfs
      | cons c cs =>
          simp only [eval, eval.evalAll_eq, fields, Option.bind_eq_some,
            Option.map_eq_some'] at ht hfs
          obtain ⟨ts, hts, ht⟩ := ht
          obtain ⟨fc, hfc, rfl⟩ := hfs
          simp only [List.mapM_cons, Option.bind_eq_bind, Option.bind_eq_some, Option.pure_def,
            Option.some.injEq] at hts
          obtain ⟨tc, hc, ts', -, rfl⟩ := hts
          simp only [Option.some.injEq] at ht
          subst ht
          simp [ih c (by simp [childNodes]) hc hfc, List.enum_map]
  | fromRangeNode s e step =>
      simp only [eval, fields, Option.bind_eq_some, Option.map_eq_some', Option.bind_eq_bind,
        Option.pure_def, Option.some.injEq] at ht hfs
      obtain ⟨_, _, _, _, rfl⟩ := ht
      obtain ⟨_, _, _, _, rfl⟩ := hfs
      rfl

/-- INTERNAL: the table a well-formed tree evaluates to has the tree's ids as columns. -/
theorem columns_eq_ids {n : BigFrameNode} {t : Table V} (hwf : WellFormed T n)
    (h : eval sem n = some t) : t.columns = ids T n := by
  obtain ⟨⟨fs, hfs, -⟩, -⟩ := hwf.self
  exact (eval_columns sem T n h hfs).trans (ids_of_fields T hfs).symm

omit [DecidableEq V] in
/-- INTERNAL: a table with a child's ids as columns has every column a node that reads only its
children's ids reads from that child. -/
theorem has_of_reads {n c : BigFrameNode} {cols : List ColumnId} {t : Table V}
    (hsc : ReadsScoped T n) (hp : (cols, c) ∈ reads n) (ht : t.columns = ids T c) :
    t.has cols = true := by
  simpa [Table.has, ht] using hsc _ hp

/-! ## Queries that select a column -/

/-- INTERNAL: a selection with a column selects a pair. -/
theorem map_ne_nil_of_ids_selectionNode {c : BigFrameNode} {pairs : List (ColumnId × ColumnId)}
    (h : ids T (selectionNode c pairs) ≠ []) : pairs.map (·.2) ≠ [] := by
  intro hp
  obtain rfl := List.map_eq_nil_iff.mp hp
  cases hc : fields T c <;> simp [ids, fields, hc, List.mapM.loop] at h

/-- INTERNAL: an aggregation with a column has a key or an aggregation. -/
theorem append_ne_nil_of_ids_aggregateNode {c : BigFrameNode}
    {aggs : List (Aggregation × ColumnId)} {by_ : List ColumnId} {dropna : Bool}
    (h : ids T (aggregateNode c aggs by_ dropna) ≠ []) : by_ ++ aggs.map (·.2) ≠ [] := by
  intro hp
  obtain ⟨rfl, hp⟩ := List.append_eq_nil.mp hp
  obtain rfl := List.map_eq_nil_iff.mp hp
  cases hc : fields T c <;> simp [ids, fields, hc, List.mapM.loop] at h

/-- INTERNAL: a list of which pruning keeps an item has one. -/
theorem map_ne_nil_of_filter {α β : Type} (f : α → β) {l : List α} {p : α → Bool}
    (h : (l.filter p).map f ≠ []) : l.map f ≠ [] := fun hl =>
  h (by rw [List.map_eq_nil_iff.mp hl]; rfl)

/-- INTERNAL: so does a list after a prefix. -/
theorem append_map_ne_nil_of_filter {α β : Type} (pre : List β) (f : α → β) {l : List α}
    {p : α → Bool} (h : pre ++ (l.filter p).map f ≠ []) : pre ++ l.map f ≠ [] := fun hl => by
  obtain ⟨rfl, hl⟩ := List.append_eq_nil.mp hl
  exact map_ne_nil_of_filter f h hl

/-- A well-formed tree none of whose nodes is left without a column evaluates: every column a
node reads is one its child's table has, and every query selects a column. -/
theorem eval_isSome (n : BigFrameNode) :
    WellFormed T n → Every (fun m => ids T m ≠ []) n → (eval sem n).isSome := by
  induction n using childInduction with
  | step n ih =>
  intro hwf hne
  have child : ∀ c ∈ childNodes n, ∃ tc, eval sem c = some tc ∧ tc.columns = ids T c :=
    fun c hc =>
      have ⟨tc, h⟩ := Option.isSome_iff_exists.mp (ih c hc (hwf.child hc) (hne.child hc))
      ⟨tc, h, columns_eq_ids sem T (hwf.child hc) h⟩
  have hsc := hwf.self.2
  cases n with
  | readLocalNode _ _ _ s _ | readTableNode _ s _ | cachedTableNode _ s _ _ =>
      have hs : s.items.map (·.id) ≠ [] := by
        simpa [ids, fields, Function.comp_def] using hne.self
      simp only [eval, Table.select_of_ne_nil hs, Option.isSome_some]
  | promoteOffsetsNode c _ | reversedNode c _ | rowCountNode c | randomSampleNode c _ =>
      obtain ⟨tc, hc, -⟩ := child c (List.mem_singleton_self c)
      simp only [eval, hc, Option.map_some', Option.isSome_some]
  | reprojectOpNode c =>
      exact ih c (List.mem_singleton_self c) (hwf.child (List.mem_singleton_self c))
        (hne.child (List.mem_singleton_self c))
  | filterNode c _ | orderByNode c _ | projectionNode c _ | windowOpNode c _ _ _ _ _ _
  | explodeNode c _ =>
      obtain ⟨tc, hc, hcols⟩ := child c (List.mem_singleton_self c)
      simp only [eval, hc, Option.some_bind, has_of_reads T hsc (List.mem_singleton_self _) hcols,
        if_true, Option.isSome_some]
  | selectionNode c _ =>
      obtain ⟨tc, hc, hcols⟩ := child c (List.mem_singleton_self c)
      simp only [eval, hc, Option.some_bind, has_of_reads T hsc (List.mem_singleton_self _) hcols,
        if_true, Table.select_of_ne_nil (map_ne_nil_of_ids_selectionNode T hne.self),
        Option.isSome_some]
  | aggregateNode c _ _ _ =>
      obtain ⟨tc, hc, hcols⟩ := child c (List.mem_singleton_self c)
      simp only [eval, hc, Option.some_bind, has_of_reads T hsc (List.mem_singleton_self _) hcols,
        if_true, Table.select_of_ne_nil (append_ne_nil_of_ids_aggregateNode T hne.self),
        Option.isSome_some]
  | joinNode l r _ _ =>
      obtain ⟨tl, hl, hlc⟩ := child l (List.mem_cons_self _ _)
      obtain ⟨tr, hr, hrc⟩ := child r (List.mem_cons_of_mem _ (List.mem_singleton_self _))
      simp only [eval, hl, hr, Option.some_bind, has_of_reads T hsc (List.mem_cons_self _ _) hlc,
        has_of_reads T hsc (List.mem_cons_of_mem _ (List.mem_singleton_self _)) hrc,
        Bool.and_self, if_true, Option.isSome_some]
  | concatNode cs =>
      obtain ⟨⟨fs, hfs, -⟩, -⟩ := hwf.self
      cases cs with
      | nil => simp [fields] at hfs
      | cons c cs =>
          obtain ⟨tc, hc, -⟩ := child c (List.mem_cons_self _ _)
          obtain ⟨ts, hts⟩ := Option.isSome_iff_exists.mp
            ((mapM_isSome_iff (eval sem) cs).mpr fun d hd => by
              obtain ⟨td, hd, -⟩ := child d (List.mem_cons_of_mem _ hd)
              simp [hd])
          simp only [eval, eval.evalAll_eq, List.mapM_cons, hc, hts, Option.bind_eq_bind,
            Option.some_bind, Option.pure_def, Option.isSome_some]
  | fromRangeNode s e _ =>
      obtain ⟨ts, hs, -⟩ := child s (List.mem_cons_self _ _)
      obtain ⟨te, he, -⟩ := child e (List.mem_cons_of_mem _ (List.mem_singleton_self _))
      simp only [eval, hs, he, Option.some_bind, Option.map_some', Option.isSome_some]

/-! ## Pruning keeps the requested columns' values -/

/-- INTERNAL: among the items pruning keeps, those with the requested id `x` are all there.
PYLINE: nodes.py:750-757, 791-799, 875-883 -/
theorem find?_filter_mem {α : Type} (l : List α) (key : α → ColumnId) {U : ColumnSet}
    {x : ColumnId} (hx : x ∈ U) :
    (l.filter fun a => key a ∈ U).find? (fun a => key a = x) = l.find? (fun a => key a = x) :=
  find?_filter_of_imp l fun a ha => by simpa [of_decide_eq_true ha] using hx

/-- INTERNAL: the item a lookup of a requested id finds is one that pruning keeps. -/
theorem mem_filter_of_find? {α : Type} {l : List α} {key : α → ColumnId} {U : ColumnSet}
    {x : ColumnId} {a : α} (hx : x ∈ U) (h : l.find? (fun a => key a = x) = some a) :
    a ∈ l.filter fun a => key a ∈ U := by
  have hax : key a = x := by simpa using List.find?_some h
  exact List.mem_filter.mpr ⟨List.mem_of_find?_eq_some h, by simpa [hax] using hx⟩

/-- INTERNAL: a column of `cols ++ l.map key` that no item of `l` carries is in `cols`. -/
theorem mem_of_find?_eq_none {α : Type} {cols : List ColumnId} {l : List α}
    {key : α → ColumnId} {x : ColumnId} (hx : x ∈ (cols ++ l.map key).toFinset)
    (h : l.find? (fun a => key a = x) = none) : x ∈ cols := by
  rcases List.mem_append.mp (List.mem_toFinset.mp hx) with hx | hx
  · exact hx
  · obtain ⟨a, ha, rfl⟩ := List.mem_map.mp hx
    exact absurd (List.find?_eq_none.mp h a ha) (by simp)

/-- INTERNAL: `n` and `n` pruned to `U` both evaluate, and their rows agree on the requested
columns of `n`. -/
def PruneAgrees (n : BigFrameNode) (U : ColumnSet) : Prop :=
  ∃ t t', eval sem n = some t ∧ eval sem (prune n U) = some t' ∧
    Agree (U ∩ t.columns.toFinset) t.rows t'.rows

/-- INTERNAL: a child `c` and `c` pruned to `W`, evaluated: the two tables, with the columns
their schemas name, and rows that agree on the requested columns. -/
structure ChildEval (c : BigFrameNode) (W : ColumnSet) (tc tc' : Table V) : Prop where
  eval_eq : eval sem c = some tc
  eval_prune_eq : eval sem (prune c W) = some tc'
  columns_eq : tc.columns = ids T c
  columns_prune_eq : tc'.columns = ids T (prune c W)
  columns_prune_subset : ∀ x ∈ tc'.columns, x ∈ tc.columns
  agree : Agree (W ∩ tc.columns.toFinset) tc.rows tc'.rows

/-- INTERNAL: on a well-formed child, `PruneAgrees` gives its `ChildEval`. -/
theorem ChildEval.of {c : BigFrameNode} {W : ColumnSet} (h : PruneAgrees sem c W)
    (hwf : WellFormed T c) : ∃ tc tc', ChildEval sem T c W tc tc' := by
  obtain ⟨tc, tc', he, he', hagree⟩ := h
  obtain ⟨⟨fc, hfc, -⟩, -⟩ := hwf.self
  obtain ⟨fc', hfc', -⟩ := fields_prune T c W hfc
  have hcols := (eval_columns sem T c he hfc).trans (ids_of_fields T hfc).symm
  have hcols' := (eval_columns sem T _ he' hfc').trans (ids_of_fields T hfc').symm
  exact ⟨tc, tc', he, he', hcols, hcols',
    fun x hx => hcols ▸ ids_prune_subset T hfc W x (hcols' ▸ hx), hagree⟩

namespace ChildEval

variable {sem T} {c : BigFrameNode} {W : ColumnSet} {tc tc' : Table V}
  (h : ChildEval sem T c W tc tc')
include h

/-- INTERNAL: a requested id of the child is among the columns the rows agree on. -/
theorem mem_inter {x : ColumnId} (hW : x ∈ W) (hx : x ∈ ids T c) :
    x ∈ W ∩ tc.columns.toFinset :=
  Finset.mem_inter.mpr ⟨hW, List.mem_toFinset.mpr (h.columns_eq ▸ hx)⟩

/-- INTERNAL: the child's table has the columns the node reads from it. -/
theorem has {cols : List ColumnId} (hsc : ∀ x ∈ cols, x ∈ ids T c) : tc.has cols = true := by
  simpa [Table.has, h.columns_eq] using hsc

/-- INTERNAL: so has the pruned child's, for columns the node passes down. -/
theorem has_prune {cols : List ColumnId} (hsc : ∀ x ∈ cols, x ∈ ids T c)
    (hW : ∀ x ∈ cols, x ∈ W) : tc'.has cols = true := by
  simpa [Table.has, h.columns_prune_eq] using fun x hx => mem_ids_prune T (hW x hx) (hsc x hx)

/-- INTERNAL: the pruned child's table has a requested column exactly when the child's
has. -/
theorem mem_columns_prune_iff {x : ColumnId} (hW : x ∈ W) :
    x ∈ tc'.columns ↔ x ∈ tc.columns :=
  ⟨h.columns_prune_subset x, fun hx => h.columns_prune_eq ▸
    mem_ids_prune T hW (h.columns_eq ▸ hx)⟩

end ChildEval

/-- INTERNAL: the induction behind `eval_prune_agree`, one case per override of `prune`, each
taking the induction hypothesis at the set that override passes to its child.
PYLINE: nodes.py:243-244, 330-335, 381-383, 423-425, 497-507, 615-634, 658-663, 678-707,
750-799, 875-883, 914-920, 988-992 -/
theorem pruneAgrees (n : BigFrameNode) : WellFormed T n → Every SpecReadsInputOnly n →
    Every (fun m => deterministic m = true) n →
    ∀ U, Every (fun m => ids T m ≠ []) (prune n U) → PruneAgrees sem n U := by
  induction n using childInduction with
  | step n ih =>
  intro hwf hspec hdet U hne
  have child : ∀ c ∈ childNodes n, ∀ W, Every (fun m => ids T m ≠ []) (prune c W) →
      ∃ tc tc', ChildEval sem T c W tc tc' :=
    fun c hc W hW => ChildEval.of sem T
      (ih c hc (hwf.child hc) (hspec.child hc) (hdet.child hc) W hW) (hwf.child hc)
  have hsc := hwf.self.2
  cases n with
  | readLocalNode _ _ _ s _ | readTableNode _ s _ | cachedTableNode _ s _ _ =>
      have hs : (s.items.filter (·.id ∈ U)).map (·.id) ≠ [] := by
        simpa [prune, ids, fields, Function.comp_def] using hne.self
      exact ⟨_, _, Table.select_of_ne_nil (map_ne_nil_of_filter _ hs) _,
        Table.select_of_ne_nil hs _, Agree.map_same _ fun _ _ x hx =>
        (scanRow_filter _ (Finset.mem_inter.mp hx).1).symm⟩
  | promoteOffsetsNode c colId =>
      by_cases hcol : colId ∈ U
      · rw [prune, if_neg (not_not.mpr hcol)] at hne
        obtain ⟨tc, tc', hc⟩ := child c (List.mem_singleton_self c) _
          (hne.child (List.mem_singleton_self _))
        refine ⟨_, _, by simp only [eval, hc.eval_eq, Option.map_some']; rfl,
          by simp only [prune, hcol, not_true_eq_false, if_false, eval, hc.eval_prune_eq,
            Option.map_some']; rfl, (hc.agree.setColumn colId _ 0).mono fun x hx => ?_⟩
        simp only [Finset.mem_insert, Finset.mem_inter, Finset.mem_sdiff, Finset.mem_singleton,
          List.mem_toFinset, List.mem_append, List.mem_singleton] at hx ⊢
        tauto
      · rw [prune, if_pos hcol] at hne
        obtain ⟨tc, tc', hc⟩ := child c (List.mem_singleton_self c) U hne
        refine ⟨_, _, by simp only [eval, hc.eval_eq, Option.map_some']; rfl,
          by simp only [prune, hcol, not_false_eq_true, if_true, hc.eval_prune_eq]; rfl,
          Agree.setColumn_left (fun hx => hcol (Finset.mem_inter.mp hx).1) _ 0
            (hc.agree.mono fun x hx => ?_)⟩
        simp only [Finset.mem_inter, List.mem_toFinset, List.mem_append,
          List.mem_singleton] at hx ⊢
        rcases hx with ⟨hxU, hx | rfl⟩
        · exact ⟨hxU, hx⟩
        · exact absurd hxU hcol
  | filterNode c p =>
      obtain ⟨tc, tc', hc⟩ := child c (List.mem_singleton_self c) _
        (hne.child (List.mem_singleton_self _))
      have hr : ∀ x ∈ p.columnReferences, x ∈ ids T c := hsc _ (List.mem_singleton_self _)
      have hW : ∀ x ∈ p.columnReferences, x ∈ U ∪ p.columnReferences.toFinset :=
        fun x hx => Finset.mem_union_right _ (List.mem_toFinset.mpr hx)
      refine ⟨_, _, by simp only [eval, hc.eval_eq, Option.some_bind, hc.has hr, if_true]; rfl,
        by simp only [prune, eval, hc.eval_prune_eq, Option.some_bind, hc.has_prune hr hW,
          if_true]; rfl, (hc.agree.filter fun r r' hrr => ?_).mono
        (Finset.inter_subset_inter Finset.subset_union_left subset_rfl)⟩
      rw [sem.evalExpr_local p r r' fun x hx => hrr x (hc.mem_inter (hW x hx) (hr x hx))]
  | orderByNode c by_ =>
      obtain ⟨tc, tc', hc⟩ := child c (List.mem_singleton_self c) _
        (hne.child (List.mem_singleton_self _))
      have hr : ∀ x ∈ by_.flatMap (·.referencedColumns), x ∈ ids T c :=
        hsc _ (List.mem_singleton_self _)
      have hW : ∀ x ∈ by_.flatMap (·.referencedColumns),
          x ∈ U ∪ (by_.flatMap (·.referencedColumns)).toFinset :=
        fun x hx => Finset.mem_union_right _ (List.mem_toFinset.mpr hx)
      refine ⟨_, _, by simp only [eval, hc.eval_eq, Option.some_bind, hc.has hr, if_true]; rfl,
        by simp only [prune, eval, hc.eval_prune_eq, Option.some_bind, hc.has_prune hr hW,
          if_true]; rfl, ?_⟩
      exact (sem.sortRows_local by_ _ tc.rows tc'.rows
        (fun x hx => hc.mem_inter (hW x hx) (hr x hx)) hc.agree).mono
        (Finset.inter_subset_inter Finset.subset_union_left subset_rfl)
  | reversedNode c _ =>
      obtain ⟨tc, tc', hc⟩ := child c (List.mem_singleton_self c) _
        (hne.child (List.mem_singleton_self _))
      exact ⟨_, _, by simp only [eval, hc.eval_eq, Option.map_some']; rfl,
        by simp only [prune, eval, hc.eval_prune_eq, Option.map_some']; rfl, hc.agree.reverse⟩
  | reprojectOpNode c =>
      obtain ⟨tc, tc', hc⟩ := child c (List.mem_singleton_self c) _
        (hne.child (List.mem_singleton_self _))
      exact ⟨_, _, hc.eval_eq, hc.eval_prune_eq, hc.agree⟩
  | randomSampleNode c _ => exact absurd hdet.self Bool.false_ne_true
  | selectionNode c pairs =>
      obtain ⟨tc, tc', hc⟩ := child c (List.mem_singleton_self c) _
        (hne.child (List.mem_singleton_self _))
      have hr : ∀ x ∈ pairs.map (·.1), x ∈ ids T c := hsc _ (List.mem_singleton_self _)
      have hs : (pairs.filter (·.2 ∈ U)).map (·.2) ≠ [] :=
        map_ne_nil_of_ids_selectionNode T hne.self
      refine ⟨_, _, by simp only [eval, hc.eval_eq, Option.some_bind, hc.has hr, if_true,
          Table.select_of_ne_nil (map_ne_nil_of_filter _ hs)]; rfl,
        by simp only [prune, eval, hc.eval_prune_eq, Option.some_bind,
          hc.has_prune (fun x hx => hr x (List.map_subset _ (List.filter_sublist _).subset hx))
            (fun x hx => List.mem_toFinset.mpr hx), if_true, Table.select_of_ne_nil hs]; rfl,
        hc.agree.map fun r r' hrr x hx => ?_⟩
      obtain ⟨hxU, -⟩ := Finset.mem_inter.mp hx
      rw [find?_filter_mem pairs (·.2) hxU]
      cases hq : pairs.find? (·.2 = x) with
      | none => rfl
      | some q =>
          have hkept := mem_filter_of_find? hxU hq
          exact hrr q.1 (hc.mem_inter (List.mem_toFinset.mpr (List.mem_map_of_mem _ hkept))
            (hr _ (List.mem_map_of_mem _ (List.mem_of_mem_filter hkept))))
  | projectionNode c as =>
      have hr : ∀ x ∈ as.flatMap (·.1.columnReferences), x ∈ ids T c :=
        hsc _ (List.mem_singleton_self _)
      by_cases hP : (as.filter (·.2 ∈ U)).length = 0
      · rw [prune, if_pos hP] at hne
        obtain ⟨tc, tc', hc⟩ := child c (List.mem_singleton_self c) U hne
        refine ⟨_, _, by simp only [eval, hc.eval_eq, Option.some_bind, hc.has hr, if_true]; rfl,
          by simp only [prune, hP, if_true]; exact hc.eval_prune_eq, ?_⟩
        refine hc.agree.map_left fun r r' hrr x hx => ?_
        obtain ⟨hxU, hxc⟩ := Finset.mem_inter.mp hx
        have hnone : as.find? (·.2 = x) = none := by
          rw [← find?_filter_mem as (·.2) hxU, List.length_eq_zero.mp hP]
          rfl
        simp only [hnone]
        exact hrr x (Finset.mem_inter.mpr ⟨hxU, List.mem_toFinset.mpr
          (mem_of_find?_eq_none hxc hnone)⟩)
      · rw [prune, if_neg hP] at hne
        obtain ⟨tc, tc', hc⟩ := child c (List.mem_singleton_self c) _
          (hne.child (List.mem_singleton_self _))
        have hsub : ∀ x ∈ (as.filter (·.2 ∈ U)).flatMap (·.1.columnReferences),
            x ∈ as.flatMap (·.1.columnReferences) :=
          fun _ => mem_flatMap_of_sublist _ (List.filter_sublist _)
        refine ⟨_, _, by simp only [eval, hc.eval_eq, Option.some_bind, hc.has hr, if_true]; rfl,
          by simp only [prune, hP, if_false, eval, hc.eval_prune_eq, Option.some_bind,
            hc.has_prune (fun x hx => hr x (hsub x hx))
              (fun x hx => Finset.mem_union_right _ (List.mem_toFinset.mpr hx)), if_true]; rfl,
          hc.agree.map fun r r' hrr x hx => ?_⟩
        obtain ⟨hxU, hxc⟩ := Finset.mem_inter.mp hx
        rw [find?_filter_mem as (·.2) hxU]
        cases hq : as.find? (·.2 = x) with
        | none =>
            exact hrr x (hc.mem_inter (Finset.mem_union_left _ hxU)
              (hc.columns_eq ▸ mem_of_find?_eq_none hxc hq))
        | some a =>
            have hkept := mem_filter_of_find? hxU hq
            exact sem.evalExpr_local a.1 r r' fun y hy => hrr y (hc.mem_inter
              (Finset.mem_union_right _ (List.mem_toFinset.mpr
                (List.mem_flatMap.mpr ⟨a, hkept, hy⟩)))
              (hr y (List.mem_flatMap.mpr ⟨a, List.mem_of_mem_filter hkept, hy⟩)))
  | rowCountNode c =>
      obtain ⟨tc, tc', hc⟩ := child c (List.mem_singleton_self c) _
        (hne.child (List.mem_singleton_self _))
      refine ⟨_, _, by simp only [eval, hc.eval_eq, Option.map_some']; rfl,
        by simp only [prune, eval, hc.eval_prune_eq, Option.map_some']; rfl, ?_⟩
      exact .cons (fun x _ => by simp only [hc.agree.length_eq]) .nil
  | aggregateNode c aggs by_ dropna =>
      have hr : ∀ x ∈ by_ ++ aggs.flatMap (·.1.columnReferences), x ∈ ids T c :=
        hsc _ (List.mem_singleton_self _)
      obtain ⟨tc, tc', hc⟩ := child c (List.mem_singleton_self c) _
        (hne.child (List.mem_singleton_self _))
      have hs : by_ ++ (aggs.filter (·.2 ∈ U)).map (·.2) ≠ [] :=
        append_ne_nil_of_ids_aggregateNode T hne.self
      have hkeep : ∀ x ∈ by_ ++ (aggs.filter (·.2 ∈ U)).flatMap (·.1.columnReferences),
          x ∈ by_ ++ aggs.flatMap (·.1.columnReferences) := fun x hx =>
        List.mem_append.mpr ((List.mem_append.mp hx).imp id
          (mem_flatMap_of_sublist _ (List.filter_sublist _)))
      refine ⟨_, _, by simp only [eval, hc.eval_eq, Option.some_bind, hc.has hr, if_true,
          Table.select_of_ne_nil (append_map_ne_nil_of_filter _ _ hs)]; rfl,
        by simp only [prune, eval, hc.eval_prune_eq, Option.some_bind,
          hc.has_prune (fun x hx => hr x (hkeep x hx)) (fun x hx => List.mem_toFinset.mpr hx),
          if_true, Table.select_of_ne_nil hs]; rfl, ?_⟩
      have hg : GroupsAgree (_ ∩ tc.columns.toFinset) (groupRows by_ tc.rows)
          (groupRows by_ tc'.rows) :=
        GroupsAgree.groupRows (fun k hk => hc.mem_inter
          (List.mem_toFinset.mpr (List.mem_append_left _ hk)) (hr k (List.mem_append_left _ hk)))
          hc.agree
      refine List.forall₂_map_left_iff.mpr (List.forall₂_map_right_iff.mpr
        ((hg.dropna dropna).imp fun g g' hgg x hx => ?_))
      obtain ⟨hxU, -⟩ := Finset.mem_inter.mp hx
      simp only [aggregateRow, hgg.1, find?_filter_mem aggs (·.2) hxU]
      split
      · rfl
      · cases hq : aggs.find? (·.2 = x) with
        | none => rfl
        | some a =>
            have hkept := mem_filter_of_find? hxU hq
            exact sem.evalAgg_local a.1 _ g.2 g'.2 (fun y hy => hc.mem_inter
              (List.mem_toFinset.mpr (List.mem_append_right _
                (List.mem_flatMap.mpr ⟨a, hkept, hy⟩)))
              (hr y (List.mem_append_right _
                (List.mem_flatMap.mpr ⟨a, List.mem_of_mem_filter hkept, hy⟩)))) hgg.2
  | windowOpNode c col op spec out nsn sru =>
      have hr : ∀ x ∈ col :: spec.allReferencedColumns, x ∈ ids T c :=
        hsc _ (List.mem_singleton_self _)
      by_cases hout : out ∈ U
      · rw [prune, if_neg (not_not.mpr hout)] at hne
        obtain ⟨tc, tc', hc⟩ := child c (List.mem_singleton_self c) _
          (hne.child (List.mem_singleton_self _))
        have hcolW : col ∈ U \ {out} ∪ {col} :=
          Finset.mem_union_right _ (Finset.mem_singleton_self col)
        have hW : ∀ x ∈ col :: spec.allReferencedColumns, x ∈ U \ {out} ∪ {col} := by
          intro x hx
          rcases List.mem_cons.mp hx with rfl | hx
          · exact hcolW
          · exact (hspec.self x hx : x = col) ▸ hcolW
        have hvalues : sem.evalWindow op spec col nsn tc.rows =
            sem.evalWindow op spec col nsn tc'.rows :=
          sem.evalWindow_local op spec col nsn _ tc.rows tc'.rows
            (hc.mem_inter hcolW (hr col (List.mem_cons_self _ _)))
            (fun x hx => hc.mem_inter (hW x (List.mem_cons_of_mem _ hx))
              (hr x (List.mem_cons_of_mem _ hx))) hc.agree
        refine ⟨_, _, by simp only [eval, hc.eval_eq, Option.some_bind, hc.has hr, if_true]; rfl,
          by simp only [prune, hout, not_true_eq_false, if_false, eval, hc.eval_prune_eq,
            Option.some_bind, hc.has_prune hr hW, if_true]; rfl, ?_⟩
        rw [hvalues]
        refine (hc.agree.setColumn out _ 0).mono fun x hx => ?_
        simp only [Finset.mem_insert, Finset.mem_inter, Finset.mem_union, Finset.mem_sdiff,
          Finset.mem_singleton, List.mem_toFinset, List.mem_append, List.mem_singleton] at hx ⊢
        tauto
      · rw [prune, if_pos hout] at hne
        have hwfc := hwf.child (List.mem_singleton_self c)
        obtain ⟨tc, hc⟩ := Option.isSome_iff_exists.mp (eval_isSome sem T c hwfc hne)
        have hhas : tc.has (col :: spec.allReferencedColumns) = true :=
          has_of_reads T hsc (List.mem_singleton_self _) (columns_eq_ids sem T hwfc hc)
        refine ⟨_, _, by simp only [eval, hc, Option.some_bind, hhas, if_true]; rfl,
          by simp only [prune, hout, not_false_eq_true, if_true]; exact hc, ?_⟩
        exact Agree.setColumn_left (fun hx => hout (Finset.mem_inter.mp hx).1) _ 0
          (Agree.refl _ _)
  | explodeNode c cols =>
      obtain ⟨tc, tc', hc⟩ := child c (List.mem_singleton_self c) _
        (hne.child (List.mem_singleton_self _))
      have hr : ∀ x ∈ cols, x ∈ ids T c := hsc _ (List.mem_singleton_self _)
      have hW : ∀ x ∈ cols, x ∈ U ∪ cols.toFinset :=
        fun x hx => Finset.mem_union_right _ (List.mem_toFinset.mpr hx)
      refine ⟨_, _, by simp only [eval, hc.eval_eq, Option.some_bind, hc.has hr, if_true]; rfl,
        by simp only [prune, eval, hc.eval_prune_eq, Option.some_bind, hc.has_prune hr hW,
          if_true]; rfl, hc.agree.flatMap fun r r' hrr => ?_⟩
      rw [List.map_congr_left fun x hx => hrr x (hc.mem_inter (hW x hx) (hr x hx))]
      refine Agree.map_same _ fun vals _ x hx => ?_
      cases (cols.zip vals).find? (·.1 = x) with
      | none => exact hrr x (Finset.inter_subset_inter Finset.subset_union_left subset_rfl hx)
      | some _ => rfl
  | joinNode l r conds type =>
      have hrl : ∀ x ∈ conds.map (·.1), x ∈ ids T l := hsc _ (List.mem_cons_self _ _)
      have hrr : ∀ x ∈ conds.map (·.2), x ∈ ids T r :=
        hsc _ (List.mem_cons_of_mem _ (List.mem_singleton_self _))
      have hW : ∀ p ∈ conds, p.1 ∈ U ∪ (conds.flatMap fun p => [p.1, p.2]).toFinset ∧
          p.2 ∈ U ∪ (conds.flatMap fun p => [p.1, p.2]).toFinset := fun p hp =>
        ⟨Finset.mem_union_right _ (List.mem_toFinset.mpr (List.mem_flatMap.mpr ⟨p, hp, by simp⟩)),
          Finset.mem_union_right _ (List.mem_toFinset.mpr (List.mem_flatMap.mpr ⟨p, hp, by simp⟩))⟩
      have hW1 : ∀ x ∈ conds.map (·.1), x ∈ U ∪ (conds.flatMap fun p => [p.1, p.2]).toFinset :=
        List.forall_mem_map.mpr fun p hp => (hW p hp).1
      have hW2 : ∀ x ∈ conds.map (·.2), x ∈ U ∪ (conds.flatMap fun p => [p.1, p.2]).toFinset :=
        List.forall_mem_map.mpr fun p hp => (hW p hp).2
      obtain ⟨tl, tl', hl⟩ := child l (List.mem_cons_self _ _) _
        (hne.child (List.mem_cons_self _ _))
      obtain ⟨tr, tr', hr⟩ := child r (List.mem_cons_of_mem _ (List.mem_singleton_self _)) _
        (hne.child (List.mem_cons_of_mem _ (List.mem_singleton_self _)))
      refine ⟨_, _, by simp only [eval, hl.eval_eq, hr.eval_eq, Option.some_bind, hl.has hrl,
          hr.has hrr, Bool.and_self, if_true]; rfl,
        by simp only [prune, eval, hl.eval_prune_eq, hr.eval_prune_eq, Option.some_bind,
          hl.has_prune hrl hW1, hr.has_prune hrr hW2, Bool.and_self, if_true]; rfl, ?_⟩
      refine Agree.joinRows sem (fun x hx => ?_) hl.agree hr.agree (fun p hp =>
        ⟨hl.mem_inter (hW p hp).1 (hrl _ (List.mem_map_of_mem _ hp)),
          hr.mem_inter (hW p hp).2 (hrr _ (List.mem_map_of_mem _ hp))⟩) type
      obtain ⟨hxU, hx⟩ := Finset.mem_inter.mp hx
      have hxW : x ∈ U ∪ (conds.flatMap fun p => [p.1, p.2]).toFinset :=
        Finset.mem_union_left _ hxU
      exact ⟨(hl.mem_columns_prune_iff hxW).symm,
        fun h => Finset.mem_inter.mpr ⟨hxW, List.mem_toFinset.mpr h⟩,
        fun h => Finset.mem_inter.mpr ⟨hxW, List.mem_toFinset.mpr
          ((List.mem_append.mp (List.mem_toFinset.mp hx)).resolve_left h)⟩⟩
  | concatNode _ | fromRangeNode _ _ _ =>
      obtain ⟨t, ht⟩ := Option.isSome_iff_exists.mp (eval_isSome sem T _ hwf hne)
      exact ⟨t, t, ht, ht, Agree.refl _ _⟩

/-- Pruning keeps what a tree computes in the columns asked for. On a well-formed tree that
samples no rows and whose window specifications read at most the window's input column, under
every semantics whose operations read only their columns, where no node of the tree pruned to
`U` is left without a column, the tree and the tree pruned to `U` both evaluate; the tree's
table has the columns its schema names, the pruned table keeps each of them that is in `U`, and
the two tables hold the same values in those columns, row for row.
PYLINE: nodes.py:243-244, 330-335, 381-383, 423-425, 497-507, 615-634, 658-663, 678-707,
750-799, 875-883, 914-920, 988-992 -/
theorem eval_prune_agree {n : BigFrameNode} (hwf : WellFormed T n)
    (hspec : Every SpecReadsInputOnly n) (hdet : Every (fun m => deterministic m = true) n)
    (U : ColumnSet) (hne : Every (fun m => ids T m ≠ []) (prune n U)) :
    ∃ t t', eval sem n = some t ∧ eval sem (prune n U) = some t' ∧ t.columns = ids T n ∧
      (∀ x ∈ U, x ∈ t.columns → x ∈ t'.columns) ∧
      Agree (U ∩ t.columns.toFinset) t.rows t'.rows := by
  obtain ⟨t, t', h⟩ := ChildEval.of sem T (pruneAgrees sem T n hwf hspec hdet U hne) hwf
  exact ⟨t, t', h.eval_eq, h.eval_prune_eq, h.columns_eq,
    fun x hx hxt => (h.mem_columns_prune_iff hx).mpr hxt, h.agree⟩

end

/-- `eval_prune_agree` on `windowOverRead` asked for its output `o`, under `indexSemantics`: the
window over the read pruned to its input column `a` computes the same `o`. -/
theorem eval_prune_agree_windowOverRead :
    WellFormed ExprTyping.firstInputType windowOverRead ∧
      Every SpecReadsInputOnly windowOverRead ∧
      Every (fun m => deterministic m = true) windowOverRead ∧
      Every (fun m => ids ExprTyping.firstInputType m ≠ []) (prune windowOverRead {⟨"o"⟩}) ∧
      ∃ t t', eval indexSemantics windowOverRead = some t ∧
        eval indexSemantics (prune windowOverRead {⟨"o"⟩}) = some t' ∧
        t.columns = ids ExprTyping.firstInputType windowOverRead ∧
        (∀ x ∈ ({⟨"o"⟩} : ColumnSet), x ∈ t.columns → x ∈ t'.columns) ∧
        Agree ({⟨"o"⟩} ∩ t.columns.toFinset) t.rows t'.rows := by
  have hwf : WellFormed ExprTyping.firstInputType windowOverRead :=
    Every.of_leaf_child (by decide) rfl (by decide) rfl
  have hspec : Every SpecReadsInputOnly windowOverRead :=
    Every.of_leaf_child (by simp [SpecReadsInputOnly, windowOverRead,
      WindowSpec.allReferencedColumns]) rfl trivial rfl
  have hdet : Every (fun m => deterministic m = true) windowOverRead :=
    Every.of_leaf_child rfl rfl rfl rfl
  have hne : Every (fun m => ids ExprTyping.firstInputType m ≠ [])
      (prune windowOverRead {⟨"o"⟩}) :=
    Every.of_leaf_child (by decide) rfl (by decide) rfl
  exact ⟨hwf, hspec, hdet, hne,
    eval_prune_agree indexSemantics ExprTyping.firstInputType hwf hspec hdet _ hne⟩

-- the case the last hypothesis of `eval_prune_agree` excludes: `crossJoinOfReads` evaluates
-- under every semantics, and pruned to no column it has two reads that select nothing, and no value
example {V : Type} [DecidableEq V] (sem : Semantics V) :
    (eval sem crossJoinOfReads).isSome ∧ eval sem (prune crossJoinOfReads ∅) = none := by
  simp [eval, prune, crossJoinOfReads, Table.select, Table.has]

/-- The well-formed window over a read of `a` and `p`, partitioned by `p`, evaluates under every
semantics; pruned to its output `o`, it fails to, because its pruned read has lost `p`. -/
theorem eval_prune_windowByPartition {V : Type} [DecidableEq V] (sem : Semantics V) :
    WellFormed ExprTyping.firstInputType windowByPartition ∧
      (eval sem windowByPartition).isSome ∧
      eval sem (prune windowByPartition {⟨"o"⟩}) = none := by
  refine ⟨Every.of_leaf_child (by decide) rfl (by decide) rfl, ?_, ?_⟩
  · simp [eval, windowByPartition, Table.has, Table.select, WindowSpec.allReferencedColumns]
  · simp [eval, prune, windowByPartition, Table.has, Table.select, WindowSpec.allReferencedColumns]

end BigFrameNode

end BigFrames
