import BigFrames.Interface.Semantics
import BigFrames.Analysis.PruneStages

/-!
# Row-preserving nodes

`row_preserving` says whether a node "preserves input rows". Under the evaluation semantics this
is a statement about row counts: a node with one child that `row_preserving` marks evaluates to
exactly as many rows as its child, under every semantics whose sorts keep the number of rows
(`length_eval_of_rowPreserving`). The nodes it leaves unmarked are those that drop, merge or
multiply rows: filters, aggregations, row counts, samples, explodes and joins.
-/

set_option autoImplicit false

namespace BigFrames

namespace BigFrameNode

variable {V : Type} [DecidableEq V] (sem : Semantics V)

/-- A node with one child that `row_preserving` marks evaluates to as many rows as its child,
when sorting keeps the number of rows.
PYLINE: nodes.py:67-70, 285-287, 670-672, 806-808, 835-837, 944-946, 958-960 -/
theorem length_eval_of_rowPreserving {n c : BigFrameNode} (hc : childNodes n = [c])
    (hp : rowPreserving n = true)
    (hsort : ∀ by_ (rows : List (Row V)), (sem.sortRows by_ rows).length = rows.length)
    {t tc : Table V} (ht : eval sem n = some t) (htc : eval sem c = some tc) :
    t.rows.length = tc.rows.length := by
  cases n with
  | readLocalNode _ _ _ _ _ | readTableNode _ _ _ | cachedTableNode _ _ _ _ | joinNode _ _ _ _
  | fromRangeNode _ _ _ =>
      simp [childNodes] at hc
  | filterNode _ _ | rowCountNode _ | aggregateNode _ _ _ _ | randomSampleNode _ _
  | explodeNode _ _ =>
      simp [rowPreserving] at hp
  | promoteOffsetsNode c' _ | reversedNode c' _ =>
      obtain rfl : c' = c := List.singleton_inj.mp hc
      simp only [eval, htc, Option.map_some', Option.some.injEq] at ht
      subst ht
      simp
  | reprojectOpNode c' =>
      obtain rfl : c' = c := List.singleton_inj.mp hc
      rw [eval, htc, Option.some.injEq] at ht
      rw [ht]
  | selectionNode c' _ =>
      obtain rfl : c' = c := List.singleton_inj.mp hc
      simp only [eval, htc, Option.some_bind, Option.ite_none_right_eq_some,
        Table.select_eq_some] at ht
      obtain ⟨-, -, rfl⟩ := ht
      simp
  | orderByNode c' _ | projectionNode c' _ | windowOpNode c' _ _ _ _ _ _ =>
      obtain rfl : c' = c := List.singleton_inj.mp hc
      simp only [eval, htc, Option.some_bind, Option.ite_none_right_eq_some,
        Option.some.injEq] at ht
      obtain ⟨-, rfl⟩ := ht
      simp [hsort]
  | concatNode cs =>
      obtain rfl : cs = [c] := hc
      simp only [eval, eval.evalAll, htc, Option.some_bind, Option.map_some',
        Option.some.injEq] at ht
      subst ht
      simp

/-- `length_eval_of_rowPreserving` on `windowOverRead` under `indexSemantics`. -/
theorem length_eval_windowOverRead :
    ∃ c t tc, childNodes windowOverRead = [c] ∧ rowPreserving windowOverRead = true ∧
      (∀ by_ (rows : List (Row Int)), (indexSemantics.sortRows by_ rows).length = rows.length) ∧
      eval indexSemantics windowOverRead = some t ∧ eval indexSemantics c = some tc ∧
      t.rows.length = tc.rows.length := by
  obtain ⟨t, ht⟩ : ∃ t, eval indexSemantics windowOverRead = some t :=
    Option.isSome_iff_exists.mp
      (by simp [eval, windowOverRead, Table.has, Table.select, WindowSpec.allReferencedColumns])
  exact ⟨_, t, _, rfl, rfl, fun _ _ => rfl, ht, rfl,
    @length_eval_of_rowPreserving _ _ indexSemantics windowOverRead _ rfl rfl (fun _ _ => rfl) t _
      ht rfl⟩

end BigFrameNode

end BigFrames
