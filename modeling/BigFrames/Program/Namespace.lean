import BigFrames.Program.Fields

/-!
# Defined variables

`defined_variables` (nodes.py:226-236) is the full set of names defined in a node's namespace,
selected or not: the names of the node's own schema and, unless the node `defines_namespace` (a
join, selection, row count, aggregation or explode starts a new one), every name its children
define. The node's own schema is read first, so where it raises so does `defined_variables`; a
node that starts a namespace never reads its children's.

A list of names stands for the set; only membership is read from it.
-/

set_option autoImplicit false

namespace BigFrames

namespace BigFrameNode

variable (T : ExprTyping)

/-- The body of `defined_variables`, given the union of the children's, `inherited`. -/
def ownAndInherited (n : BigFrameNode) (inherited : Option (List String)) :
    Option (List String) :=
  (schema T n).bind fun s =>
    if definesNamespace n then some s.names else inherited.map (s.names ++ ·)

/-- `defined_variables`, `none` where a schema it reads raises. -/
def definedVariables : BigFrameNode → Option (List String)
  | n@(readLocalNode ..) | n@(readTableNode ..) | n@(cachedTableNode ..) =>
      ownAndInherited T n (some [])
  | n@(promoteOffsetsNode c _) | n@(filterNode c _) | n@(orderByNode c _) | n@(reversedNode c _)
  | n@(selectionNode c _) | n@(projectionNode c _) | n@(rowCountNode c)
  | n@(aggregateNode c _ _ _) | n@(windowOpNode c _ _ _ _ _ _) | n@(reprojectOpNode c)
  | n@(randomSampleNode c _) | n@(explodeNode c _) => ownAndInherited T n (definedVariables c)
  | n@(joinNode l r _ _) | n@(fromRangeNode l r _) =>
      ownAndInherited T n (do return (← definedVariables l) ++ (← definedVariables r))
  | n@(concatNode cs) => ownAndInherited T n (definedVariablesOf cs)
where
  /-- The union of the children's `defined_variables`; a child whose raises makes it raise. -/
  definedVariablesOf : List BigFrameNode → Option (List String)
    | [] => some []
    | c :: cs => do return (← definedVariables c) ++ (← definedVariablesOf cs)

/-- A node with one child adds its own names to the child's defined variables, or keeps only
its own. -/
theorem definedVariables_of_child {n c : BigFrameNode} (h : childNodes n = [c]) :
    definedVariables T n = ownAndInherited T n (definedVariables T c) := by
  cases n <;> simp only [childNodes, List.cons.injEq, and_true, and_false, reduceCtorEq] at h <;>
    first
    | (subst h; rfl)
    | (obtain ⟨rfl, rfl⟩ := h
       simp only [definedVariables, definedVariables.definedVariablesOf, Option.bind_eq_bind,
         Option.pure_def, Option.some_bind, List.append_nil, Option.bind_some])

end BigFrameNode

end BigFrames
