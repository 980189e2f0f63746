import BigFrames.Program.Fields

/-!
# The append-only rule of `ProjectionNode`

`ProjectionNode.__post_init__` (nodes.py:768-775) asserts that no assigned id is already a column
of the child: `name not in self.child.schema.names`. The assigned `name` is a `ColumnId`, while
`schema.names` are the strings `i.id.name` (nodes.py:194-199). Whether the assertion can fail is
therefore decided by `ColumnId.__eq__` against a `str`, which `bigframes.core.identifiers`
defines outside this sample and which `postInit` takes as `nameEq`.

Where `ColumnId("a") == "a"` is false, as under a dataclass's generated `__eq__`, the check
passes a projection that reassigns a column of its child, and the projection has that id twice
(`projectionNode_accepts_existing_id`).
-/

set_option autoImplicit false

namespace BigFrames

namespace BigFrameNode

/-- A read of the one column `a`. -/
def readOfA : BigFrameNode := readLocalNode [] ⟨[]⟩ 1 ⟨[⟨⟨"a"⟩, intDtype, "a"⟩]⟩ none

/-- One assignment, of `abs(a)` to `a`. -/
def absToA : List (Expression × ColumnId) := [(⟨"abs", [⟨"a"⟩], false⟩, ⟨"a"⟩)]

/-- Under a `nameEq` by which `ColumnId("a")` differs from `"a"`, the projection of `abs(a)` to
`a` over a read of `a` is constructed, its child and its assignments each have distinct ids, and
it has the id `a` twice. -/
theorem projectionNode_accepts_existing_id (nameEq : ColumnId → String → Bool)
    (h : nameEq ⟨"a"⟩ "a" = false) :
    (∃ a ∈ absToA, a.2 ∈ ids ExprTyping.firstInputType readOfA) ∧
      postInit ExprTyping.firstInputType nameEq (projectionNode readOfA absToA) = .ok () ∧
      (ids ExprTyping.firstInputType readOfA).Nodup ∧ (absToA.map (·.2)).Nodup ∧
      ¬(ids ExprTyping.firstInputType (projectionNode readOfA absToA)).Nodup := by
  refine ⟨by decide, (postInit_projectionNode _).mpr ⟨_, rfl, by decide, ?_⟩, by decide,
    by decide, by decide⟩
  simp only [absToA, List.mem_singleton, forall_eq, List.map_cons, List.map_nil, List.mem_cons,
    List.not_mem_nil, or_false]
  exact h

/-- `projectionNode_accepts_existing_id` with `ColumnId`s never equal to a name. -/
theorem projectionNode_accepts_existing_id_dataclassEq :
    (fun (_ : ColumnId) (_ : String) => false) ⟨"a"⟩ "a" = false ∧
      ((∃ a ∈ absToA, a.2 ∈ ids ExprTyping.firstInputType readOfA) ∧
        postInit ExprTyping.firstInputType (fun _ _ => false) (projectionNode readOfA absToA) =
          .ok () ∧
        (ids ExprTyping.firstInputType readOfA).Nodup ∧ (absToA.map (·.2)).Nodup ∧
        ¬(ids ExprTyping.firstInputType (projectionNode readOfA absToA)).Nodup) :=
  ⟨rfl, projectionNode_accepts_existing_id _ rfl⟩

end BigFrameNode

end BigFrames
