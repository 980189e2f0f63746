import BigFrames.Model.Nodes
import Mathlib.Data.Finset.Card

/-!
# Session resolution

`BigFrameNode.session` collects the sessions its children resolve to, skipping `None`, and
returns the one distinct session among them, `None` if there is none, and raises a `ValueError`
if there are two. A child whose resolution raises makes its parent's raise. The leaves override
it: `ReadLocalNode.session` is a dataclass field, and `ReadTableNode.session` (inherited by
`CachedTableNode`) returns `table_session`.
-/

set_option autoImplicit false

namespace BigFrames

/-- The message of the `ValueError` that session resolution raises. -/
def multipleSessionsMessage : String := "Cannot use combine sources from multiple sessions."

/-- The body of `BigFrameNode.session` after the loop over the children: `sessions` keeps the
non-`None` child sessions in order, and `len(set(sessions))` counts the distinct ones. -/
def resolveSessions (childSessions : List (Option Session)) : Except String (Option Session) :=
  let sessions := childSessions.filterMap id
  if 1 < sessions.toFinset.card then .error multipleSessionsMessage
  else if sessions.toFinset.card = 1 then .ok sessions.head?
  else .ok none

namespace BigFrameNode

/-- `session`, an error where the Python raises. -/
def session : BigFrameNode → Except String (Option Session)
  | readLocalNode _ _ _ _ session => .ok session
  | readTableNode _ _ tableSession | cachedTableNode _ _ tableSession _ => .ok (some tableSession)
  | promoteOffsetsNode c _ | filterNode c _ | orderByNode c _ | reversedNode c _
  | selectionNode c _ | projectionNode c _ | rowCountNode c | aggregateNode c _ _ _
  | windowOpNode c _ _ _ _ _ _ | reprojectOpNode c | randomSampleNode c _ | explodeNode c _ => do
      resolveSessions [← session c]
  | joinNode l r _ _ | fromRangeNode l r _ => do resolveSessions [← session l, ← session r]
  | concatNode cs => do resolveSessions (← sessionsOf cs)
where
  /-- The children's sessions in order; the first child whose resolution raises stops it. -/
  sessionsOf : List BigFrameNode → Except String (List (Option Session))
    | [] => .ok []
    | c :: cs => do
        let s ← session c
        let ss ← sessionsOf cs
        pure (s :: ss)

/-- INTERNAL: the children's sessions are resolved as a `mapM`. -/
theorem session.sessionsOf_eq (cs : List BigFrameNode) :
    session.sessionsOf cs = cs.mapM session := by
  induction cs with
  | nil => rfl
  | cons c cs ih => simp only [session.sessionsOf, ih, List.mapM_cons]

/-- A node with children resolves its session from theirs. -/
theorem session_of_childNodes_ne_nil {n : BigFrameNode} (h : childNodes n ≠ []) :
    session n = (childNodes n).mapM session >>= resolveSessions := by
  cases n <;> simp only [childNodes, ne_eq, not_true_eq_false] at h <;>
    simp only [childNodes, session, session.sessionsOf_eq, List.mapM_cons, List.mapM_nil,
      bind_assoc, pure_bind]

end BigFrameNode

end BigFrames
