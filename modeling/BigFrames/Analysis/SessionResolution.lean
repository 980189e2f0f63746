import BigFrames.Program.Session

/-!
# Sessions are never merged

Resolving a tree's session gives the one distinct session its leaves carry, `None` when no leaf
carries one, and raises when the leaves carry two (`session_eq_sessionOf`). Nothing about the
shape of the tree matters: the induction over `childInduction` reduces every node to the same
fact about lists, that a child which resolved to a session had leaves carrying only that one,
so the distinct sessions among the children's answers are the distinct sessions among all their
leaves (`resolveSessions_mapM_sessionOf`).
-/

set_option autoImplicit false

namespace BigFrames

/-- The sessions the leaves reachable through `child_nodes` carry, left to right, `None`s left
out: `ReadLocalNode.session`, and `table_session` of `ReadTableNode` and `CachedTableNode`. -/
def BigFrameNode.leafSessions : BigFrameNode → List Session
  | .readLocalNode _ _ _ _ session => session.toList
  | .readTableNode _ _ tableSession | .cachedTableNode _ _ tableSession _ => [tableSession]
  | .promoteOffsetsNode c _ | .filterNode c _ | .orderByNode c _ | .reversedNode c _
  | .selectionNode c _ | .projectionNode c _ | .rowCountNode c | .aggregateNode c _ _ _
  | .windowOpNode c _ _ _ _ _ _ | .reprojectOpNode c | .randomSampleNode c _
  | .explodeNode c _ => leafSessions c
  | .joinNode l r _ _ | .fromRangeNode l r _ => leafSessions l ++ leafSessions r
  | .concatNode cs => leafSessionsOf cs
where
  /-- The leaf sessions of a list of trees, in order. -/
  leafSessionsOf : List BigFrameNode → List Session
    | [] => []
    | c :: cs => leafSessions c ++ leafSessionsOf cs

/-- The spec's resolution of a list of leaf sessions: the unique session, `None` for none, and
an error for two distinct ones. -/
def sessionOf (sessions : List Session) : Except String (Option Session) :=
  if 1 < sessions.toFinset.card then .error multipleSessionsMessage else .ok sessions.head?

namespace BigFrameNode

/-- INTERNAL: a node with children carries its children's leaf sessions, in order. -/
theorem leafSessions_of_childNodes_ne_nil {n : BigFrameNode} (h : childNodes n ≠ []) :
    leafSessions n = (childNodes n).flatMap leafSessions := by
  have hof : ∀ cs, leafSessions.leafSessionsOf cs = cs.flatMap leafSessions := by
    intro cs
    induction cs with
    | nil => rfl
    | cons c cs ih => simp [leafSessions.leafSessionsOf, ih]
  cases n <;> simp_all [childNodes, leafSessions]

/-! ## Resolution over lists -/

/-- INTERNAL: a list with at most one distinct element has its head as that element. -/
theorem toFinset_eq_of_card_le_one {l : List Session} (h : l.toFinset.card ≤ 1) :
    l.toFinset = l.head?.toList.toFinset := by
  cases l with
  | nil => rfl
  | cons x t =>
      have hx : x ∈ (x :: t).toFinset := List.mem_toFinset.mpr (List.mem_cons_self x t)
      calc (x :: t).toFinset
          = {x} := Finset.eq_singleton_iff_unique_mem.mpr
            ⟨hx, fun y hy => Finset.card_le_one.mp h y hy x hx⟩
        _ = [x].toFinset := by simp

/-- INTERNAL: the heads of lists with at most one distinct element each are, as a set, all
their elements. -/
theorem toFinset_filterMap_head? {ls : List (List Session)}
    (h : ∀ l ∈ ls, l.toFinset.card ≤ 1) :
    (ls.filterMap List.head?).toFinset = ls.flatten.toFinset := by
  induction ls with
  | nil => rfl
  | cons l ls ih =>
      have ih := ih fun l' hl' => h l' (List.mem_cons_of_mem l hl')
      rw [List.flatten_cons, List.toFinset_append, ← ih,
        toFinset_eq_of_card_le_one (h l (List.mem_cons_self l ls))]
      cases l <;> simp [Finset.insert_eq]

/-- INTERNAL: the first head is the first element. -/
theorem head?_filterMap_head? (ls : List (List Session)) :
    (ls.filterMap List.head?).head? = ls.flatten.head? := by
  induction ls with
  | nil => rfl
  | cons l ls ih => cases l <;> simp [ih]

/-- INTERNAL: resolving lists that each have at most one distinct session succeeds with their
heads. -/
theorem mapM_sessionOf_of_card_le_one {ls : List (List Session)}
    (h : ∀ l ∈ ls, l.toFinset.card ≤ 1) : ls.mapM sessionOf = .ok (ls.map List.head?) := by
  induction ls with
  | nil => rfl
  | cons l ls ih =>
      have hl : sessionOf l = .ok l.head? := by
        simp [sessionOf, Nat.not_lt.mpr (h l (List.mem_cons_self l ls))]
      simp only [List.mapM_cons, hl, ih fun l' hl' => h l' (List.mem_cons_of_mem l hl'),
        List.map_cons]
      rfl

/-- INTERNAL: resolving lists one of which has two distinct sessions raises. -/
theorem mapM_sessionOf_of_card_gt_one {ls : List (List Session)}
    (h : ∃ l ∈ ls, 1 < l.toFinset.card) :
    ls.mapM sessionOf = .error multipleSessionsMessage := by
  induction ls with
  | nil => simp at h
  | cons l ls ih =>
      by_cases hl : 1 < l.toFinset.card
      · simp only [List.mapM_cons, sessionOf, hl, ↓reduceIte]
        rfl
      · have ih := ih (by simpa [hl] using h)
        simp only [List.mapM_cons, sessionOf, hl, ↓reduceIte, ih]
        rfl

/-- INTERNAL: resolving the children's answers is resolving all their leaves at once. -/
theorem resolveSessions_mapM_sessionOf (ls : List (List Session)) :
    ls.mapM sessionOf >>= resolveSessions = sessionOf ls.flatten := by
  by_cases h : ∃ l ∈ ls, 1 < l.toFinset.card
  · obtain ⟨l, hl, hcard⟩ := h
    have hsub : l.toFinset ⊆ ls.flatten.toFinset := fun x hx => by
      simp only [List.mem_toFinset, List.mem_flatten] at hx ⊢
      exact ⟨l, hl, hx⟩
    rw [mapM_sessionOf_of_card_gt_one ⟨l, hl, hcard⟩, sessionOf,
      if_pos (hcard.trans_le (Finset.card_le_card hsub))]
    rfl
  · have hle : ∀ l ∈ ls, l.toFinset.card ≤ 1 := fun l hl => Nat.not_lt.mp fun hc => h ⟨l, hl, hc⟩
    have hset := toFinset_filterMap_head? hle
    rw [mapM_sessionOf_of_card_le_one hle]
    show resolveSessions _ = _
    simp only [resolveSessions, List.filterMap_map, Function.id_comp, hset,
      sessionOf, head?_filterMap_head?]
    split_ifs with h1 h2
    · rfl
    · rfl
    · have : ls.flatten = [] :=
        (List.toFinset_eq_empty_iff _).mp (Finset.card_eq_zero.mp (by omega))
      rw [this]
      rfl

/-! ## Resolution over trees -/

/-- INTERNAL: `mapM` over the children through their leaf sessions. -/
theorem mapM_session_eq {cs : List BigFrameNode}
    (h : ∀ c ∈ cs, session c = sessionOf (leafSessions c)) :
    cs.mapM session = (cs.map leafSessions).mapM sessionOf := by
  induction cs with
  | nil => rfl
  | cons c cs ih =>
      simp only [List.mapM_cons, List.map_cons, h c (List.mem_cons_self c cs),
        ih fun c' hc' => h c' (List.mem_cons_of_mem c hc')]

/-- Session resolution never merges sessions: a tree's `session` raises `ValueError` exactly
when the leaves reachable through `child_nodes` carry two distinct sessions, and otherwise is the
one session they carry, or `None` when they carry none.
PYLINE: nodes.py:85-96, 463-470, 575-577 -/
theorem session_eq_sessionOf (n : BigFrameNode) : session n = sessionOf (leafSessions n) := by
  induction n using childInduction with
  | step n ih =>
      by_cases h : childNodes n = []
      · cases n <;> simp only [childNodes, reduceCtorEq] at h
        · rename_i s; cases s <;> rfl
        · rfl
        · rfl
        · subst h; rfl
      · rw [session_of_childNodes_ne_nil h, leafSessions_of_childNodes_ne_nil h,
          mapM_session_eq ih, List.flatMap_def, resolveSessions_mapM_sessionOf]

end BigFrameNode

end BigFrames
