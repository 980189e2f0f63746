import BigFrames.Program.Session

/-!
# Every subtree agrees on the session

`session` (nodes.py:85-96) is a cached property that every node computes from its children's.
Where the root's resolves, every node reachable through `child_nodes` resolves too, to no
session or to the root's (`session_subtrees`). No subtree carries another session, and none
raises. The step is one fact about `resolveSessions`: a list that resolves to `s` holds no
session other than `s` (`eq_of_resolveSessions`).
-/

set_option autoImplicit false

namespace BigFrames

/-- INTERNAL: a list of child sessions that resolves to `s` holds no session other than `s`. -/
theorem eq_of_resolveSessions {ss : List (Option Session)} {s : Option Session}
    (h : resolveSessions ss = .ok s) {x : Session} (hx : some x ∈ ss) : s = some x := by
  have hmem : x ∈ ss.filterMap id := List.mem_filterMap.mpr ⟨some x, hx, rfl⟩
  dsimp only [resolveSessions] at h
  split_ifs at h with hgt hone
  · obtain ⟨a, ha⟩ := Finset.card_eq_one.mp hone
    obtain ⟨y, ys, hys⟩ := List.exists_cons_of_ne_nil (List.ne_nil_of_mem hmem)
    have hy : y = a :=
      Finset.mem_singleton.mp (ha ▸ List.mem_toFinset.mpr (hys ▸ List.mem_cons_self y ys))
    have hxa : x = a := Finset.mem_singleton.mp (ha ▸ List.mem_toFinset.mpr hmem)
    rw [← Except.ok.inj h, hys, List.head?_cons, hy, hxa]
  · exact absurd (Finset.card_pos.mpr ⟨x, List.mem_toFinset.mpr hmem⟩) (by omega)

namespace BigFrameNode

/-- INTERNAL: where resolving a list of nodes' sessions succeeds, each node's resolves to one of
the results. -/
theorem mem_of_mapM_session {cs : List BigFrameNode} {ss : List (Option Session)}
    (h : cs.mapM session = .ok ss) {c : BigFrameNode} (hc : c ∈ cs) :
    ∃ sc, session c = .ok sc ∧ sc ∈ ss := by
  induction cs generalizing ss with
  | nil => nomatch hc
  | cons d ds ih =>
      rw [List.mapM_cons] at h
      cases hd : session d <;> cases hds : ds.mapM session <;> rw [hd, hds] at h <;> cases h
      rcases List.mem_cons.mp hc with rfl | hc
      · exact ⟨_, hd, List.mem_cons_self _ _⟩
      · obtain ⟨sc, hsc, hmem⟩ := ih hds hc
        exact ⟨sc, hsc, List.mem_cons_of_mem _ hmem⟩

/-- INTERNAL: where a node's session resolves to `s`, each child's resolves to no session or
to `s`. -/
theorem session_child {n c : BigFrameNode} (hc : c ∈ childNodes n) {s : Option Session}
    (h : session n = .ok s) : session c = .ok none ∨ session c = .ok s := by
  rw [session_of_childNodes_ne_nil (List.ne_nil_of_mem hc)] at h
  cases hcs : (childNodes n).mapM session with
  | error e => rw [hcs] at h; cases h
  | ok ss =>
      rw [hcs] at h
      obtain ⟨sc, hsc, hmem⟩ := mem_of_mapM_session hcs hc
      cases sc with
      | none => exact .inl hsc
      | some x => exact .inr (hsc.trans (congrArg _ (eq_of_resolveSessions h hmem).symm))

/-- Every subtree agrees on the session: where a tree's session resolves to `s`, every node
reachable through `child_nodes` resolves its session without raising, to `None` or to `s`.
PYLINE: nodes.py:85-96, 470, 575-577 -/
theorem session_subtrees (n : BigFrameNode) {s : Option Session} (h : session n = .ok s) :
    Every (fun m => session m = .ok none ∨ session m = .ok s) n := by
  induction n using childInduction generalizing s with
  | step n ih =>
      refine Every.intro n (.inr h) fun c hc => ?_
      rcases session_child hc h with hnone | hs
      · exact (ih c hc hnone).imp fun m hm => hm.elim .inl .inl
      · exact ih c hc hs

/-- A join of a read carrying session `1` and a read carrying none. -/
def joinOneSession : BigFrameNode :=
  joinNode (readLocalNode [] ⟨[]⟩ 1 ⟨[⟨⟨"a"⟩, intDtype, "a"⟩]⟩ (some ⟨1⟩))
    (readLocalNode [] ⟨[]⟩ 1 ⟨[⟨⟨"b"⟩, intDtype, "b"⟩]⟩ none) [] .cross

/-- `session_subtrees` on `joinOneSession`, which resolves to session `1`; its right side
resolves to none. -/
theorem session_subtrees_joinOneSession :
    session joinOneSession = .ok (some ⟨1⟩) ∧
      Every (fun m => session m = .ok none ∨ session m = .ok (some ⟨1⟩)) joinOneSession :=
  have h : session joinOneSession = .ok (some ⟨1⟩) := by rfl
  ⟨h, (session_subtrees joinOneSession h :)⟩

end BigFrameNode

end BigFrames
