import BigFrames.Program.Fields
import BigFrames.Program.Prune

/-!
# What pruning does to a schema

`fields_prune` is the one lemma the analyses of `prune` rewrite through: whenever a node has a
schema, its pruned version has one too, whose ids are a subsequence of the original ids and which
gives every requested id the type the original gives it. It needs no hypothesis on the tree
beyond the schema existing, and the type laws of `ExprTyping`; the induction follows `prune`
class by class.

Two results are assembled from it. On a tree whose root has pairwise distinct ids, pruning keeps
the requested part of the schema exactly: the same ids, the same dtypes, in the same order
(`prune_restrict_fields`). And pruning a tree built by successful constructor calls rebuilds only
nodes whose constructors succeed and whose schemas exist, with no id the original lacks
(`prune_builtOk`).
-/

set_option autoImplicit false

namespace BigFrames

namespace BigFrameNode

/-! ## Lookups in a schema -/

/-- INTERNAL: in `a ++ b` a lookup sees `b` first, since a later field wins.
PYLINE: nodes.py:238-240 -/
theorem dtypeLookup_append (a b : List Field) (x : ColumnId) :
    dtypeLookup (a ++ b) x = (dtypeLookup b x).or (dtypeLookup a x) := by
  simp only [dtypeLookup, List.reverse_append, List.find?_append]
  cases (b.reverse.find? fun f => f.id = x) <;> rfl

/-- INTERNAL: a lookup succeeds exactly on the schema's ids. -/
theorem dtypeLookup_isSome_iff (fs : List Field) (x : ColumnId) :
    (dtypeLookup fs x).isSome ↔ x ∈ fs.map (·.id) := by
  simp only [dtypeLookup, Option.isSome_map', List.find?_isSome, List.mem_reverse,
    decide_eq_true_eq, List.mem_map]

/-- INTERNAL: in a schema with distinct ids, a field's id looks up that field's dtype. -/
theorem dtypeLookup_of_mem {fs : List Field} (hnd : (fs.map (·.id)).Nodup) {f : Field}
    (hf : f ∈ fs) : dtypeLookup fs f.id = some f.dtype := by
  obtain ⟨g, hg⟩ := Option.isSome_iff_exists.mp
    (List.find?_isSome.mpr ⟨f, List.mem_reverse.mpr hf, by simp⟩ :
      (fs.reverse.find? fun g => g.id = f.id).isSome)
  have hgid : g.id = f.id := by simpa using List.find?_some hg
  have hgf : g = f :=
    List.inj_on_of_nodup_map hnd (List.mem_reverse.mp (List.mem_of_find?_eq_some hg)) hf hgid
  simp [dtypeLookup, hg, hgf]

/-- INTERNAL: with distinct ids, the fields in `U` are rebuilt from their ids by lookups. -/
theorem restrict_eq_map_dtypeLookup (U : ColumnSet) {fs : List Field}
    (hnd : (fs.map (·.id)).Nodup) :
    restrict U fs = ((fs.map (·.id)).filter (· ∈ U)).map fun x =>
      ⟨x, (dtypeLookup fs x).getD intDtype⟩ := by
  rw [List.filter_map, List.map_map]
  conv_lhs => rw [← List.map_id (restrict U fs)]
  apply List.map_congr_left
  intro f hf
  simp [dtypeLookup_of_mem hnd (List.mem_of_mem_filter hf)]

/-! ## Pruned schemas -/

/-- INTERNAL: `fs'` keeps a subsequence of `fs`'s ids and gives every id in `U` the type `fs`
gives it. -/
def PrunedFrom (U : ColumnSet) (fs' fs : List Field) : Prop :=
  (fs'.map (·.id)).Sublist (fs.map (·.id)) ∧ ∀ c ∈ U, dtypeLookup fs' c = dtypeLookup fs c

/-- INTERNAL: a field list is pruned from itself. -/
theorem PrunedFrom.refl (U : ColumnSet) (fs : List Field) : PrunedFrom U fs fs :=
  ⟨List.Sublist.refl _, fun _ _ => rfl⟩

/-- INTERNAL: a list pruned from another for `V` is pruned from it for every `U` within
`V`. -/
theorem PrunedFrom.mono {U V : ColumnSet} {fs' fs : List Field} (h : PrunedFrom V fs' fs)
    (hUV : ∀ c ∈ U, c ∈ V) : PrunedFrom U fs' fs :=
  ⟨h.1, fun c hc => h.2 c (hUV c hc)⟩

/-- INTERNAL: `restrict U` prunes a field list for `U`. -/
theorem PrunedFrom.restrict (U : ColumnSet) (fs : List Field) :
    PrunedFrom U (restrict U fs) fs :=
  ⟨(List.filter_sublist fs).map _, fun _ hc => dtypeLookup_restrict fs hc⟩

/-- INTERNAL: concatenations of pruned lists are pruned from the concatenation. -/
theorem PrunedFrom.append {U : ColumnSet} {a' a b' b : List Field} (ha : PrunedFrom U a' a)
    (hb : PrunedFrom U b' b) : PrunedFrom U (a' ++ b') (a ++ b) := by
  refine ⟨by simpa using ha.1.append hb.1, fun c hc => ?_⟩
  rw [dtypeLookup_append, dtypeLookup_append, ha.2 c hc, hb.2 c hc]

/-- INTERNAL: appending fields outside `U` to the original changes nothing in `U`. -/
theorem PrunedFrom.append_right {U : ColumnSet} {fs' fs : List Field} (h : PrunedFrom U fs' fs)
    (b : List Field) (hb : ∀ f ∈ b, f.id ∉ U) : PrunedFrom U fs' (fs ++ b) := by
  refine ⟨h.1.trans (by simp), fun c hc => ?_⟩
  have : dtypeLookup b c = none := by
    rw [← Option.not_isSome_iff_eq_none, dtypeLookup_isSome_iff]
    simp only [List.mem_map, not_exists, not_and]
    exact fun f hf hfc => hb f hf (hfc ▸ hc)
  rw [dtypeLookup_append, this, h.2 c hc, Option.none_or]

/-- INTERNAL: appending one field to both, where agreement was known off its id. -/
theorem PrunedFrom.snoc {U V : ColumnSet} {fs' fs : List Field} (h : PrunedFrom V fs' fs)
    (f : Field) (hUV : ∀ c ∈ U, c ≠ f.id → c ∈ V) : PrunedFrom U (fs' ++ [f]) (fs ++ [f]) := by
  refine ⟨by simpa using h.1, fun c hc => ?_⟩
  rw [dtypeLookup_append, dtypeLookup_append]
  by_cases hcf : c = f.id
  · simp [dtypeLookup, hcf]
  · rw [h.2 c (hUV c hc hcf)]

/-! ## Id-preserving maps over a schema -/

/-- INTERNAL: a `mapM` that keeps every field's id keeps the list of ids. -/
theorem map_id_of_mapM {g : Field → Option Field} (hg : ∀ f f', g f = some f' → f'.id = f.id)
    {l r : List Field} (h : l.mapM g = some r) : r.map (·.id) = l.map (·.id) :=
  map_id_of_mapM_key hg h

/-- INTERNAL: an id-keeping `mapM` maps the field a lookup finds.
PYLINE: nodes.py:960-971 -/
theorem find?_reverse_mapM {g : Field → Option Field} (hg : ∀ f f', g f = some f' → f'.id = f.id)
    {l r : List Field} (h : l.mapM g = some r) (x : ColumnId) :
    r.reverse.find? (fun f => f.id = x) = (l.reverse.find? fun f => f.id = x).bind g := by
  induction l generalizing r with
  | nil =>
      simp only [List.mapM_nil, Option.pure_def, Option.some.injEq] at h
      subst h; rfl
  | cons a l ih =>
      have hall := (mapM_isSome_iff g (a :: l)).mp (by rw [h]; rfl)
      simp only [List.mapM_cons, Option.bind_eq_bind, Option.bind_eq_some, Option.pure_def,
        Option.some.injEq] at h
      obtain ⟨b, hb, rs, hrs, rfl⟩ := h
      simp only [List.reverse_cons, List.find?_append, ih hrs]
      cases hf : l.reverse.find? (fun f => f.id = x) with
      | some f =>
          obtain ⟨f', hf'⟩ := Option.isSome_iff_exists.mp
            (hall f (List.mem_cons_of_mem a (List.mem_reverse.mp (List.mem_of_find?_eq_some hf))))
          simp [hf']
      | none =>
          by_cases hax : a.id = x <;> simp [hb, hg a b hb, hax]

/-- INTERNAL: equal lookups find the same field. -/
theorem find?_reverse_eq_of_dtypeLookup_eq {fs gs : List Field} {x : ColumnId}
    (h : dtypeLookup fs x = dtypeLookup gs x) :
    fs.reverse.find? (fun f => f.id = x) = gs.reverse.find? (fun f => f.id = x) := by
  unfold dtypeLookup at h
  cases hf : fs.reverse.find? (fun f => f.id = x) <;>
    cases hg : gs.reverse.find? (fun f => f.id = x) <;> simp only [hf, hg] at h ⊢ <;>
    try simp at h
  rename_i f g
  have hfx := List.find?_some hf
  have hgx := List.find?_some hg
  simp only [decide_eq_true_eq] at hfx hgx
  cases f; cases g
  simp_all

/-! ## The schema of a pruned node -/

variable (T : ExprTyping)

/-- Pruning a node that has a schema gives a node that has one, with a subsequence of the
original ids and the original type for every requested id.
PYLINE: nodes.py:243-244, 497-507, 615-663, 676-707, 750-799, 875-883, 914-920, 986-993 -/
theorem fields_prune : ∀ (n : BigFrameNode) (U : ColumnSet) {fs : List Field},
    fields T n = some fs → ∃ fs', fields T (prune n U) = some fs' ∧ PrunedFrom U fs' fs
  | readLocalNode _ _ _ scanList _, U, fs, h | readTableNode _ scanList _, U, fs, h
  | cachedTableNode _ scanList _ _, U, fs, h => by
      simp only [fields, Option.some.injEq] at h
      subst h
      exact ⟨restrict U _, by simp only [prune, fields, restrict, List.filter_map]; rfl,
        PrunedFrom.restrict U _⟩
  | promoteOffsetsNode c colId, U, fs, h => by
      simp only [fields, Option.map_eq_some'] at h
      obtain ⟨fc, hc, rfl⟩ := h
      by_cases hcol : colId ∈ U
      · obtain ⟨fc', hc', hp⟩ := fields_prune c (U \ {colId}) hc
        exact ⟨fc' ++ [⟨colId, intDtype⟩], by simp [prune, hcol, fields, hc'],
          hp.snoc _ fun x hx hne => by simp [hx, hne]⟩
      · obtain ⟨fc', hc', hp⟩ := fields_prune c U hc
        exact ⟨fc', by simp [prune, hcol, hc'], hp.append_right _ (by simpa using hcol)⟩
  | filterNode c p, U, fs, h => by
      obtain ⟨fc', hc', hp⟩ := fields_prune c (U ∪ p.columnReferences.toFinset) h
      exact ⟨fc', hc', hp.mono fun x hx => Finset.mem_union_left _ hx⟩
  | orderByNode c by_, U, fs, h => by
      obtain ⟨fc', hc', hp⟩ :=
        fields_prune c (U ∪ (by_.flatMap (·.referencedColumns)).toFinset) h
      exact ⟨fc', hc', hp.mono fun x hx => Finset.mem_union_left _ hx⟩
  | reversedNode c _, U, fs, h | reprojectOpNode c, U, fs, h
  | randomSampleNode c _, U, fs, h => fields_prune c U h
  | selectionNode c pairs, U, fs, h => by
      simp only [fields, Option.bind_eq_bind, Option.bind_eq_some] at h
      obtain ⟨fc, hc, hfs⟩ := h
      obtain ⟨fc', hc', hp⟩ := fields_prune c ((pairs.filter (·.2 ∈ U)).map (·.1)).toFinset hc
      refine ⟨restrict U fs, ?_, PrunedFrom.restrict U fs⟩
      simp only [prune, fields, hc', Option.bind_eq_bind, Option.some_bind]
      rw [mapM_congr fun q hq => by
        rw [hp.2 q.1 (List.mem_toFinset.mpr (List.mem_map_of_mem _ hq))]]
      exact mapM_filter_key U (fun _ _ => Field.id_of_map_mk) hfs
  | projectionNode c assignments, U, fs, h => by
      simp only [fields, Option.bind_eq_bind, Option.bind_eq_some, Option.pure_def,
        Option.some.injEq] at h
      obtain ⟨fc, hc, newFields, hnew, rfl⟩ := h
      have hres := mapM_filter_key U (fun _ _ => Field.id_of_map_mk) hnew
      by_cases hP : (assignments.filter (·.2 ∈ U)).length = 0
      · obtain ⟨fc', hc', hp⟩ := fields_prune c U hc
        refine ⟨fc', by simpa [prune, hP] using hc', hp.append_right _ fun f hf hfU => ?_⟩
        rw [List.length_eq_zero.mp hP, List.mapM_nil, Option.pure_def, Option.some.injEq]
          at hres
        have : f ∈ restrict U newFields := List.mem_filter.mpr ⟨hf, by simpa using hfU⟩
        simp [← hres] at this
      · obtain ⟨fc', hc', hp⟩ := fields_prune c
          (U ∪ ((assignments.filter (·.2 ∈ U)).flatMap (·.1.columnReferences)).toFinset) hc
        refine ⟨fc' ++ restrict U newFields, ?_,
          (hp.mono fun x hx => Finset.mem_union_left _ hx).append (PrunedFrom.restrict U _)⟩
        simp only [prune, hP, if_false, fields, hc', Option.bind_eq_bind, Option.some_bind]
        rw [mapM_congr fun a ha => by
          rw [T.outputType_local a.1 (dtypeLookup fc') (dtypeLookup fc) fun r hr =>
            hp.2 r (Finset.mem_union_right _ (List.mem_toFinset.mpr
              (List.mem_flatMap.mpr ⟨a, ha, hr⟩)))], hres]
        rfl
  | rowCountNode c, U, fs, h => ⟨fs, h, PrunedFrom.refl U fs⟩
  | aggregateNode c aggs byIds dropna, U, fs, h => by
      simp only [fields, Option.bind_eq_bind, Option.bind_eq_some, Option.pure_def,
        Option.some.injEq] at h
      obtain ⟨fc, hc, byItems, hby, aggItems, haggs, rfl⟩ := h
      obtain ⟨fc', hc', hp⟩ := fields_prune c
        (byIds ++ (aggs.filter (·.2 ∈ U)).flatMap (·.1.columnReferences)).toFinset hc
      refine ⟨byItems ++ restrict U aggItems, ?_,
        (PrunedFrom.refl U byItems).append (PrunedFrom.restrict U _)⟩
      simp only [prune, fields, hc', Option.bind_eq_bind, Option.some_bind]
      rw [mapM_congr fun r hr => by
        rw [hp.2 r (List.mem_toFinset.mpr (List.mem_append_left _ hr))], hby,
        Option.some_bind, mapM_congr fun a ha => by
        rw [T.aggOutputType_local a.1 (dtypeLookup fc') (dtypeLookup fc) fun r hr =>
          hp.2 r (List.mem_toFinset.mpr (List.mem_append_right _
            (List.mem_flatMap.mpr ⟨a, ha, hr⟩)))],
        mapM_filter_key U (fun _ _ => Field.id_of_map_mk) haggs]
      rfl
  | windowOpNode c col op spec out nsn sru, U, fs, h => by
      simp only [fields, Option.bind_eq_bind, Option.bind_eq_some, Option.pure_def,
        Option.some.injEq] at h
      obtain ⟨fc, hc, t, ht, t', ht', rfl⟩ := h
      by_cases hout : out ∈ U
      · obtain ⟨fc', hc', hp⟩ := fields_prune c (U \ {out} ∪ {col}) hc
        have hcol : dtypeLookup fc' col = dtypeLookup fc col := hp.2 col (by simp)
        exact ⟨fc' ++ [⟨out, t'⟩], by simp [prune, hout, fields, hc', hcol, ht, ht'],
          hp.snoc _ fun x hx hne => by simp [hx, hne]⟩
      · exact ⟨fc, by simp [prune, hout, hc],
          (PrunedFrom.refl U fc).append_right _ (by simpa using hout)⟩
  | explodeNode c cols, U, fs, h => by
      simp only [fields, Option.bind_eq_bind, Option.bind_eq_some] at h
      obtain ⟨fc, hc, hfs⟩ := h
      obtain ⟨fc', hc', hp⟩ := fields_prune c (U ∪ cols.toFinset) hc
      have hid : ∀ (gs : List Field) f f', explodeField T cols gs f = some f' → f'.id = f.id :=
        fun _ _ _ => explodeField_id T
      have hagree : ∀ f : Field, f.id ∈ U ∪ cols.toFinset →
          explodeField T cols fc' f = explodeField T cols fc f := by
        intro f hf
        simp only [explodeField, hp.2 f.id hf]
      have hall := (mapM_isSome_iff _ fc).mp (by rw [hfs]; rfl)
      obtain ⟨fs', hfs'⟩ := Option.isSome_iff_exists.mp
        ((mapM_isSome_iff (explodeField T cols fc') fc').mpr fun f hf => by
        by_cases hfc : f.id ∈ cols
        · obtain ⟨g, hg, hgf⟩ := List.mem_map.mp (hp.1.subset (List.mem_map_of_mem _ hf))
          have := hall g hg
          rw [hagree f (Finset.mem_union_right _ (List.mem_toFinset.mpr hfc))]
          simpa [explodeField, hfc, hgf] using this
        · simp [explodeField, hfc])
      refine ⟨fs', by simpa [prune, fields, hc'] using hfs', ?_, fun x hx => ?_⟩
      · rw [map_id_of_mapM (hid fc') hfs', map_id_of_mapM (hid fc) hfs]
        exact hp.1
      · have hfind := find?_reverse_eq_of_dtypeLookup_eq (hp.2 x (Finset.mem_union_left _ hx))
        simp only [dtypeLookup, find?_reverse_mapM (hid fc') hfs', find?_reverse_mapM (hid fc) hfs,
          hfind]
        cases hf : fc.reverse.find? (fun f => f.id = x) with
        | none => rfl
        | some f =>
            have hfx : f.id = x := by simpa using List.find?_some hf
            simp only [Option.some_bind, hagree f (by simp [hfx, hx])]
  | joinNode l r conds ty, U, fs, h => by
      simp only [fields, Option.bind_eq_bind, Option.bind_eq_some, Option.pure_def,
        Option.some.injEq] at h
      obtain ⟨fl, hl, fr, hr, rfl⟩ := h
      obtain ⟨fl', hl', hpl⟩ :=
        fields_prune l (U ∪ (conds.flatMap fun p => [p.1, p.2]).toFinset) hl
      obtain ⟨fr', hr', hpr⟩ :=
        fields_prune r (U ∪ (conds.flatMap fun p => [p.1, p.2]).toFinset) hr
      exact ⟨fl' ++ fr', by simp [prune, fields, hl', hr'],
        (hpl.mono fun x hx => Finset.mem_union_left _ hx).append
          (hpr.mono fun x hx => Finset.mem_union_left _ hx)⟩
  | concatNode _, U, fs, h | fromRangeNode .., U, fs, h => ⟨fs, h, PrunedFrom.refl U fs⟩

/-- INTERNAL: over a schema with distinct ids, a pruned schema agrees with it on `U` exactly. -/
theorem restrict_eq_of_prunedFrom {U : ColumnSet} {fs' fs : List Field}
    (hnd : (fs.map (·.id)).Nodup) (h : PrunedFrom U fs' fs) : restrict U fs' = restrict U fs := by
  have hnd' := hnd.sublist h.1
  have hmem : ∀ x ∈ U, x ∈ fs'.map (·.id) ↔ x ∈ fs.map (·.id) := fun x hx => by
    rw [← dtypeLookup_isSome_iff, ← dtypeLookup_isSome_iff, h.2 x hx]
  have hids : (fs'.map (·.id)).filter (· ∈ U) = (fs.map (·.id)).filter (· ∈ U) := by
    refine (h.1.filter _).eq_of_length (List.Perm.length_eq ?_)
    refine (List.perm_ext_iff_of_nodup (hnd'.filter _) (hnd.filter _)).mpr fun x => ?_
    simp only [List.mem_filter, decide_eq_true_eq]
    exact ⟨fun ⟨hx, hxU⟩ => ⟨(hmem x hxU).mp hx, hxU⟩, fun ⟨hx, hxU⟩ => ⟨(hmem x hxU).mpr hx, hxU⟩⟩
  rw [restrict_eq_map_dtypeLookup U hnd, restrict_eq_map_dtypeLookup U hnd', hids]
  exact List.map_congr_left fun x hx => by
    rw [h.2 x (by simpa using (List.mem_filter.mp hx).2)]

/-- Pruning keeps the requested schema exactly: on a well-formed tree, the fields of
`prune n U` whose ids are in `U` are those of `n`, with the same dtypes, in the same order. -/
theorem prune_restrict_fields {n : BigFrameNode} (h : WellFormed T n) (U : ColumnSet) :
    ∃ fs fs', fields T n = some fs ∧ fields T (prune n U) = some fs' ∧
      restrict U fs' = restrict U fs := by
  obtain ⟨⟨fs, hfs, hnd⟩, -⟩ := h.self
  obtain ⟨fs', hfs', hp⟩ := fields_prune T n U hfs
  exact ⟨fs, fs', hfs, hfs', restrict_eq_of_prunedFrom hnd hp⟩

/-- A filter on `a` over a read of `a`, `b`, `c`. -/
def filterOverRead : BigFrameNode :=
  filterNode
    (readLocalNode [] ⟨[]⟩ 2
      ⟨[⟨⟨"a"⟩, intDtype, "a"⟩, ⟨⟨"b"⟩, intDtype, "b"⟩, ⟨⟨"c"⟩, intDtype, "c"⟩]⟩ none)
    ⟨"gt", [⟨"a"⟩], false⟩

/-- INTERNAL: `filterOverRead` is well formed. -/
theorem wellFormed_filterOverRead : WellFormed ExprTyping.firstInputType filterOverRead :=
  Every.of_leaf_child (by decide) rfl (by decide) rfl

/-- `prune_restrict_fields` on `filterOverRead` asked for `b`: the read keeps `a` for the
filter, drops `c`, and `b` keeps its type. -/
theorem prune_restrict_fields_filterOverRead :
    WellFormed ExprTyping.firstInputType filterOverRead ∧
      ∃ fs fs', fields ExprTyping.firstInputType filterOverRead = some fs ∧
        fields ExprTyping.firstInputType (prune filterOverRead {⟨"b"⟩}) = some fs' ∧
        restrict {⟨"b"⟩} fs' = restrict {⟨"b"⟩} fs :=
  ⟨wellFormed_filterOverRead,
    prune_restrict_fields ExprTyping.firstInputType wellFormed_filterOverRead {⟨"b"⟩}⟩

/-! ## Pruning a tree built by successful constructor calls -/

/-- INTERNAL: the ids of a pruned node are among the original's. -/
theorem ids_prune_subset {n : BigFrameNode} {fs : List Field} (h : fields T n = some fs)
    (U : ColumnSet) : ∀ c ∈ ids T (prune n U), c ∈ ids T n := by
  obtain ⟨fs', hfs', hp⟩ := fields_prune T n U h
  intro c hc
  simp only [ids, hfs', h, Option.getD_some] at hc ⊢
  exact hp.1.subset hc

/-- INTERNAL: a requested id of a node survives pruning. -/
theorem mem_ids_prune {n : BigFrameNode} {U : ColumnSet} {x : ColumnId} (hx : x ∈ U)
    (hn : x ∈ ids T n) : x ∈ ids T (prune n U) := by
  cases h : fields T n with
  | none => simp [ids, h] at hn
  | some fs =>
      obtain ⟨fs', hfs', hp⟩ := fields_prune T n U h
      simp only [ids, hfs', h, Option.getD_some] at hn ⊢
      rwa [← dtypeLookup_isSome_iff, hp.2 x hx, dtypeLookup_isSome_iff]

/-- INTERNAL: a node whose own constructor succeeded and whose children are built ok. -/
theorem builtOk_intro {nameEq : ColumnId → String → Bool} {m : BigFrameNode}
    (hpost : postInit T nameEq m = .ok ()) (hfields : (fields T m).isSome)
    (hc : ∀ d ∈ childNodes m, BuiltOk T nameEq d) : BuiltOk T nameEq m :=
  Every.intro m ⟨hpost, hfields⟩ hc

/-- INTERNAL: the rebuilt node's schema exists, by `fields_prune`. -/
theorem fields_prune_isSome {nameEq : ColumnId → String → Bool} {n : BigFrameNode}
    (h : BuiltOk T nameEq n) (U : ColumnSet) : (fields T (prune n U)).isSome := by
  obtain ⟨fs, hfs⟩ := Option.isSome_iff_exists.mp h.self.2
  obtain ⟨fs', hfs', -⟩ := fields_prune T n U hfs
  simp [hfs']

/-- INTERNAL: pruning keeps every node's constructor checks passing and its schema computable.
PYLINE: nodes.py:280-335, 565-573, 615-634, 768-799 -/
theorem builtOk_prune (nameEq : ColumnId → String → Bool) :
    ∀ (n : BigFrameNode), BuiltOk T nameEq n → ∀ U, BuiltOk T nameEq (prune n U) := by
  intro n h U
  induction n, U using pruneInduction
  case readLocal => exact builtOk_intro T rfl (fields_prune_isSome T h _) fun _ hd => nomatch hd
  case readTable =>
    refine builtOk_intro T ?_ (fields_prune_isSome T h _) fun _ hd => nomatch hd
    have := (postInit_readTableNode T).mp h.self.1
    exact (postInit_readTableNode T).mpr fun s hs => this s (List.mem_of_mem_filter hs)
  case cachedTable =>
    refine builtOk_intro T ?_ (fields_prune_isSome T h _) fun _ hd => nomatch hd
    have := (postInit_cachedTableNode T).mp h.self.1
    exact (postInit_cachedTableNode T).mpr fun s hs => this s (List.mem_of_mem_filter hs)
  case promoteOffsetsDropped c _ _ hcol ih | projectionDropped c _ _ _ hcol ih =>
    rw [prune, if_pos hcol]; exact ih (h.child (List.mem_singleton_self c))
  case windowOpDropped c _ _ _ _ _ _ _ hout =>
    rw [prune, if_pos hout]; exact h.child (List.mem_singleton_self c)
  case promoteOffsets c _ U hcol ih | windowOp c _ _ _ _ _ _ U hcol ih =>
    have hp := fields_prune_isSome T h U
    rw [prune, if_neg hcol] at hp ⊢
    exact Every.of_child ⟨rfl, hp⟩ rfl (ih (h.child (List.mem_singleton_self c)))
  case concat | fromRange => exact h
  case projection c as U _ hP ih =>
    have hp := fields_prune_isSome T h U
    rw [prune, if_neg hP] at hp ⊢
    refine Every.of_child ⟨?_, hp⟩ rfl (ih (h.child (List.mem_singleton_self c)))
    obtain ⟨fc, hfc, htypes, hnames⟩ := (postInit_projectionNode T).mp h.self.1
    obtain ⟨fc', hfc', hpf⟩ := fields_prune T c
      (U ∪ ((as.filter (·.2 ∈ U)).flatMap (·.1.columnReferences)).toFinset) hfc
    refine (postInit_projectionNode T).mpr ⟨fc', hfc', fun a ha => ?_, fun a ha f hf => ?_⟩
    · rw [T.outputType_local a.1 (dtypeLookup fc') (dtypeLookup fc) fun r hr =>
        hpf.2 r (Finset.mem_union_right _ (List.mem_toFinset.mpr
          (List.mem_flatMap.mpr ⟨a, ha, hr⟩)))]
      exact htypes a (List.mem_of_mem_filter ha)
    · obtain ⟨g, hg, hgf⟩ := List.mem_map.mp (hpf.1.subset (List.mem_map_of_mem _ hf))
      simpa [hgf] using hnames a (List.mem_of_mem_filter ha) g hg
  case join l r conds ty U _ ihl ihr =>
    have hl : l ∈ childNodes (joinNode l r conds ty) := List.mem_cons_self l _
    have hr : r ∈ childNodes (joinNode l r conds ty) :=
      List.mem_cons_of_mem l (List.mem_singleton_self r)
    refine builtOk_intro T ?_ (fields_prune_isSome T h U) ?_
    · obtain ⟨a, b, ha, hb, hdisj⟩ := (postInit_joinNode T).mp h.self.1
      obtain ⟨a', ha', hpa⟩ :=
        fields_prune T l (U ∪ (conds.flatMap fun p => [p.1, p.2]).toFinset) ha
      obtain ⟨b', hb', hpb⟩ :=
        fields_prune T r (U ∪ (conds.flatMap fun p => [p.1, p.2]).toFinset) hb
      refine (postInit_joinNode T).mpr ⟨a', b', ha', hb', fun f hf g hg hfg => ?_⟩
      obtain ⟨f0, hf0, hf0id⟩ := List.mem_map.mp (hpa.1.subset (List.mem_map_of_mem _ hf))
      obtain ⟨g0, hg0, hg0id⟩ := List.mem_map.mp (hpb.1.subset (List.mem_map_of_mem _ hg))
      exact hdisj f0 hf0 g0 hg0 (by rw [hf0id, hg0id, hfg])
    · simpa [prune, childNodes] using ⟨ihl (h.child hl), ihr (h.child hr)⟩
  all_goals
    exact Every.of_child ⟨rfl, fields_prune_isSome T h _⟩ rfl
      (‹BuiltOk T nameEq _ → BuiltOk T nameEq _› (h.child (List.mem_singleton_self _)))

/-- Pruning a tree built by successful constructor calls never fails and never invents
columns: every node of `prune n U`, the rebuilt ones included, passes its constructor's checks
and has a schema, and every id of `prune n U` is an id of `n`. -/
theorem prune_builtOk (nameEq : ColumnId → String → Bool) {n : BigFrameNode}
    (h : BuiltOk T nameEq n) (U : ColumnSet) :
    BuiltOk T nameEq (prune n U) ∧ ∀ c ∈ ids T (prune n U), c ∈ ids T n := by
  obtain ⟨fs, hfs⟩ := Option.isSome_iff_exists.mp h.self.2
  exact ⟨builtOk_prune T nameEq n h U, ids_prune_subset T hfs U⟩

/-- INTERNAL: `filterOverRead` was built by successful constructor calls. -/
theorem builtOk_filterOverRead :
    BuiltOk ExprTyping.firstInputType (fun _ _ => false) filterOverRead :=
  Every.of_leaf_child (by decide) rfl (by decide) rfl

/-- `prune_builtOk` on `filterOverRead` asked for `b`, with `ColumnId`s never equal to a name. -/
theorem prune_builtOk_filterOverRead :
    BuiltOk ExprTyping.firstInputType (fun _ _ => false) filterOverRead ∧
      (BuiltOk ExprTyping.firstInputType (fun _ _ => false) (prune filterOverRead {⟨"b"⟩}) ∧
        ∀ c ∈ ids ExprTyping.firstInputType (prune filterOverRead {⟨"b"⟩}),
          c ∈ ids ExprTyping.firstInputType filterOverRead) :=
  ⟨builtOk_filterOverRead,
    prune_builtOk ExprTyping.firstInputType (fun _ _ => false) builtOk_filterOverRead {⟨"b"⟩}⟩

/-! ## The two sides of a join

`JoinNode.prune` (nodes.py:330-335) means to keep a column on each side, "if this is a cross
join", but adds only the columns of the join conditions to the used set. A join with a condition
keeps its key columns, one on each side; a cross join has none, and a side none of whose columns
is used is pruned to no column at all. -/

/-- Pruning a join with at least one condition, whose keys are ids of the sides it reads them
from, keeps a column on each side, whatever the used columns.
PYLINE: nodes.py:330-335 -/
theorem prune_keyedJoin_keeps_sides {l r : BigFrameNode} {conditions : List (ColumnId × ColumnId)}
    {type : JoinType} (hk : conditions ≠ []) (hs : ReadsScoped T (joinNode l r conditions type))
    (U : ColumnSet) :
    ∀ c ∈ childNodes (prune (joinNode l r conditions type) U), ids T c ≠ [] := by
  obtain ⟨p, hp⟩ := List.exists_mem_of_ne_nil conditions hk
  have hl : p.1 ∈ ids T l := hs _ (List.mem_cons_self _ _) _ (List.mem_map_of_mem _ hp)
  have hr : p.2 ∈ ids T r :=
    hs _ (List.mem_cons_of_mem _ (List.mem_singleton_self _)) _ (List.mem_map_of_mem _ hp)
  have hkeys : ∀ x ∈ [p.1, p.2], x ∈ U ∪ (conditions.flatMap fun p => [p.1, p.2]).toFinset :=
    fun x hx => Finset.mem_union_right _ (List.mem_toFinset.mpr (List.mem_flatMap.mpr ⟨p, hp, hx⟩))
  intro c hc
  simp only [prune, childNodes, List.mem_cons, List.mem_singleton, List.not_mem_nil,
    or_false] at hc
  rcases hc with rfl | rfl
  · exact List.ne_nil_of_mem (mem_ids_prune T (hkeys _ (List.mem_cons_self _ _)) hl)
  · exact List.ne_nil_of_mem (mem_ids_prune T (hkeys _ (List.mem_cons_of_mem _
      (List.mem_singleton_self _))) hr)

/-- An inner join of a read of `a` and a read of `b`, on `a = b`. -/
def innerJoinOfReads : BigFrameNode :=
  joinNode (readLocalNode [] ⟨[]⟩ 1 ⟨[⟨⟨"a"⟩, intDtype, "a"⟩]⟩ none)
    (readLocalNode [] ⟨[]⟩ 1 ⟨[⟨⟨"b"⟩, intDtype, "b"⟩]⟩ none) [(⟨"a"⟩, ⟨"b"⟩)] .inner

/-- `prune_keyedJoin_keeps_sides` on `innerJoinOfReads` with no column used. -/
theorem prune_innerJoinOfReads_keeps_sides :
    [((⟨"a"⟩ : ColumnId), (⟨"b"⟩ : ColumnId))] ≠ [] ∧
      ReadsScoped ExprTyping.firstInputType innerJoinOfReads ∧
      ∀ c ∈ childNodes (prune innerJoinOfReads ∅), ids ExprTyping.firstInputType c ≠ [] :=
  ⟨by decide, by decide,
    prune_keyedJoin_keeps_sides ExprTyping.firstInputType (by decide) (by decide) ∅⟩

/-- A cross join of a read of `a` and a read of `b`. -/
def crossJoinOfReads : BigFrameNode :=
  joinNode (readLocalNode [] ⟨[]⟩ 1 ⟨[⟨⟨"a"⟩, intDtype, "a"⟩]⟩ none)
    (readLocalNode [] ⟨[]⟩ 1 ⟨[⟨⟨"b"⟩, intDtype, "b"⟩]⟩ none) [] .cross

/-- INTERNAL: `crossJoinOfReads` is well formed. -/
theorem wellFormed_crossJoinOfReads : WellFormed ExprTyping.firstInputType crossJoinOfReads :=
  Every.intro _ (by decide) fun c hc => by
    simp only [crossJoinOfReads, childNodes, List.mem_cons, List.mem_singleton,
      List.not_mem_nil, or_false] at hc
    rcases hc with rfl | rfl <;> exact Every.intro _ (by decide) fun d hd => nomatch hd

/-- Pruning the well-formed `crossJoinOfReads`, each of whose sides has a column, to no column
leaves both sides with no column. -/
theorem prune_crossJoinOfReads_empties_sides :
    WellFormed ExprTyping.firstInputType crossJoinOfReads ∧
      (∀ c ∈ childNodes crossJoinOfReads, ids ExprTyping.firstInputType c ≠ []) ∧
      ∀ c ∈ childNodes (prune crossJoinOfReads ∅), fields ExprTyping.firstInputType c = some [] :=
  ⟨wellFormed_crossJoinOfReads, by decide, by decide⟩

end BigFrameNode

end BigFrames
