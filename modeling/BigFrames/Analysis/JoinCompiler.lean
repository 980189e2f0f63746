import BigFrames.Model.Basic
import BigFrames.Program.SingleColumn

/-!
# Join keys and the renaming of the two sides

Two results about `single_column.py`.

*Join keys.* `value_to_join_key` matches two nulls, and two non-null values exactly when they
are equal, once their texts are injective. But the null sentinel is itself a text. A null key
and a non-null key whose text is `"$NULL_SENTINEL$"` get the same join key
(`valueToJoinKey_eq_iff`). A string column holds such a value, and there the join conditions
match the string with a null (`valueToJoinKey_null_eq_sentinel`).

*Fresh names.* The ordered join renames the left and right visible columns with consecutive
standard identifiers, and the hidden columns with consecutive guids. So the four groups of
names are pairwise distinct, every lookup finds its name, and the output columns are the left
columns' names followed by the right columns' names (`joinByColumn_names_distinct`). The proof
is one computation, `drawNames_eq`: each side draws a run of the counter.
-/

set_option autoImplicit false

namespace BigFrames

/-! ## Join keys -/

section

variable {α : Type}

/-- The text of a non-null key value: the string itself in a string column, its cast
otherwise. -/
def KeyType.text (ty : KeyType α) (v : α) : String :=
  if ty.isString then ty.str v else ty.cast v

/-- INTERNAL: a null key gets the null sentinel. -/
@[simp]
theorem valueToJoinKey_none (ty : KeyType α) : valueToJoinKey ty none = nullSentinel := by
  cases h : ty.isString <;> simp [valueToJoinKey, h]

/-- INTERNAL: a non-null key gets its text. -/
@[simp]
theorem valueToJoinKey_some (ty : KeyType α) (v : α) : valueToJoinKey ty (some v) = ty.text v := by
  cases h : ty.isString <;> simp [valueToJoinKey, KeyType.text, h]

/-- For a key type whose texts are injective, two keys get the same join key exactly when they
are equal, or when one is null and the other's text is the null sentinel.
PYLINE: single_column.py:178-182 -/
theorem valueToJoinKey_eq_iff (ty : KeyType α) (hinj : Function.Injective ty.text)
    (x y : Option α) :
    valueToJoinKey ty x = valueToJoinKey ty y ↔
      x = y ∨ (x = none ∧ ∃ v, y = some v ∧ ty.text v = nullSentinel) ∨
        (y = none ∧ ∃ v, x = some v ∧ ty.text v = nullSentinel) := by
  cases x <;> cases y <;> simp [hinj.eq_iff, eq_comm]

/-- INTERNAL: the join conditions match two keys of one type exactly when their join keys
agree. -/
theorem joinConditionHolds_iff (ty : KeyType α) (x y : Option α) :
    joinConditionHolds ty ty x y = true ↔ valueToJoinKey ty x = valueToJoinKey ty y := by
  simp [joinConditionHolds]

end

/-- The key type of a string column: the value is its own text. -/
def stringKey : KeyType String := ⟨true, id, id⟩

/-- INTERNAL: a string key's text is the string, so distinct strings have distinct texts. -/
theorem stringKey_text_injective : Function.Injective stringKey.text := fun _ _ h => h

/-- `valueToJoinKey_eq_iff` on a string column, at a null and the sentinel's text. -/
theorem valueToJoinKey_eq_iff_stringKey :
    Function.Injective stringKey.text ∧
      (valueToJoinKey stringKey none = valueToJoinKey stringKey (some nullSentinel) ↔
        none = some nullSentinel ∨
          ((none : Option String) = none ∧
            ∃ v, some nullSentinel = some v ∧ stringKey.text v = nullSentinel) ∨
          (some nullSentinel = none ∧
            ∃ v, (none : Option String) = some v ∧ stringKey.text v = nullSentinel)) :=
  ⟨stringKey_text_injective,
    valueToJoinKey_eq_iff stringKey stringKey_text_injective none (some nullSentinel)⟩

/-- In a string column, whose texts are injective, a null key and the string
`"$NULL_SENTINEL$"` get the same join key, and the join conditions match them. -/
theorem valueToJoinKey_null_eq_sentinel :
    Function.Injective stringKey.text ∧ (none : Option String) ≠ some nullSentinel ∧
      valueToJoinKey stringKey none = valueToJoinKey stringKey (some nullSentinel) ∧
      joinConditionHolds stringKey stringKey none (some nullSentinel) = true :=
  ⟨stringKey_text_injective, Option.noConfusion, rfl, by decide⟩

/-! ## Lookups in the renamings -/

/-- INTERNAL: each key draws the next name, and the counter moves on by the number of keys.
PYLINE: single_column.py:55-64, 146-148 -/
theorem drawNames_eq (draw : Nat → String) (keys : List String) (next : Nat) :
    drawNames draw keys next =
      (keys.zip ((List.range' next keys.length).map draw), next + keys.length) := by
  induction keys generalizing next with
  | nil => rfl
  | cons k ks ih =>
      simp only [drawNames, ih, List.length_cons, List.range'_succ, List.map_cons,
        List.zip_cons_cons, Prod.mk.injEq, true_and]
      omega

/-- INTERNAL: a later pair wins. -/
theorem dictLookup_append (a b : List (String × String)) (key : String) :
    dictLookup (a ++ b) key = (dictLookup b key).or (dictLookup a key) := by
  induction a with
  | nil => simp [dictLookup]
  | cons p a ih => simp [dictLookup, ih, Option.or_assoc]

/-- INTERNAL: a key no pair carries is a `KeyError`. -/
theorem dictLookup_of_not_mem {m : List (String × String)} {key : String}
    (h : key ∉ m.map Prod.fst) : dictLookup m key = none := by
  induction m with
  | nil => rfl
  | cons p m ih =>
      simp only [List.map_cons, List.mem_cons, not_or] at h
      simp [dictLookup, ih h.2, Ne.symm h.1]

/-- INTERNAL: looking up duplicate-free keys in the dict they were zipped into gives back the
values. -/
theorem mapM_dictLookup_zip {keys : List String} (vals : List String) (hnd : keys.Nodup)
    (hlen : keys.length = vals.length) : keys.mapM (dictLookup (keys.zip vals)) = some vals := by
  induction keys generalizing vals with
  | nil =>
      cases vals with
      | nil => rfl
      | cons => simp at hlen
  | cons k ks ih =>
      cases vals with
      | nil => simp at hlen
      | cons v vs =>
          simp only [List.nodup_cons, List.length_cons, Nat.add_right_cancel_iff] at hnd hlen
          have hk : dictLookup (ks.zip vs) k = none :=
            dictLookup_of_not_mem (by rw [List.map_fst_zip _ _ hlen.le]; exact hnd.1)
          have hrest : ks.mapM (dictLookup ((k, v) :: ks.zip vs)) =
              ks.mapM (dictLookup (ks.zip vs)) :=
            mapM_congr fun k' hk' => by
              simp [dictLookup, show k ≠ k' from fun h => hnd.1 (h ▸ hk')]
          rw [List.zip_cons_cons, List.mapM_cons, hrest, ih vs hnd.2 hlen]
          simp [dictLookup, hk]

/-- INTERNAL: one side of the ordered join. Its visible ids are zipped with `vals` and its hidden
ids with `hvals`, and the merged dict finds every id's name.
PYLINE: single_column.py:56-67, 103-115 -/
theorem side_lookups {ids hidden : List String} (vals hvals : List String)
    (h : (ids ++ hidden).Nodup) (hv : ids.length = vals.length)
    (hh : hidden.length = hvals.length) :
    ids.mapM (dictLookup (ids.zip vals ++ hidden.zip hvals)) = some vals ∧
      hidden.mapM (dictLookup (hidden.zip hvals)) = some hvals ∧
      hidden.mapM (dictLookup (ids.zip vals ++ hidden.zip hvals)) = some hvals := by
  obtain ⟨hids, hhid, hdisj⟩ := List.nodup_append.mp h
  have hhidden := mapM_dictLookup_zip hvals hhid hh
  refine ⟨?_, hhidden, ?_⟩
  · rw [← mapM_dictLookup_zip vals hids hv]
    refine mapM_congr fun k hk => ?_
    rw [dictLookup_append,
      dictLookup_of_not_mem (by rw [List.map_fst_zip _ _ hh.le]; exact hdisj hk), Option.none_or]
  · rw [← hhidden]
    refine mapM_congr fun k hk => ?_
    obtain ⟨x, hx⟩ := Option.isSome_iff_exists.mp
      ((mapM_isSome_iff _ hidden).mp (by rw [hhidden]; rfl) k hk)
    rw [dictLookup_append, hx]
    rfl

/-- INTERNAL: runs of standard identifiers and runs of guids drawn from one counter each are
pairwise distinct. -/
theorem drawn_names_nodup (names : NameSupply) (m k c hl hr : Nat) :
    ((List.range' 0 m).map names.standardIdentifiers ++
        (List.range' m k).map names.standardIdentifiers ++
        (List.range' c hl).map (names.generateGuid "hidden_") ++
        (List.range' (c + hl) hr).map (names.generateGuid "hidden_")).Nodup := by
  have hstd : List.range' 0 m ++ List.range' m k = List.range' 0 (k + m) := by
    simpa using List.range'_append_1 0 m k
  rw [← List.map_append, hstd, List.append_assoc, ← List.map_append, List.range'_append_1]
  refine List.nodup_append.mpr ⟨(List.nodup_range' _ _).map names.standardIdentifiers_injective,
    (List.nodup_range' _ _).map (names.generateGuid_injective _), ?_⟩
  intro x hx hx'
  obtain ⟨i, -, rfl⟩ := List.mem_map.mp hx
  obtain ⟨n, -, hn⟩ := List.mem_map.mp hx'
  exact names.generateGuid_ne_standardIdentifiers _ n i hn

/-! ## The renaming keeps the sides apart -/

/-- The join compiler draws disjoint fresh names. For inputs whose visible and hidden column ids
are duplicate-free and disjoint on each side, the ordered join finds a name for every column.
The names of the left visible, right visible, left hidden and right hidden columns are pairwise
distinct. The output columns are the left columns' names followed by the right columns' names,
and likewise for the hidden ordering columns. In the unordered join the two renamings are
injective on their sides, with disjoint ranges.
PYLINE: single_column.py:54-121, 146-175 -/
theorem joinByColumn_names_distinct (names : NameSupply) (left right : OrderedIR) (counter : Nat)
    (hl : (left.columnIds ++ left.hiddenColumnIds).Nodup)
    (hr : (right.columnIds ++ right.hiddenColumnIds).Nodup) (uleft uright : UnorderedIR)
    (hul : uleft.columnIds.Nodup) (hur : uright.columnIds.Nodup) :
    (∃ j lv rv lh rh, (joinByColumnOrdered names left right counter).1 = some j ∧
      left.columnIds.mapM (dictLookup j.lMapping) = some lv ∧
      right.columnIds.mapM (dictLookup j.rMapping) = some rv ∧
      left.hiddenColumnIds.mapM (dictLookup j.lMapping) = some lh ∧
      right.hiddenColumnIds.mapM (dictLookup j.rMapping) = some rh ∧
      (lv ++ rv ++ lh ++ rh).Nodup ∧ j.columns = lv ++ rv ∧
      j.hiddenOrderingColumns = lh ++ rh) ∧
    (∃ j lv rv, joinByColumnUnordered names uleft uright = some j ∧
      uleft.columnIds.mapM (dictLookup j.lMapping) = some lv ∧
      uright.columnIds.mapM (dictLookup j.rMapping) = some rv ∧
      (lv ++ rv).Nodup ∧ j.columns = lv ++ rv) := by
  constructor
  · obtain ⟨hlv, hlh, hlh'⟩ := side_lookups
      ((List.range' 0 left.columnIds.length).map names.standardIdentifiers)
      ((List.range' counter left.hiddenColumnIds.length).map (names.generateGuid "hidden_"))
      hl (by simp) (by simp)
    obtain ⟨hrv, hrh, hrh'⟩ := side_lookups
      ((List.range' left.columnIds.length right.columnIds.length).map names.standardIdentifiers)
      ((List.range' (counter + left.hiddenColumnIds.length) right.hiddenColumnIds.length).map
        (names.generateGuid "hidden_"))
      hr (by simp) (by simp)
    refine ⟨⟨_, _, _, _⟩, _, _, _, _, ?_, hlv, hrv, hlh', hrh', drawn_names_nodup names _ _ _ _ _,
      rfl, rfl⟩
    simp only [joinByColumnOrdered, drawNames_eq, Nat.zero_add, hlv, hrv, hlh, hrh]
    rfl
  · have hlv := mapM_dictLookup_zip
      ((List.range' 0 uleft.columnIds.length).map names.standardIdentifiers) hul (by simp)
    have hrv := mapM_dictLookup_zip
      ((List.range' uleft.columnIds.length uright.columnIds.length).map
        names.standardIdentifiers) hur (by simp)
    refine ⟨⟨_, _, _⟩, _, _, ?_, hlv, hrv, ?_, rfl⟩
    · simp only [joinByColumnUnordered, drawNames_eq, Nat.zero_add, hlv, hrv]
      rfl
    · simpa using drawn_names_nodup names uleft.columnIds.length uright.columnIds.length 0 0 0

/-- A name supply for examples: the `i`-th standard identifier is `i + 1` copies of `c`, and the
guid at `n` is `n + 1` copies of `g`, whatever the prefix. -/
def replicateNames : NameSupply where
  standardIdentifiers i := ⟨List.replicate (i + 1) 'c'⟩
  generateGuid _ n := ⟨List.replicate (n + 1) 'g'⟩
  standardIdentifiers_injective i j h := by
    simpa using congrArg (fun s : String => s.data.length) h
  generateGuid_injective _ i j h := by
    simpa using congrArg (fun s : String => s.data.length) h
  generateGuid_ne_standardIdentifiers _ n i h := by
    have := congrArg (fun s : String => s.data.head?) h
    simp [List.replicate_succ] at this

/-- Two ordered inputs with the same ids, `a` and `b` with hidden `h`, and `a` with hidden
`h`. -/
def sampleLeft : OrderedIR := ⟨["a", "b"], ["h"]⟩

/-- The right input of the example. -/
def sampleRight : OrderedIR := ⟨["a"], ["h"]⟩

/-- `joinByColumn_names_distinct` on `sampleLeft` and `sampleRight`, with names drawn by
`replicateNames`. -/
theorem joinByColumn_names_distinct_sample :
    (sampleLeft.columnIds ++ sampleLeft.hiddenColumnIds).Nodup ∧
    (sampleRight.columnIds ++ sampleRight.hiddenColumnIds).Nodup ∧
    (⟨["a", "b"]⟩ : UnorderedIR).columnIds.Nodup ∧ (⟨["a"]⟩ : UnorderedIR).columnIds.Nodup ∧
    (∃ j lv rv lh rh, (joinByColumnOrdered replicateNames sampleLeft sampleRight 0).1 = some j ∧
      sampleLeft.columnIds.mapM (dictLookup j.lMapping) = some lv ∧
      sampleRight.columnIds.mapM (dictLookup j.rMapping) = some rv ∧
      sampleLeft.hiddenColumnIds.mapM (dictLookup j.lMapping) = some lh ∧
      sampleRight.hiddenColumnIds.mapM (dictLookup j.rMapping) = some rh ∧
      (lv ++ rv ++ lh ++ rh).Nodup ∧ j.columns = lv ++ rv ∧
      j.hiddenOrderingColumns = lh ++ rh) ∧
    (∃ j lv rv, joinByColumnUnordered replicateNames ⟨["a", "b"]⟩ ⟨["a"]⟩ = some j ∧
      (⟨["a", "b"]⟩ : UnorderedIR).columnIds.mapM (dictLookup j.lMapping) = some lv ∧
      (⟨["a"]⟩ : UnorderedIR).columnIds.mapM (dictLookup j.rMapping) = some rv ∧
      (lv ++ rv).Nodup ∧ j.columns = lv ++ rv) :=
  ⟨by decide, by decide, by decide, by decide,
    joinByColumn_names_distinct replicateNames sampleLeft sampleRight 0 (by decide) (by decide)
      ⟨["a", "b"]⟩ ⟨["a"]⟩ (by decide) (by decide)⟩

end BigFrames
