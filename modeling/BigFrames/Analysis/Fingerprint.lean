import BigFrames.Program.DefaultOrdering

/-!
# The row fingerprint

`full_row_str` is meant to tell rows apart by their column texts. The comment in the source
says it escapes backslashes and uses a backslash as the delimiter. The escape doubles a
backslash, and the delimiter is that same backslash, so a run of backslashes can be split in
more than one way. The texts `("\\", "")` and `("", "\\")` both give four backslashes, and their
rows get the same two hash keys whatever the hash (`genDefaultOrdering_stringRow_collision`).

What does hold: the escape on its own is injective (`escapeChars_injective`). So one column's text
is recovered from its fingerprint (`fullRowStr_singleton_injective`), and so are the texts of
any row none of whose texts holds a backslash (`fullRowStr_injective_of_no_backslash`).
-/

set_option autoImplicit false

namespace BigFrames

/-! ## The fingerprint as a list of characters -/

/-- INTERNAL: the characters of `escapeBackslashes`. -/
def escapeChars (l : List Char) : List Char :=
  l.flatMap fun c => if c = '\\' then ['\\', '\\'] else [c]

/-- INTERNAL: the characters of a row's fingerprint, from the characters of its texts. -/
def fingerprintChars (texts : List (List Char)) : List Char :=
  texts.flatMap fun t => '\\' :: escapeChars t

/-- INTERNAL: the escape of no character is empty. -/
@[simp]
theorem escapeChars_nil : escapeChars [] = [] := rfl

/-- INTERNAL: the escape of a text is its first character's escape, then the rest's. -/
theorem escapeChars_cons (c : Char) (l : List Char) :
    escapeChars (c :: l) = (if c = '\\' then ['\\', '\\'] else [c]) ++ escapeChars l := rfl

/-- INTERNAL: `String.join` concatenates the characters. -/
theorem data_join (l : List String) : (String.join l).data = l.flatMap String.data := by
  suffices ∀ acc : String, (l.foldl (· ++ ·) acc).data = acc.data ++ l.flatMap String.data from
    this ""
  induction l with
  | nil => simp
  | cons s l ih => intro acc; simp [ih, String.data_append]

/-- INTERNAL: a delimited text is a backslash, then the escaped text. -/
theorem data_delimitText (t : String) : (delimitText t).data = '\\' :: escapeChars t.data := rfl

/-- INTERNAL: the delimited texts of a row, concatenated, are its fingerprint. -/
theorem flatMap_data_delimitText (texts : List String) :
    (texts.map delimitText).flatMap String.data = fingerprintChars (texts.map String.data) := by
  induction texts with
  | nil => rfl
  | cons t ts ih => rw [List.map_cons, List.flatMap_cons, ih, data_delimitText]; rfl

/-- INTERNAL: the fingerprint of a non-empty row, character by character.
PYLINE: default_ordering.py:48-55, 69-71 -/
theorem fullRowStr_map_delimitText {texts : List String} (h : texts ≠ []) :
    fullRowStr (texts.map delimitText) = some ⟨fingerprintChars (texts.map String.data)⟩ := by
  obtain ⟨t, rest, rfl⟩ := List.exists_cons_of_ne_nil h
  rw [List.map_cons, fullRowStr, Option.some.injEq, String.ext_iff]
  split_ifs with hlen
  · rw [String.data_append, data_join, flatMap_data_delimitText, data_delimitText]
    rfl
  · obtain rfl : rest = [] := by simpa using hlen
    simp [fingerprintChars, data_delimitText]

/-! ## The escape is injective -/

/-- INTERNAL: an escaped text starts with the text's first character. -/
theorem head?_escapeChars (l : List Char) : (escapeChars l).head? = l.head? := by
  cases l with
  | nil => rfl
  | cons c l => rw [escapeChars_cons]; split_ifs with h <;> simp [h]

/-- INTERNAL: doubling backslashes loses nothing: the first character of each escaped
character is that character. -/
theorem escapeChars_injective : Function.Injective escapeChars := by
  intro l l' h
  have hhead := congrArg List.head? h
  rw [head?_escapeChars, head?_escapeChars] at hhead
  induction l generalizing l' with
  | nil => cases l' <;> simp_all
  | cons a l ih =>
      cases l' with
      | nil => simp at hhead
      | cons b l' =>
          obtain rfl : a = b := by simpa using hhead
          rw [escapeChars_cons, escapeChars_cons] at h
          have h := List.append_cancel_left h
          rw [ih h (by rw [← head?_escapeChars, h, head?_escapeChars])]

/-- INTERNAL: with no backslash in a text, the escape leaves it as it is. -/
theorem escapeChars_of_not_mem {l : List Char} (h : '\\' ∉ l) : escapeChars l = l := by
  induction l with
  | nil => rfl
  | cons c l ih =>
      simp only [List.mem_cons, not_or] at h
      rw [escapeChars_cons, if_neg (Ne.symm h.1), ih h.2]
      rfl

/-- INTERNAL: a text with no backslash followed by a rest that is empty or starts with a
backslash splits in one way only. -/
theorem append_inj_of_delimited {t t' r r' : List Char} (ht : '\\' ∉ t) (ht' : '\\' ∉ t')
    (hr : r.head? = none ∨ r.head? = some '\\') (hr' : r'.head? = none ∨ r'.head? = some '\\')
    (h : t ++ r = t' ++ r') : t = t' ∧ r = r' := by
  induction t generalizing t' with
  | nil =>
      cases t' with
      | nil => exact ⟨rfl, h⟩
      | cons c t' =>
          subst h
          simp only [List.mem_cons, not_or] at ht'
          simp [Ne.symm ht'.1] at hr
  | cons c t ih =>
      cases t' with
      | nil =>
          subst h
          simp only [List.mem_cons, not_or] at ht
          simp [Ne.symm ht.1] at hr'
      | cons c' t' =>
          simp only [List.cons_append, List.cons.injEq] at h
          simp only [List.mem_cons, not_or] at ht ht'
          obtain ⟨rfl, rfl⟩ := ih ht.2 ht'.2 h.2
          exact ⟨by rw [h.1], rfl⟩

/-- INTERNAL: a fingerprint is empty or starts with a backslash. -/
theorem fingerprintChars_head? (texts : List (List Char)) :
    (fingerprintChars texts).head? = none ∨ (fingerprintChars texts).head? = some '\\' := by
  cases texts <;> simp [fingerprintChars]

/-! ## Where the fingerprint tells rows apart -/

/-- The text of a one-column row is recovered from its fingerprint, backslashes included: the
collision of `genDefaultOrdering_stringRow_collision` needs two columns. -/
theorem fullRowStr_singleton_injective {t u : String}
    (h : fullRowStr ([t].map delimitText) = fullRowStr ([u].map delimitText)) : t = u := by
  rw [fullRowStr_map_delimitText (List.cons_ne_nil t []),
    fullRowStr_map_delimitText (List.cons_ne_nil u []), Option.some.injEq, String.ext_iff] at h
  simp only [fingerprintChars, List.map_cons, List.map_nil, List.flatMap_cons, List.flatMap_nil,
    List.append_nil, List.cons.injEq, true_and] at h
  exact String.ext (escapeChars_injective h)

/-- `fullRowStr_singleton_injective` on the one-column row of a backslash. -/
theorem fullRowStr_singleton_injective_backslash :
    fullRowStr (["\\"].map delimitText) = fullRowStr (["\\"].map delimitText) ∧
      "\\" = "\\" :=
  ⟨rfl, fullRowStr_singleton_injective rfl⟩

/-- INTERNAL: rows none of whose texts holds a backslash have distinct fingerprints. -/
theorem fingerprintChars_injective_of_no_backslash :
    ∀ {ts us : List (List Char)}, (∀ t ∈ ts, '\\' ∉ t) → (∀ u ∈ us, '\\' ∉ u) →
      fingerprintChars ts = fingerprintChars us → ts = us
  | [], [], _, _, _ => rfl
  | [], _ :: _, _, _, h | _ :: _, [], _, _, h => by simp [fingerprintChars] at h
  | t :: ts, u :: us, hts, hus, h => by
      have ht := hts t (List.mem_cons_self t ts)
      have hu := hus u (List.mem_cons_self u us)
      simp only [fingerprintChars, List.flatMap_cons, List.cons_append, List.cons.injEq,
        true_and, escapeChars_of_not_mem ht, escapeChars_of_not_mem hu] at h
      obtain ⟨rfl, hrest⟩ :=
        append_inj_of_delimited ht hu (fingerprintChars_head? ts) (fingerprintChars_head? us) h
      rw [fingerprintChars_injective_of_no_backslash
        (fun t' h' => hts t' (List.mem_cons_of_mem t h'))
        (fun u' h' => hus u' (List.mem_cons_of_mem t h')) hrest]

/-- The texts of a row with no backslash in any text are recovered from its fingerprint: the
collision of `genDefaultOrdering_stringRow_collision` needs a backslash. -/
theorem fullRowStr_injective_of_no_backslash {ts us : List String} (hts : ∀ t ∈ ts, '\\' ∉ t.data)
    (hus : ∀ u ∈ us, '\\' ∉ u.data) (hne : ts ≠ []) (hne' : us ≠ [])
    (h : fullRowStr (ts.map delimitText) = fullRowStr (us.map delimitText)) : ts = us := by
  rw [fullRowStr_map_delimitText hne, fullRowStr_map_delimitText hne', Option.some.injEq,
    String.ext_iff] at h
  have := fingerprintChars_injective_of_no_backslash (by simpa using hts) (by simpa using hus) h
  exact List.map_injective_iff.mpr (fun _ _ => String.ext) this

/-- `fullRowStr_injective_of_no_backslash` on the row `["a", "b"]`. -/
theorem fullRowStr_injective_ab :
    (∀ t ∈ ["a", "b"], '\\' ∉ t.data) ∧ ["a", "b"] ≠ ([] : List String) ∧
      fullRowStr (["a", "b"].map delimitText) = fullRowStr (["a", "b"].map delimitText) ∧
      ["a", "b"] = ["a", "b"] := by
  have hts : ∀ t ∈ ["a", "b"], '\\' ∉ t.data := by decide
  exact ⟨hts, List.cons_ne_nil _ _, rfl, fullRowStr_injective_of_no_backslash hts hts
    (List.cons_ne_nil _ _) (List.cons_ne_nil _ _) rfl⟩

/-! ## The collision -/

/-- Text forms for a table of string columns. -/
def stringForms : TextForms String := ⟨id, id, id, id⟩

/-- A row of string columns holding `texts`. -/
def stringRow (texts : List String) : List (ColumnType × Option String) :=
  texts.map fun t => (.string, some t)

/-- Two rows of string columns with different texts, `("\\", "")` and `("", "\\")`, get the
same fingerprint and so the same order values, whatever the hash. -/
theorem genDefaultOrdering_stringRow_collision (hash : String → Int) (useDoubleHash : Bool) :
    stringRow ["\\", ""] ≠ stringRow ["", "\\"] ∧
      genDefaultOrdering stringForms hash useDoubleHash (stringRow ["\\", ""]) =
        genDefaultOrdering stringForms hash useDoubleHash (stringRow ["", "\\"]) :=
  ⟨by decide, rfl⟩

end BigFrames
