import CounterTable.Proofs.Name.ReadBack

/-!
# Faithful names

A name may be read in quotes of one kind and written in quotes of another. It is read back as it was
if every part that is written is balanced: its quotes close in it and no dot stands outside them.
Otherwise a text has broken out of its quotes, and another name is read, or none.

* `Segments.eq_of_intercalate`: texts cut at other places;
* **`QualifiedName.faithful_iff_balanced`**: the names that are read back;
* `QualifiedName.breaks_out`: two that are not.
-/

namespace CounterTable

open CounterTable.Text

theorem Text.length_trim_le (cs : List Char) : (trim cs).length ≤ cs.length := by
  have hstart : (trimStart cs).length ≤ cs.length := (List.dropWhile_suffix isBlank).length_le
  have hend := (List.dropWhile_suffix (l := (trimStart cs).reverse) isBlank).length_le
  rw [trim, trimEnd, List.length_reverse]
  rw [List.length_reverse] at hend
  exact Nat.le_trans hend hstart

/-! ## Texts cut at other places -/

namespace Segments

variable {sep : List Char} {xs ys : List (List Char)}

theorem length_intercalate_le (h : List.Forall₂ (fun x y => y.length ≤ x.length) xs ys) :
    (List.intercalate sep ys).length ≤ (List.intercalate sep xs).length := by
  induction h with
  | nil => exact Nat.le_refl _
  | cons hhead htail ih =>
    cases htail with
    | nil =>
      rw [List.intercalate_singleton, List.intercalate_singleton]
      exact hhead
    | cons =>
      rw [List.intercalate_cons_cons, List.intercalate_cons_cons]
      simp only [List.length_append]
      omega

/-- **A text cut at two places** each time into parts that are as long is cut at the same places. -/
theorem eq_of_intercalate (h : List.Forall₂ (fun x y => y.length ≤ x.length) xs ys)
    (heq : List.intercalate sep xs = List.intercalate sep ys) : xs = ys := by
  induction h with
  | nil => rfl
  | cons hhead htail ih =>
    cases htail with
    | nil =>
      rw [List.intercalate_singleton, List.intercalate_singleton] at heq
      rw [heq]
    | cons h hs =>
      have hrest := @length_intercalate_le sep _ _ (.cons h hs)
      rw [List.intercalate_cons_cons, List.intercalate_cons_cons] at heq
      have hlength := congrArg List.length heq
      simp only [List.length_append] at hlength
      obtain ⟨hcut, heq⟩ := List.append_inj heq (by simp only [List.length_append]; omega)
      rw [(List.append_inj hcut (by omega)).1, ih heq]

end Segments

/-! ## Names that are read back -/

theorem Identifier.Spells.length_eq {i : Identifier} {cs : List Char} (h : i.Spells cs)
    (d : Dialect) : (i.render d).toList.length = cs.length := by
  rw [toList_render]
  cases h with
  | plain hq => rw [hq]; rfl
  | quoted hq =>
    rw [hq, if_pos rfl, List.length_cons, List.length_cons, List.length_append, List.length_append]
    rfl

theorem Identifier.display_eq_render (i : Identifier) : i.display = i.render .generic := by
  unfold display render
  split <;> rfl

namespace QualifiedName

theorem display_eq_render (q : QualifiedName) : q.display = q.render .generic := by
  rw [display, render, funext Identifier.display_eq_render]

variable {d : Dialect} {q : QualifiedName}

theorem ofText_render_iff (hd : Identifier.closingQuote? d.openQuote = some d.closeQuote)
    (hqualified : q.catalog.isSome → q.schema.isSome) (hq : ∀ i ∈ q.parts, i.WellFormed) :
    ofText (q.render d) = .ok q ↔ ∀ i ∈ q.parts, Segments.Balanced (i.render d).toList := by
  constructor
  · intro h
    obtain ⟨-, segments, hsplit, hparts⟩ := ofText_eq_ok_iff.mp h
    obtain ⟨-, hjoined, hsegments⟩ := Segments.split_eq_ok_iff.mp hsplit
    rw [(Segments.solid_render hd hq).trim_eq, Segments.toList_render] at hjoined
    -- No segment is shorter than the part that is read from it, so the text is cut at its parts.
    have hlength : List.Forall₂ (fun segment written => written.length ≤ segment.length) segments
        (q.parts.map fun i => (i.render d).toList) := by
      refine List.forall₂_map_right_iff.mpr ((forall₂_of_mapM hparts).imp fun segment i hi => ?_)
      have hspells := Identifier.ofChars_eq_ok_iff.mp hi
      exact Nat.le_trans (Nat.le_of_eq (hspells.length_eq d)) (length_trim_le segment)
    have hsame := Segments.eq_of_intercalate hlength hjoined
    intro i hi
    exact (hsegments _ (hsame ▸ List.mem_map_of_mem hi)).1
  · intro h
    exact ofText_eq_ok_iff.mpr
      ⟨hqualified, _, Segments.split_render hd hq h, mapM_render hd hq⟩

/-- **The names that are read back.** A name that has been read from any text, and is written in the
quotes of a dialect, is read back exactly if its parts are balanced as they are written; so it is if
the closing quote occurs in none of them. The same holds of names in messages. -/
theorem faithful_iff_balanced {raw : String} (h : ofText raw = .ok q) :
    (∀ d ∈ Dialect.all,
      (ofText (q.render d) = .ok q ↔
        ∀ i ∈ q.parts, Segments.Balanced (i.render d).toList) ∧
      ((∀ i ∈ q.parts, i.Closed d) → ofText (q.render d) = .ok q)) ∧
    (ofText q.display = .ok q ↔ ∀ i ∈ q.parts, Segments.Balanced i.display.toList) ∧
    ((∀ i ∈ q.parts, i.quoted = true → '"' ∉ i.text.toList) → ofText q.display = .ok q) := by
  have hqualified := (ofText_eq_ok_iff.mp h).1
  have hq := wellFormed_of_ofText h
  have hrender : ∀ d ∈ Dialect.all,
      (ofText (q.render d) = .ok q ↔
        ∀ i ∈ q.parts, Segments.Balanced (i.render d).toList) ∧
      ((∀ i ∈ q.parts, i.Closed d) → ofText (q.render d) = .ok q) := by
    intro d hd
    have hquotes := Dialect.closingQuote?_of_mem hd
    have hiff := ofText_render_iff hquotes hqualified hq
    refine ⟨hiff, fun hclosed => hiff.mpr fun i hi => ?_⟩
    exact Identifier.balanced_render hquotes (hq i hi) (hclosed i hi)
  obtain ⟨hiff, hclosed⟩ := hrender .generic List.mem_cons_self
  refine ⟨hrender, ?_, ?_⟩
  · rw [display_eq_render]
    simp only [Identifier.display_eq_render]
    exact hiff
  · rw [display_eq_render]
    exact hclosed

/-- A name with dots and the quotes of other dialects in it is read back. -/
theorem faithful_mixed : ∃ q, ofText " app . [a.b\x60c] " = .ok q ∧
    q.render .generic = "app.\"a.b\x60c\"" ∧ ofText (q.render .generic) = .ok q ∧
      ofText q.display = .ok q := by
  have hread : ofText " app . [a.b\x60c] " =
      .ok ⟨none, some ⟨"app", false⟩, ⟨"a.b\x60c", true⟩⟩ := by decide +kernel
  obtain ⟨hrender, -, hdisplay⟩ := faithful_iff_balanced hread
  refine ⟨_, hread, by decide +kernel, (hrender .generic List.mem_cons_self).2 ?_, hdisplay ?_⟩
  all_goals decide +kernel

/-- A double quote in a name ends the double quotes around it: a name of one part is read back as a
name of two, and another one not at all. -/
theorem breaks_out :
    (∃ q, ofText "\x60a\".\"b\x60" = .ok q ∧ q.schema = none ∧
      ofText (q.render .generic) = .ok ⟨none, some ⟨"a", true⟩, ⟨"b", true⟩⟩) ∧
    ∃ q, ofText "\x60a\"b\x60" = .ok q ∧ ofText (q.render .generic) =
      .error (.configuration "Unterminated quoted identifier in '\"a\"b\"'") := by
  refine ⟨⟨⟨none, none, ⟨"a\".\"b", true⟩⟩, ?_, rfl, ?_⟩, ⟨none, none, ⟨"a\"b", true⟩⟩, ?_, ?_⟩
  all_goals decide +kernel

end QualifiedName

end CounterTable
