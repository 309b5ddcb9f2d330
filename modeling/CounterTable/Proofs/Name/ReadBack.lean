import CounterTable.Proofs.Name.Segments
import CounterTable.Proofs.Sql.Names
import CounterTable.Proofs.Success
import CounterTable.Proofs.Text.Blanks

/-!
# Names are read back

A name that was written for a dialect is read back, unless the closing quote of the dialect occurs
in a quoted part: that would end the part too early. So names that are written alike have the same
parts.

* `Identifier.Spells`, **`Identifier.ofChars_eq_ok_iff`**: how an identifier may be written;
* `Identifier.WellFormed`: identifiers as they are read;
* `Identifier.Closed`: identifiers that end where their quotes say;
* `Segments.split_render`: the segments of a name that was written;
* `QualifiedName.ofText_eq_ok_iff`: how a name is read;
* **`QualifiedName.ofText_render`**: the parts of a name that was written are read back;
* **`QualifiedName.parts_of_render`**, `QualifiedName.Plain.eq_of_render`: names that are written
  alike.
-/

namespace CounterTable

open CounterTable.Text

theorem Dialect.closingQuote?_of_mem {d : Dialect} (h : d ∈ all) :
    Identifier.closingQuote? d.openQuote = some d.closeQuote := by
  simp only [all, List.mem_cons, List.not_mem_nil, or_false] at h
  rcases h with rfl | rfl | rfl | rfl <;> decide

/-! ## Identifiers -/

namespace Identifier

variable {d : Dialect} {i : Identifier} {c : Char}

/-- Identifiers without quotes are plain, and those in quotes are not empty. -/
structure WellFormed (i : Identifier) : Prop where
  plain : i.quoted = false → isPlain i.text.toList = true
  nonempty : i.quoted = true → i.text.toList ≠ []

/-- The quote that closes the identifier does not occur in it. -/
def Closed (d : Dialect) (i : Identifier) : Prop := i.quoted = true → d.closeQuote ∉ i.text.toList

instance (d : Dialect) (i : Identifier) : Decidable (i.Closed d) :=
  inferInstanceAs (Decidable (_ → _))

theorem Plain.wellFormed (h : i.Plain) : i.WellFormed :=
  ⟨fun _ => h.isName.isPlain, fun hq => absurd hq (by rw [h.unquoted]; exact Bool.false_ne_true)⟩

theorem Plain.closed (h : i.Plain) (d : Dialect) : i.Closed d := fun hq =>
  absurd hq (by rw [h.unquoted]; exact Bool.false_ne_true)

theorem of_isPlainRest (h : isPlainRest c = true) :
    c ≠ '.' ∧ closingQuote? c = none ∧ isBlank c = false := by
  have hn := toNat_of_isPlainRest h
  have hne : ∀ d : Char, d.toNat = 34 ∨ d.toNat = 46 ∨ d.toNat = 91 ∨ d.toNat = 96 → c ≠ d := by
    rintro d hd rfl
    omega
  refine ⟨hne '.' (by decide), ?_, ?_⟩
  · have h₁ := hne '"' (by decide)
    have h₂ := hne '\x60' (by decide)
    have h₃ := hne '[' (by decide)
    simp [closingQuote?, quotePairs, h₁.symm, h₂.symm, h₃.symm]
  · simp only [isBlank, Bool.or_eq_false_iff, Bool.and_eq_false_iff, decide_eq_false_iff_not,
      beq_eq_false_iff_ne]
    omega

theorem isPlainRest_of_isPlain {cs : List Char} (h : isPlain cs = true) (hc : c ∈ cs) :
    isPlainRest c = true := by
  cases cs with
  | nil => cases hc
  | cons d cs =>
    rw [isPlain, Bool.and_eq_true, List.all_eq_true] at h
    rcases List.mem_cons.mp hc with rfl | hc
    · have hstart := h.1
      simp only [isPlainStart, Bool.or_eq_true] at hstart
      simp only [isPlainRest, Char.isAlphanum, Bool.or_eq_true]
      exact .inl (hstart.imp_left .inl)
    · exact h.2 c hc

theorem isBlank_of_closingQuote? {close : Char} (h : closingQuote? c = some close) :
    isBlank c = false ∧ isBlank close = false ∧ c ≠ '.' := by
  obtain ⟨p, hp, rfl⟩ := Option.map_eq_some_iff.mp h
  have hall : ∀ q ∈ quotePairs, isBlank q.1 = false ∧ isBlank q.2 = false ∧ q.1 ≠ '.' := by decide
  have hc : (p.1 == c) = true := List.find?_some (p := fun q : Char × Char => q.1 == c) hp
  rw [← beq_iff_eq.mp hc]
  exact hall p (List.mem_of_find?_eq_some hp)

theorem unquote?_eq_some_iff {cs inner : List Char} : unquote? cs = some inner ↔
    ∃ opening closing, closingQuote? opening = some closing ∧
      cs = opening :: (inner ++ [closing]) := by
  constructor
  · intro h
    cases cs with
    | nil => cases h
    | cons opening cs =>
      cases hquote : closingQuote? opening with
      | none => simp only [unquote?, hquote, reduceCtorEq] at h
      | some closing =>
        simp only [unquote?, hquote, Option.ite_none_right_eq_some, Option.some.injEq] at h
        obtain ⟨hlast, rfl⟩ := h
        obtain ⟨init, rfl⟩ := List.getLast?_eq_some_iff.mp hlast
        rw [List.dropLast_concat]
        exact ⟨opening, closing, hquote, rfl⟩
  · rintro ⟨opening, closing, hquote, rfl⟩
    simp only [unquote?, hquote, List.getLast?_concat, if_true, List.dropLast_concat]

/-- How an identifier may be written between blanks: as a plain word, or between two quotes that
belong together. -/
inductive Spells (i : Identifier) : List Char → Prop
  | plain (hq : i.quoted = false) (h : isPlain i.text.toList = true) : Spells i i.text.toList
  | quoted {opening closing : Char} (hq : i.quoted = true)
      (hquote : closingQuote? opening = some closing) (hne : i.text.toList ≠ []) :
      Spells i (opening :: (i.text.toList ++ [closing]))

variable {cs raw : List Char}

theorem Spells.solid (h : i.Spells cs) : Solid cs := by
  cases h with
  | plain _ h =>
    have hblank : ∀ c ∈ i.text.toList, isBlank c = false := fun c hc =>
      (of_isPlainRest (isPlainRest_of_isPlain h hc)).2.2
    refine ⟨?_, fun c hc => hblank c (List.mem_of_mem_head? hc),
      fun c hc => hblank c (List.mem_of_mem_getLast? hc)⟩
    rintro hnil
    rw [hnil] at h
    cases h
  | quoted _ hquote =>
    obtain ⟨hopening, hclosing, -⟩ := isBlank_of_closingQuote? hquote
    refine ⟨List.cons_ne_nil _ _, ?_, ?_⟩
    · rintro _ ⟨⟩
      exact hopening
    · intro c hc
      rw [← List.cons_append, List.getLast?_concat] at hc
      cases hc
      exact hclosing

/-- **An identifier is read** from what spells it, with any blanks around it. -/
theorem ofChars_eq_ok_iff : ofChars raw = .ok i ↔ i.Spells (trim raw) := by
  constructor
  · intro h
    unfold ofChars at h
    dsimp only at h
    split at h
    · cases h
    · next inner hne hinner =>
      cases h
      obtain ⟨opening, closing, hquote, htrim⟩ := unquote?_eq_some_iff.mp hinner
      have hspells : Spells ⟨String.ofList inner, true⟩
          (opening :: ((String.ofList inner).toList ++ [closing])) :=
        .quoted rfl hquote (by rw [String.toList_ofList]; exact hne)
      rw [String.toList_ofList] at hspells
      rw [htrim]
      exact hspells
    · split at h
      · next hplain =>
        cases h
        have hspells : Spells ⟨String.ofList (trim raw), false⟩ (String.ofList (trim raw)).toList :=
          .plain rfl (by rw [String.toList_ofList]; exact hplain)
        rw [String.toList_ofList] at hspells
        exact hspells
      · cases h
  · intro h
    obtain ⟨text, quoted⟩ := i
    generalize htrim : trim raw = cs at h
    rw [ofChars, htrim]
    cases h with
    | plain hq h =>
      cases hq
      have hunquote : unquote? text.toList = none := by
        cases htext : text.toList with
        | nil => rfl
        | cons c cs =>
          have hc : c ∈ text.toList := htext ▸ List.mem_cons_self
          simp only [unquote?, (of_isPlainRest (isPlainRest_of_isPlain h hc)).2.1]
      simp only [hunquote, h, if_true, String.ofList_toList]
    | @quoted opening closing hq hquote hne =>
      cases hq
      rw [unquote?_eq_some_iff.mpr ⟨opening, closing, hquote, rfl⟩]
      cases htext : text.toList with
      | nil => exact absurd htext hne
      | cons c cs => rw [← String.ofList_toList (s := text), htext]

theorem Spells.wellFormed (h : i.Spells cs) : i.WellFormed := by
  cases h with
  | plain hq h => exact ⟨fun _ => h, fun hq' => absurd (hq.symm.trans hq') Bool.false_ne_true⟩
  | quoted hq _ hne =>
    exact ⟨fun hq' => absurd (hq'.symm.trans hq) Bool.false_ne_true, fun _ => hne⟩

theorem wellFormed_of_ofChars (h : ofChars raw = .ok i) : i.WellFormed :=
  (ofChars_eq_ok_iff.mp h).wellFormed

theorem toList_render (d : Dialect) (i : Identifier) : (i.render d).toList =
    if i.quoted then d.openQuote :: (i.text.toList ++ [d.closeQuote]) else i.text.toList := by
  unfold render
  split
  · simp [toString]
  · rfl

theorem spells_render (hd : closingQuote? d.openQuote = some d.closeQuote) (hi : i.WellFormed) :
    i.Spells (i.render d).toList := by
  rw [toList_render]
  cases hq : i.quoted with
  | true => exact .quoted hq hd (hi.nonempty hq)
  | false => exact .plain hq (hi.plain hq)

/-- **An identifier** that was written is read back. -/
theorem ofChars_render (hd : closingQuote? d.openQuote = some d.closeQuote) (hi : i.WellFormed) :
    ofChars (i.render d).toList = .ok i := by
  have hspells := spells_render hd hi
  rw [ofChars_eq_ok_iff, hspells.solid.trim_eq]
  exact hspells

theorem balanced_of_isPlain (h : isPlain cs = true) : Segments.Balanced cs :=
  Segments.balanced_of_forall fun _ hc =>
    have hrest := of_isPlainRest (isPlainRest_of_isPlain h hc)
    ⟨hrest.1, hrest.2.1⟩

/-- **An identifier in which its closing quote does not occur** is balanced. -/
theorem balanced_render (hd : closingQuote? d.openQuote = some d.closeQuote) (hi : i.WellFormed)
    (hc : i.Closed d) : Segments.Balanced (i.render d).toList := by
  rw [toList_render]
  cases hq : i.quoted with
  | true => exact Segments.balanced_quoted hd (hc hq)
  | false => exact balanced_of_isPlain (hi.plain hq)

end Identifier

/-! ## Segments -/

namespace Segments

variable {d : Dialect}

theorem solid_intercalate {cs : List Char} {l : List (List Char)}
    (h : ∀ ds ∈ cs :: l, Solid ds) : Solid (List.intercalate ['.'] (cs :: l)) := by
  have hhead := h cs List.mem_cons_self
  induction l generalizing cs with
  | nil =>
    rw [List.intercalate_singleton]
    exact hhead
  | cons ds l ih =>
    rw [List.intercalate_cons_cons]
    exact hhead.append (ih (fun es hes => h es (List.mem_cons_of_mem cs hes))
      (h ds (List.mem_cons_of_mem cs List.mem_cons_self))) ['.']

theorem toList_render (d : Dialect) (q : QualifiedName) : (q.render d).toList =
    List.intercalate ['.'] (q.parts.map fun j => (j.render d).toList) := by
  rw [QualifiedName.render, String.toList_intercalate, List.map_map]
  rfl

theorem solid_render (hd : Identifier.closingQuote? d.openQuote = some d.closeQuote)
    {q : QualifiedName} (hq : ∀ j ∈ q.parts, j.WellFormed) : Solid (q.render d).toList := by
  obtain ⟨i, is, hparts⟩ := q.exists_parts
  rw [toList_render, hparts, List.map_cons]
  rw [hparts] at hq
  refine solid_intercalate fun ds hds => ?_
  rw [← List.map_cons (f := fun j : Identifier => (j.render d).toList)] at hds
  obtain ⟨j, hj, rfl⟩ := List.mem_map.mp hds
  exact (Identifier.spells_render hd (hq j hj)).solid

/-- **A name that was written** has the segments that its parts were written as. -/
theorem split_render (hd : Identifier.closingQuote? d.openQuote = some d.closeQuote)
    {q : QualifiedName} (hq : ∀ j ∈ q.parts, j.WellFormed)
    (hbalanced : ∀ j ∈ q.parts, Balanced (j.render d).toList) :
    split (q.render d) = .ok (q.parts.map fun j => (j.render d).toList) := by
  rw [split_eq_ok_iff, (solid_render hd hq).trim_eq, toList_render]
  obtain ⟨i, is, hparts⟩ := q.exists_parts
  refine ⟨by rw [hparts]; exact List.cons_ne_nil _ _, rfl, fun cs hcs => ?_⟩
  obtain ⟨j, hj, rfl⟩ := List.mem_map.mp hcs
  have hsolid := (Identifier.spells_render hd (hq j hj)).solid
  refine ⟨hbalanced j hj, ?_⟩
  rw [hsolid.trim_eq]
  exact hsolid.ne_nil

end Segments

/-! ## Names -/

namespace QualifiedName

variable {d : Dialect}

/-- **How a name is read**: its parts are read from the segments, and a catalog is never read
without a schema. -/
theorem ofText_eq_ok_iff {raw : String} {q : QualifiedName} : ofText raw = .ok q ↔
    (q.catalog.isSome → q.schema.isSome) ∧ ∃ segments, Segments.split raw = .ok segments ∧
      segments.mapM Identifier.ofChars = .ok q.parts := by
  constructor
  · intro h
    obtain ⟨segments, hsplit, h⟩ := exists_of_bind_eq_ok h
    obtain ⟨parts, hparts, h⟩ := exists_of_bind_eq_ok h
    split at h <;> cases h <;> exact ⟨by simp, segments, hsplit, hparts⟩
  · rintro ⟨hqualified, segments, hsplit, hparts⟩
    rw [ofText, hsplit]
    change (List.mapM Identifier.ofChars _ >>= _) = _
    rw [hparts]
    obtain ⟨_ | catalog, _ | schema, object⟩ := q
    · rfl
    · rfl
    · exact absurd (hqualified rfl) Bool.false_ne_true
    · rfl

theorem wellFormed_of_ofText {raw : String} {q : QualifiedName} (h : ofText raw = .ok q) :
    ∀ i ∈ q.parts, i.WellFormed := by
  obtain ⟨-, segments, -, hparts⟩ := ofText_eq_ok_iff.mp h
  intro i hi
  obtain ⟨segment, -, hsegment⟩ := exists_of_mapM hparts hi
  exact Identifier.wellFormed_of_ofChars hsegment

theorem mapM_render (hd : Identifier.closingQuote? d.openQuote = some d.closeQuote)
    {q : QualifiedName} (hq : ∀ j ∈ q.parts, j.WellFormed) :
    (q.parts.map fun j => (j.render d).toList).mapM Identifier.ofChars = .ok q.parts := by
  have hread : ∀ j ∈ q.parts, Identifier.ofChars (j.render d).toList = .ok (id j) := fun j hj =>
    Identifier.ofChars_render hd (hq j hj)
  rw [mapM_map_eq_ok hread, List.map_id]

/-- **The parts of a name** that was written are read back. -/
theorem ofText_render (hd : Identifier.closingQuote? d.openQuote = some d.closeQuote)
    {q : QualifiedName} (hq : ∀ j ∈ q.parts, j.WellFormed ∧ j.Closed d) :
    ∃ q', ofText (q.render d) = .ok q' ∧ q'.parts = q.parts := by
  have hwellFormed : ∀ j ∈ q.parts, j.WellFormed := fun j hj => (hq j hj).1
  rw [ofText, Segments.split_render hd hwellFormed fun j hj =>
    Identifier.balanced_render hd (hq j hj).1 (hq j hj).2]
  change ∃ q', (List.mapM Identifier.ofChars _ >>= _) = _ ∧ _
  rw [mapM_render hd hwellFormed]
  obtain ⟨_ | catalog, _ | schema, object⟩ := q <;> exact ⟨_, rfl, rfl⟩

/-- **Names that are written alike** have the same parts. -/
theorem parts_of_render (hd : Identifier.closingQuote? d.openQuote = some d.closeQuote)
    {a b : QualifiedName} (ha : ∀ j ∈ a.parts, j.WellFormed ∧ j.Closed d)
    (hb : ∀ j ∈ b.parts, j.WellFormed ∧ j.Closed d) (h : a.render d = b.render d) :
    a.parts = b.parts := by
  obtain ⟨a', hreadA, hpartsA⟩ := ofText_render hd ha
  obtain ⟨b', hreadB, hpartsB⟩ := ofText_render hd hb
  rw [h, hreadB] at hreadA
  cases hreadA
  exact hpartsA.symm.trans hpartsB

theorem eq_of_parts {a b : QualifiedName} (ha : a.catalog.isSome → a.schema.isSome)
    (hb : b.catalog.isSome → b.schema.isSome) (h : a.parts = b.parts) : a = b := by
  obtain ⟨_ | _, _ | _, _⟩ := a <;> obtain ⟨_ | _, _ | _, _⟩ := b <;> simp_all [parts]

/-- **Plain names that are written alike** are equal, if they have no catalog without a schema. -/
theorem Plain.eq_of_render {a b : QualifiedName} (ha : a.Plain) (hb : b.Plain)
    (ha' : a.catalog.isSome → a.schema.isSome) (hb' : b.catalog.isSome → b.schema.isSome)
    (hd : Identifier.closingQuote? d.openQuote = some d.closeQuote)
    (h : a.render d = b.render d) : a = b :=
  eq_of_parts ha' hb' (parts_of_render hd
    (fun i hi => ⟨(ha i hi).wellFormed, (ha i hi).closed d⟩)
    (fun i hi => ⟨(hb i hi).wellFormed, (hb i hi).closed d⟩) h)

end QualifiedName

end CounterTable
