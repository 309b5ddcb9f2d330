import CounterTable.Proofs.Sql.Running
import CounterTable.Proofs.Sql.Tokens
import CounterTable.Sql.Grammar.Selection

/-!
# Names in statements

A name in a statement is a plain word that is no keyword, or a text between quotes. It is read as it
is written if the text has no such quote in it, and so is a dotted name of such parts.

* `IsName`: plain words that are no keywords;
* `Ident.Legible`: names that are read as they are written;
* **`Lexer.Reads.ident`**, **`Lexer.Reads.qualified`**: their tokens;
* `Identifier.Plain`, `Identifier.Legible`: identifiers that are such names in a dialect.
-/

namespace CounterTable

open CounterTable.Sql CounterTable.Text

/-! ## Words -/

/-- A plain word that is no keyword. -/
structure Sql.IsName (w : String) : Prop where
  isPlain : Identifier.isPlain w.toList = true
  not_keyword : isKeyword (String.ofList (upper w.toList)) = false

theorem Sql.IsName.lower_ne_from {w : String} (h : IsName w) : lower w.toList ≠ "from".toList := by
  intro hlower
  have hascii : ∀ c ∈ w.toList, c.toNat < 128 := by
    intro c hc
    have hplain := h.isPlain
    cases hw : w.toList with
    | nil =>
      rw [hw] at hc
      cases hc
    | cons d ds =>
      rw [hw, Identifier.isPlain, Bool.and_eq_true, List.all_eq_true] at hplain
      rw [hw, List.mem_cons] at hc
      rcases hc with rfl | hc
      · have hn := Identifier.toNat_of_isPlainStart hplain.1
        omega
      · have hn := Identifier.toNat_of_isPlainRest (hplain.2 c hc)
        omega
  have hcase : ∀ n < 128, (Char.ofNat n).toLower.toUpper = (Char.ofNat n).toUpper := by decide
  have hupper : upper (lower w.toList) = upper w.toList := by
    rw [upper, lower, List.map_map, upper]
    refine List.map_congr_left fun c hc => ?_
    have hchar := hcase c.toNat (hascii c hc)
    rw [Char.ofNat_toNat] at hchar
    exact hchar
  have hkeyword := h.not_keyword
  rw [← hupper, hlower] at hkeyword
  exact absurd hkeyword (by decide +kernel)

namespace Sql.Lexer

variable {a : Bool} {rest : List Char} {ts : List Token} {w : String}

theorem Ends.of_mem {c : Char} (h : c ∈ [' ', '.', ',', '=', '(', ')']) : Ends (c :: rest) := h

theorem Reads.name (hw : IsName w) (hr : Ends rest) (h : Reads true rest ts) :
    Reads a (w.toList ++ rest) (.name w :: ts) := by
  have hword : Token.ofWord w.toList = .name w := by
    simp only [Token.ofWord, hw.not_keyword, Bool.false_eq_true, if_false, String.ofList_toList]
  rw [← hword]
  exact .word hw.isPlain hr (hword ▸ h)

end Sql.Lexer

/-! ## Legible names -/

/-- Names that are read as they are written: plain words that are no keywords, and texts between
quotes that do not occur in them. -/
inductive Sql.Ident.Legible : Ident → Prop
  | bare {w : String} (h : IsName w) : Legible ⟨w, none⟩
  | quoted {w : String} {q : Char} (hq : q = '"' ∨ q = '\x60') (h : q ∉ w.toList) :
    Legible ⟨w, some q⟩

namespace Sql

variable {i : Ident} {w : String} {q : Char}

theorem escapeQuote_of_notMem {cs : List Char} (h : q ∉ cs) (b : Bool) :
    escapeQuote q b cs = cs := by
  induction cs generalizing b with
  | nil => rfl
  | cons c cs ih =>
    rw [List.mem_cons, not_or] at h
    have hc : c ≠ q := Ne.symm h.1
    cases cs with
    | nil => exact if_neg fun hq => hc hq.1
    | cons d cs => exact (if_neg hc).trans (congrArg (c :: ·) (ih h.2 _))

theorem toList_betweenQuotes (h : q ∉ w.toList) :
    (betweenQuotes q w).toList = q :: (w.toList ++ [q]) := by
  rw [betweenQuotes, escapeQuote_of_notMem h, String.toList_ofList, List.cons_append]

namespace Ident.Legible

theorem exists_head (h : i.Legible) :
    ∃ c cs, i.render.toList = c :: cs ∧ c.isDigit = false := by
  cases h with
  | @bare w h =>
    have hplain := h.isPlain
    cases hw : w.toList with
    | nil =>
      rw [hw] at hplain
      cases hplain
    | cons c cs =>
      rw [hw, Identifier.isPlain, Bool.and_eq_true] at hplain
      exact ⟨c, cs, hw, Lexer.isDigit_of_isPlainStart hplain.1⟩
  | @quoted w q hq h =>
    refine ⟨q, w.toList ++ [q], toList_betweenQuotes h, ?_⟩
    rcases hq with rfl | rfl <;> decide

theorem isFrom_eq_false (h : i.Legible) :
    Grammar.selectItem.isFrom (.column [i]) = false := by
  cases h with
  | bare h =>
    simp only [Grammar.selectItem.isFrom, Option.isNone_none, Bool.true_and, beq_eq_false_iff_ne]
    exact h.lower_ne_from
  | quoted hq h => rfl

end Ident.Legible

namespace Lexer

variable {a : Bool} {rest : List Char} {ts : List Token}

/-- **A legible name** with something behind it that ends it. -/
theorem Reads.ident (hi : i.Legible) (hr : Ends rest) (h : Reads true rest ts) :
    Reads a (i.render.toList ++ rest) (Grammar.token i :: ts) := by
  cases hi with
  | bare hw => exact .name hw hr h
  | @quoted w q hq hw =>
    have htext : (Ident.render ⟨w, some q⟩).toList ++ rest = q :: (w.toList ++ q :: rest) := by
      rw [Ident.render, toList_betweenQuotes hw, List.cons_append, List.append_assoc]
      rfl
    have hhead : rest.head? ≠ some q := by
      cases rest with
      | nil => exact nofun
      | cons d rest =>
        simp only [Ends, List.mem_cons, List.not_mem_nil, or_false] at hr
        rcases hq with rfl | rfl <;> rcases hr with rfl | rfl | rfl | rfl | rfl | rfl <;>
          simp
    have hreads := Reads.quoted (a := a) hq hw hhead h
    rw [String.ofList_toList, ← htext] at hreads
    exact hreads

theorem Reads.ident_blank (hi : i.Legible) (h : Reads false rest ts) :
    Reads a (i.render.toList ++ ' ' :: rest) (Grammar.token i :: ts) :=
  .ident hi (Ends.of_mem (by decide)) (.blank h)

theorem toList_renderName_cons (i j : Ident) (js : List Ident) :
    (renderName (i :: j :: js)).toList =
      i.render.toList ++ '.' :: (renderName (j :: js)).toList := by
  simp only [renderName, List.map_cons]
  rw [String.intercalate_cons_cons]
  simp

/-- **A dotted name** of legible parts. -/
theorem Reads.qualified {is : List Ident} (hi : ∀ j ∈ i :: is, j.Legible) (hr : Ends rest)
    (h : Reads true rest ts) :
    Reads a ((renderName (i :: is)).toList ++ rest)
      (Grammar.token i :: Grammar.qualified is ts) := by
  induction is generalizing a i with
  | nil =>
    have hname : renderName [i] = i.render := String.intercalate_singleton
    rw [hname]
    exact .ident (hi i List.mem_cons_self) hr h
  | cons j js ih =>
    have hrest : Reads false ((renderName (j :: js)).toList ++ rest)
        (Grammar.token j :: Grammar.qualified js ts) :=
      ih fun k hk => hi k (List.mem_cons_of_mem _ hk)
    rw [toList_renderName_cons, List.append_assoc, List.cons_append]
    refine .ident (hi i List.mem_cons_self) (Ends.of_mem (by decide)) ?_
    -- The point is a symbol of its own because no digit stands behind it.
    obtain ⟨c, cs, hhead, hc⟩ := (hi j (by simp)).exists_head
    obtain ⟨us, hus⟩ : ∃ us, (renderName (j :: js)).toList ++ rest = c :: us := by
      cases js with
      | nil =>
        have hname : renderName [j] = j.render := String.intercalate_singleton
        rw [hname, hhead]
        exact ⟨cs ++ rest, rfl⟩
      | cons k js =>
        rw [toList_renderName_cons, hhead]
        exact ⟨_, rfl⟩
    rw [hus] at hrest ⊢
    exact .point hc hrest

end Lexer

end Sql

/-! ## Identifiers -/

/-- Names stand between equal quotes, of a kind that statements are read with. -/
def Dialect.QuotesNames (d : Dialect) : Prop :=
  d.closeQuote = d.openQuote ∧ (d.openQuote = '"' ∨ d.openQuote = '\x60')

theorem Dialect.quotesNames_of_mem {d : Dialect} (h : d ∈ [generic, postgresql, mysql]) :
    d.QuotesNames := by
  simp only [List.mem_cons, List.not_mem_nil, or_false] at h
  rcases h with rfl | rfl | rfl
  · exact ⟨rfl, .inl rfl⟩
  · exact ⟨rfl, .inl rfl⟩
  · exact ⟨rfl, .inr rfl⟩

namespace Identifier

variable {d : Dialect} {i : Identifier}

/-- The name that an identifier is in statements of a dialect. -/
def ident (d : Dialect) (i : Identifier) : Ident :=
  ⟨i.text, if i.quoted then some d.openQuote else none⟩

/-- Identifiers that are read in statements of a dialect as they are written there. -/
structure Legible (d : Dialect) (i : Identifier) : Prop where
  ident : (i.ident d).Legible
  render_ident : (i.ident d).render = i.render d

/-- A plain name that is no keyword. -/
structure Plain (i : Identifier) : Prop where
  unquoted : i.quoted = false
  isName : IsName i.text

instance (i : Identifier) : Decidable i.Plain :=
  decidable_of_iff (i.quoted = false ∧ Identifier.isPlain i.text.toList = true ∧
      isKeyword (String.ofList (upper i.text.toList)) = false)
    ⟨fun ⟨hquoted, hplain, hword⟩ => ⟨hquoted, hplain, hword⟩,
      fun ⟨hquoted, hplain, hword⟩ => ⟨hquoted, hplain, hword⟩⟩

theorem Plain.render (h : i.Plain) (d : Dialect) : i.render d = i.text := by
  rw [Identifier.render, h.unquoted]
  rfl

theorem Plain.ident_eq (h : i.Plain) (d : Dialect) : i.ident d = ⟨i.text, none⟩ := by
  rw [Identifier.ident, h.unquoted]
  rfl

theorem Plain.legible (h : i.Plain) (d : Dialect) : i.Legible d where
  ident := by
    rw [h.ident_eq]
    exact .bare h.isName
  render_ident := by
    rw [h.ident_eq, h.render]
    rfl

theorem legible_of_quoted (hd : d.QuotesNames) (hi : i.quoted = true)
    (h : d.openQuote ∉ i.text.toList) : i.Legible d := by
  have hident : i.ident d = ⟨i.text, some d.openQuote⟩ := by
    rw [Identifier.ident, hi]
    rfl
  refine ⟨hident ▸ .quoted hd.2 h, ?_⟩
  rw [hident, ← String.toList_inj, Ident.render, toList_betweenQuotes h, Identifier.render, hi,
    hd.1]
  simp [toString]

theorem render_eq_text_iff : i.render d = i.text ↔ i.quoted = false := by
  constructor
  · intro h
    cases hq : i.quoted with
    | false => rfl
    | true =>
      rw [Identifier.render, hq] at h
      have hlength := congrArg String.length h
      simp [toString] at hlength
      omega
  · intro h
    rw [Identifier.render, h]
    rfl

end Identifier

namespace QualifiedName

/-- A name of plain parts that are no keywords. -/
def Plain (q : QualifiedName) : Prop := ∀ i ∈ q.parts, i.Plain

/-- A name of legible parts. -/
def Legible (d : Dialect) (q : QualifiedName) : Prop := ∀ i ∈ q.parts, i.Legible d

variable {d : Dialect} {q : QualifiedName}

theorem Plain.legible (h : q.Plain) (d : Dialect) : q.Legible d := fun i hi => (h i hi).legible d

theorem Plain.render (h : q.Plain) (d : Dialect) :
    q.render d = ".".intercalate (q.parts.map Identifier.text) := by
  have hparts : q.parts.map (Identifier.render d) = q.parts.map Identifier.text :=
    List.map_congr_left fun i hi => (h i hi).render d
  rw [QualifiedName.render, hparts]

theorem exists_parts (q : QualifiedName) : ∃ i is, q.parts = i :: is := by
  cases h : q.parts with
  | nil => simp [parts] at h
  | cons i is => exact ⟨i, is, rfl⟩

theorem Legible.idents (h : q.Legible d) :
    ∃ i is, (∀ j ∈ i :: is, Ident.Legible j) ∧ renderName (i :: is) = q.render d := by
  obtain ⟨i, is, hparts⟩ := q.exists_parts
  refine ⟨i.ident d, is.map (Identifier.ident d), ?_, ?_⟩
  · intro j hj
    rw [← List.map_cons, ← hparts] at hj
    obtain ⟨k, hk, rfl⟩ := List.mem_map.mp hj
    exact (h k hk).ident
  · have hrender : q.parts.map (Ident.render ∘ Identifier.ident d) =
        q.parts.map (Identifier.render d) := List.map_congr_left fun k hk => (h k hk).render_ident
    rw [renderName, ← List.map_cons, ← hparts, List.map_map, hrender]
    rfl

end QualifiedName

end CounterTable
