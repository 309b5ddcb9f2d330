import CounterTable.Proofs.Name.Segments
import CounterTable.Proofs.Text.Blanks
import Mathlib.Data.List.Induction

/-!
# Dots outside quotes

A dot stands outside quotes if every quote before it is closed before it. A text in which all quotes
are closed is cut at these dots, and a text with a quote that is left open is not cut at all.

* `Segments.Closed`, `Segments.LeftOpen`, **`Segments.leftOpen_iff`**: texts in which all quotes are
  closed, and all others;
* `Segments.dots`, `Segments.length_finished`: the dots outside quotes, and what they finish;
* `Segments.Cut`, **`Segments.cut_iff`**: a text cut at these dots, and how it is read;
* `Segments.split_cases`: the three ways in which a text is split;
* **`Segments.split_at_dots`**: the segments of a text, and when it has none.
-/

namespace CounterTable

open CounterTable.Text

namespace Segments

/-! ## Quotes that are closed -/

/-- Texts in which every quote is closed. -/
inductive Closed : List Char → Prop
  | nil : Closed []
  | char {c : Char} {cs : List Char} (hquote : Identifier.closingQuote? c = none)
      (h : Closed cs) : Closed (c :: cs)
  | quoted {opening closing : Char} {text cs : List Char}
      (hquote : Identifier.closingQuote? opening = some closing) (htext : closing ∉ text)
      (h : Closed cs) : Closed (opening :: (text ++ closing :: cs))

/-- Texts in which a quote is left open: all before it are closed, and nothing closes this one. -/
def LeftOpen (cs : List Char) : Prop :=
  ∃ before opening closing text, cs = before ++ opening :: text ∧ Closed before ∧
    Identifier.closingQuote? opening = some closing ∧ closing ∉ text

variable {cs ds : List Char} {l : List (List Char)}

theorem Balanced.closed (h : Balanced cs) : Closed cs := by
  induction h with
  | nil => exact .nil
  | char _ hquote _ ih => exact .char hquote ih
  | quoted hquote htext _ ih => exact .quoted hquote htext ih

theorem Closed.append (h : Closed cs) (h' : Closed ds) : Closed (cs ++ ds) := by
  induction h with
  | nil => exact h'
  | char hquote _ ih => exact .char hquote ih
  | quoted hquote htext _ ih =>
    rw [List.cons_append, List.append_assoc, List.cons_append]
    exact .quoted hquote htext ih

theorem closed_flatMap (h : ∀ ds ∈ l, Closed ds) : Closed (l.flatMap (· ++ ['.'])) := by
  have hdot : Closed ['.'] := .char (by decide) .nil
  induction l with
  | nil => exact .nil
  | cons ds l ih =>
    rw [List.flatMap_cons]
    exact ((h ds List.mem_cons_self).append hdot).append
      (ih fun es hes => h es (List.mem_cons_of_mem ds hes))

/-- **A text in which every quote is closed** leaves none open for what follows. -/
theorem foldl_closed (h : Closed cs) (finished : List (List Char)) (current : List Char) :
    ∃ finished' current',
      cs.foldl push ⟨finished, current, none⟩ = ⟨finished', current', none⟩ := by
  induction h generalizing finished current with
  | nil => exact ⟨finished, current, rfl⟩
  | @char c cs hquote _ ih =>
    rw [List.foldl_cons]
    by_cases hdot : c = '.'
    · rw [hdot, push_dot]
      exact ih _ _
    · rw [push_char hdot, hquote]
      exact ih _ _
  | quoted hquote htext _ ih =>
    rw [foldl_between hquote htext]
    exact ih _ _

theorem Scanned.closed_finished {s : Segments} (h : Scanned cs s) :
    Closed (s.finished.flatMap (· ++ ['.'])) :=
  closed_flatMap fun ds hds => (h.finished ds hds).closed

/-- **No quote is open** behind a text exactly if every quote in it is closed. -/
theorem closing_ofChars_eq_none_iff : (ofChars cs).closing = none ↔ Closed cs := by
  constructor
  · intro h
    have hscanned := scanned_ofChars cs
    have hcurrent := hscanned.current
    rw [h] at hcurrent
    rw [← hscanned.joined]
    exact hscanned.closed_finished.append hcurrent.closed
  · intro h
    obtain ⟨finished, current, hread⟩ := foldl_closed h [] []
    rw [ofChars, hread]

/-- **A quote is left open** exactly if not all are closed. -/
theorem leftOpen_iff : LeftOpen cs ↔ ¬ Closed cs := by
  constructor
  · rintro ⟨before, opening, closing, text, rfl, hbefore, hquote, htext⟩ hclosed
    obtain ⟨finished, current, hread⟩ := foldl_closed hbefore [] []
    rw [← closing_ofChars_eq_none_iff, ofChars, List.foldl_append, hread, List.foldl_cons,
      push_char (ne_dot_of_closingQuote? hquote), hquote, foldl_quoted htext] at hclosed
    cases hclosed
  · intro h
    have hscanned := scanned_ofChars cs
    have hcurrent := hscanned.current
    cases hclosing : (ofChars cs).closing with
    | none => exact absurd (closing_ofChars_eq_none_iff.mp hclosing) h
    | some closing =>
      rw [hclosing] at hcurrent
      obtain ⟨before, opening, text, hcurrent, hbefore, hquote, htext⟩ := hcurrent
      refine ⟨(ofChars cs).finished.flatMap (· ++ ['.']) ++ before, opening, closing, text, ?_,
        hscanned.closed_finished.append hbefore.closed, hquote, htext⟩
      rw [List.append_assoc, ← hcurrent, hscanned.joined]

instance : DecidablePred Closed := fun _ => decidable_of_iff _ closing_ofChars_eq_none_iff

instance : DecidablePred LeftOpen := fun _ => decidable_of_iff _ leftOpen_iff.symm

/-! ## Dots outside quotes -/

/-- The places of the dots outside quotes: every quote before such a dot is closed before it. -/
def dots (cs : List Char) : List Nat :=
  (List.range cs.length).filter fun i => cs[i]? = some '.' ∧ Closed (cs.take i)

theorem dots_concat (cs : List Char) (c : Char) :
    dots (cs ++ [c]) = dots cs ++ if c = '.' ∧ Closed cs then [cs.length] else [] := by
  have hbefore : ∀ i ∈ List.range cs.length,
      decide ((cs ++ [c])[i]? = some '.' ∧ Closed ((cs ++ [c]).take i)) =
        decide (cs[i]? = some '.' ∧ Closed (cs.take i)) := by
    intro i hi
    have hi := List.mem_range.mp hi
    rw [List.getElem?_append_left hi, List.take_append_of_le_length (Nat.le_of_lt hi)]
  rw [dots, List.length_append, List.length_singleton, List.range_succ, List.filter_append,
    List.filter_congr hbefore, ← dots, List.filter_singleton]
  simp only [List.getElem?_concat_length, List.take_left, Option.some.injEq, Bool.cond_decide]

/-- **Each dot outside quotes** finishes a segment. -/
theorem length_finished (cs : List Char) : (ofChars cs).finished.length = (dots cs).length := by
  induction cs using List.reverseRecOn with
  | nil => rfl
  | append_singleton cs c ih =>
    have hclosed : (ofChars cs).closing = none ↔ Closed cs := closing_ofChars_eq_none_iff
    have hpush : ofChars (cs ++ [c]) = (ofChars cs).push c := by
      rw [ofChars, List.foldl_concat, ofChars]
    rw [hpush, dots_concat, List.length_append, ← ih]
    generalize ofChars cs = s at hclosed ⊢
    obtain ⟨finished, current, closing⟩ := s
    cases closing with
    | none =>
      by_cases hdot : c = '.'
      · rw [hdot, push_dot, if_pos ⟨rfl, hclosed.mp rfl⟩, List.length_append]
        rfl
      · rw [push_char hdot, if_neg fun h => hdot h.1]
        rfl
    | some close =>
      have hopen : ¬ Closed cs := fun h => Option.some_ne_none close (hclosed.mpr h)
      rw [if_neg fun h => hopen h.2]
      rfl

/-! ## Texts cut at their dots -/

/-- A text cut at its dots outside quotes: with dots between them the parts give it, every quote is
closed in the part where it is opened, and no dot is left outside quotes. -/
structure Cut (cs : List Char) (l : List (List Char)) : Prop where
  ne_nil : l ≠ []
  joined : List.intercalate ['.'] l = cs
  closed : ∀ ds ∈ l, Closed ds
  undotted : ∀ ds ∈ l, dots ds = []

theorem balanced_iff : Balanced cs ↔ Closed cs ∧ dots cs = [] := by
  rw [← closing_ofChars_eq_none_iff, ← List.length_eq_zero_iff, ← length_finished,
    List.length_eq_zero_iff]
  constructor
  · intro h
    rw [ofChars, foldl_balanced h]
    exact ⟨rfl, rfl⟩
  · rintro ⟨hclosing, hfinished⟩
    obtain ⟨hjoined, -, hcurrent⟩ := scanned_ofChars cs
    rw [hclosing] at hcurrent
    rw [hfinished, List.flatMap_nil, List.nil_append] at hjoined
    rw [← hjoined]
    exact hcurrent

/-- **How a text is cut**: into the segments that are read, if no quote is left open. -/
theorem cut_iff : Cut cs l ↔
    (ofChars cs).closing = none ∧ l = (ofChars cs).finished ++ [(ofChars cs).current] := by
  constructor
  · rintro ⟨hne, rfl, hclosed, hdots⟩
    obtain ⟨init, last, rfl⟩ : ∃ init last, l = init ++ [last] :=
      ⟨_, _, (List.dropLast_concat_getLast hne).symm⟩
    rw [ofChars_intercalate fun ds hds => balanced_iff.mpr ⟨hclosed ds hds, hdots ds hds⟩]
    exact ⟨rfl, rfl⟩
  · rintro ⟨hclosing, rfl⟩
    obtain ⟨hjoined, hfinished, hcurrent⟩ := scanned_ofChars cs
    rw [hclosing] at hcurrent
    have hbalanced : ∀ ds ∈ (ofChars cs).finished ++ [(ofChars cs).current], Balanced ds :=
      List.forall_mem_append.mpr ⟨hfinished, List.forall_mem_singleton.mpr hcurrent⟩
    exact ⟨List.append_ne_nil_of_right_ne_nil _ (List.cons_ne_nil _ _),
      (intercalate_concat ..).trans hjoined, fun ds hds => (balanced_iff.mp (hbalanced ds hds)).1,
      fun ds hds => (balanced_iff.mp (hbalanced ds hds)).2⟩

namespace Cut

theorem length_eq (h : Cut cs l) : l.length = (dots cs).length + 1 := by
  rw [(cut_iff.mp h).2, List.length_append, length_finished]
  rfl

theorem unique {l' : List (List Char)} (h : Cut cs l) (h' : Cut cs l') : l = l' :=
  (cut_iff.mp h).2.trans (cut_iff.mp h').2.symm

theorem not_leftOpen (h : Cut cs l) : ¬ LeftOpen cs := fun hopen =>
  leftOpen_iff.mp hopen (closing_ofChars_eq_none_iff.mp (cut_iff.mp h).1)

end Cut

/-- A part without any character but blanks. -/
def Blank (ds : List Char) : Prop := ∀ c ∈ ds, isBlank c = true

theorem any_isEmpty_trim_iff : l.any (fun ds => (trim ds).isEmpty) = true ↔ ∃ ds ∈ l, Blank ds := by
  simp only [List.any_eq_true, List.isEmpty_iff, trim_eq_nil_iff, Blank]

/-- **The three ways in which a text is split**: a quote is left open in it, one of its parts is
blank, or the parts are its segments. -/
theorem split_cases (raw : String) :
    (LeftOpen (trim raw.toList) ∧ split raw =
        .error (.configuration s!"Unterminated quoted identifier in '{raw}'")) ∨
      ∃ l, Cut (trim raw.toList) l ∧
        ((∃ ds ∈ l, Blank ds) ∧
            split raw = .error (.configuration s!"Empty name segment in '{raw}'") ∨
          (¬ ∃ ds ∈ l, Blank ds) ∧ split raw = .ok l) := by
  cases hclosing : (ofChars (trim raw.toList)).closing with
  | some closing =>
    have hopen : ¬ Closed (trim raw.toList) := fun h => by
      cases hclosing.symm.trans (closing_ofChars_eq_none_iff.mpr h)
    refine .inl ⟨leftOpen_iff.mpr hopen, ?_⟩
    simp only [split, hclosing, Option.isSome_some, if_true]
  | none =>
    refine .inr ⟨_, cut_iff.mpr ⟨hclosing, rfl⟩, ?_⟩
    rw [← any_isEmpty_trim_iff]
    simp only [split, hclosing, Option.isSome_none, Bool.false_eq_true, if_false]
    split
    · next h => exact .inl ⟨h, rfl⟩
    · next h => exact .inr ⟨h, rfl⟩

/-- **The segments of a text** give it, without the blanks around it, when dots are put between
them. There is one more of them than there are dots outside quotes, and every quote is closed in the
segment where it is opened. A text has no segments exactly if a quote is left open in it, or if one
of the parts into which its dots cut it is blank. -/
theorem split_at_dots (raw : String) :
    (∀ l, split raw = .ok l →
      List.intercalate ['.'] l = trim raw.toList ∧
        l.length = (dots (trim raw.toList)).length + 1 ∧ ∀ ds ∈ l, Closed ds) ∧
    ∀ e, split raw = .error e ↔
      LeftOpen (trim raw.toList) ∧
          e = .configuration s!"Unterminated quoted identifier in '{raw}'" ∨
        (∃ l, Cut (trim raw.toList) l ∧ ∃ ds ∈ l, Blank ds) ∧
          e = .configuration s!"Empty name segment in '{raw}'" := by
  rcases split_cases raw with ⟨hopen, hsplit⟩ | ⟨l, hcut, ⟨hblank, hsplit⟩ | ⟨hblank, hsplit⟩⟩ <;>
    rw [hsplit]
  · refine ⟨nofun, fun e => ?_⟩
    have hnone : ¬ ∃ l, Cut (trim raw.toList) l ∧ ∃ ds ∈ l, Blank ds := fun ⟨_, hcut, _⟩ =>
      hcut.not_leftOpen hopen
    simp only [Except.error.injEq, hopen, hnone, true_and, false_and, or_false, eq_comm]
  · refine ⟨nofun, fun e => ?_⟩
    have hsome : ∃ l, Cut (trim raw.toList) l ∧ ∃ ds ∈ l, Blank ds := ⟨l, hcut, hblank⟩
    simp only [Except.error.injEq, hcut.not_leftOpen, hsome, true_and, false_and, false_or, eq_comm]
  · refine ⟨?_, fun e => ⟨nofun, ?_⟩⟩
    · rintro _ ⟨⟩
      exact ⟨hcut.joined, hcut.length_eq, hcut.closed⟩
    · rintro (⟨hopen, -⟩ | ⟨⟨l', hcut', hblank'⟩, -⟩)
      · exact absurd hopen hcut.not_leftOpen
      · exact absurd (hcut.unique hcut' ▸ hblank') hblank

/-- Other quotes and dots between quotes separate nothing, and a bracket that closes nothing is a
character as any other; a bracket that nothing closes is an error, and so are blanks alone. -/
theorem split_at_dots_quoted :
    (∃ l, split " [a\".b] .\"c]\x60.\".d] " = .ok l ∧
      List.intercalate ['.'] l = "[a\".b] .\"c]\x60.\".d]".toList ∧ l.length = 3 ∧
        ∀ ds ∈ l, Closed ds) ∧
      split "a.[b" = .error (.configuration "Unterminated quoted identifier in 'a.[b'") ∧
      split "a. .b" = .error (.configuration "Empty name segment in 'a. .b'") := by
  have htrim : trim " [a\".b] .\"c]\x60.\".d] ".toList = "[a\".b] .\"c]\x60.\".d]".toList := by
    decide +kernel
  have hdots : dots "[a\".b] .\"c]\x60.\".d]".toList = [7, 14] := by decide +kernel
  have hsplit : split " [a\".b] .\"c]\x60.\".d] " =
      .ok ["[a\".b] ".toList, "\"c]\x60.\"".toList, "d]".toList] := by decide +kernel
  have hsegments := (split_at_dots " [a\".b] .\"c]\x60.\".d] ").1 _ hsplit
  rw [htrim, hdots] at hsegments
  have hopen : LeftOpen (trim "a.[b".toList) := by decide +kernel
  have hcut : Cut (trim "a. .b".toList) [['a'], [' '], ['b']] := cut_iff.mpr (by decide +kernel)
  have hblank : Blank [' '] := List.forall_mem_singleton.mpr (by decide)
  exact ⟨⟨_, hsplit, hsegments⟩, ((split_at_dots "a.[b").2 _).mpr (.inl ⟨hopen, rfl⟩),
    ((split_at_dots "a. .b").2 _).mpr (.inr ⟨⟨_, hcut, [' '], by decide, hblank⟩, rfl⟩)⟩

end Segments

end CounterTable
