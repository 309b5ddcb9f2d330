import CounterTable.Name.Qualified
import Mathlib.Data.List.Basic

/-!
# Segments of a dotted text

A text is split at its dots outside quotes. So its segments are the texts that give it when dots are
put between them, and in which every quote is closed and no dot stands outside quotes.

* `Segments.Balanced`: such texts;
* `Segments.foldl_balanced`: how they are read;
* `Segments.Scanned`, `Segments.scanned_ofChars`: what has been read at any time;
* **`Segments.split_eq_ok_iff`**: the segments of a text.
-/

namespace CounterTable

open CounterTable.Text

namespace Segments

/-- Texts in which every quote is closed and no dot stands outside quotes. -/
inductive Balanced : List Char → Prop
  | nil : Balanced []
  | char {c : Char} {cs : List Char} (hdot : c ≠ '.') (hquote : Identifier.closingQuote? c = none)
      (h : Balanced cs) : Balanced (c :: cs)
  | quoted {opening closing : Char} {text cs : List Char}
      (hquote : Identifier.closingQuote? opening = some closing) (htext : closing ∉ text)
      (h : Balanced cs) : Balanced (opening :: (text ++ closing :: cs))

variable {cs ds : List Char} {opening closing : Char}

theorem Balanced.append (h : Balanced cs) (h' : Balanced ds) : Balanced (cs ++ ds) := by
  induction h with
  | nil => exact h'
  | char hdot hquote _ ih => exact .char hdot hquote ih
  | quoted hquote htext _ ih =>
    rw [List.cons_append, List.append_assoc, List.cons_append]
    exact .quoted hquote htext ih

theorem balanced_of_forall (h : ∀ c ∈ cs, c ≠ '.' ∧ Identifier.closingQuote? c = none) :
    Balanced cs := by
  induction cs with
  | nil => exact .nil
  | cons c cs ih =>
    obtain ⟨hdot, hquote⟩ := h c List.mem_cons_self
    exact .char hdot hquote (ih fun d hd => h d (List.mem_cons_of_mem c hd))

theorem balanced_quoted (hquote : Identifier.closingQuote? opening = some closing)
    (htext : closing ∉ cs) : Balanced (opening :: (cs ++ [closing])) :=
  .quoted hquote htext .nil

theorem ne_dot_of_closingQuote? (h : Identifier.closingQuote? opening = some closing) :
    opening ≠ '.' := by
  rintro rfl
  have hdot : Identifier.closingQuote? '.' = none := by decide
  rw [hdot] at h
  cases h

/-! ## Reading -/

theorem push_dot (finished : List (List Char)) (current : List Char) :
    push ⟨finished, current, none⟩ '.' = ⟨finished ++ [current], [], none⟩ := by
  simp only [push, if_true]

theorem push_char {c : Char} (hdot : c ≠ '.') (finished : List (List Char))
    (current : List Char) : push ⟨finished, current, none⟩ c =
      ⟨finished, current ++ [c], Identifier.closingQuote? c⟩ := by
  simp only [push, if_neg hdot]

theorem foldl_quoted (h : closing ∉ cs) (finished : List (List Char)) (current : List Char) :
    cs.foldl push ⟨finished, current, some closing⟩ =
      ⟨finished, current ++ cs, some closing⟩ := by
  induction cs generalizing current with
  | nil => rw [List.foldl_nil, List.append_nil]
  | cons c cs ih =>
    rw [List.mem_cons, not_or] at h
    have hpush : push ⟨finished, current, some closing⟩ c =
        ⟨finished, current ++ [c], some closing⟩ := by
      simp only [push, if_neg (Ne.symm h.1)]
    rw [List.foldl_cons, hpush, ih h.2, List.append_assoc]
    rfl

theorem foldl_between {text : List Char} (hquote : Identifier.closingQuote? opening = some closing)
    (htext : closing ∉ text) (cs : List Char) (finished : List (List Char))
    (current : List Char) :
    (opening :: (text ++ closing :: cs)).foldl push ⟨finished, current, none⟩ =
      cs.foldl push ⟨finished, current ++ opening :: (text ++ [closing]), none⟩ := by
  have hclose : push ⟨finished, current ++ [opening] ++ text, some closing⟩ closing =
      ⟨finished, current ++ [opening] ++ text ++ [closing], none⟩ := by
    simp only [push, if_true]
  rw [List.foldl_cons, push_char (ne_dot_of_closingQuote? hquote), hquote, List.foldl_append,
    foldl_quoted htext, List.foldl_cons, hclose]
  simp only [List.append_assoc, List.cons_append, List.nil_append]

/-- **A balanced text** goes to the segment that is read. -/
theorem foldl_balanced (h : Balanced cs) (finished : List (List Char)) (current : List Char) :
    cs.foldl push ⟨finished, current, none⟩ = ⟨finished, current ++ cs, none⟩ := by
  induction h generalizing current with
  | nil => rw [List.foldl_nil, List.append_nil]
  | char hdot hquote _ ih =>
    rw [List.foldl_cons, push_char hdot, hquote, ih, List.append_assoc]
    rfl
  | quoted hquote htext _ ih =>
    rw [foldl_between hquote htext, ih]
    simp only [List.append_assoc, List.cons_append, List.nil_append]

theorem intercalate_concat (sep : List Char) (init : List (List Char)) (last : List Char) :
    List.intercalate sep (init ++ [last]) = init.flatMap (· ++ sep) ++ last := by
  induction init with
  | nil => rw [List.nil_append, List.intercalate_singleton, List.flatMap_nil, List.nil_append]
  | cons cs init ih =>
    have hne : init ++ [last] ≠ [] := List.append_ne_nil_of_right_ne_nil _ (List.cons_ne_nil _ _)
    rw [List.cons_append, List.intercalate_cons_of_ne_nil hne, ih, List.flatMap_cons,
      List.append_assoc, List.append_assoc, List.append_assoc]

/-- **Balanced texts with dots between them** are as many segments. -/
theorem ofChars_intercalate {init : List (List Char)} {last : List Char}
    (h : ∀ cs ∈ init ++ [last], Balanced cs) :
    ofChars (List.intercalate ['.'] (init ++ [last])) = ⟨init, last, none⟩ := by
  have hinit : ∀ finished, (init.flatMap (· ++ ['.'])).foldl push ⟨finished, [], none⟩ =
      ⟨finished ++ init, [], none⟩ := by
    induction init with
    | nil =>
      intro finished
      rw [List.flatMap_nil, List.foldl_nil, List.append_nil]
    | cons cs init ih =>
      intro finished
      rw [List.flatMap_cons, List.foldl_append, List.foldl_append,
        foldl_balanced (h cs List.mem_cons_self), List.nil_append, List.foldl_cons, List.foldl_nil,
        push_dot, ih fun ds hds => h ds (List.mem_cons_of_mem cs hds), List.append_assoc]
      rfl
  rw [intercalate_concat, ofChars, List.foldl_append, hinit, List.nil_append,
    foldl_balanced (h last (List.mem_append_right init List.mem_cons_self)), List.nil_append]

/-! ## What has been read -/

/-- What has been read of a segment, up to a quote that has to close: a balanced text, and behind it
a text between quotes that is not complete. -/
def Begun : Option Char → List Char → Prop
  | none, cs => Balanced cs
  | some closing, cs => ∃ before opening text, cs = before ++ opening :: text ∧ Balanced before ∧
      Identifier.closingQuote? opening = some closing ∧ closing ∉ text

/-- What has been read of a text. -/
structure Scanned (cs : List Char) (s : Segments) : Prop where
  joined : s.finished.flatMap (· ++ ['.']) ++ s.current = cs
  finished : ∀ ds ∈ s.finished, Balanced ds
  current : Begun s.closing s.current

/-- **One more character.** -/
theorem Scanned.step {s : Segments} (h : Scanned cs s) (c : Char) :
    Scanned (cs ++ [c]) (s.push c) := by
  obtain ⟨finished, current, closing⟩ := s
  obtain ⟨rfl, hfinished, hcurrent⟩ := h
  cases closing with
  | none =>
    by_cases hdot : c = '.'
    · subst hdot
      rw [push_dot]
      refine ⟨by simp, fun ds hds => ?_, .nil⟩
      rcases List.mem_append.mp hds with hds | hds
      · exact hfinished ds hds
      · rw [List.mem_singleton.mp hds]
        exact hcurrent
    · rw [push_char hdot]
      refine ⟨by simp, hfinished, ?_⟩
      cases hquote : Identifier.closingQuote? c with
      | none => exact Balanced.append hcurrent (.char hdot hquote .nil)
      | some close => exact ⟨current, c, [], rfl, hcurrent, hquote, List.not_mem_nil⟩
  | some close =>
    obtain ⟨before, opening, text, rfl, hbefore, hquote, htext⟩ := hcurrent
    refine ⟨by simp [push], hfinished, ?_⟩
    by_cases hc : c = close
    · subst hc
      simp only [push, if_true, Begun]
      rw [List.append_assoc]
      exact hbefore.append (balanced_quoted hquote htext)
    · simp only [push, if_neg hc, Begun]
      refine ⟨before, opening, text ++ [c], by simp, hbefore, hquote, ?_⟩
      rw [List.mem_append, List.mem_singleton, not_or]
      exact ⟨htext, Ne.symm hc⟩

/-- **Any number of characters.** -/
theorem Scanned.run {s : Segments} (h : Scanned cs s) (ds : List Char) :
    Scanned (cs ++ ds) (ds.foldl push s) := by
  induction ds generalizing cs s with
  | nil =>
    rw [List.append_nil]
    exact h
  | cons d ds ih =>
    rw [List.foldl_cons, List.append_cons]
    exact ih (h.step d)

theorem scanned_ofChars (cs : List Char) : Scanned cs (ofChars cs) := by
  have hstart : Scanned [] ⟨[], [], none⟩ := ⟨rfl, nofun, .nil⟩
  exact hstart.run cs

/-- **The segments of a text** are the texts that give it, without the blanks around it, when dots
are put between them, if all quotes are closed in them, no dot stands outside quotes, and none of
them is blank. -/
theorem split_eq_ok_iff {raw : String} {l : List (List Char)} :
    split raw = .ok l ↔ l ≠ [] ∧ List.intercalate ['.'] l = trim raw.toList ∧
      ∀ cs ∈ l, Balanced cs ∧ trim cs ≠ [] := by
  constructor
  · intro h
    obtain ⟨hjoined, hfinished, hcurrent⟩ := scanned_ofChars (trim raw.toList)
    rw [← intercalate_concat] at hjoined
    rw [split] at h
    dsimp only at h
    split at h
    · cases h
    next hclosing =>
    split at h
    · cases h
    next hblank =>
    cases h
    rw [Bool.not_eq_true, Option.isSome_eq_false_iff, Option.isNone_iff_eq_none] at hclosing
    rw [hclosing] at hcurrent
    rw [Bool.not_eq_true, List.any_eq_false] at hblank
    refine ⟨List.append_ne_nil_of_right_ne_nil _ (List.cons_ne_nil _ _), hjoined, fun cs hcs => ?_⟩
    have hne : trim cs ≠ [] := fun hnil => hblank cs hcs (List.isEmpty_iff.mpr hnil)
    rcases List.mem_append.mp hcs with hmem | hmem
    · exact ⟨hfinished cs hmem, hne⟩
    · rw [List.mem_singleton.mp hmem] at hne ⊢
      exact ⟨hcurrent, hne⟩
  · rintro ⟨hne, hjoined, hl⟩
    obtain ⟨init, last, rfl⟩ : ∃ init last, l = init ++ [last] :=
      ⟨_, _, (List.dropLast_concat_getLast hne).symm⟩
    have hchars : ofChars (trim raw.toList) = ⟨init, last, none⟩ := by
      rw [← hjoined]
      exact ofChars_intercalate fun cs hcs => (hl cs hcs).1
    have hblank : (init ++ [last]).any (fun segment => (trim segment).isEmpty) = false := by
      rw [List.any_eq_false]
      intro cs hcs
      rw [List.isEmpty_iff]
      exact (hl cs hcs).2
    simp only [split, hchars, Option.isSome_none, Bool.false_eq_true, if_false, hblank]

end Segments

end CounterTable
