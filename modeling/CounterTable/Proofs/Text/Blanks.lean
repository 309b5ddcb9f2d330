import CounterTable.Text.Blank
import Mathlib.Data.List.Basic
import Mathlib.Data.List.TakeWhile

/-!
# Blanks around a text

* `Solid`: texts that neither begin nor end in a blank;
* **`Solid.trim_between`**: blanks around such a text are taken away;
* **`exists_blanks_trim`**: nothing but blanks is taken away;
* `trim_eq_nil_iff`: nothing is left of blanks alone.
-/

namespace CounterTable.Text

/-- A text that neither begins nor ends in a blank. -/
structure Solid (cs : List Char) : Prop where
  ne_nil : cs ≠ []
  head : ∀ c ∈ cs.head?, isBlank c = false
  last : ∀ c ∈ cs.getLast?, isBlank c = false

variable {cs ds : List Char}

theorem Solid.trim_eq (h : Solid cs) : trim cs = cs := trim_eq_self h.head h.last

theorem trimStart_append (h : ∀ c ∈ cs, isBlank c = true) (ds : List Char) :
    trimStart (cs ++ ds) = trimStart ds :=
  List.dropWhile_append_of_pos h

theorem trimEnd_append (h : ∀ c ∈ cs, isBlank c = true) (ds : List Char) :
    trimEnd (ds ++ cs) = trimEnd ds := by
  rw [trimEnd, List.reverse_append,
    List.dropWhile_append_of_pos fun c hc => h c (List.mem_reverse.mp hc), trimEnd]

theorem Solid.trim_between (h : Solid cs) {before after : List Char}
    (hbefore : ∀ c ∈ before, isBlank c = true) (hafter : ∀ c ∈ after, isBlank c = true) :
    trim (before ++ cs ++ after) = cs := by
  obtain ⟨c, cs', rfl⟩ := List.exists_cons_of_ne_nil h.ne_nil
  have hc : isBlank c = false := h.head c rfl
  have hself := h.trim_eq
  rw [trim, trimStart_cons hc] at hself
  rw [trim, List.append_assoc, trimStart_append hbefore, List.cons_append, trimStart_cons hc,
    ← List.cons_append, trimEnd_append hafter, hself]

theorem Solid.append (h : Solid cs) (h' : Solid ds) (between : List Char) :
    Solid (cs ++ between ++ ds) where
  ne_nil hnil := h'.ne_nil (List.append_eq_nil_iff.mp hnil).2
  head c hc := by
    rw [List.append_assoc, List.head?_append_of_ne_nil _ h.ne_nil] at hc
    exact h.head c hc
  last c hc := by
    rw [List.getLast?_append_of_ne_nil _ h'.ne_nil] at hc
    exact h'.last c hc

/-- **Nothing but blanks** is taken away. -/
theorem exists_blanks_trim (cs : List Char) :
    ∃ before after, (∀ c ∈ before, isBlank c = true) ∧ (∀ c ∈ after, isBlank c = true) ∧
      cs = before ++ trim cs ++ after := by
  refine ⟨cs.takeWhile isBlank, ((trimStart cs).reverse.takeWhile isBlank).reverse,
    List.all_eq_true.mp List.all_takeWhile, fun c hc => ?_, ?_⟩
  · exact List.all_eq_true.mp List.all_takeWhile c (List.mem_reverse.mp hc)
  · have hend : trimEnd (trimStart cs) ++ ((trimStart cs).reverse.takeWhile isBlank).reverse =
        trimStart cs := by
      rw [trimEnd, ← List.reverse_append, List.takeWhile_append_dropWhile, List.reverse_reverse]
    rw [trim, List.append_assoc, hend, trimStart, List.takeWhile_append_dropWhile]

theorem trim_eq_nil_iff : trim cs = [] ↔ ∀ c ∈ cs, isBlank c = true := by
  constructor
  · intro h
    obtain ⟨before, after, hbefore, hafter, hcs⟩ := exists_blanks_trim cs
    rw [h, List.append_nil] at hcs
    rw [hcs]
    exact List.forall_mem_append.mpr ⟨hbefore, hafter⟩
  · intro h
    have hstart : trimStart cs = [] := List.dropWhile_eq_nil_iff.mpr h
    rw [trim, hstart]
    rfl

end CounterTable.Text
