import Mathlib.Data.List.Nodup

/-!
# Reserved identifiers

Identifiers are reserved in blocks before they are handed out one by one. As long as new blocks lie
above all that has been reserved before, and each identifier passes from one holder to the next or is
handed out, no identifier is handed out twice.

* `Reservation`: who holds which identifiers, and which have been handed out;
* `Reservation.Sound`: each identifier has one holder, or has been handed out once;
* **`Reservation.Sound.pass`**: what one step may do.
-/

namespace CounterTable

/-- Who holds which identifiers, which have been handed out, and a bound of both. -/
structure Reservation (α : Type) where
  holds : α → Int → Prop
  given : List Int
  top : Int

namespace Reservation

variable {α : Type} {s s' : Reservation α}

/-- Each identifier has one holder, or has been handed out once. -/
structure Sound (s : Reservation α) : Prop where
  single : ∀ a b n, s.holds a n → s.holds b n → a = b
  unused : ∀ a n, s.holds a n → n ∉ s.given
  nodup : s.given.Nodup
  held_le : ∀ a n, s.holds a n → n ≤ s.top
  given_le : ∀ n ∈ s.given, n ≤ s.top

/-- Identifiers that a step reserves anew. -/
def Fresh (s s' : Reservation α) (n : Int) : Prop := s.top < n ∧ n ≤ s'.top

/-- Identifiers that a step reserves anew, or that somebody gives up in it. -/
def Free (s s' : Reservation α) (n : Int) : Prop :=
  s.Fresh s' n ∨ ∃ b, s.holds b n ∧ ¬ s'.holds b n

/-- What one step does: free identifiers go to one holder, and one of them may be handed out. -/
structure Passes (s s' : Reservation α) (a : α) : Prop where
  top_le : s.top ≤ s'.top
  holds : ∀ b n, s'.holds b n → s.holds b n ∨ b = a ∧ s.Free s' n
  given : s'.given = s.given ∨
    ∃ n, s'.given = s.given ++ [n] ∧ s.Free s' n ∧ ¬ s'.holds a n

theorem Sound.le_of_free (h : s.Sound) {a : α} (hp : s.Passes s' a) {n : Int}
    (hn : s.Free s' n) : n ≤ s'.top := by
  rcases hn with hn | ⟨b, hb, -⟩
  · exact hn.2
  · have hle := h.held_le b n hb
    have htop := hp.top_le
    omega

theorem Sound.notMem_of_free (h : s.Sound) {n : Int} (hn : s.Free s' n) : n ∉ s.given := by
  rcases hn with hn | ⟨b, hb, -⟩
  · intro hmem
    have hle := h.given_le n hmem
    have hlt := hn.1
    omega
  · exact h.unused b n hb

theorem Sound.not_holds_of_free (h : s.Sound) {n : Int} (hn : s.Free s' n) {b : α}
    (hb : s.holds b n) : ¬ s'.holds b n := by
  rcases hn with hn | ⟨c, hc, hc'⟩
  · have hle := h.held_le b n hb
    have hlt := hn.1
    omega
  · rw [h.single b c n hb hc]
    exact hc'

/-- **A step** that only passes free identifiers on keeps all apart. -/
theorem Sound.pass (h : s.Sound) {a : α} (hp : s.Passes s' a) : s'.Sound where
  single b c n hb hc := by
    rcases hp.holds b n hb with hb' | ⟨rfl, hfree⟩
    · rcases hp.holds c n hc with hc' | ⟨rfl, hfree⟩
      · exact h.single b c n hb' hc'
      · exact absurd hb (h.not_holds_of_free hfree hb')
    · rcases hp.holds c n hc with hc' | ⟨rfl, -⟩
      · exact absurd hc (h.not_holds_of_free hfree hc')
      · rfl
  unused b n hb := by
    have hold : n ∉ s.given := by
      rcases hp.holds b n hb with hb' | ⟨-, hfree⟩
      · exact h.unused b n hb'
      · exact h.notMem_of_free hfree
    rcases hp.given with hg | ⟨m, hg, hfree, hm⟩
    · rw [hg]
      exact hold
    · rw [hg, List.mem_append, List.mem_singleton]
      rintro (hmem | rfl)
      · exact hold hmem
      · rcases hp.holds b n hb with hb' | ⟨rfl, -⟩
        · exact h.not_holds_of_free hfree hb' hb
        · exact hm hb
  nodup := by
    rcases hp.given with hg | ⟨m, hg, hfree, -⟩
    · rw [hg]
      exact h.nodup
    · rw [hg]
      exact h.nodup.append (List.nodup_singleton m)
        (List.disjoint_singleton.mpr (h.notMem_of_free hfree))
  held_le b n hb := by
    rcases hp.holds b n hb with hb' | ⟨-, hfree⟩
    · have hle := h.held_le b n hb'
      have htop := hp.top_le
      omega
    · exact h.le_of_free hp hfree
  given_le n hn := by
    have htop := hp.top_le
    rcases hp.given with hg | ⟨m, hg, hfree, -⟩
    · have hle := h.given_le n (hg ▸ hn)
      omega
    · rw [hg, List.mem_append, List.mem_singleton] at hn
      rcases hn with hn | rfl
      · have hle := h.given_le n hn
        omega
      · exact h.le_of_free hp hfree

end Reservation

end CounterTable
