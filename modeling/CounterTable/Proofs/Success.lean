import Mathlib.Data.List.Forall2

/-!
# Success in parts

What succeeds as a whole has succeeded in all its parts.

* `exists_of_bind_eq_ok`: one part after another;
* `forall₂_of_mapM`, `exists_of_mapM`, `mapM_map_eq_ok`: a part for each element of a list.
-/

namespace CounterTable

theorem exists_of_bind_eq_ok {ε α β : Type} {x : Except ε α} {f : α → Except ε β} {b : β}
    (h : (do let a ← x; f a) = .ok b) : ∃ a, x = .ok a ∧ f a = .ok b := by
  cases x with
  | error e => cases h
  | ok a => exact ⟨a, rfl, h⟩

theorem forall₂_of_mapM {α β ε : Type} {f : α → Except ε β} {l : List α} {m : List β}
    (h : l.mapM f = .ok m) : List.Forall₂ (fun a b => f a = .ok b) l m := by
  induction l generalizing m with
  | nil =>
    cases h
    exact .nil
  | cons a l ih =>
    rw [List.mapM_cons] at h
    obtain ⟨b, ha, h⟩ := exists_of_bind_eq_ok h
    obtain ⟨m', hl, h⟩ := exists_of_bind_eq_ok h
    cases h
    exact .cons ha (ih hl)

theorem exists_of_mapM {α β ε : Type} {f : α → Except ε β} {l : List α} {m : List β}
    (h : l.mapM f = .ok m) {b : β} (hb : b ∈ m) : ∃ a ∈ l, f a = .ok b := by
  have hf := forall₂_of_mapM h
  clear h
  induction hf with
  | nil => cases hb
  | cons ha _ ih =>
    rcases List.mem_cons.mp hb with rfl | hb
    · exact ⟨_, List.mem_cons_self, ha⟩
    · obtain ⟨a, hmem, ha⟩ := ih hb
      exact ⟨a, List.mem_cons_of_mem _ hmem, ha⟩

theorem mapM_map_eq_ok {α β γ ε : Type} {f : α → β} {g : β → Except ε γ} {value : α → γ}
    {l : List α} (h : ∀ a ∈ l, g (f a) = .ok (value a)) :
    (l.map f).mapM g = .ok (l.map value) := by
  induction l with
  | nil => rfl
  | cons a l ih =>
    rw [List.map_cons, List.mapM_cons, h a List.mem_cons_self,
      ih fun b hb => h b (List.mem_cons_of_mem a hb)]
    rfl

end CounterTable
