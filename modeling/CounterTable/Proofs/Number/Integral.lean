import CounterTable.Number.Integral
import CounterTable.Proofs.Success

/-!
# Arithmetic of integral values

An operation that does not overflow gives the exact result.
-/

namespace CounterTable

open CounterTable.Text

namespace Integral

variable {a b : Integral} {n : Int}

theorem make_of_contains {type : NumberType} (h : type.Contains n) :
    make type n = .ok ⟨type, n, h⟩ := by
  rw [make, ofInt?, dif_pos h]

theorem make_of_not_contains {type : NumberType} (h : ¬ type.Contains n) :
    make type n = .error (.overflow s!"{renderInt n} does not fit in a {type.name}") := by
  rw [make, ofInt?, dif_neg h]

theorem checked_of_contains {operator : String} {operand result : Int}
    (h : a.type.Contains result) :
    a.checked operator operand result = .ok ⟨a.type, result, h⟩ := by
  rw [checked, ofInt?, dif_pos h]

theorem exists_checked {operator : String} {operand result : Int} (h : a.type.Contains result) :
    ∃ b, a.checked operator operand result = .ok b ∧ b.type = a.type ∧ b.val = result :=
  ⟨_, checked_of_contains h, rfl, rfl⟩

theorem checked_of_not_contains {operator : String} {operand result : Int}
    (h : ¬ a.type.Contains result) :
    ∃ text, a.checked operator operand result = .error (.overflow text) := by
  rw [checked, ofInt?, dif_neg h]
  exact ⟨_, rfl⟩

theorem add_of_contains (h : a.type.Contains (a.val + n)) :
    a.add n = .ok ⟨a.type, a.val + n, h⟩ := checked_of_contains h

theorem add_of_not_contains (h : ¬ a.type.Contains (a.val + n)) :
    a.add n = .error (.overflow
      s!"{renderInt a.val} + {renderInt n} leaves the {a.type.name} range") := by
  have hplus : " + " = " " ++ "+" ++ " " := by decide
  rw [add, checked, ofInt?, dif_neg h]
  simp only [hplus, toString, String.append_assoc]

theorem of_checked {operator : String} {operand result : Int}
    (h : a.checked operator operand result = .ok b) : b.type = a.type ∧ b.val = result := by
  unfold checked at h
  split at h
  · next hb =>
    cases h
    exact ofInt?_eq_some_iff.mp hb
  · cases h

theorem of_make {type : NumberType} (h : make type n = .ok a) : a.type = type ∧ a.val = n := by
  unfold make at h
  split at h
  · next ha =>
    cases h
    exact ofInt?_eq_some_iff.mp ha
  · cases h

theorem type_make {type : NumberType} (h : make type n = .ok a) : a.type = type := (of_make h).1

theorem val_make {type : NumberType} (h : make type n = .ok a) : a.val = n := (of_make h).2

theorem val_ofValue {type : NumberType} {w : Int64} (h : ofValue (.integer w) type = .ok a) :
    a.val = w.toInt := val_make h

theorem val_add (h : a.add n = .ok b) : b.val = a.val + n := (of_checked h).2

theorem val_subtract (h : a.subtract n = .ok b) : b.val = a.val - n := (of_checked h).2

theorem val_multiply (h : a.multiply n = .ok b) : b.val = a.val * n := (of_checked h).2

theorem val_increment (h : a.increment = .ok b) : b.val = a.val + 1 := val_add h

end Integral

end CounterTable
