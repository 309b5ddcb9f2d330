/-!
# Values by key

* `Keyed`: a value for each key that has one;
* `Keyed.get?`, `Keyed.set`, `Keyed.erase`;
* **`Keyed.get?_set`**, **`Keyed.get?_erase`**: a key gets what was set for it, or nothing once it
  is erased, and all others what they had.
-/

namespace CounterTable

/-- A value for each key that has one. -/
abbrev Keyed (κ α : Type) : Type := List (κ × α)

namespace Keyed

variable {κ α : Type} [BEq κ]

/-- The value of a key. -/
def get? (m : Keyed κ α) (k : κ) : Option α := m.lookup k

/-- Whether a key has a value. -/
def contains (m : Keyed κ α) (k : κ) : Bool := (m.get? k).isSome

/-- Takes the value of a key away. -/
def erase (m : Keyed κ α) (k : κ) : Keyed κ α := m.filter (·.1 != k)

/-- Gives a key a value, in place of the one it has. -/
def set (m : Keyed κ α) (k : κ) (a : α) : Keyed κ α := (k, a) :: m.erase k

/-- The keys that have a value. -/
def keys (m : Keyed κ α) : List κ := m.map (·.1)

variable [LawfulBEq κ]

@[simp] theorem get?_erase (m : Keyed κ α) (k l : κ) :
    (m.erase k).get? l = if l == k then none else m.get? l := by
  unfold get? erase
  induction m with
  | nil => simp
  | cons p m ih =>
    obtain ⟨j, a⟩ := p
    by_cases hj : j = k
    · subst hj
      by_cases hl : l = j
      · subst hl
        simpa using ih
      · have : (l == j) = false := by simpa using hl
        simpa [List.lookup_cons, this] using ih
    · have hf : List.filter (fun p : κ × α => p.1 != k) ((j, a) :: m) =
          (j, a) :: m.filter (·.1 != k) := by simp [hj]
      rw [hf]
      simp only [List.lookup_cons, ih]
      by_cases hl : l = k
      · subst hl
        have : (l == j) = false := by simpa using Ne.symm hj
        simp [this]
      · have : (l == k) = false := by simpa using hl
        simp [this]

@[simp] theorem get?_set (m : Keyed κ α) (k l : κ) (a : α) :
    (m.set k a).get? l = if l == k then some a else m.get? l := by
  have := get?_erase m k l
  unfold get? at this
  unfold get? set
  by_cases h : l = k
  · simp [h]
  · have hlk : (l == k) = false := by simpa using h
    simpa [List.lookup_cons, hlk] using this

end Keyed

end CounterTable
