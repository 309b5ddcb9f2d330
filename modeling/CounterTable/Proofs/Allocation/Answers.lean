import CounterTable.Proofs.Allocation.Attempts

/-!
# What an allocation answers

An allocation answers a value of the type of its counter, and is counted once for it: when the row
is replaced, just before the transaction is committed.

* `Counter.NextValue.Every`, **`Counter.unobserved_every`**: all values that an allocation has read
  and may answer have what its rows give them;
* `Counter.NextValue.OfType`, `Counter.unobserved_ofType`: so they are of the type;
* `Counter.NextValue.successes`, **`Counter.nextValue_counts`**: the count;
* `Contest.claimed_of_answered`: an allocation that answers has been counted.
-/

namespace CounterTable

/-! ## What all values have -/

/-- All values that an allocation has read have this property. -/
def Counter.NextValue.Every (P : Integral → Prop) : Counter.NextValue → Prop
  | .connecting => True
  | .connected _ (.deciding _ value) => ∀ v, value = some v → P v
  | .connected _ (.working _ value a) => (∀ v, value = some v → P v) ∧
    ∀ v, a.attempt.current? = some v → P v

namespace Counter

variable {σ : Type} {c : Counter}

theorem type_of_readRow {q : QueryResult} {current advanced : Integral}
    (h : c.readRow q = .ok (current, advanced)) : current.type = c.numberType := by
  unfold readRow at h
  split at h
  · cases h
  · next value _ =>
    split at h
    · cases h
    · next v hv =>
      have htype : v.type = c.numberType := by
        unfold Integral.ofValue at hv
        split at hv
        · exact Integral.type_make hv
        · cases hv
      split at h
      · cases h
      · cases h
        exact htype

theorem allocation_every (conn : Connection σ) {P : Integral → Prop}
    (hread : ∀ q current advanced, c.readRow q = .ok (current, advanced) → P current)
    {a : Allocation} (s : σ) (h : ∀ v, a.attempt.current? = some v → P v) :
    match c.allocation conn a s with
    | (.running a', _) => ∀ v, a'.attempt.current? = some v → P v
    | (.finished (.ok v), _) => P v
    | (.finished (.error _), _) => True := by
  obtain ⟨number, attempt⟩ := a
  have hnone : ∀ v : Integral, none = some v → P v := fun _ hv => nomatch hv
  cases attempt with
  | preparingRead =>
    simp only [allocation]
    rcases conn.call (.prepare c.selectText) s with ⟨e | u, s'⟩
    · trivial
    · exact hnone
  | reading =>
    simp only [allocation]
    rcases conn.call .query s with ⟨e | rows, s'⟩
    · trivial
    · cases hrow : c.readRow rows with
      | error e =>
        simp only [hrow]
      | ok row =>
        simp only [hrow]
        intro v hv
        cases hv
        exact hread rows row.1 row.2 hrow
  | preparingWrite current advanced =>
    simp only [allocation]
    rcases conn.call (.prepare c.updateText) s with ⟨e | u, s'⟩
    · trivial
    · exact h
  | bindingAdvanced current advanced =>
    simp only [allocation]
    rcases conn.call (.bind 1 advanced.toValue) s with ⟨e | u, s'⟩
    · trivial
    · exact h
  | bindingCurrent current =>
    simp only [allocation]
    rcases conn.call (.bind 2 current.toValue) s with ⟨e | u, s'⟩
    · trivial
    · exact h
  | writing current =>
    simp only [allocation]
    rcases conn.call .update s with ⟨e | _ | n, s'⟩
    · trivial
    · cases c.retry.afterLoss c.table number with
      | error e => trivial
      | ok n => exact hnone
    · exact h current rfl

/-- **Every step of an allocation** keeps to values that have what its rows give them. -/
theorem unobserved_every (b : Backend σ) {P : Integral → Prop}
    (hread : ∀ q current advanced, c.readRow q = .ok (current, advanced) → P current)
    {place : NextValue} (h : place.Every P) (s : σ) :
    match c.unobserved b place s with
    | (.running place', _) => place'.Every P
    | (.finished (.ok v), _) => P v
    | (.finished (.error _), _) => True := by
  rcases place with _ | ⟨id, ⟨outcomes, value⟩ | ⟨outcomes, value, a⟩⟩
  · rintro v ⟨⟩
  · simp only [unobserved, Backend.fresh, Delegate.delegated]
    rcases (Delegate.isolated (b.connection id) true).next outcomes s with ⟨_ | r, s'⟩
    · exact ⟨h, fun v hv => by cases hv⟩
    · rcases r with e | _
      · trivial
      · cases value with
        | none => trivial
        | some v => exact h v rfl
  · have hstep := allocation_every (b.connection id) hread s h.2
    simp only [unobserved, Backend.fresh, Delegate.delegated]
    rcases hr : c.allocation (b.connection id) a s with ⟨a' | e | v, s'⟩
    · rw [hr] at hstep
      exact ⟨h.1, hstep⟩
    · exact h.1
    · rw [hr] at hstep
      intro u hu
      cases hu
      exact hstep

end Counter

/-! ## Types -/

/-- All values that an allocation has read are of this type. -/
def Counter.NextValue.OfType (type : NumberType) : Counter.NextValue → Prop
  | .connecting => True
  | .connected _ (.deciding _ value) => ∀ v, value = some v → v.type = type
  | .connected _ (.working _ value a) => (∀ v, value = some v → v.type = type) ∧
    ∀ v, a.attempt.current? = some v → v.type = type

theorem Counter.NextValue.ofType_eq (type : NumberType) :
    OfType type = Every fun v => v.type = type := by
  funext place
  rcases place with _ | ⟨id, ⟨outcomes, value⟩ | ⟨outcomes, value, a⟩⟩ <;> rfl

theorem Counter.unobserved_ofType {σ : Type} {c : Counter} (b : Backend σ)
    {place : Counter.NextValue} (h : place.OfType c.numberType) (s : σ) :
    match c.unobserved b place s with
    | (.running place', _) => place'.OfType c.numberType
    | (.finished (.ok v), _) => v.type = c.numberType
    | (.finished (.error _), _) => True := by
  rw [Counter.NextValue.ofType_eq] at h ⊢
  exact unobserved_every b (fun _ _ _ hrow => type_of_readRow hrow) h s

/-! ## The count -/

/-- How often delegated work has succeeded. -/
def Delegated.successes {ω α : Type} : Delegated ω α → Nat
  | deciding outcomes _ => outcomes.countP Except.isOk
  | working outcomes _ _ => outcomes.countP Except.isOk

/-- How often an allocation has been counted. -/
def Counter.NextValue.successes : Counter.NextValue → Nat
  | .connecting => 0
  | .connected _ w => w.successes

section Counting

variable {σ τ ω α : Type}

theorem Delegate.isolated_beside (conn : Connection σ) (transacted : Bool)
    (outcomes : List (Except Error Unit)) (s : σ × τ) :
    ((Delegate.isolated (conn.beside τ) transacted).next outcomes s).2.2 = s.2 := by
  cases transacted with
  | false => rfl
  | true =>
    cases hlast : outcomes.getLast? with
    | none =>
      simp only [Delegate.isolated, hlast]
      split
      · rfl
      · have hbegin : ((conn.beside τ).call .begin s).2.2 = s.2 := rfl
        rcases hcall : (conn.beside τ).call .begin s with ⟨e | u, s'⟩ <;> rw [hcall] at hbegin <;>
          exact hbegin
    | some last => cases last <;> simp only [Delegate.isolated, hlast] <;> rfl

/-- **Every step of an allocation** counts it if it succeeds in that step. -/
theorem Counter.nextValue_counts (c : Counter) (b : Backend σ) (logger : Logger)
    (place : NextValue) (s : Accessed σ) :
    match c.nextValue b logger place s with
    | (.running place', s') => s'.2 + .ofNat place.successes = s.2 + .ofNat place'.successes
    | (.finished _, s') => s'.2 = s.2 := by
  rw [nextValue_eq_isolated]
  rcases place with _ | ⟨id, ⟨outcomes, value⟩ | ⟨outcomes, value, a⟩⟩
  · rfl
  · have hcount := Delegate.isolated_beside ((b.connection id).beside Journal) true outcomes s
    simp only [Backend.fresh, isolated, Delegate.delegated]
    rcases hr : (Delegate.isolated (((b.connection id).beside Journal).beside UInt64) true).next
      outcomes s with ⟨_ | r, s'⟩ <;> rw [hr] at hcount
    · exact congrArg (· + .ofNat (outcomes.countP Except.isOk)) hcount
    · exact hcount
  · simp only [Backend.fresh, isolated, Delegate.delegated, observedAllocation, Work.counting]
    rcases c.allocation ((b.connection id).observed logger) a s.1 with ⟨a' | e | v, s'⟩
    · rfl
    · have hsame : (outcomes ++ [Except.error e]).countP Except.isOk =
          outcomes.countP Except.isOk := List.countP_append
      exact congrArg (s.2 + .ofNat ·) hsame.symm
    · have hone : (outcomes ++ [Except.ok ()]).countP Except.isOk =
          outcomes.countP Except.isOk + 1 := List.countP_append
      have hnext : s.2 + 1 + .ofNat (outcomes.countP Except.isOk) =
          s.2 + .ofNat (outcomes.countP Except.isOk + 1) := by
        rw [UInt64.ofNat_add, UInt64.add_assoc, UInt64.add_comm 1]
        rfl
      exact hnext.trans (congrArg (s.2 + .ofNat ·) hone.symm)

end Counting

theorem Contest.claimed_of_answered {ι : Type} {name : String} {counter : ι → Counter}
    {places : ι → Counter.NextValue} {db db' : Database} {ns : List Int64}
    (h : Contest name counter places db ns) {i : ι} {v : Integral}
    (hv : (counter i).unobserved Database.backend (places i) db = (.finished (.ok v), db')) :
    (places i).successes = 1 := by
  have hs := h.stands i
  cases hp : places i with
  | connecting =>
    rw [hp, Counter.unobserved_connecting] at hv
    cases hv
  | connected id w =>
    rw [hp] at hs hv
    cases hs with
    | connected hl hx =>
      rw [Counter.unobserved_start _ hl hx] at hv
      cases hv
    | attempting hl hx ha =>
      rename_i a
      rw [Counter.unobserved_working] at hv
      rcases hr : (counter i).allocation (Database.connection id) a db with ⟨a' | e | v', db''⟩ <;>
        rw [hr] at hv <;> cases hv
    | claimed hl hx hc => rfl
    | failed hl =>
      rw [Counter.unobserved_rollback] at hv
      cases hv

end CounterTable
