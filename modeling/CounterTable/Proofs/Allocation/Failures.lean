import CounterTable.Proofs.Allocation.Exchanges
import CounterTable.Proofs.Allocation.Steps

/-!
# Why an allocation fails

In a race an allocation begins, commits and rolls back without failing, so it answers the failure of
its work. If that is an overflow, the work has read a value that it cannot advance: as long as the
first value of the table is of the type of the counter, so is every value that is read.

* `Counter.Refuses`: an allocation reads a value that it cannot advance;
* `Contest.failed_of_finished`: which failure an allocation answers;
* **`Contest.refuses_of_failed`**: where an overflow comes from.
-/

namespace CounterTable

theorem RetryPolicy.eq_of_afterLoss {policy : RetryPolicy} {table : String} {number : Nat}
    {e : Error} (h : policy.afterLoss table number = .error e) :
    e = .retriesExhausted table number := by
  cases policy with
  | unbounded => cases h
  | bounded m =>
    simp only [afterLoss] at h
    split at h
    · cases h
      rfl
    · cases h

namespace Counter

variable {c : Counter} {q : QueryResult} {text : String}

/-- An allocation that is about to read, on this connection, reads a value of the type of the
counter, and the step from it leaves the range. -/
def Refuses (c : Counter) (db : Database) (id : Nat) (a : Allocation) (e : Error) : Prop :=
  a.attempt = .reading ∧ ∃ rows db' value current,
    (Database.connection id).call .query db = (.ok rows, db') ∧ rows.firstValue? = some value ∧
      Integral.ofValue value c.numberType = .ok current ∧ current.add c.step = .error e

theorem readRow_of_overflow {σ : Type} {conn : Connection σ} {a : Allocation} {s s' : σ}
    (h : c.allocation conn a s = (.finished (.error (.overflow text)), s')) :
    a.attempt = .reading ∧ ∃ rows, conn.call .query s = (.ok rows, s') ∧
      c.readRow rows = .error (.overflow text) := by
  cases hanswer : (conn.call (a.attempt.call c) s).1 with
  | error e =>
    rw [allocation_of_error hanswer] at h
    cases h
  | ok answer =>
    obtain ⟨number, attempt⟩ := a
    cases attempt with
    | preparingRead =>
      rcases hcall : conn.call (.prepare c.selectText) s with ⟨e | u, s''⟩ <;>
        simp only [allocation, hcall] at h <;> cases h
    | reading =>
      rcases hcall : conn.call .query s with ⟨e | rows, s''⟩
      · simp only [allocation, hcall] at h
        cases h
      · cases hrow : c.readRow rows with
        | ok row =>
          simp only [allocation, hcall, hrow] at h
          cases h
        | error e =>
          simp only [allocation, hcall, hrow] at h
          cases h
          exact ⟨rfl, rows, rfl, hrow⟩
    | preparingWrite current advanced =>
      rcases hcall : conn.call (.prepare c.updateText) s with ⟨e | u, s''⟩ <;>
        simp only [allocation, hcall] at h <;> cases h
    | bindingAdvanced current advanced =>
      rcases hcall : conn.call (.bind 1 advanced.toValue) s with ⟨e | u, s''⟩ <;>
        simp only [allocation, hcall] at h <;> cases h
    | bindingCurrent current =>
      rcases hcall : conn.call (.bind 2 current.toValue) s with ⟨e | u, s''⟩ <;>
        simp only [allocation, hcall] at h <;> cases h
    | writing current =>
      rcases hcall : conn.call .update s with ⟨e | _ | n, s''⟩ <;>
        simp only [allocation, hcall] at h
      · cases h
      · cases hloss : c.retry.afterLoss c.table number with
        | ok number' =>
          simp only [hloss] at h
          cases h
        | error e =>
          simp only [hloss] at h
          cases h
          cases RetryPolicy.eq_of_afterLoss hloss
      · cases h

theorem add_of_overflow {n : Int64} (hq : q.firstValue? = some (.integer n))
    (hn : c.numberType.Contains n.toInt) (h : c.readRow q = .error (.overflow text)) :
    ∃ current, Integral.ofValue (.integer n) c.numberType = .ok current ∧
      current.add c.step = .error (.overflow text) := by
  have hvalue : Integral.ofValue (.integer n) c.numberType = .ok ⟨c.numberType, n.toInt, hn⟩ :=
    Integral.make_of_contains hn
  refine ⟨_, hvalue, ?_⟩
  rw [readRow, hq] at h
  simp only [hvalue] at h
  split at h
  · next e hadd =>
    cases h
    exact hadd
  · cases h

end Counter

namespace Contest

variable {ι : Type} {name : String} {counter : ι → Counter} {places : ι → Counter.NextValue}
  {db db' : Database} {ns : List Int64} {i : ι} {id : Nat} {e : Error} {text : String}

/-- **An allocation answers the failure** of its work. -/
theorem failed_of_finished (h : Contest name counter places db ns)
    (hs : (counter i).unobserved Database.backend (places i) db = (.finished (.error e), db')) :
    ∃ id, places i = .connected id (.deciding [.error e] none) := by
  have hstands := h.stands i
  cases hp : places i with
  | connecting =>
    rw [hp, Counter.unobserved_connecting] at hs
    cases hs
  | connected id w =>
    rw [hp] at hstands hs
    cases hstands with
    | connected hl hx =>
      rw [Counter.unobserved_start _ hl hx] at hs
      cases hs
    | @attempting _ _ _ a hl hx ha =>
      rw [Counter.unobserved_working] at hs
      rcases hr : (counter i).allocation (Database.connection id) a db with ⟨a' | e' | v, db''⟩ <;>
        rw [hr] at hs <;> cases hs
    | claimed hl hx hc =>
      rw [Counter.unobserved_commit _ hl hx] at hs
      cases hs
    | failed hl =>
      rw [Counter.unobserved_rollback] at hs
      cases hs
      exact ⟨id, rfl⟩

/-- **An overflow** is that of the step from a value that has been read. -/
theorem refuses_of_failed (h : Contest name counter places db ns) (ho : (counter i).Over name)
    {v : Int} (hfirst : first? ns = some v) (hv : (counter i).numberType.Contains v)
    (hs : (counter i).unobserved Database.backend (places i) db =
      (.running (.connected id (.deciding [.error (.overflow text)] none)), db')) :
    ∃ a, places i = .connected id (.working [] none a) ∧
      (counter i).Refuses db id a (.overflow text) := by
  have hstands := h.stands i
  cases hp : places i with
  | connecting =>
    rw [hp, Counter.unobserved_connecting] at hs
    cases hs
  | connected id' w =>
    rw [hp] at hstands hs
    cases hstands with
    | connected hl hx =>
      rw [Counter.unobserved_start _ hl hx] at hs
      cases hs
    | @attempting _ link _ a hl hx ha =>
      rw [Counter.unobserved_working] at hs
      rcases hr : (counter i).allocation (Database.connection id') a db with ⟨a' | e | u, db''⟩ <;>
        rw [hr] at hs <;> cases hs
      refine ⟨a, rfl, ?_⟩
      obtain ⟨number, attempt⟩ := a
      obtain ⟨hreading, rows, hquery, hrow⟩ := Counter.readRow_of_overflow hr
      cases hreading
      obtain ⟨s, hselect, hprepared⟩ := ha
      obtain ⟨column, shown, forUpdate, rfl⟩ := ho.reads s hselect
      have hc := Counter.NextValue.not_claims hp (by simp)
      -- What the allocation reads is the first value of the table.
      have hread := h.read (h.not_claims hp hc) hl hprepared (congrArg Prod.fst hquery)
      obtain ⟨n, hhead, rfl⟩ := Option.map_eq_some_iff.mp hfirst
      rw [hhead] at hread
      obtain ⟨current, hvalue, hadd⟩ := Counter.add_of_overflow hread hv hrow
      exact ⟨rfl, rows, _, _, current, hquery, hread, hvalue, hadd⟩
    | claimed hl hx hc =>
      rw [Counter.unobserved_commit _ hl hx] at hs
      cases hs
    | failed hl =>
      rw [Counter.unobserved_rollback] at hs
      cases hs

end Contest

end CounterTable
