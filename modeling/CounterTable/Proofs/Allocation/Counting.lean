import CounterTable.Proofs.Allocation.Delegation

/-!
# The count of the allocations

An allocation is counted as soon as its work has succeeded, which is before its transaction is
committed. If the commit then fails, the call fails as well, but it has been counted. No other
failure of a connection makes a difference between the count and the calls that succeed.

* `Backend.answered`, `Counter.exchanged`: what the connection of a call is asked and answers;
* `Counter.Calls`: calls for the next value, one after another, each on a connection of its own;
* `Counter.counts_of_run`: one call;
* **`Counter.accessed_by_calls`**: any number of calls.
-/

namespace CounterTable

variable {σ τ ω α : Type}

/-! ## Exchanges of a call -/

/-- The exchange is a commit that has failed. -/
def Exchange.isFailedCommit : Exchange → Bool
  | ⟨.commit, .error _⟩ => true
  | _ => false

/-- The backend with the list of the exchanges on its connections beside its state. -/
def Backend.answered (b : Backend σ) : Backend (σ × List Exchange) where
  connect := fun (s, exchanges) =>
    let (id, s) := b.connect s
    (id, (s, exchanges))
  connection id := (b.connection id).answered
  disconnect id := fun (s, exchanges) => (b.disconnect id s, exchanges)

/-- What allocations work on, without exchanges on record yet. -/
def Accessed.unasked (s : Accessed σ) : Accessed (σ × List Exchange) :=
  (((s.1.1, []), s.1.2), s.2)

/-- What allocations work on, without the exchanges. -/
def Accessed.forget (s : Accessed (σ × List Exchange)) : Accessed σ := ((s.1.1.1, s.1.2), s.2)

theorem Work.Projects.counted {π : σ → τ} {v : Work σ ω α} {w : Work τ ω α}
    (h : Work.Projects π v w) :
    Work.Projects (fun s : σ × UInt64 => (π s.1, s.2)) (Work.counting v) (Work.counting w) := by
  rintro x ⟨s, n⟩
  obtain ⟨h₁, h₂⟩ := h x s
  simp only [Work.counting]
  rcases hv : v x s with ⟨p, s'⟩
  rcases hw : w x (π s) with ⟨q, t⟩
  rw [hv, hw] at h₁ h₂
  cases h₁
  cases h₂
  rcases p with x' | e | a <;> exact ⟨rfl, rfl⟩

namespace Counter

variable {c : Counter} {steps : Nat} {r : Except Error Integral} {s s' : Accessed σ}

/-- The exchanges of a call for the next value in so many steps. -/
def exchanged (c : Counter) (b : Backend σ) (logger : Logger) (steps : Nat) (s : Accessed σ) :
    List Exchange :=
  ((c.nextValue b.answered logger).run steps .connecting s.unasked).2.1.1.2

theorem nextValue_answered_projects (c : Counter) (b : Backend σ) (logger : Logger) :
    Work.Projects Accessed.forget (c.nextValue b.answered logger) (c.nextValue b logger) := by
  refine Work.Projects.fresh (π := Accessed.forget) (fun id => ?_) (fun _ => ⟨rfl, rfl⟩)
    (fun _ _ => rfl) Delegate.start
  have hobserved : ((b.connection id).answered.observed logger).Projects
      (fun s : (σ × List Exchange) × Journal => (s.1.1, s.2))
      ((b.connection id).observed logger) := ⟨fun _ => rfl, fun _ _ => ⟨rfl, rfl⟩⟩
  have hconn : (((b.answered.beside Journal).beside UInt64).connection id).Projects Accessed.forget
      (((b.beside Journal).beside UInt64).connection id) := ⟨fun _ => rfl, fun _ _ => ⟨rfl, rfl⟩⟩
  have hwork : Work.Projects Accessed.forget
      (c.observedAllocation (b.connection id).answered logger)
      (c.observedAllocation (b.connection id) logger) := (hobserved.allocation c).counted
  exact hwork.delegated (hconn.isolated true) {}

/-! ## One call -/

theorem any_isFailedCommit_run (conn : Connection σ) (logger : Logger) (steps : Nat)
    (a : Allocation) (s : (σ × List Exchange) × Journal) :
    ((c.allocation (conn.answered.observed logger)).run steps a s).2.1.2.any
      Exchange.isFailedCommit = s.1.2.any Exchange.isFailedCommit := by
  induction steps generalizing a s with
  | zero => rfl
  | succ steps ih =>
    have hstep : (c.allocation (conn.answered.observed logger) a s).2.1.2.any
        Exchange.isFailedCommit = s.1.2.any Exchange.isFailedCommit := by
      rw [allocation_snd]
      refine List.any_append.trans ?_
      cases a.attempt <;> exact Bool.or_false _
    rw [Work.run]
    rcases hrun : c.allocation (conn.answered.observed logger) a s with ⟨a' | r, s'⟩ <;>
      rw [hrun] at hstep
    · exact (ih a' s').trans hstep
    · exact hstep

theorem count_of_run_work {conn : Connection σ} {logger : Logger} {a : Allocation}
    {s s' : Accessed (σ × List Exchange)}
    (h : (c.observedAllocation conn.answered logger).run steps a s = (some r, s')) :
    s'.2 = s.2 + (if r.isOk then 1 else 0) ∧
      s'.1.1.2.any Exchange.isFailedCommit = s.1.1.2.any Exchange.isFailedCommit := by
  obtain ⟨s, n⟩ := s
  have hcommits := any_isFailedCommit_run (c := c) conn logger steps a s
  rw [observedAllocation, Work.run_counting] at h
  cases hrun : (c.allocation (conn.answered.observed logger)).run steps a s with
  | mk result s₁ =>
    rw [hrun] at h hcommits
    cases h
    exact ⟨rfl, hcommits⟩

theorem call_beside (conn : Connection σ) (x : Call) (s : Accessed (σ × List Exchange)) :
    ((conn.answered.beside Journal).beside UInt64).call x s =
      ((conn.call x s.1.1.1).1, ((((conn.call x s.1.1.1).2,
        s.1.1.2 ++ [⟨x, (conn.call x s.1.1.1).1⟩]), s.1.2), s.2)) := rfl

/-- What a call adds to the count, and what it answers if its commit fails. -/
structure Counts (r : Except Error Integral) (exchanges : List Exchange) (n n' : UInt64) :
    Prop where
  count : n' = n + (if r.isOk then 1 else 0) +
    (if exchanges.any Exchange.isFailedCommit then 1 else 0)
  uncommitted : exchanges.any Exchange.isFailedCommit →
    ∃ e, r = .error e ∧ ⟨.commit, .error e⟩ ∈ exchanges

theorem Counts.of_none {exchanges : List Exchange} {n n' : UInt64}
    (hnone : exchanges.any Exchange.isFailedCommit = false)
    (hcount : n' = n + (if r.isOk then 1 else 0)) : Counts r exchanges n n' where
  count := by simp [hcount, hnone]
  uncommitted h := by rw [hnone] at h; cases h

/-- **The transaction of a call**: a commit that fails is the last that is asked for. -/
theorem counts_of_isolation (conn : Connection σ) {logger : Logger}
    {s s' : Accessed (σ × List Exchange)} {results : List (Except Error Integral)}
    {returned : Except Error Unit} (hs : s.1.1.2 = [])
    (h : Delegate.Isolation ((conn.answered.beside Journal).beside UInt64)
      (c.observedAllocation conn.answered logger) {} s results returned s') :
    Counts (Delegate.result returned (Delegate.lastValue? results)) s'.1.1.2 s.2 s'.2 := by
  cases h with
  | refused h => exact .of_none (by rw [hs]; rfl) (UInt64.add_zero _).symm
  | unbegun h hbegin =>
    rw [call_beside, hs] at hbegin
    obtain ⟨-, rfl⟩ := Prod.mk.inj hbegin
    exact .of_none rfl (UInt64.add_zero _).symm
  | @succeeded s₁ s₂ _ steps a _ h hbegin hrun hcommit =>
    rw [call_beside, hs] at hbegin
    obtain ⟨-, rfl⟩ := Prod.mk.inj hbegin
    obtain ⟨hcount, hnone⟩ := count_of_run_work hrun
    have hlast : ∀ x, (s₂.1.1.2 ++ [x]).any Exchange.isFailedCommit = x.isFailedCommit := by
      intro x
      rw [List.any_append, hnone]
      exact Bool.or_false _
    rw [call_beside] at hcommit
    obtain ⟨hanswer, rfl⟩ := Prod.mk.inj hcommit
    rw [hanswer]
    cases returned with
    | ok => exact .of_none (hlast _) hcount
    | error e =>
      refine ⟨?_, fun _ => ⟨e, rfl, by simp⟩⟩
      rw [hlast, hcount]
      simp [Delegate.result, Except.isOk, Except.toBool, Exchange.isFailedCommit]
  | @failed s₁ s₂ _ steps e r h hbegin hrun hrollback =>
    rw [call_beside, hs] at hbegin
    obtain ⟨-, rfl⟩ := Prod.mk.inj hbegin
    obtain ⟨hcount, hnone⟩ := count_of_run_work hrun
    rw [call_beside] at hrollback
    obtain ⟨-, rfl⟩ := Prod.mk.inj hrollback
    refine .of_none ?_ hcount
    rw [List.any_append, hnone]
    rfl

/-- **One call for the next value** is counted if it succeeds, and also if its commit fails. -/
theorem counts_of_run {b : Backend σ} {logger : Logger}
    (h : (c.nextValue b logger).run steps .connecting s = (some r, s')) :
    Counts r (c.exchanged b logger steps s) s.2 s'.2 := by
  obtain ⟨hresult, hstate⟩ := (c.nextValue_answered_projects b logger).run steps .connecting
    s.unasked
  have hforget : s.unasked.forget = s := rfl
  rw [hforget, h] at hresult hstate
  unfold exchanged
  rcases hrun : (c.nextValue b.answered logger).run steps .connecting s.unasked with ⟨r', t⟩
  rw [hrun] at hresult hstate
  cases hresult
  obtain rfl : t.forget = s' := hstate
  rw [nextValue_eq_isolated] at hrun
  obtain ⟨t', hrun', rfl⟩ := Backend.run_connected_iff.mp
    (Backend.run_connecting_iff.mp ⟨steps, hrun⟩)
  obtain ⟨results, returned, hreturns, rfl⟩ := Delegate.run_delegated_iff.mp hrun'
  exact counts_of_isolation (b.connection (b.connect s.1.1).1) rfl
    (Delegate.returns_isolated_iff.mp hreturns)

/-! ## Any number of calls -/

/-- A call for the next value: its answer, and the exchanges on its connection. -/
structure Called where
  answer : Except Error Integral
  exchanges : List Exchange

/-- The value was allocated, but the commit of the call has failed. -/
def Called.uncommitted (x : Called) : Bool := x.exchanges.any Exchange.isFailedCommit

/-- Calls for the next value, one after another, each for some session and on a connection of its
own. Between two of them anything may happen to the state. -/
inductive Calls (c : Counter) (s : Accessed σ) : List Called → Accessed σ → Prop
  | none : Calls c s [] s
  | call {calls : List Called} {s' s'' : Accessed σ} {b : Backend σ} {logger : Logger}
      {steps : Nat} {r : Except Error Integral} (h : Calls c s calls s')
      (hrun : (c.nextValue b logger).run steps .connecting s' = (some r, s'')) :
      Calls c s (calls ++ [⟨r, c.exchanged b logger steps s'⟩]) s''
  | meanwhile {calls : List Called} {s' : Accessed σ} (h : Calls c s calls s')
      (x : σ × Journal) : Calls c s calls (x, s'.2)

theorem Called.ofNat_countP_concat (p : Called → Bool) (calls : List Called) (x : Called) :
    UInt64.ofNat ((calls ++ [x]).countP p) = .ofNat (calls.countP p) + if p x then 1 else 0 := by
  rw [List.countP_append, List.countP_singleton, UInt64.ofNat_add, apply_ite UInt64.ofNat]
  rfl

/-- The word that counts makes no difference between two numbers of calls if they are whole words
apart. -/
theorem add_ofNat_eq_iff (n : UInt64) (a b : Nat) :
    n + .ofNat (a + b) = n + .ofNat a ↔ UInt64.size ∣ b := by
  rw [UInt64.add_right_inj, ← UInt64.toNat_inj, UInt64.toNat_ofNat', UInt64.toNat_ofNat']
  simp only [UInt64.size]
  omega

/-- **The count of the allocations** is that of the calls that succeeded and of those whose commit
failed, which answer this failure, modulo the word that counts. So it is the number of the calls that
succeeded exactly if the commits that failed fill whole words; with fewer calls than a word can count,
exactly if no commit has failed, whatever else the connections have answered. -/
theorem accessed_by_calls {calls : List Called} (h : c.Calls s calls s') :
    s'.2 = s.2 + .ofNat (calls.countP (·.answer.isOk) + calls.countP Called.uncommitted) ∧
      (∀ x ∈ calls, x.uncommitted → ∃ e, x.answer = .error e ∧
        ⟨.commit, .error e⟩ ∈ x.exchanges) ∧
      (s'.2 = s.2 + .ofNat (calls.countP (·.answer.isOk)) ↔
        UInt64.size ∣ calls.countP Called.uncommitted) ∧
      (calls.length < UInt64.size →
        (s'.2 = s.2 + .ofNat (calls.countP (·.answer.isOk)) ↔ ∀ x ∈ calls, ¬ x.uncommitted)) := by
  have hcounts : s'.2 = s.2 + (.ofNat (calls.countP (·.answer.isOk)) +
        .ofNat (calls.countP Called.uncommitted)) ∧
      ∀ x ∈ calls, x.uncommitted → ∃ e, x.answer = .error e ∧
        ⟨.commit, .error e⟩ ∈ x.exchanges := by
    induction h with
    | none => exact ⟨by simp, by simp⟩
    | meanwhile h x ih => exact ih
    | @call calls s₁ s₂ b logger steps r h hrun ih =>
      have hcall := counts_of_run hrun
      refine ⟨?_, fun x hx => ?_⟩
      · rw [hcall.count, ih.1, Called.ofNat_countP_concat, Called.ofNat_countP_concat]
        simp only [Called.uncommitted]
        ac_rfl
      · rcases List.mem_append.mp hx with hx | hx
        · exact ih.2 x hx
        · rw [List.mem_singleton.mp hx]
          exact hcall.uncommitted
  have hwhole : s'.2 = s.2 + .ofNat (calls.countP (·.answer.isOk)) ↔
      UInt64.size ∣ calls.countP Called.uncommitted := by
    rw [hcounts.1, ← UInt64.ofNat_add]
    exact add_ofNat_eq_iff ..
  refine ⟨?_, hcounts.2, hwhole, fun hlt => ?_⟩
  · rw [hcounts.1, UInt64.ofNat_add]
  have hle : calls.countP Called.uncommitted ≤ calls.length := List.countP_le_length
  rw [hwhole, ← List.countP_eq_zero]
  constructor
  · intro hdvd
    exact Nat.eq_zero_of_dvd_of_lt hdvd (Nat.lt_of_le_of_lt hle hlt)
  · intro hzero
    rw [hzero]
    exact Nat.dvd_zero _

/-- A counter with a row that nobody locks. -/
def lone : Counter where
  name := ⟨none, none, ⟨"t", false⟩⟩
  table := "t"
  column := "v"
  initial := 1
  increment := 1
  numberType := .long
  selectText := selectStatement .generic "t" "v"
  updateText := updateStatement "t" "v"

/-- All connections answer from one script. -/
def scripted : Backend Script where
  connect s := (0, s)
  connection _ := Script.connection
  disconnect _ s := s

/-- The row is read and changed twice, and the second commit fails. -/
def lossy : Script where
  queries := [.ok ⟨["id_val"], [[.integer 5]]⟩, .ok ⟨["id_val"], [[.integer 6]]⟩]
  updates := [.ok 1, .ok 1]
  commits := [.ok (), .error (.connection "lost")]

/-- One call has succeeded, one has failed with its commit, and one has failed before. -/
theorem accessed_by_calls_lossy : ∃ calls s', lone.Calls ((lossy, {}), 0) calls s' ∧
    calls.map (·.answer.toOption.map Integral.val) = [some 5, none, none] ∧
    s'.2 = 0 + 1 + 1 := by
  let s₁ := ((lone.nextValue scripted {}).run 12 .connecting ((lossy, {}), 0)).2
  let s₂ := ((lone.nextValue scripted {}).run 12 .connecting s₁).2
  let s₃ := ((lone.nextValue scripted {}).run 12 .connecting s₂).2
  have h₁ : (lone.nextValue scripted {}).run 12 .connecting ((lossy, {}), 0) =
      (some (.ok ⟨.long, 5, by decide⟩), s₁) := rfl
  have h₂ : (lone.nextValue scripted {}).run 12 .connecting s₁ =
      (some (.error (.connection "lost")), s₂) := rfl
  have h₃ : (lone.nextValue scripted {}).run 12 .connecting s₂ =
      (some (.error (.sql lone.selectText Script.exhausted)), s₃) := rfl
  have hcalls := ((Calls.none.call h₁).call h₂).call h₃
  exact ⟨_, s₃, hcalls, rfl, (accessed_by_calls hcalls).1⟩

/-- A call that fails has been counted. -/
theorem counted_uncommitted : ∃ calls s',
    lone.Calls (({ lossy with commits := [.error (.connection "lost")] }, {}), 0) calls s' ∧
      calls.countP (·.answer.isOk) = 0 ∧ s'.2 = 1 := by
  let s : Accessed Script := (({ lossy with commits := [.error (.connection "lost")] }, {}), 0)
  have h : (lone.nextValue scripted {}).run 12 .connecting s =
      (some (.error (.connection "lost")),
        ((lone.nextValue scripted {}).run 12 .connecting s).2) := rfl
  exact ⟨_, _, Calls.none.call h, rfl, rfl⟩

end Counter

end CounterTable
