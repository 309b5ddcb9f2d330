import CounterTable.Proofs.Allocation.Exchanges

/-!
# Attempts that are retried

Attempts are made one after another, with the numbers from 1 on, as long as they are lost and the
policy lets another one be made. So there is a number of lost attempts, and behind them at most one
with a value or a failure, which is returned as it is. An allocation goes through its calls one by
one, and comes to what its attempts come to when they are retried.

* `Trial`, `RetryPolicy.noted`: an attempt that was made, and attempts that keep a list of these;
* `RetryPolicy.Allows`, `RetryPolicy.afterLoss_cases`: how many attempts may be lost;
* `RetryPolicy.Course`, `RetryPolicy.retrying_course`, **`RetryPolicy.run_course`**: the courses
  that retried attempts can take;
* **`RetryPolicy.retrying_stops`**: which attempts are made, and what is returned;
* `Counter.attempting`, `Counter.does_attempting`: one attempt of an allocation at once;
* **`Counter.run_allocation_iff`**: allocations and retried attempts.
-/

namespace CounterTable

variable {σ α : Type}

/-- An attempt that was made: its number, and what it answered. -/
structure Trial (α : Type) where
  number : Nat
  answer : Except Error (Option α)

/-- The attempt lost its race. -/
def Trial.Lost (t : Trial α) : Prop := t.answer = .ok none

namespace RetryPolicy

variable {policy : RetryPolicy} {table : String} {attempt : Nat → Action σ (Option α)}
  {lost steps : Nat} {trials : List (Trial α)} {result : Option (Except Error α)}

/-- Attempts with the list of those made beside the state, the latest last. -/
def noted (attempt : Nat → Action σ (Option α)) : Nat → Action (σ × List (Trial α)) (Option α) :=
  fun n (s, trials) =>
    let (r, s) := attempt n s
    (r, (s, trials ++ [⟨n, r⟩]))

theorem noted_projects (policy : RetryPolicy) (table : String)
    (attempt : Nat → Action σ (Option α)) :
    Work.Projects Prod.fst (policy.retrying table (noted attempt))
      (policy.retrying table attempt) := by
  rintro n ⟨s, trials⟩
  simp only [retrying, noted]
  rcases attempt n s with ⟨e | _ | a, s'⟩
  · exact ⟨rfl, rfl⟩
  · cases policy.afterLoss table n <;> exact ⟨rfl, rfl⟩
  · exact ⟨rfl, rfl⟩

/-! ## Losses -/

/-- The number of the attempt that is made after so many others. -/
def numberAfter (made : Nat) : Nat := min (made + 1) lastAttempt

/-- So many attempts from the first one on, all of them lost. -/
def losses (α : Type) (lost : Nat) : List (Trial α) :=
  (List.range lost).map fun made => ⟨numberAfter made, .ok none⟩

@[simp] theorem length_losses : (losses α lost).length = lost := by
  rw [losses, List.length_map, List.length_range]

theorem losses_succ (α : Type) (lost : Nat) :
    losses α (lost + 1) = losses α lost ++ [⟨numberAfter lost, .ok none⟩] := by
  rw [losses, List.range_succ, List.map_append]
  rfl

theorem lost_of_mem_losses {t : Trial α} (h : t ∈ losses α lost) : t.Lost := by
  obtain ⟨made, -, rfl⟩ := List.mem_map.mp h
  rfl

/-- After so many lost attempts the policy lets another one be made. -/
def Allows (policy : RetryPolicy) (lost : Nat) : Prop :=
  ∀ m, policy = .bounded m → lost < max m.toNat 1

theorem allows_zero (policy : RetryPolicy) : policy.Allows 0 := fun _ _ =>
  Nat.lt_of_lt_of_le Nat.one_pos (Nat.le_max_right _ _)

/-- **After a loss** another attempt is made, with the next number, or the policy gives up. -/
theorem afterLoss_cases (h : policy.Allows lost) (table : String) :
    (policy.afterLoss table (numberAfter lost) = .ok (numberAfter (lost + 1)) ∧
        policy.Allows (lost + 1)) ∨
      ∃ m, policy = .bounded m ∧ lost + 1 = max m.toNat 1 ∧
        policy.afterLoss table (numberAfter lost) =
          .error (.retriesExhausted table (max m.toNat 1)) := by
  have hnext : nextAttempt (numberAfter lost) = numberAfter (lost + 1) := by
    unfold nextAttempt numberAfter
    omega
  cases policy with
  | unbounded => exact .inl ⟨congrArg Except.ok hnext, nofun⟩
  | bounded m =>
    have hlost := h m rfl
    -- The bound is a word, so the numbers up to it do not stay at the greatest one.
    have hm : m.toNat ≤ lastAttempt := Nat.le_pred_of_lt m.toNat_lt
    have hone : 1 ≤ lastAttempt := by decide
    have hnumber : numberAfter lost = lost + 1 := by
      unfold numberAfter
      omega
    by_cases hlast : m.toNat ≤ lost + 1
    · have heq : lost + 1 = max m.toNat 1 := by omega
      refine .inr ⟨m, rfl, heq, ?_⟩
      rw [afterLoss, hnumber, if_pos hlast, heq]
    · refine .inl ⟨?_, ?_⟩
      · rw [← hnext, afterLoss, hnumber, if_neg hlast]
      · rintro _ ⟨⟩
        omega

/-! ## Courses -/

/-- The courses that retried attempts can take in so many steps: what was made, and the result. -/
inductive Course (policy : RetryPolicy) (table : String) (steps : Nat) :
    List (Trial α) → Option (Except Error α) → Prop
  | running (h : policy.Allows steps) : Course policy table steps (losses α steps) none
  | answered {lost : Nat} (h : policy.Allows lost) (hlost : lost < steps) (r : Except Error α) :
      Course policy table steps (losses α lost ++ [⟨numberAfter lost, r.map some⟩]) (some r)
  | gaveUp {m : UInt32} (h : policy = .bounded m) (hm : max m.toNat 1 ≤ steps) :
      Course policy table steps (losses α (max m.toNat 1))
        (some (.error (.retriesExhausted table (max m.toNat 1))))

/-- **Each attempt** is lost and another one follows, or it is the last. -/
theorem retrying_course (h : policy.Allows lost) (hlost : lost < steps) (table : String)
    (attempt : Nat → Action σ (Option α)) (s : σ) :
    match policy.retrying table (noted attempt) (numberAfter lost) (s, losses α lost) with
    | (.running n, (_, trials)) =>
      n = numberAfter (lost + 1) ∧ trials = losses α (lost + 1) ∧ policy.Allows (lost + 1)
    | (.finished r, (_, trials)) => Course policy table steps trials (some r) := by
  simp only [retrying, noted]
  rcases attempt (numberAfter lost) s with ⟨e | _ | a, s'⟩
  · exact .answered h hlost (.error e)
  · rcases afterLoss_cases h table with ⟨hok, hallows⟩ | ⟨m, hm, hlast, herror⟩
    · simp only [hok]
      exact ⟨trivial, (losses_succ α lost).symm, hallows⟩
    · simp only [herror]
      rw [← losses_succ, hlast]
      exact .gaveUp hm (hlast ▸ hlost)
  · exact .answered h hlost (.ok a)

/-- **Any number of steps.** -/
theorem run_course (h : policy.Allows lost) (table : String)
    (attempt : Nat → Action σ (Option α)) (more : Nat) (s : σ) :
    Course policy table (lost + more)
      ((policy.retrying table (noted attempt)).run more (numberAfter lost) (s, losses α lost)).2.2
      ((policy.retrying table (noted attempt)).run more (numberAfter lost)
        (s, losses α lost)).1 := by
  induction more generalizing lost s with
  | zero => exact .running h
  | succ more ih =>
    have hlost : lost < lost + (more + 1) := Nat.lt_add_of_pos_right (Nat.succ_pos more)
    have hstep := retrying_course h hlost table attempt s
    rw [Work.run]
    rcases hrun : policy.retrying table (noted attempt) (numberAfter lost) (s, losses α lost) with
      ⟨n | r, s', trials⟩ <;> rw [hrun] at hstep
    · obtain ⟨rfl, rfl, hallows⟩ := hstep
      rw [Nat.add_comm more 1, ← Nat.add_assoc]
      exact ih hallows s'
    · exact hstep

/-! ## Consequences -/

theorem number_losses : (losses α lost).map Trial.number = (List.range lost).map numberAfter := by
  rw [losses, List.map_map]
  rfl

namespace Course

/-- **The attempts** are made in order. -/
theorem numbers (h : Course policy table steps trials result) :
    trials.map Trial.number = (List.range trials.length).map numberAfter := by
  cases h with
  | running | gaveUp => rw [length_losses, number_losses]
  | answered h hlost r =>
    rw [List.length_append, length_losses, List.length_singleton, List.range_succ, List.map_append,
      List.map_append, number_losses]
    rfl

theorem lost_of_mem_dropLast (h : Course policy table steps trials result) :
    ∀ t ∈ trials.dropLast, t.Lost := by
  intro t ht
  cases h with
  | running | gaveUp => exact lost_of_mem_losses (List.dropLast_subset _ ht)
  | answered h hlost r =>
    rw [List.dropLast_concat] at ht
    exact lost_of_mem_losses ht

theorem of_none (h : Course policy table steps trials none) :
    trials.length = steps ∧ ∀ t ∈ trials, t.Lost := by
  cases h with
  | running => exact ⟨length_losses, fun t => lost_of_mem_losses⟩

/-- **The result** is what the last attempt has answered, or all that may be lost are lost. -/
theorem eq_some_iff (h : Course policy table steps trials result) (r : Except Error α) :
    result = some r ↔ (∃ t, trials.getLast? = some t ∧ t.answer = r.map some) ∨
      ∃ m, policy = .bounded m ∧ r = .error (.retriesExhausted table (max m.toNat 1)) ∧
        trials.length = max m.toNat 1 ∧ ∀ t ∈ trials, t.Lost := by
  have hvalue : ∀ x : Except Error α, x.map some ≠ .ok none := by
    rintro (e | a) <;> nofun
  -- The last attempt of a row of losses has no value and no failure to return.
  have hlosses : ∀ {n : Nat} {t : Trial α}, (losses α n).getLast? = some t →
      t.answer ≠ r.map some := fun ht hanswer =>
    hvalue r (hanswer.symm.trans (lost_of_mem_losses (List.mem_of_getLast? ht)))
  cases h with
  | running hallows =>
    refine ⟨nofun, ?_⟩
    rintro (⟨t, ht, hanswer⟩ | ⟨m, hm, -, hlength, -⟩)
    · exact absurd hanswer (hlosses ht)
    · rw [length_losses] at hlength
      exact absurd hlength (Nat.ne_of_lt (hallows m hm))
  | answered hallows hlost x =>
    rw [List.getLast?_concat]
    constructor
    · rintro ⟨⟩
      exact .inl ⟨_, rfl, rfl⟩
    · rintro (⟨_, ⟨⟩, hanswer⟩ | ⟨m, -, -, -, hall⟩)
      · cases x <;> cases r <;> cases hanswer <;> rfl
      · exact absurd (hall _ (List.mem_append_right _ List.mem_cons_self)) (hvalue x)
  | @gaveUp m hm _ =>
    constructor
    · rintro ⟨⟩
      exact .inr ⟨m, hm, rfl, length_losses, fun t => lost_of_mem_losses⟩
    · rintro (⟨t, ht, hanswer⟩ | ⟨m', hm', rfl, -, -⟩)
      · exact absurd hanswer (hlosses ht)
      · cases hm.symm.trans hm'
        rfl

/-- **No more attempts** are made than the bound, but always one. -/
theorem length_le (h : Course policy table steps trials result) {m : UInt32}
    (hm : policy = .bounded m) : trials.length ≤ max m.toNat 1 := by
  cases h with
  | running hallows =>
    rw [length_losses]
    exact Nat.le_of_lt (hallows m hm)
  | answered hallows hlost r =>
    rw [List.length_append, length_losses]
    exact hallows m hm
  | gaveUp hm' =>
    cases hm.symm.trans hm'
    exact Nat.le_of_eq length_losses

end Course

/-! ## Every run -/

/-- **Attempts that are retried**, whatever they answer, in any number of steps. They are made with
the numbers 1, 2, 3 and so on, up to the greatest word, which the numbers do not leave. Only lost
ones are followed by others: the first value or failure is returned as it is, and the only other
result is that a bounded policy gives up, exactly when its bound of attempts is made and all of them
are lost. (An attempt may fail with the words of giving up, and this failure is returned as any
other.) A bound of zero lets one attempt be made, as a bound of one does. What has not stopped has
made an attempt in each step, and lost them all; with a bound it stops, and without one it returns
no failure but that of an attempt. -/
theorem retrying_stops (policy : RetryPolicy) (table : String)
    (attempt : Nat → Action σ (Option α)) (s : σ) (steps : Nat) :
    match (policy.retrying table (noted attempt)).run steps 1 (s, []) with
    | (result, (s', trials)) =>
      (result, s') = (policy.retrying table attempt).run steps 1 s ∧
      trials.map Trial.number =
        (List.range trials.length).map (fun made => min (made + 1) (UInt32.size - 1)) ∧
      (∀ t ∈ trials.dropLast, t.Lost) ∧
      (result = none → trials.length = steps ∧ ∀ t ∈ trials, t.Lost) ∧
      (∀ r, result = some r ↔ (∃ t, trials.getLast? = some t ∧ t.answer = r.map some) ∨
        ∃ m, policy = .bounded m ∧ r = .error (.retriesExhausted table (max m.toNat 1)) ∧
          trials.length = max m.toNat 1 ∧ ∀ t ∈ trials, t.Lost) ∧
      (∀ m, policy = .bounded m →
        trials.length ≤ max m.toNat 1 ∧ (max m.toNat 1 ≤ steps → result ≠ none)) ∧
      (policy = .unbounded →
        ∀ e, result = some (.error e) → ∃ t ∈ trials, t.answer = .error e) := by
  have hcourse := run_course policy.allows_zero table attempt steps s
  obtain ⟨hresult, hstate⟩ := (noted_projects policy table attempt).run steps 1 (s, [])
  rw [Nat.zero_add] at hcourse
  -- Before the first attempt, which has number 1, the list is that of no losses.
  change Course policy table steps
    ((policy.retrying table (noted attempt)).run steps 1 (s, [])).2.2
    ((policy.retrying table (noted attempt)).run steps 1 (s, [])).1 at hcourse
  rcases hrun : (policy.retrying table (noted attempt)).run steps 1 (s, []) with
    ⟨result, s', trials⟩
  rw [hrun] at hcourse hresult hstate
  refine ⟨Prod.ext hresult hstate, hcourse.numbers, hcourse.lost_of_mem_dropLast, ?_,
    hcourse.eq_some_iff, fun m hm => ⟨hcourse.length_le hm, ?_⟩, ?_⟩
  · rintro rfl
    exact hcourse.of_none
  · rintro hsteps rfl
    cases hcourse with
    | running hallows => exact Nat.not_lt_of_le hsteps (hallows m hm)
  · rintro rfl e he
    rcases (hcourse.eq_some_iff _).mp he with ⟨t, ht, hanswer⟩ | ⟨m, hm, -⟩
    · exact ⟨t, List.mem_of_getLast? ht, hanswer⟩
    · cases hm

example : (((bounded 0).retrying "seq" fun _ s => (.ok (none : Option Nat), s)).run 9 1 ()).1 =
    some (.error (.retriesExhausted "seq" 1)) := rfl

end RetryPolicy

/-! ## Allocations -/

/-- A call for a statement, which is reported with the failure. -/
def Connection.callFor (conn : Connection σ) (sql : String) (x : Call) : Action σ x.Answer :=
  fun s =>
    match conn.call x s with
    | (.ok answer, s) => (.ok answer, s)
    | (.error e, s) => (.error (.sql sql e), s)

namespace Counter

variable {c : Counter} {conn : Connection σ} {a : Allocation}

/-- One attempt at once: it reads the row and replaces its value, unless the row holds another. -/
def attempting (c : Counter) (conn : Connection σ) : Action σ (Option Integral) :=
  (conn.callFor c.selectText (.prepare c.selectText)).andThen fun _ =>
  (conn.callFor c.selectText .query).andThen fun rows =>
  match c.readRow rows with
  | .error e => .fail e
  | .ok (current, advanced) =>
    (conn.callFor c.updateText (.prepare c.updateText)).andThen fun _ =>
    (conn.callFor c.updateText (.bind 1 advanced.toValue)).andThen fun _ =>
    (conn.callFor c.updateText (.bind 2 current.toValue)).andThen fun _ =>
    (conn.callFor c.updateText .update).andThen fun changed =>
    .succeed (if changed = 0 then none else some current)

/-- From here on the allocation does what the action does as an attempt: it ends with that, or goes
on with the next attempt. -/
def Does (c : Counter) (conn : Connection σ) (a : Allocation) (act : Action σ (Option Integral)) :
    Prop :=
  ∀ s, ∃ k, ∀ more, (c.allocation conn).run (more + (k + 1)) a s =
    match c.retry.retrying c.table (fun _ => act) a.number s with
    | (.running number, s) => (c.allocation conn).run more { number } s
    | (.finished r, s) => (some r, s)

theorem does_call {act : (a.attempt.call c).Answer → Action σ (Option Integral)}
    (h : ∀ s answer s', conn.call (a.attempt.call c) s = (.ok answer, s') →
      (∃ next, c.allocation conn a s = (.running { a with attempt := next }, s') ∧
          c.Does conn { a with attempt := next } (act answer)) ∨
        ∃ e, c.allocation conn a s = (.finished (.error e), s') ∧ act answer = .fail e) :
    c.Does conn a ((conn.callFor (a.attempt.text c) (a.attempt.call c)).andThen act) := by
  intro s
  rcases hcall : conn.call (a.attempt.call c) s with ⟨e | answer, s'⟩
  · refine ⟨0, fun more => ?_⟩
    rw [Work.run, allocation_of_error (congrArg Prod.fst hcall)]
    simp only [RetryPolicy.retrying, Action.andThen, Connection.callFor, hcall]
  · rcases h s answer s' hcall with ⟨next, hstep, hdoes⟩ | ⟨e, hstep, hact⟩
    · obtain ⟨k, hk⟩ := hdoes s'
      refine ⟨k + 1, fun more => ?_⟩
      rw [← Nat.add_assoc, Work.run, hstep]
      simp only [hk more, RetryPolicy.retrying, Action.andThen, Connection.callFor, hcall]
    · refine ⟨0, fun more => ?_⟩
      rw [Work.run, hstep]
      simp only [RetryPolicy.retrying, Action.andThen, Connection.callFor, hcall, hact, Action.fail]

theorem does_writing (c : Counter) (conn : Connection σ) (number : Nat) (current : Integral) :
    c.Does conn ⟨number, .writing current⟩
      ((conn.callFor c.updateText .update).andThen fun changed =>
        .succeed (if changed = 0 then none else some current)) := by
  refine fun s => ⟨0, fun more => ?_⟩
  rw [Work.run]
  simp only [allocation, RetryPolicy.retrying, Action.andThen, Connection.callFor]
  rcases conn.call .update s with ⟨e | _ | changed, s'⟩
  · rfl
  · simp only [Action.succeed, if_true]
    cases c.retry.afterLoss c.table number <;> rfl
  · rfl

/-- **Each attempt of an allocation**, call by call. -/
theorem does_attempting (c : Counter) (conn : Connection σ) (number : Nat) :
    c.Does conn { number } (c.attempting conn) := by
  refine does_call fun s _ s' (hcall : conn.call (.prepare c.selectText) s = _) =>
    .inl ⟨.reading, by simp only [allocation, hcall], ?_⟩
  refine does_call (a := ⟨number, .reading⟩) fun s rows s' (hcall : conn.call .query s = _) => ?_
  rcases hrow : c.readRow rows with e | ⟨current, advanced⟩
  · exact .inr ⟨e, by simp only [allocation, hcall, hrow], rfl⟩
  refine .inl ⟨.preparingWrite current advanced, by simp only [allocation, hcall, hrow], ?_⟩
  refine does_call (a := ⟨number, .preparingWrite current advanced⟩)
    fun s _ s' (hcall : conn.call (.prepare c.updateText) s = _) =>
      .inl ⟨.bindingAdvanced current advanced, by simp only [allocation, hcall], ?_⟩
  refine does_call (a := ⟨number, .bindingAdvanced current advanced⟩)
    fun s _ s' (hcall : conn.call (.bind 1 advanced.toValue) s = _) =>
      .inl ⟨.bindingCurrent current, by simp only [allocation, hcall], ?_⟩
  refine does_call (a := ⟨number, .bindingCurrent current⟩)
    fun s _ s' (hcall : conn.call (.bind 2 current.toValue) s = _) =>
      .inl ⟨.writing current, by simp only [allocation, hcall], ?_⟩
  exact c.does_writing conn number current

theorem exists_run_retrying {steps number : Nat} {s s' : σ} {x : Except Error Integral}
    (h : (c.allocation conn).run steps { number } s = (some x, s')) :
    ∃ attempts, (c.retry.retrying c.table fun _ => c.attempting conn).run attempts number s =
      (some x, s') := by
  -- An attempt takes several steps, so the steps that are left drop by more than one.
  induction steps using Nat.strong_induction_on generalizing number s with
  | _ steps ih =>
    obtain ⟨k, hk⟩ := c.does_attempting conn number s
    dsimp only at hk
    rcases hstep : c.retry.retrying c.table (fun _ => c.attempting conn) number s with
      ⟨number' | r, s₁⟩ <;> rw [hstep] at hk
    · by_cases hsteps : k + 1 ≤ steps
      · obtain ⟨more, rfl⟩ := Nat.exists_eq_add_of_le' hsteps
        rw [hk] at h
        obtain ⟨attempts, hattempts⟩ := ih more (by omega) h
        refine ⟨attempts + 1, ?_⟩
        rw [Work.run, hstep]
        exact hattempts
      · -- The run would end within an attempt that is lost.
        have hend := Work.run_add h (k + 1 - steps)
        rw [Nat.add_sub_of_le (by omega), ← Nat.zero_add (k + 1), hk] at hend
        cases hend
    · refine ⟨1, ?_⟩
      have hend := Work.run_add h (k + 1)
      rw [hk] at hend
      rw [Work.run, hstep]
      exact hend

theorem exists_run_allocation {attempts number : Nat} {s s' : σ} {x : Except Error Integral}
    (h : (c.retry.retrying c.table fun _ => c.attempting conn).run attempts number s =
      (some x, s')) :
    ∃ steps, (c.allocation conn).run steps { number } s = (some x, s') := by
  induction attempts generalizing number s with
  | zero => cases h
  | succ attempts ih =>
    obtain ⟨k, hk⟩ := c.does_attempting conn number s
    dsimp only at hk
    rw [Work.run] at h
    rcases hstep : c.retry.retrying c.table (fun _ => c.attempting conn) number s with
      ⟨number' | r, s₁⟩ <;> rw [hstep] at h hk
    · obtain ⟨steps, hsteps⟩ := ih h
      exact ⟨steps + (k + 1), (hk steps).trans hsteps⟩
    · exact ⟨0 + (k + 1), (hk 0).trans h⟩

/-- **An allocation is its attempts, retried**: alone on its connection it comes to what they come
to, call by call. -/
theorem run_allocation_iff (c : Counter) (conn : Connection σ) (s s' : σ)
    (x : Except Error Integral) :
    (∃ steps, (c.allocation conn).run steps {} s = (some x, s')) ↔
      ∃ attempts, (c.retry.retrying c.table fun _ => c.attempting conn).run attempts 1 s =
        (some x, s') :=
  ⟨fun ⟨_, h⟩ => exists_run_retrying h, fun ⟨_, h⟩ => exists_run_allocation h⟩

end Counter

end CounterTable
