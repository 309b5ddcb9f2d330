import CounterTable.Proofs.Allocation.Attempts

/-!
# What an allocation asks of any connection

Whatever a connection answers, an allocation goes through some rounds that are lost, each with a
value of its own, and through a last one, which may be cut short. How the last one ends decides what
the allocation comes to.

* `Exchange`, `Connection.answered`: a call with its answer, and a connection that keeps them;
* `Counter.Reading`, `Counter.Reading.round`: a round, from the value that it reads;
* `Counter.Opens`, `Counter.Closes`: the last round, cut short or complete;
* `Counter.Standing`, `Counter.Standing.step`, `Counter.Standing.run`: the invariant;
* **`Counter.course_of_run`**: the course of every allocation.
-/

namespace CounterTable

open CounterTable.Text

variable {σ τ ω α : Type}

/-! ## Exchanges -/

/-- A call on a connection, with the answer to it. -/
structure Exchange where
  call : Call
  answer : Except Error call.Answer

/-- The call did not fail. -/
def Exchange.Succeeded (x : Exchange) : Prop := ∃ a, x.answer = .ok a

/-- The connection with the list of its exchanges beside its state, the latest last. -/
def Connection.answered (conn : Connection σ) : Connection (σ × List Exchange) where
  inTransaction s := conn.inTransaction s.1
  call c := fun (s, exchanges) =>
    let (r, s) := conn.call c s
    (r, s, exchanges ++ [⟨c, r⟩])

theorem Connection.answered_call (conn : Connection σ) (x : Call) (s : σ)
    (exchanges : List Exchange) : conn.answered.call x (s, exchanges) =
      ((conn.call x s).1, (conn.call x s).2, exchanges ++ [⟨x, (conn.call x s).1⟩]) := rfl

theorem Connection.answered_projects (conn : Connection σ) :
    conn.answered.Projects Prod.fst conn := ⟨fun _ => rfl, fun _ _ => ⟨rfl, rfl⟩⟩

/-! ## Rounds -/

/-- What a round reads: rows whose first cell is a value of the type of the counter, and the value
that is to replace it, which is of this type as well. -/
structure Counter.Reading (c : Counter) where
  rows : QueryResult
  value : Value
  current : Integral
  advanced : Integral
  first : rows.firstValue? = some value
  word : value.word? = some current.word
  current_type : current.type = c.numberType
  advanced_type : advanced.type = c.numberType
  advanced_val : advanced.val = current.val + c.step

/-- The statement that an attempt is at. -/
def Attempt.text (c : Counter) : Attempt → String
  | .preparingRead | .reading => c.selectText
  | .preparingWrite _ _ | .bindingAdvanced _ _ | .bindingCurrent _ | .writing _ => c.updateText

namespace Counter

variable (c : Counter)

namespace Reading

variable {c : Counter} (r : c.Reading)

/-- The exchanges of the read. -/
def reads : List Exchange := [⟨.prepare c.selectText, .ok ()⟩, ⟨.query, .ok r.rows⟩]

/-- The exchanges that prepare the update and bind its parameters. -/
def binds : List Exchange :=
  [⟨.prepare c.updateText, .ok ()⟩, ⟨.bind 1 r.advanced.toValue, .ok ()⟩,
    ⟨.bind 2 r.current.toValue, .ok ()⟩]

/-- The exchanges of a complete round, whose update changes this many rows. -/
def round (n : Nat) : List Exchange := r.reads ++ r.binds ++ [⟨.update, .ok n⟩]

end Reading

/-- The exchanges of a round that has come to some attempt. -/
inductive Opens : Attempt → List Exchange → Prop
  | preparingRead : Opens .preparingRead []
  | reading : Opens .reading [⟨.prepare c.selectText, .ok ()⟩]
  | preparingWrite (r : c.Reading) : Opens (.preparingWrite r.current r.advanced) r.reads
  | bindingAdvanced (r : c.Reading) :
      Opens (.bindingAdvanced r.current r.advanced) (r.reads ++ r.binds.take 1)
  | bindingCurrent (r : c.Reading) : Opens (.bindingCurrent r.current) (r.reads ++ r.binds.take 2)
  | writing (r : c.Reading) : Opens (.writing r.current) (r.reads ++ r.binds)

/-- Why rows give no value to allocate. -/
inductive Unread (rows : QueryResult) : Error → Prop
  | uninitialized (h : rows.firstValue? = none) : Unread rows (.tableNotInitialized c.table)
  | mistyped {value : Value} (h : rows.firstValue? = some value) (hw : value.word? = none) :
      Unread rows (.typeMismatch
        s!"Expected an integral value, got {value.display} ({value.typeName})")
  | outside {value : Value} {n : Int64} (h : rows.firstValue? = some value)
      (hw : value.word? = some n) (hn : ¬ c.numberType.Contains n.toInt) :
      Unread rows (.overflow s!"{renderInt n.toInt} does not fit in a {c.numberType.name}")
  | overflowed {value : Value} {n : Int64} (h : rows.firstValue? = some value)
      (hw : value.word? = some n) (hn : c.numberType.Contains n.toInt)
      (hs : ¬ c.numberType.Contains (n.toInt + c.step)) :
      Unread rows (.overflow
        s!"{renderInt n.toInt} + {renderInt c.step} leaves the {c.numberType.name} range")

/-- How the last round ends after so many lost ones: its exchanges, and what the allocation comes
to. -/
inductive Closes (lost : Nat) : List Exchange → Except Error Integral → Prop
  | failed {attempt : Attempt} {opening : List Exchange} (h : c.Opens attempt opening) (e : Error) :
      Closes lost (opening ++ [⟨attempt.call c, .error e⟩]) (.error (.sql (attempt.text c) e))
  | unread {rows : QueryResult} {e : Error} (h : c.Unread rows e) :
      Closes lost [⟨.prepare c.selectText, .ok ()⟩, ⟨.query, .ok rows⟩] (.error e)
  | won (r : c.Reading) (n : Nat) : Closes lost (r.round (n + 1)) (.ok r.current)
  | gaveUp (r : c.Reading) {m : UInt32} (h : c.retry = .bounded m)
      (hm : lost + 1 = max m.toNat 1) :
      Closes lost (r.round 0) (.error (.retriesExhausted c.table (max m.toNat 1)))

variable {c}

theorem readRow_cases (c : Counter) (rows : QueryResult) :
    (∃ e, c.readRow rows = .error e ∧ c.Unread rows e) ∨
      ∃ r : c.Reading, r.rows = rows ∧ c.readRow rows = .ok (r.current, r.advanced) := by
  cases hf : rows.firstValue? with
  | none => exact .inl ⟨_, by simp only [readRow, hf], .uninitialized hf⟩
  | some value =>
    rw [readRow, hf]
    dsimp only
    rw [Integral.ofValue]
    cases hw : value.word? with
    | none => exact .inl ⟨_, rfl, .mistyped hf hw⟩
    | some n =>
      dsimp only
      by_cases hn : c.numberType.Contains n.toInt
      · obtain ⟨a, ha, htype, hval⟩ : ∃ a, Integral.make c.numberType n.toInt = .ok a ∧
            a.type = c.numberType ∧ a.val = n.toInt :=
          ⟨_, Integral.make_of_contains hn, rfl, rfl⟩
        rw [ha]
        dsimp only
        by_cases hs : a.type.Contains (a.val + c.step)
        · have hword : value.word? = some a.word := by
            rw [hw, Integral.word, hval, Int64.ofInt_toInt]
          refine .inr ⟨⟨rows, value, a, ⟨_, _, hs⟩, hf, hword, htype, htype, rfl⟩, rfl, ?_⟩
          rw [Integral.add_of_contains hs]
        · refine .inl ⟨_, by rw [Integral.add_of_not_contains hs], ?_⟩
          rw [htype, hval] at hs ⊢
          exact .overflowed hf hw hn hs
      · exact .inl ⟨_, by rw [Integral.make_of_not_contains hn], .outside hf hw hn⟩

theorem allocation_of_error {conn : Connection σ} {a : Allocation} {s : σ} {e : Error}
    (h : (conn.call (a.attempt.call c) s).1 = .error e) :
    c.allocation conn a s = (.finished (.error (.sql (a.attempt.text c) e)),
      (conn.call (a.attempt.call c) s).2) := by
  obtain ⟨n, attempt⟩ := a
  cases attempt <;> simp only [allocation, Attempt.call, Attempt.text] at h ⊢ <;>
    split <;> simp_all

theorem length_allocation (c : Counter) (conn : Connection σ) (a : Allocation) (s : σ)
    (exchanges : List Exchange) :
    (c.allocation conn.answered a (s, exchanges)).2.2.length = exchanges.length + 1 := by
  rw [allocation_snd]
  exact List.length_append

/-! ## The invariant -/

variable (c) in
/-- An allocation in the last round so far, after some lost ones; it is still allowed to lose this
one. -/
structure Standing (lost : List c.Reading) (opening : List Exchange) (a : Allocation) : Prop where
  opens : c.Opens a.attempt opening
  allowed : ∀ m, c.retry = .bounded m →
    a.number = lost.length + 1 ∧ lost.length < max m.toNat 1

variable {lost : List c.Reading} {opening : List Exchange} {a : Allocation}

theorem afterLoss_cases (r : c.Reading) {number : Nat} (h : ∀ m, c.retry = .bounded m →
    number = lost.length + 1 ∧ lost.length < max m.toNat 1) :
    (∃ e, c.retry.afterLoss c.table number = .error e ∧
        c.Closes lost.length (r.round 0) (.error e)) ∨
      ∃ number', c.retry.afterLoss c.table number = .ok number' ∧
        ∀ m, c.retry = .bounded m →
          number' = (lost ++ [r]).length + 1 ∧ (lost ++ [r]).length < max m.toNat 1 := by
  cases hretry : c.retry with
  | unbounded => exact .inr ⟨_, rfl, nofun⟩
  | bounded m =>
    obtain ⟨rfl, hlost⟩ := h m hretry
    by_cases hm : m.toNat ≤ lost.length + 1
    · have hlast : lost.length + 1 = max m.toNat 1 := by omega
      refine .inl ⟨_, if_pos hm, ?_⟩
      rw [hlast]
      exact .gaveUp r hretry hlast
    · have hsize : m.toNat < UInt32.size := m.toNat_lt
      refine .inr ⟨_, if_neg hm, ?_⟩
      rintro _ ⟨⟩
      rw [RetryPolicy.nextAttempt, RetryPolicy.lastAttempt, List.length_append]
      simp only [List.length_singleton]
      omega

/-- **Each step** of an allocation goes on with the round, begins the next one, or is the last. -/
theorem Standing.step (h : c.Standing lost opening a) (conn : Connection σ) (s : σ) :
    match c.allocation conn.answered a (s, lost.flatMap (·.round 0) ++ opening) with
    | (.running a', (_, exchanges)) => ∃ lost' opening',
        exchanges = lost'.flatMap (·.round 0) ++ opening' ∧ c.Standing lost' opening' a'
    | (.finished r, (_, exchanges)) => ∃ last,
        exchanges = lost.flatMap (·.round 0) ++ last ∧ c.Closes lost.length last r := by
  obtain ⟨hopens, hallowed⟩ := h
  have hanswered := conn.answered_call (a.attempt.call c) s (lost.flatMap (·.round 0) ++ opening)
  rw [List.append_assoc] at hanswered
  generalize conn.call (a.attempt.call c) s = result at hanswered
  obtain ⟨e | answer, s'⟩ := result
  · rw [allocation_of_error (congrArg Prod.fst hanswered), hanswered]
    exact ⟨_, rfl, .failed hopens e⟩
  obtain ⟨number, attempt⟩ := a
  cases hopens with
  | preparingRead =>
    simp only [allocation, Attempt.call] at hanswered ⊢
    rw [hanswered]
    exact ⟨lost, _, rfl, .reading, hallowed⟩
  | reading =>
    simp only [allocation, Attempt.call] at hanswered ⊢
    rw [hanswered]
    rcases c.readRow_cases answer with ⟨e, he, hunread⟩ | ⟨r, rfl, hr⟩
    · simp only [he]
      exact ⟨_, rfl, .unread hunread⟩
    · simp only [hr]
      exact ⟨lost, _, rfl, .preparingWrite r, hallowed⟩
  | preparingWrite r =>
    simp only [allocation, Attempt.call] at hanswered ⊢
    rw [hanswered]
    exact ⟨lost, _, rfl, .bindingAdvanced r, hallowed⟩
  | bindingAdvanced r =>
    simp only [allocation, Attempt.call] at hanswered ⊢
    rw [hanswered]
    exact ⟨lost, _, rfl, .bindingCurrent r, hallowed⟩
  | bindingCurrent r =>
    simp only [allocation, Attempt.call] at hanswered ⊢
    rw [hanswered]
    exact ⟨lost, _, rfl, .writing r, hallowed⟩
  | writing r =>
    simp only [allocation, Attempt.call] at hanswered ⊢
    rw [hanswered]
    rcases answer with _ | n
    · rcases afterLoss_cases r hallowed with ⟨e, he, hcloses⟩ | ⟨number', hok, hallowed'⟩
      · simp only [he]
        exact ⟨_, rfl, hcloses⟩
      · simp only [hok]
        refine ⟨lost ++ [r], [], ?_, .preparingRead, hallowed'⟩
        rw [List.flatMap_append, List.flatMap_singleton, List.append_nil]
        rfl
    · exact ⟨_, rfl, .won r n⟩

/-! ## The course of an allocation -/

variable (c lost) in
/-- The course of an allocation in at most so many steps: some lost rounds and a last one. -/
structure Course (last : List Exchange) (steps : Nat) (exchanges : List Exchange)
    (result : Option (Except Error Integral)) : Prop where
  exchanges_eq : exchanges = lost.flatMap (·.round 0) ++ last
  /-- What is not finished has made a call in each step. -/
  running : result = none → exchanges.length = steps ∧ ∃ attempt, c.Opens attempt last
  finished : ∀ r, result = some r → c.Closes lost.length last r
  /-- Only so many rounds may be lost. -/
  allowed : ∀ m, c.retry = .bounded m → lost.length < max m.toNat 1

/-- **Any number of steps** of an allocation. -/
theorem Standing.run (h : c.Standing lost opening a) (conn : Connection σ) (steps : Nat) (s : σ) :
    ∃ lost' last, c.Course lost' last ((lost.flatMap (·.round 0) ++ opening).length + steps)
      (((c.allocation conn.answered).run steps a (s, lost.flatMap (·.round 0) ++ opening)).2.2)
      ((c.allocation conn.answered).run steps a (s, lost.flatMap (·.round 0) ++ opening)).1 := by
  induction steps generalizing lost opening a s with
  | zero =>
    rw [Work.run, Nat.add_zero]
    refine ⟨lost, opening, rfl, fun _ => ⟨rfl, _, h.opens⟩, ?_, fun m hm => (h.allowed m hm).2⟩
    rintro r ⟨⟩
  | succ steps ih =>
    have hstep := h.step conn s
    have hlength := c.length_allocation conn a s (lost.flatMap (·.round 0) ++ opening)
    rw [Work.run]
    rcases hrun : c.allocation conn.answered a (s, lost.flatMap (·.round 0) ++ opening) with
      ⟨a' | r, s', exchanges⟩ <;> rw [hrun] at hstep hlength
    · obtain ⟨lost', opening', rfl, h'⟩ := hstep
      obtain ⟨lost'', last, hcourse⟩ := ih h' s'
      refine ⟨lost'', last, ?_⟩
      rw [Nat.add_comm steps 1, ← Nat.add_assoc, ← hlength]
      exact hcourse
    · obtain ⟨last, rfl, hcloses⟩ := hstep
      refine ⟨lost, last, rfl, ?_, ?_, fun m hm => (h.allowed m hm).2⟩
      · rintro ⟨⟩
      · rintro _ ⟨⟩
        exact hcloses

/-! ## Consequences -/

namespace Reading

@[simp] theorem length_round (r : c.Reading) (n : Nat) : (r.round n).length = 6 := rfl

theorem succeeded_round (r : c.Reading) (n : Nat) : ∀ x ∈ r.round n, x.Succeeded := by
  simp [round, reads, binds, Exchange.Succeeded]

theorem failed_ne_round (r : c.Reading) (opening : List Exchange) (x : Call) (e : Error) (n : Nat) :
    opening ++ [⟨x, .error e⟩] ≠ r.round n := by
  intro hround
  obtain ⟨a, ha⟩ := r.succeeded_round n _ (hround ▸ List.mem_append_right opening List.mem_cons_self)
  cases ha

theorem current_eq {r r' : c.Reading} (h : r.rows = r'.rows) : r.current = r'.current := by
  have hvalue : r.value = r'.value := Option.some.inj (r.first.symm.trans (h ▸ r'.first))
  have hword : r.current.word = r'.current.word :=
    Option.some.inj (r.word.symm.trans (hvalue ▸ r'.word))
  refine Integral.ext (r.current_type.trans r'.current_type.symm) ?_
  rw [← Integral.toInt_word, hword, Integral.toInt_word]

theorem round_inj {r r' : c.Reading} {n n' : Nat} (h : r.round n = r'.round n') :
    r.current = r'.current ∧ n = n' := by
  simp only [round, reads, binds, List.cons_append, List.nil_append, List.cons.injEq,
    Exchange.mk.injEq, heq_eq_eq, Except.ok.injEq, true_and, and_true] at h
  exact ⟨current_eq h.1, h.2.2.2⟩

end Reading

namespace Opens

variable {attempt : Attempt}

theorem length_le (h : c.Opens attempt opening) : opening.length ≤ 5 := by
  cases h <;> simp [Reading.reads, Reading.binds]

theorem succeeded (h : c.Opens attempt opening) : ∀ x ∈ opening, x.Succeeded := by
  cases h <;> simp [Reading.reads, Reading.binds, Exchange.Succeeded]

end Opens

theorem Closes.succeeded {n : Nat} {last : List Exchange} {r : Except Error Integral}
    (h : c.Closes n last r) : last ≠ [] ∧ ∀ x ∈ last.dropLast, x.Succeeded := by
  cases h with
  | failed hopens e =>
    refine ⟨List.append_ne_nil_of_right_ne_nil _ (List.cons_ne_nil _ _), ?_⟩
    rw [List.dropLast_concat]
    exact hopens.succeeded
  | unread => simp [Exchange.Succeeded]
  | won r n =>
    exact ⟨List.ne_nil_of_length_eq_add_one (r.length_round _), fun x hx =>
      r.succeeded_round _ x (List.dropLast_subset _ hx)⟩
  | gaveUp r =>
    exact ⟨List.ne_nil_of_length_eq_add_one (r.length_round _), fun x hx =>
      r.succeeded_round _ x (List.dropLast_subset _ hx)⟩

namespace Course

variable {last exchanges : List Exchange} {steps : Nat} {result : Option (Except Error Integral)}

theorem exists_of_round (h : c.Course lost last steps exchanges result) {r : c.Reading} {n : Nat}
    (hlast : last = r.round n) : ∃ x, result = some x := by
  cases result with
  | some x => exact ⟨x, rfl⟩
  | none =>
    obtain ⟨-, attempt, hopens⟩ := h.running rfl
    have hlength := hopens.length_le
    rw [hlast, Reading.length_round] at hlength
    omega

/-- **What an allocation answers** is the value of its last round, whose update has changed rows. -/
theorem ok_iff (h : c.Course lost last steps exchanges result) (v : Integral) :
    result = some (.ok v) ↔ ∃ (r : c.Reading) (n : Nat), last = r.round (n + 1) ∧ v = r.current := by
  constructor
  · intro hv
    cases h.finished _ hv with
    | won r n => exact ⟨r, n, rfl, rfl⟩
  · rintro ⟨r, n, hlast, rfl⟩
    obtain ⟨x, rfl⟩ := h.exists_of_round hlast
    cases h.finished x rfl with
    | failed hopens e => exact absurd hlast (r.failed_ne_round _ _ e (n + 1))
    | unread hunread => exact absurd (congrArg List.length hlast) (by simp)
    | won r' n' => rw [(Reading.round_inj hlast).1]
    | gaveUp r' hm hlost => cases (Reading.round_inj hlast).2

/-- **An allocation gives up** after the rounds that it may lose. -/
theorem retriesExhausted_iff (h : c.Course lost last steps exchanges result) (table : String)
    (k : Nat) : result = some (.error (.retriesExhausted table k)) ↔
      table = c.table ∧ ∃ m, c.retry = .bounded m ∧ k = max m.toNat 1 ∧ lost.length + 1 = k ∧
        ∃ r : c.Reading, last = r.round 0 := by
  constructor
  · intro he
    cases h.finished _ he with
    | unread hunread => cases hunread
    | gaveUp r hm hlost => exact ⟨rfl, _, hm, rfl, hlost, r, rfl⟩
  · rintro ⟨rfl, m, hm, rfl, hlost, r, hlast⟩
    obtain ⟨x, rfl⟩ := h.exists_of_round hlast
    cases h.finished x rfl with
    | failed hopens e => exact absurd hlast (r.failed_ne_round _ _ e 0)
    | unread hunread => exact absurd (congrArg List.length hlast) (by simp)
    | won r' n' => cases (Reading.round_inj hlast).2
    | gaveUp r' hm' hlost' =>
      cases hm.symm.trans hm'
      rfl

/-- **No call follows** one that has failed. -/
theorem succeeded (h : c.Course lost last steps exchanges result) :
    ∀ x ∈ exchanges.dropLast, x.Succeeded := by
  have hlost : ∀ x ∈ lost.flatMap (·.round 0), x.Succeeded := fun x hx => by
    obtain ⟨r, -, hr⟩ := List.mem_flatMap.mp hx
    exact r.succeeded_round 0 x hr
  intro x hx
  rw [h.exchanges_eq] at hx
  cases result with
  | none =>
    obtain ⟨-, attempt, hopens⟩ := h.running rfl
    rcases List.mem_append.mp (List.dropLast_subset _ hx) with hx | hx
    · exact hlost x hx
    · exact hopens.succeeded x hx
  | some r =>
    obtain ⟨hne, hlast⟩ := (h.finished r rfl).succeeded
    rw [List.dropLast_append_of_ne_nil hne] at hx
    rcases List.mem_append.mp hx with hx | hx
    · exact hlost x hx
    · exact hlast x hx

/-- **An allocation that gives up** does so in time. -/
theorem ne_none (h : c.Course lost last steps exchanges result) {m : UInt32}
    (hm : c.retry = .bounded m) (hsteps : 6 * max m.toNat 1 ≤ steps) : result ≠ none := by
  intro hnone
  obtain ⟨hlength, attempt, hopens⟩ := h.running hnone
  have hlost : (lost.flatMap (·.round 0)).length = 6 * lost.length := by
    rw [List.length_flatMap]
    simp [Reading.length_round, Nat.mul_comm]
  rw [h.exchanges_eq, List.length_append, hlost] at hlength
  have hround := hopens.length_le
  have hallowed := h.allowed m hm
  omega

end Course

end Counter

/-! ## Every allocation -/

theorem Work.run_counting (work : Work σ ω α) (steps : Nat) (w : ω) (s : σ)
    (count : UInt64) :
    (work.counting).run steps w (s, count) =
      ((work.run steps w s).1, (work.run steps w s).2,
        count + if (work.run steps w s).1.any Except.isOk then 1 else 0) := by
  induction steps generalizing w s with
  | zero => simp [Work.run]
  | succ steps ih =>
    rw [Work.run, Work.run, Work.counting]
    rcases work w s with ⟨w' | e | a, s'⟩
    · exact ih w' s'
    · simp [Except.isOk, Except.toBool]
    · rfl

/-- **The course of every allocation**, whatever its connection answers, in any number of steps, and
whoever observes it. Some rounds are lost: each reads a value of the type of the counter, binds it
after the value that is to replace it, and its update changes no row. The last one is cut short,
ends with a failure, or replaces the value. -/
theorem Counter.course_of_run (c : Counter) (conn : Connection σ) (logger : Logger) (s : σ)
    (journal : Journal) (count : UInt64) (steps : Nat) :
    match (c.observedAllocation conn.answered logger).run steps {} (((s, []), journal), count) with
    | (result, ((s', exchanges), _), count') =>
      (result, s') = (c.allocation conn).run steps {} s ∧
      ∃ (lost : List c.Reading) (last : List Exchange), c.Course lost last steps exchanges result ∧
        (∀ v, result = some (.ok v) ↔
          ∃ (r : c.Reading) (n : Nat), last = r.round (n + 1) ∧ v = r.current) ∧
        (∀ x ∈ exchanges.dropLast, x.Succeeded) ∧
        (∀ table k, result = some (.error (.retriesExhausted table k)) ↔
          table = c.table ∧ ∃ m, c.retry = .bounded m ∧ k = max m.toNat 1 ∧ lost.length + 1 = k ∧
            ∃ r : c.Reading, last = r.round 0) ∧
        (∀ m, c.retry = .bounded m → 6 * max m.toNat 1 ≤ steps → result ≠ none) ∧
        count' = count + if result.any Except.isOk then 1 else 0 := by
  have hstart : c.Standing [] [] {} :=
    ⟨.preparingRead, fun m _ => ⟨rfl, Nat.lt_of_lt_of_le Nat.one_pos (Nat.le_max_right _ _)⟩⟩
  obtain ⟨lost, last, hcourse⟩ := hstart.run conn steps s
  rw [List.flatMap_nil, List.nil_append, List.length_nil, Nat.zero_add] at hcourse
  obtain ⟨hresult, hstate⟩ := (conn.answered_projects.allocation c).run steps {} (s, [])
  obtain ⟨hresult', hstate'⟩ :=
    ((Connection.observed_projects conn.answered logger).allocation c).run steps {}
      ((s, []), journal)
  rw [← hresult', ← hstate'] at hcourse
  rw [← hresult'] at hresult
  rw [← hstate'] at hstate
  rw [Counter.observedAllocation, Work.run_counting]
  exact ⟨Prod.ext hresult hstate, lost, last, hcourse, hcourse.ok_iff, hcourse.succeeded,
    hcourse.retriesExhausted_iff, fun m hm => hcourse.ne_none hm, rfl⟩

end CounterTable
