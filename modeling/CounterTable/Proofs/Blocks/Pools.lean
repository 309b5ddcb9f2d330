import CounterTable.Proofs.Blocks.Calls
import CounterTable.Proofs.Blocks.Supply

/-!
# Pools, handed out whole

Whatever the source of a tenant answers, as long as its values are of one number type, the
identifiers that the tenant gets are those of pools, one pool after another. The first pool takes
two values if the first one shows that nobody has used the table yet, and all later pools take one.
The next value is drawn when the pool is used up, and not earlier.

* `Pooled.FirstPool`, `Pooled.After`, `Pooled.Pools`: the pools of calls, which the answers to them
  decide;
* `Pooled.Response`: all that a call can come to;
* **`Pooled.response_of_call`**: what a call comes to;
* **`Pooled.pools_handed_out`**: the identifiers are those of the pools.
-/

namespace CounterTable

namespace Pooled

variable {answers : Nat → Except Error Integral} {t : Tenant} {p q : Pooled} {m n steps : Nat}
  {result : Except Error Integral} {o : Optimizer} {type : NumberType}

/-! ## Pools -/

/-- A first value shows that nobody has used the table yet: it is the initial value, or, if that is
not known, it lies below the increment. -/
def Unused (p : Pooled) (first : Integral) : Prop :=
  match p.initial with
  | some initial => first.val = initial
  | none => first.val < p.increment

/-- The pool whose greatest identifier is this value: as many identifiers as the increment. -/
def poolOf (p : Pooled) (hi : Integral) : List Int :=
  Int.range (hi.val - p.increment + 1) (hi.val + 1)

/-- The first pool, from the answers to the call that builds it. -/
inductive FirstPool (p : Pooled) : List (Except Error Integral) → List Int → Prop
  /-- Two values that follow each other, from the first one on: one identifier more than usual. -/
  | following {first second : Integral} (h : p.Unused first)
      (hsecond : second.val = first.val + p.increment) :
      FirstPool p [.ok first, .ok second] (Int.range first.val (second.val + 1))
  /-- Another one has drawn in between. -/
  | apart {first second : Integral} (h : p.Unused first)
      (hsecond : second.val ≠ first.val + p.increment) :
      FirstPool p [.ok first, .ok second] (p.poolOf second)
  /-- The table has been used. -/
  | single {first : Integral} (h : ¬ p.Unused first) : FirstPool p [.ok first] (p.poolOf first)

/-- The pools after one more call: a call that has succeeded with answers from the source has a pool
of its own. -/
inductive After (p : Pooled) (pools : List (List Int)) : Called → List (List Int) → Prop
  /-- The call has not asked the source. -/
  | unasked (result : Except Error Integral) : After p pools ⟨[], result⟩ pools
  /-- The call has failed, and what it has drawn is lost. -/
  | failed (as : List (Except Error Integral)) (e : Error) : After p pools ⟨as, .error e⟩ pools
  /-- The call has built the first pool. -/
  | first {as : List (Except Error Integral)} {a : Integral} {pool : List Int} (hnil : pools = [])
      (hpool : p.FirstPool as pool) : After p pools ⟨as, .ok a⟩ [pool]
  /-- The call has built a later one. -/
  | later {a hi : Integral} (hne : pools ≠ []) :
      After p pools ⟨[.ok hi], .ok a⟩ (pools ++ [p.poolOf hi])

/-- The pools of calls, one after another. -/
inductive Pools (p : Pooled) : List Called → List (List Int) → Prop
  | none : Pools p [] []
  | more {calls : List Called} {c : Called} {pools pools' : List (List Int)}
      (h : Pools p calls pools) (hafter : p.After pools c pools') : Pools p (calls ++ [c]) pools'

theorem FirstPool.unique {as : List (Except Error Integral)} {pool pool' : List Int}
    (h : p.FirstPool as pool) (h' : p.FirstPool as pool') : pool = pool' := by
  cases h with
  | following _ hsecond =>
    cases h' with
    | following => rfl
    | apart _ hother => exact absurd hsecond hother
  | apart _ hsecond =>
    cases h' with
    | following _ hother => exact absurd hother hsecond
    | apart => rfl
  | single =>
    cases h'
    rfl

theorem After.unique {pools pools₁ pools₂ : List (List Int)} {c : Called}
    (h : p.After pools c pools₁) (h' : p.After pools c pools₂) : pools₁ = pools₂ := by
  have hasked : ∀ pool, ¬ p.FirstPool [] pool := nofun
  cases h with
  | unasked =>
    cases h' with
    | unasked | failed => rfl
    | first _ hpool => exact absurd hpool (hasked _)
  | failed => cases h' <;> rfl
  | first hnil hpool =>
    cases h' with
    | unasked => exact absurd hpool (hasked _)
    | first _ hpool' => rw [hpool.unique hpool']
    | later hne => exact absurd hnil hne
  | later hne =>
    cases h' with
    | first hnil => exact absurd hnil hne
    | later => rfl

theorem Pools.unique {calls : List Called} {pools pools' : List (List Int)}
    (h : p.Pools calls pools) (h' : p.Pools calls pools') : pools = pools' := by
  induction h generalizing pools' with
  | none =>
    generalize hcalls : ([] : List Called) = calls at h'
    cases h' with
    | none => rfl
    | more => exact absurd hcalls.symm (List.concat_ne_nil _ _)
  | @more calls c _ _ _ hafter ih =>
    generalize hcalls : calls ++ [c] = calls' at h'
    cases h' with
    | none => exact absurd hcalls (List.concat_ne_nil _ _)
    | more h' hafter' =>
      obtain ⟨rfl, hc⟩ := List.append_inj' hcalls rfl
      cases hc
      cases ih h'
      exact hafter.unique hafter'

/-- The identifiers of its pool that a tenant has left. -/
def left (p : Pooled) (t : Tenant) : List Int :=
  match p.pools.get? t with
  | some pool => Int.range pool.next.val (pool.hi.val + 1)
  | none => []

theorem left_set {pool : Pool} : { p with pools := p.pools.set t pool }.left t =
    Int.range pool.next.val (pool.hi.val + 1) := by
  simp only [left, Keyed.get?_set, beq_self_eq_true, if_true]

theorem isFresh_iff {first : Integral} : p.isFresh first = true ↔ p.Unused first := by
  unfold isFresh Unused
  cases p.initial with
  | some initial => exact beq_iff_eq
  | none => exact decide_eq_true_iff

/-! ## What a value comes to -/

theorem serveNew_cases (p : Pooled) (t : Tenant) (pool? : Except Error Pool) :
    (∃ e, p.serveNew t pool? = .answer (.error e) p) ∨ ∃ pool next, pool? = .ok pool ∧
      next.val = pool.next.val + 1 ∧ p.serveNew t pool? =
        .answer (.ok pool.next) { p with pools := p.pools.set t { pool with next } } := by
  cases pool? with
  | error e => exact .inl ⟨e, rfl⟩
  | ok pool =>
    cases hnext : pool.next.increment with
    | error e => exact .inl ⟨e, by simp only [serveNew, serve, hnext]⟩
    | ok next =>
      have hserve : p.serveNew t (.ok pool) =
          .answer (.ok pool.next) { p with pools := p.pools.set t { pool with next } } := by
        simp only [serveNew, serve, hnext]
      exact .inr ⟨pool, next, rfl, Integral.val_increment hnext, hserve⟩

theorem exists_serveNew (p : Pooled) (t : Tenant) (pool? : Except Error Pool) :
    ∃ result q, p.serveNew t pool? = .answer result q := by
  obtain ⟨e, he⟩ | ⟨pool, next, -, -, hserve⟩ := p.serveNew_cases t pool?
  · exact ⟨_, _, he⟩
  · exact ⟨_, _, hserve⟩

/-! ## What a call comes to -/

/-- What a call comes to. -/
inductive Response (answers : Nat → Except Error Integral) (t : Tenant) (m : Nat) (p : Pooled) :
    Except Error Integral → Nat → Pooled → Prop
  /-- The call fails and changes nothing. -/
  | failed (e : Error) (n : Nat) : Response answers t m p (.error e) n p
  /-- The pool is not used up. -/
  | served {pool : Pool} {next : Integral} (hpool : p.pools.get? t = some pool)
      (hle : pool.next.val ≤ pool.hi.val) (hnext : next.val = pool.next.val + 1) :
      Response answers t m p (.ok pool.next) m
        { p with pools := p.pools.set t { pool with next } }
  /-- There is no pool yet. -/
  | first {n : Nat} {a : Integral} {pool : Pool} (hnone : p.pools.get? t = none)
      (hpool : p.FirstPool (asked answers m n)
        (a.val :: Int.range pool.next.val (pool.hi.val + 1))) :
      Response answers t m p (.ok a) n { p with pools := p.pools.set t pool }
  /-- The pool is used up. -/
  | later {a hi : Integral} {pool : Pool} (hsome : (p.pools.get? t).isSome)
      (hleft : p.left t = []) (hhi : answers m = .ok hi)
      (hpool : p.poolOf hi = a.val :: Int.range pool.next.val (pool.hi.val + 1)) :
      Response answers t m p (.ok a) (m + 1) { p with pools := p.pools.set t pool }

theorem poolOf_eq {hi next : Integral} {pool : Pool} (hpool : p.poolBelow hi = .ok pool)
    (hnext : next.val = pool.next.val + 1) :
    p.poolOf hi = pool.next.val :: Int.range next.val (pool.hi.val + 1) := by
  obtain ⟨hhi, hval⟩ := val_poolBelow hpool
  have hpos := p.increment_pos
  have hstart : hi.val - p.increment + 1 = pool.next.val := by omega
  rw [poolOf, hstart, hhi, range_eq_cons (by omega), hnext]

theorem asked_one {a : Except Error Integral} (h : answers m = a) :
    asked answers m (m + 1) = [a] := by
  rw [asked_succ answers (Nat.le_refl m), asked_self, List.nil_append, h]

theorem response_of_two {first second : Integral} (htype : first.type = second.type)
    (hnone : p.pools.get? t = none) (hfresh : p.Unused first) (hfirst : answers m = .ok first)
    (hsecond : answers (m + 1) = .ok second)
    (h : p.serveNew t (p.poolFrom first second) = .answer result q) :
    Response answers t m p result (m + 2) q := by
  have hasked : asked answers m (m + 2) = [.ok first, .ok second] := by
    rw [asked_succ answers (Nat.le_succ m), asked_one hfirst, hsecond]
    rfl
  obtain ⟨e, he⟩ | ⟨pool, next, hpool, hnext, hserve⟩ :=
    p.serveNew_cases t (p.poolFrom first second)
  · rw [he] at h
    cases h
    exact .failed e _
  · rw [hserve] at h
    cases h
    refine .first hnone ?_
    rw [hasked]
    by_cases hfollows : second.val = first.val + p.increment
    · rw [poolFrom_eq htype hfollows] at hpool
      cases hpool
      have hpos := p.increment_pos
      have hrange : Int.range first.val (second.val + 1) =
          first.val :: Int.range next.val (second.val + 1) := by
        rw [range_eq_cons (by omega), hnext]
      exact hrange ▸ .following hfresh hfollows
    · rw [poolFrom_of_ne hfollows] at hpool
      exact poolOf_eq hpool hnext ▸ .apart hfresh hfollows

theorem response_of_one {hi : Integral} (hused : p.pools.get? t = none → ¬ p.Unused hi)
    (hleft : p.left t = []) (hhi : answers m = .ok hi)
    (h : p.serveNew t (p.poolBelow hi) = .answer result q) :
    Response answers t m p result (m + 1) q := by
  obtain ⟨e, he⟩ | ⟨pool, next, hpool, hnext, hserve⟩ := p.serveNew_cases t (p.poolBelow hi)
  · rw [he] at h
    cases h
    exact .failed e _
  · rw [hserve] at h
    cases h
    have heq := poolOf_eq hpool hnext
    cases hget : p.pools.get? t with
    | none =>
      refine .first hget ?_
      rw [asked_one hhi]
      exact heq ▸ .single (hused hget)
    | some pool' =>
      exact .later (by rw [hget]; rfl) hleft hhi heq

theorem of_draw {held : Option Integral} (h : (Optimizer.pooled p).opening t = .draw held) :
    held = none ∧ p.left t = [] := by
  cases hpool : p.pools.get? t with
  | none =>
    simp only [Optimizer.opening, opening, hpool, Outcome.map, Outcome.draw.injEq] at h
    exact ⟨h.symm, by rw [left, hpool]⟩
  | some pool =>
    by_cases hlt : pool.hi.val < pool.next.val
    · simp only [Optimizer.opening, opening, hpool, if_pos hlt, Outcome.map,
        Outcome.draw.injEq] at h
      refine ⟨h.symm, ?_⟩
      rw [left, hpool]
      exact range_eq_nil hlt
    · simp only [Optimizer.opening, opening, hpool, if_neg hlt, serve] at h
      cases hnext : pool.next.increment <;> simp only [hnext, Outcome.map, reduceCtorEq] at h

theorem response_of_answer (m : Nat) (h : (Optimizer.pooled p).opening t = .answer result o) :
    ∃ q, o = .pooled q ∧ Response answers t m p result m q := by
  cases hpool : p.pools.get? t with
  | none => simp only [Optimizer.opening, opening, hpool, Outcome.map, reduceCtorEq] at h
  | some pool =>
    by_cases hlt : pool.hi.val < pool.next.val
    · simp only [Optimizer.opening, opening, hpool, if_pos hlt, Outcome.map, reduceCtorEq] at h
    · simp only [Optimizer.opening, opening, hpool, if_neg hlt, serve] at h
      cases hnext : pool.next.increment with
      | error e =>
        simp only [hnext, Outcome.map, Outcome.answer.injEq] at h
        obtain ⟨rfl, rfl⟩ := h
        exact ⟨p, rfl, .failed e m⟩
      | ok next =>
        simp only [hnext, Outcome.map, Outcome.answer.injEq] at h
        obtain ⟨rfl, rfl⟩ := h
        exact ⟨_, rfl, .served hpool (Int.not_lt.mp hlt) (Integral.val_increment hnext)⟩

theorem response_of_held {first : Integral} (htype : ∀ i a, answers i = .ok a → a.type = type)
    (hnone : p.pools.get? t = none) (hfresh : p.Unused first) (hfirst : answers m = .ok first)
    (h : Optimizer.drawing answers t (some first) steps (m + 1, .pooled p) =
      (some result, (n, o))) :
    ∃ q, o = .pooled q ∧ Response answers t m p result n q := by
  cases steps with
  | zero => cases h
  | succ steps =>
    cases hsecond : answers (m + 1) with
    | error e =>
      rw [Optimizer.drawing_of_error hsecond] at h
      cases h
      exact ⟨p, rfl, .failed e _⟩
    | ok second =>
      rw [Optimizer.drawing_of_ok hsecond] at h
      have htypes : first.type = second.type := by
        rw [htype _ _ hfirst, htype _ _ hsecond]
      obtain ⟨result', q, hserve⟩ := p.exists_serveNew t (p.poolFrom first second)
      simp only [Optimizer.take, take, hserve, Outcome.map] at h
      cases h
      exact ⟨q, rfl, response_of_two htypes hnone hfresh hfirst hsecond hserve⟩

theorem response_of_drawing (htype : ∀ i a, answers i = .ok a → a.type = type)
    (hleft : p.left t = [])
    (h : Optimizer.drawing answers t none steps (m, .pooled p) = (some result, (n, o))) :
    ∃ q, o = .pooled q ∧ Response answers t m p result n q := by
  cases steps with
  | zero => cases h
  | succ steps =>
    cases hfirst : answers m with
    | error e =>
      rw [Optimizer.drawing_of_error hfirst] at h
      cases h
      exact ⟨p, rfl, .failed e _⟩
    | ok first =>
      rw [Optimizer.drawing_of_ok hfirst] at h
      simp only [Optimizer.take, take] at h
      by_cases hfresh : (p.pools.get? t).isNone && p.isFresh first
      · simp only [hfresh, if_true, Outcome.map] at h
        obtain ⟨hnone, hunused⟩ := Bool.and_eq_true_iff.mp hfresh
        exact response_of_held htype (Option.isNone_iff_eq_none.mp hnone) (isFresh_iff.mp hunused)
          hfirst h
      · rw [if_neg hfresh] at h
        have hused : p.pools.get? t = none → ¬ p.Unused first := fun hnone hunused =>
          hfresh (by rw [hnone, isFresh_iff.mpr hunused]; rfl)
        obtain ⟨result', q, hserve⟩ := p.exists_serveNew t (p.poolBelow first)
        simp only [hserve, Outcome.map] at h
        cases h
        exact ⟨q, rfl, response_of_one hused hleft hfirst hserve⟩

/-- **What a call comes to.** -/
theorem response_of_call (htype : ∀ i a, answers i = .ok a → a.type = type)
    (h : Optimizer.call answers t steps (m, .pooled p) = (some result, (n, o))) :
    ∃ q, o = .pooled q ∧ Response answers t m p result n q := by
  cases steps with
  | zero => cases h
  | succ steps =>
    cases hopening : (Optimizer.pooled p).opening t with
    | draw held =>
      obtain ⟨rfl, hleft⟩ := of_draw hopening
      rw [Optimizer.call_of_draw hopening] at h
      exact response_of_drawing htype hleft h
    | answer result' o' =>
      rw [Optimizer.call_of_answer hopening] at h
      cases h
      exact response_of_answer m hopening

/-! ## Runs of calls -/

/-- The pools of a tenant are those of its policy: they depend on the increment and the initial
value, which no call changes. -/
theorem FirstPool.congr {as : List (Except Error Integral)} {pool : List Int}
    (hincrement : q.increment = p.increment) (hinitial : q.initial = p.initial)
    (h : q.FirstPool as pool) : p.FirstPool as pool := by
  have hunused : ∀ first, q.Unused first ↔ p.Unused first := fun first => by
    rw [Unused, Unused, hincrement, hinitial]
  have hpoolOf : ∀ hi, q.poolOf hi = p.poolOf hi := fun hi => by rw [poolOf, poolOf, hincrement]
  cases h with
  | following h hsecond => exact .following ((hunused _).mp h) (hincrement ▸ hsecond)
  | apart h hsecond =>
    rw [hpoolOf]
    exact .apart ((hunused _).mp h) (hincrement ▸ hsecond)
  | single h =>
    rw [hpoolOf]
    exact .single (mt (hunused _).mpr h)

/-- The invariant of calls: what the tenant has left is left of the last pool, and it has a pool
just if it has got one. -/
structure Serving (p : Pooled) (t : Tenant) (calls : List Called) (pools : List (List Int))
    (q : Pooled) : Prop where
  increment_eq : q.increment = p.increment
  initial_eq : q.initial = p.initial
  drawn : p.Pools calls pools
  handed : HandedOut pools (Called.identifiers calls) (q.left t)
  none_iff : q.pools.get? t = none ↔ pools = []

theorem Serving.begin (hp : p.pools.get? t = none) : p.Serving t [] [] p where
  increment_eq := rfl
  initial_eq := rfl
  drawn := .none
  handed := by
    have hleft : p.left t = [] := by rw [left, hp]
    rw [hleft]
    exact .nil
  none_iff := iff_of_true hp rfl

/-- **Every call** goes on handing out the pools. -/
theorem Serving.call {calls : List Called} {pools : List (List Int)} {q' : Pooled}
    (h : p.Serving t calls pools q) (hr : Response answers t m q result n q') :
    ∃ pools', p.Serving t (calls ++ [⟨asked answers m n, result⟩]) pools' q' := by
  have hget : ∀ pool : Pool, ({ q with pools := q.pools.set t pool }).pools.get? t = some pool :=
    fun pool => by simp only [Keyed.get?_set, beq_self_eq_true, if_true]
  cases hr with
  | failed e n =>
    refine ⟨pools, h.increment_eq, h.initial_eq, h.drawn.more (.failed _ _), ?_, h.none_iff⟩
    rw [Called.identifiers_of_error]
    exact h.handed
  | @served pool next hpool hle hnext =>
    have hne : pools ≠ [] := fun hnil => by
      rw [h.none_iff.mpr hnil] at hpool
      cases hpool
    have hleft : q.left t = Int.range pool.next.val (pool.hi.val + 1) := by rw [left, hpool]
    have hhanded := h.handed
    rw [hleft, range_eq_cons (by omega), ← hnext] at hhanded
    refine ⟨pools, h.increment_eq, h.initial_eq, ?_, ?_, iff_of_false (by simp [hget]) hne⟩
    · rw [asked_self]
      exact h.drawn.more (.unasked _)
    · rw [Called.identifiers_of_ok, left_set]
      exact hhanded.next
  | @first _ a pool hnone hpool =>
    obtain rfl := h.none_iff.mp hnone
    have hleft : q.left t = [] := by rw [left, hnone]
    have hhanded := h.handed
    rw [hleft] at hhanded
    refine ⟨[_], h.increment_eq, h.initial_eq,
      h.drawn.more (.first rfl (hpool.congr h.increment_eq h.initial_eq)), ?_,
      iff_of_false (by simp [hget]) (List.cons_ne_nil _ _)⟩
    rw [Called.identifiers_of_ok, left_set]
    exact hhanded.first
  | @later a hi pool hsome hleft hhi hpool =>
    have hne : pools ≠ [] := fun hnil => by
      rw [h.none_iff.mpr hnil] at hsome
      cases hsome
    have hpoolOf : q.poolOf hi = p.poolOf hi := by rw [poolOf, poolOf, h.increment_eq]
    have hhanded := h.handed
    rw [hleft] at hhanded
    rw [asked_one hhi]
    refine ⟨pools ++ [p.poolOf hi], h.increment_eq, h.initial_eq, h.drawn.more (.later hne), ?_,
      iff_of_false (by simp [hget]) (List.concat_ne_nil _ _)⟩
    rw [Called.identifiers_of_ok, left_set, ← hpoolOf, hpool]
    exact hhanded.first

/-- **Every run of calls** hands out the pools. -/
theorem Serving.run (hp : p.pools.get? t = none) (htype : ∀ i a, answers i = .ok a → a.type = type)
    {calls : List Called} (h : Optimizer.Calls answers t (m, .pooled p) calls (n, o)) :
    ∃ pools q, o = .pooled q ∧ p.Serving t calls pools q := by
  generalize hend : (n, o) = s at h
  induction h generalizing n o with
  | none =>
    cases hend
    exact ⟨[], p, rfl, .begin hp⟩
  | more _ hcall ih =>
    cases hend
    obtain ⟨pools, q, rfl, hserving⟩ := ih rfl
    obtain ⟨q', hq', hresponse⟩ := response_of_call htype hcall
    obtain ⟨pools', hserving'⟩ := hserving.call hresponse
    exact ⟨pools', q', hq', hserving'⟩

/-- **The pools are handed out whole**, whatever a source of one number type answers. The
identifiers of the calls that have succeeded are, in their order, those of the pools that the calls
have drawn, one pool after another, and only the last one may be incomplete. The next call asks the
source only if nothing is left of it. -/
theorem pools_handed_out (p : Pooled) {t : Tenant} (hp : p.pools.get? t = none)
    {type : NumberType} {answers : Nat → Except Error Integral}
    (htype : ∀ i a, answers i = .ok a → a.type = type) {m n : Nat} {calls : List Called}
    {o : Optimizer} (h : Optimizer.Calls answers t (m, .pooled p) calls (n, o)) :
    ∃ pools left, p.Pools calls pools ∧ HandedOut pools (Called.identifiers calls) left ∧
      ∀ steps r n' o', Optimizer.call answers t steps (n, o) = (r, (n', o')) → n < n' →
        left = [] := by
  obtain ⟨pools, q, rfl, hserving⟩ := Serving.run hp htype h
  refine ⟨pools, q.left t, hserving.drawn, hserving.handed, fun steps r n' o' hcall hlt => ?_⟩
  obtain ⟨held, hopening⟩ := Optimizer.exists_draw_of_lt hcall hlt
  exact (of_draw hopening).2

/-- Pools of two identifiers, over a table that was filled with 1. -/
def pairs : Pooled where
  increment := 2
  increment_pos := (by decide : (0 : Int) < 2)
  initial := some 1

/-- The answers for them: a source that fails when the first call draws its second value, two values
that follow each other, and one more. -/
def answersForPairs : Nat → Except Error Integral :=
  listed [Integral.make .long 1, .error (.lock "taken"), Integral.make .long 1,
    Integral.make .long 3, Integral.make .long 7]

/-- The state after so many calls. -/
def pairsAfter : Nat → Nat × Optimizer
  | 0 => (0, .pooled pairs)
  | calls + 1 => (Optimizer.call answersForPairs none 3 (pairsAfter calls)).2

theorem answersForPairs_type (i : Nat) (a : Integral) (h : answersForPairs i = .ok a) :
    a.type = .long := by
  match i with
  | 0 | 2 | 3 | 4 =>
    cases h
    rfl
  | 1 | _ + 5 => cases h

theorem pools_handed_out_pairs : ∃ calls,
    Optimizer.Calls answersForPairs none (0, .pooled pairs) calls (pairsAfter 5) ∧
      Called.identifiers calls = [1, 2, 3, 6] ∧
      ∃ left, HandedOut [[1, 2, 3], [6, 7]] [1, 2, 3, 6] left := by
  have h₁ : (Optimizer.call answersForPairs none 3 (pairsAfter 0)).1 =
      some (.error (.lock "taken")) := rfl
  have h₂ : (Optimizer.call answersForPairs none 3 (pairsAfter 1)).1 =
      some (.ok ⟨.long, 1, by decide⟩) := rfl
  have h₃ : (Optimizer.call answersForPairs none 3 (pairsAfter 2)).1 =
      some (.ok ⟨.long, 2, by decide⟩) := rfl
  have h₄ : (Optimizer.call answersForPairs none 3 (pairsAfter 3)).1 =
      some (.ok ⟨.long, 3, by decide⟩) := rfl
  have h₅ : (Optimizer.call answersForPairs none 3 (pairsAfter 4)).1 =
      some (.ok ⟨.long, 6, by decide⟩) := rfl
  have h := (((Optimizer.Calls.single h₁).trans (.single h₂)).trans (.single h₃)).trans
    ((Optimizer.Calls.single h₄).trans (.single h₅))
  obtain ⟨pools, left, hpools, hleft, -⟩ := pools_handed_out pairs rfl answersForPairs_type h
  have hunused : pairs.Unused ⟨.long, 1, by decide⟩ := rfl
  have hfailed : pairs.After [] ⟨[.ok ⟨.long, 1, by decide⟩, .error (.lock "taken")],
      .error (.lock "taken")⟩ [] := .failed _ _
  have hfirst : pairs.After [] ⟨[.ok ⟨.long, 1, by decide⟩, .ok ⟨.long, 3, by decide⟩],
      .ok ⟨.long, 1, by decide⟩⟩ [[1, 2, 3]] := .first rfl (.following hunused rfl)
  have hserved : ∀ a, pairs.After [[1, 2, 3]] ⟨[], .ok a⟩ [[1, 2, 3]] := fun a => .unasked _
  have hlater : pairs.After [[1, 2, 3]] ⟨[.ok ⟨.long, 7, by decide⟩], .ok ⟨.long, 6, by decide⟩⟩
      [[1, 2, 3], [6, 7]] := .later (List.cons_ne_nil _ _)
  have hdrawn := ((((Pools.none.more hfailed).more hfirst).more
    (hserved ⟨.long, 2, by decide⟩)).more (hserved ⟨.long, 3, by decide⟩)).more hlater
  rw [hpools.unique hdrawn] at hleft
  exact ⟨_, h, rfl, left, hleft⟩

end Pooled

end CounterTable
