import CounterTable.Proofs.Allocation.Answers
import CounterTable.Proofs.Allocation.Failures
import CounterTable.Proofs.Blocks.Headroom
import CounterTable.Proofs.Sequence.Configured

/-!
# Where overflows come from

Generators that are configured from the same settings, with pools, draw from a table that begins at
the initial value. Their arithmetic never overflows, whatever the calls of all of them do in
between: the table refuses the step to a value outside of the range first, and the pools lie below
the values that it has come to.

* `Generator.Ascends`, `Generator.ascends_of_configure`: a generator with pools on an ascent;
* `Participants.Ascending`: the invariant;
* **`Participants.Ascending.step`**, **`Participants.Ascending.run`**: any run keeps it;
* `Participants.Ascending.failed_of_returned`: which failure a call returns;
* **`Participants.pools_never_overflow`**: where an overflow comes from.
-/

namespace CounterTable

/-- A value that has been read can be advanced. -/
def Ascent.Steps (a : Ascent) (current : Integral) : Prop :=
  current.type = a.type ∧ a.type.Contains (current.val + a.increment)

/-- What a call holds has been passed, and what its allocation has read can be advanced. -/
inductive Generator.Call.Within (a : Ascent) (v : Int) : Generator.Call → Prop
  | opening : Within a v .opening
  | drawing {held : Option Integral} {place : Counter.NextValue}
      (hheld : ∀ first, held = some first → a.Passed v first) (hread : place.Every a.Steps) :
      Within a v (.drawing held place)

theorem Generator.Call.Within.mono {a : Ascent} {v w : Int} {call : Generator.Call}
    (h : Within a v call) (hle : v ≤ w) : Within a w call := by
  cases h with
  | opening => exact .opening
  | drawing hheld hread => exact .drawing (fun first hfirst => (hheld first hfirst).mono hle) hread

namespace Generator

/-- The generator pools the values of the ascent, which it draws from this table. -/
structure Ascends (name : String) (a : Ascent) (g : Generator) : Prop where
  counter_over : g.counter.Over name
  step : g.counter.step = a.increment
  type_eq : g.counter.numberType = a.type
  pools : ∃ p, g.optimizer = .pooled p ∧ p.Within a a.initial

variable {s : Settings} {d : Dialect} {g : Generator} {name : String}

theorem exists_ascent (h : configure s d = .ok g) : ∃ a : Ascent, a.type = s.numberType ∧
    a.initial = s.initialValue.toInt ∧ a.increment = s.incrementSize.toInt := by
  obtain ⟨_, _, counter, _, -, -, hcounter, -⟩ := of_configure h
  obtain ⟨-, -, -, -, hpos⟩ := Counter.of_define hcounter
  obtain ⟨-, hcontains⟩ := Counter.contains_of_define hcounter
  exact ⟨⟨_, _, _, hcontains, hpos⟩, rfl, rfl, rfl⟩

/-- **A configured generator with pools** ascends from the initial value by the increment. -/
theorem ascends_of_configure (h : configure s d = .ok g) (hkind : s.optimizerKind = .pooled)
    (hover : g.counter.Over name) {a : Ascent} (htype : a.type = s.numberType)
    (hinitial : a.initial = s.initialValue.toInt)
    (hincrement : a.increment = s.incrementSize.toInt) : g.Ascends name a := by
  obtain ⟨_, _, counter, optimizer, -, -, hcounter, hoptimizer, rfl⟩ := of_configure h
  obtain ⟨-, -, -, hcounterIncrement, -⟩ := Counter.of_define hcounter
  obtain ⟨hnumberType, -⟩ := Counter.contains_of_define hcounter
  refine ⟨hover, ?_, hnumberType.trans htype.symm, ?_⟩
  · have hstep := OptimizerKind.step_prepare { counter with retry := s.retry }
      (congrArg Int64.toInt hcounterIncrement) hoptimizer
    rw [hkind] at hstep
    exact hstep.trans hincrement.symm
  · rw [hkind] at hoptimizer
    unfold OptimizerKind.build at hoptimizer
    split at hoptimizer
    · next hpos =>
      cases hoptimizer
      refine ⟨_, rfl, hincrement.symm, congrArg some hinitial.symm, fun t pool hpool => ?_⟩
      cases hpool
    · cases hoptimizer

theorem Ascends.steps_of_readRow {a : Ascent} (h : g.Ascends name a) {q : QueryResult}
    {current advanced : Integral} (hq : g.counter.readRow q = .ok (current, advanced)) :
    a.Steps current := by
  obtain ⟨e, he, -⟩ | ⟨r, -, hr⟩ := g.counter.readRow_cases q
  · cases he.symm.trans hq
  · cases hr.symm.trans hq
    have hadvanced := r.advanced.inRange
    rw [r.advanced_type, r.advanced_val, h.step, h.type_eq] at hadvanced
    exact ⟨r.current_type.trans h.type_eq, hadvanced⟩

end Generator

namespace Participants

variable {ι κ ς : Type} [DecidableEq ι] [DecidableEq κ] [DecidableEq ς]

section Definitions

variable (x : Participants ι κ ς)

/-- The invariant: the allocations of the calls race for the table, which has come to the value `v`,
and all pools end at values that have been passed. -/
structure Ascending (name : String) (a : Ascent) (r : Allotment ι κ ς) (ns : List Int64) (v : Int) :
    Prop where
  contest : Contest name (fun i => (x.generatorOf i).counter) (fun i => (r.calls i).place)
    r.database ns
  first : first? ns = some v
  reached : a.Reached v
  pools : ∀ k, ∃ p, r.optimizers k = .pooled p ∧ p.Within a v
  calls : ∀ i, Generator.Call.Within a v (r.calls i)

/-- A caller meets an overflow in the table: its allocation on this connection reads a value of the
type, and the step from it leaves the range. -/
def Refused (i : ι) (id : Nat) (e : Error) (r : Allotment ι κ ς) : Prop :=
  ∃ held a, r.calls i = .drawing held (.connected id (.working [] none a)) ∧
    (x.generatorOf i).counter.Refuses r.database id a e

end Definitions

variable {x : Participants ι κ ς} {name : String} {a : Ascent} {r r' : Allotment ι κ ς}
  {ns : List Int64} {v w : Int}

/-! ## Steps -/

omit [DecidableEq ς] in
theorem Ascending.moved {i : ι} {k : κ} {call : Generator.Call} {q : Pooled}
    (hcontest : Contest name (fun i => (x.generatorOf i).counter)
      (Function.update (fun i => (r.calls i).place) i call.place) r'.database ns)
    (hfirst : first? ns = some w) (hreached : a.Reached w)
    (hpools : ∀ k, ∃ p, r.optimizers k = .pooled p ∧ p.Within a w)
    (hcalls : ∀ i, Generator.Call.Within a w (r.calls i))
    (hcall : Generator.Call.Within a w call) (hq : q.Within a w)
    (hoptimizers : r'.optimizers = Function.update r.optimizers k (.pooled q))
    (hmoved : r'.calls = Function.update r.calls i call) : x.Ascending name a r' ns w where
  contest := by
    rw [hmoved, place_update]
    exact hcontest
  first := hfirst
  reached := hreached
  pools := by
    rw [hoptimizers]
    exact (Function.forall_update_iff r.optimizers fun _ o => ∃ p, o = .pooled p ∧ p.Within a w).mpr
      ⟨⟨q, rfl, hq⟩, fun l _ => hpools l⟩
  calls := by
    rw [hmoved]
    exact (Function.forall_update_iff r.calls fun _ => Generator.Call.Within a w).mpr
      ⟨hcall, fun j _ => hcalls j⟩

omit [DecidableEq ς] in
/-- **What an outcome of pools comes to** keeps the ascent. -/
theorem Ascending.proceed {i : ι} {k : κ} {p : Pooled} {outcome : Outcome Pooled} {db : Database}
    (hcontest : Contest name (fun i => (x.generatorOf i).counter)
      (Function.update (fun i => (r.calls i).place) i .connecting) db ns)
    (hfirst : first? ns = some w) (hreached : a.Reached w)
    (hpools : ∀ k, ∃ p, r.optimizers k = .pooled p ∧ p.Within a w)
    (hcalls : ∀ i, Generator.Call.Within a w (r.calls i)) (hp : p.Within a w)
    (hs : Pooled.Succeeds a w outcome)
    (hafter : r.After i k (Optimizer.proceed .connecting (.pooled p) db (outcome.map .pooled)) r') :
    x.Ascending name a r' ns w := by
  obtain ⟨hdb, hoptimizers, hmoved, -⟩ := hafter
  rcases outcome with held | ⟨e | b, q⟩
  · have hread : Counter.NextValue.Every a.Steps .connecting := trivial
    exact Ascending.moved (hdb ▸ hcontest) hfirst hreached hpools hcalls (.drawing hs hread) hp
      hoptimizers hmoved
  · exact hs.elim
  · exact Ascending.moved (hdb ▸ hcontest) hfirst hreached hpools hcalls .opening hs hoptimizers
      hmoved

omit [DecidableEq ι] [DecidableEq κ] [DecidableEq ς] in
theorem Ascending.drawing (h : x.Ascending name a r ns v) {i : ι} {held : Option Integral}
    {place : Counter.NextValue} (hcall : r.calls i = .drawing held place) :
    (∀ first, held = some first → a.Passed v first) ∧ place.Every a.Steps := by
  have hcalls := h.calls i
  rw [hcall] at hcalls
  cases hcalls with
  | drawing hheld hread => exact ⟨hheld, hread⟩

omit [DecidableEq κ] [DecidableEq ς] in
/-- **A value that is drawn** is the one that the table had come to. It can be taken without an
overflow, and the table has come to the next one. -/
theorem Ascending.drawn (h : x.Ascending name a r ns v)
    (hx : ∀ k, (x.generators k).Ascends name a) {i : ι} {held : Option Integral}
    {place : Counter.NextValue} (hcall : r.calls i = .drawing held place) {drawn : Integral}
    {db : Database} (hs : (x.generatorOf i).counter.unobserved Database.backend place r.database =
      (.finished (.ok drawn), db)) {p : Pooled} (hp : p.Within a v) (t : Tenant) :
    Pooled.Succeeds a (v + a.increment) (p.take t held drawn) ∧
      a.type.Contains (v + a.increment) ∧ ∃ ns',
        Contest name (fun i => (x.generatorOf i).counter)
          (Function.update (fun i => (r.calls i).place) i .connecting) db ns' ∧
        first? ns' = some (v + a.increment) := by
  have hascends : (x.generatorOf i).Ascends name a := hx (x.generator i)
  obtain ⟨hheld, hevery⟩ := h.drawing hcall
  have hread := Counter.unobserved_every Database.backend
    (fun _ _ _ hq => hascends.steps_of_readRow hq) hevery r.database
  rw [hs] at hread
  obtain ⟨w, hhead, hw, hmoved⟩ := stepped_drawing h.contest hascends.counter_over hcall hs
  obtain ⟨htype, hfit⟩ := hread
  obtain ⟨rfl, hnext⟩ := first?_replaced h.first hhead w
  have hstep : (x.generatorOf i).counter.step = a.increment := hascends.step
  rw [hw, hstep] at hnext
  exact ⟨Pooled.take_succeeds hp h.reached htype hfit hheld, hfit, _, hmoved, hnext⟩

/-- **Every step of a caller** keeps the ascent. -/
theorem Ascending.advance (h : x.Ascending name a r ns v)
    (hx : ∀ k, (x.generators k).Ascends name a) (i : ι) :
    ∃ ns w, x.Ascending name a (x.advance i r) ns w := by
  have hascends : (x.generatorOf i).Ascends name a := hx (x.generator i)
  obtain ⟨p, hp, hwithin⟩ := h.pools (x.generator i)
  cases x.advanced i r with
  | opened hcall hafter =>
    rw [hp] at hafter
    exact ⟨ns, v, Ascending.proceed (contest_opening h.contest hcall) h.first h.reached h.pools
      h.calls hwithin (Pooled.opening_succeeds hwithin h.reached.contains) hafter⟩
  | wentOn hcall hs hafter =>
    have hstep := stepped_drawing h.contest hascends.counter_over hcall hs
    obtain ⟨hheld, hevery⟩ := h.drawing hcall
    have hread := Counter.unobserved_every Database.backend
      (fun _ _ _ hq => hascends.steps_of_readRow hq) hevery r.database
    rw [hs] at hread
    rw [hp] at hafter
    exact ⟨ns, v, Ascending.moved (hafter.database ▸ hstep) h.first h.reached h.pools h.calls
      (.drawing hheld hread) hwithin hafter.optimizers hafter.calls⟩
  | failed hcall hs hafter =>
    have hstep := stepped_drawing h.contest hascends.counter_over hcall hs
    rw [hp] at hafter
    exact ⟨ns, v, Ascending.moved (hafter.database ▸ hstep) h.first h.reached h.pools h.calls
      .opening hwithin hafter.optimizers hafter.calls⟩
  | @took held place drawn db hcall hs hafter =>
    have hpos := a.increment_pos
    have hle : v ≤ v + a.increment := by omega
    obtain ⟨hsucceeds, hfit, ns', hcontest, hfirst⟩ := h.drawn hx hcall hs hwithin (x.tenant i)
    rw [hp] at hafter
    refine ⟨ns', _, Ascending.proceed hcontest hfirst (h.reached.next hfit) (fun k => ?_)
      (fun j => (h.calls j).mono hle) (hwithin.mono hle) hsucceeds hafter⟩
    obtain ⟨q, hq, hqwithin⟩ := h.pools k
    exact ⟨q, hq, hqwithin.mono hle⟩

/-- **Every step** keeps the ascent. -/
theorem Ascending.step (h : x.Ascending name a r ns v)
    (hx : ∀ k, (x.generators k).Ascends name a) (hs : x.Step name r r') :
    ∃ ns w, x.Ascending name a r' ns w := by
  cases hs with
  | call i => exact h.advance hx i
  | other e ho hw =>
    exact ⟨ns, v, h.contest.environment e ho hw, h.first, h.reached, h.pools, h.calls⟩

/-- **Every run** keeps the ascent. -/
theorem Ascending.run (h : x.Ascending name a r ns v)
    (hx : ∀ k, (x.generators k).Ascends name a)
    (hrun : Relation.ReflTransGen (x.Step name) r r') : ∃ ns w, x.Ascending name a r' ns w := by
  induction hrun with
  | refl => exact ⟨ns, v, h⟩
  | tail _ hs ih =>
    obtain ⟨ns, w, h⟩ := ih
    exact h.step hx hs

omit [DecidableEq ι] [DecidableEq κ] [DecidableEq ς] in
theorem Ascending.begin {db : Database} (hr : r.Begins x db)
    (hx : ∀ k, (x.generators k).Ascends name a) (hdb : db.Reachable) {table : Table}
    (hg : db.storage.get? name = some table) (hcols : table.columns.length = 1)
    (hv : db.firstValue? name = some a.initial) (hu : db.Unwritten name) :
    ∃ ns, x.Ascending name a r ns a.initial := by
  obtain ⟨ns, hns, hfirst⟩ := Database.exists_columnValues hv
  have hne : ns ≠ [] := by
    rintro rfl
    cases hfirst
  refine ⟨ns, ?_, hfirst, ⟨a.contains_initial, .inl rfl⟩, fun k => ?_, fun i => ?_⟩
  · rw [hr.calls, hr.database]
    exact Contest.start hdb hg hcols hns hne hu
  · rw [hr.optimizers]
    exact (hx k).pools
  · rw [hr.calls]
    exact .opening

/-! ## Failures -/

omit [DecidableEq ς] in
theorem returned_ne_of_succeeds {i : ι} {k : κ} {p : Pooled} {outcome : Outcome Pooled}
    {db : Database} (hs : Pooled.Succeeds a w outcome)
    (hafter : r.After i k (Optimizer.proceed .connecting (.pooled p) db (outcome.map .pooled)) r')
    (e : Error) : r'.returned ≠ r.returned ++ [(i, .error e)] := by
  rw [hafter.returned]
  rcases outcome with held | ⟨e' | b, q⟩
  · exact fun hsame => List.cons_ne_nil _ [] (List.self_eq_append_right.mp hsame)
  · exact hs.elim
  · exact fun hlast => nomatch List.append_cancel_left hlast

/-- **Every failure** that a call returns is that of its allocation. -/
theorem Ascending.failed_of_returned (h : x.Ascending name a r ns v)
    (hx : ∀ k, (x.generators k).Ascends name a) {i : ι} {e : Error}
    (hreturned : (x.advance i r).returned = r.returned ++ [(i, .error e)]) :
    ∃ held id, r.calls i = .drawing held (.connected id (.deciding [.error e] none)) := by
  obtain ⟨p, hp, hwithin⟩ := h.pools (x.generator i)
  cases x.advanced i r with
  | opened hcall hafter =>
    have hsucceeds := Pooled.opening_succeeds (t := x.tenant i) hwithin h.reached.contains
    rw [hp] at hafter
    exact absurd hreturned (returned_ne_of_succeeds hsucceeds hafter e)
  | wentOn hcall hs hafter =>
    have hsame := hafter.returned.symm.trans hreturned
    exact absurd (List.self_eq_append_right.mp hsame) (List.cons_ne_nil _ [])
  | @failed held place e' db hcall hs hafter =>
    have hlast := List.append_cancel_left (hafter.returned.symm.trans hreturned)
    cases hlast
    have hplace : (r.calls i).place = place := by rw [hcall]; rfl
    obtain ⟨id, hid⟩ := h.contest.failed_of_finished (i := i) (by rw [hplace]; exact hs)
    exact ⟨held, id, by rw [hcall, ← hplace, hid]⟩
  | took hcall hs hafter =>
    obtain ⟨hsucceeds, -⟩ := h.drawn hx hcall hs hwithin (x.tenant i)
    rw [hp] at hafter
    exact absurd hreturned (returned_ne_of_succeeds hsucceeds hafter e)

theorem Ascending.refused (h : x.Ascending name a r ns v)
    (hx : ∀ k, (x.generators k).Ascends name a) {i : ι} {held : Option Integral} {id : Nat}
    {text : String} (hcall : (x.advance i r).calls i =
      .drawing held (.connected id (.deciding [.error (.overflow text)] none))) :
    x.Refused i id (.overflow text) r := by
  have hconnected : ((x.advance i r).calls i).place ≠ .connecting := by
    rw [hcall]
    exact nofun
  cases x.advanced i r with
  | opened hfrom hafter => exact absurd hafter.place_of_proceed hconnected
  | took hfrom hs hafter => exact absurd hafter.place_of_proceed hconnected
  | failed hfrom hs hafter =>
    rw [hafter.calls, Function.update_self] at hcall
    cases hcall
  | @wentOn held' place place' db hfrom hs hafter =>
    rw [hafter.calls, Function.update_self] at hcall
    cases hcall
    have hascends : (x.generatorOf i).Ascends name a := hx (x.generator i)
    have hplace : (r.calls i).place = place := by rw [hfrom]; rfl
    obtain ⟨b, hb, hrefuses⟩ := h.contest.refuses_of_failed (i := i) hascends.counter_over h.first
      (hascends.type_eq ▸ h.reached.contains) (by rw [hplace]; exact hs)
    exact ⟨held, b, by rw [hfrom, ← hplace, hb], hrefuses⟩

/-- **Every overflow** of an allocation that is under way comes from the table. -/
theorem Ascending.origin (h : x.Ascending name a r ns v)
    (hx : ∀ k, (x.generators k).Ascends name a) (hopening : ∀ i, r.calls i = .opening)
    (hrun : Relation.ReflTransGen (x.Step name) r r') {i : ι} {held : Option Integral} {id : Nat}
    {text : String} (hcall : r'.calls i =
      .drawing held (.connected id (.deciding [.error (.overflow text)] none))) :
    ∃ r₁, Relation.ReflTransGen (x.Step name) r r₁ ∧ x.Refused i id (.overflow text) r₁ ∧
      Relation.ReflTransGen (x.Step name) (x.advance i r₁) r' := by
  induction hrun with
  | refl => cases (hopening i).symm.trans hcall
  | @tail r₂ r₃ hrun hs ih =>
    have hold : r₂.calls i = r₃.calls i → ∃ r₁, Relation.ReflTransGen (x.Step name) r r₁ ∧
        x.Refused i id (.overflow text) r₁ ∧
          Relation.ReflTransGen (x.Step name) (x.advance i r₁) r₃ := by
      intro hsame
      obtain ⟨r₁, hbefore, hrefused, hsince⟩ := ih (hsame.trans hcall)
      exact ⟨r₁, hbefore, hrefused, hsince.tail hs⟩
    cases hs with
    | call j =>
      by_cases hij : i = j
      · subst hij
        obtain ⟨ns', w, h₂⟩ := h.run hx hrun
        exact ⟨r₂, hrun, h₂.refused hx hcall, .refl⟩
      · refine hold ?_
        rw [(x.after_advance j r₂).calls, Function.update_of_ne hij]
    | other e ho hw => exact hold rfl

/-- **A call whose tenant has a pool that is not used up** is answered at once, and the table is not
touched. -/
theorem Ascending.served (h : x.Ascending name a r ns v) {i : ι} (hcall : r.calls i = .opening)
    {p : Pooled} (hp : r.optimizers (x.generator i) = .pooled p) {pool : Pool}
    (hpool : p.pools.get? (x.tenant i) = some pool) (hle : pool.next.val ≤ pool.hi.val) :
    ∃ q, x.advance i r = { r with
      optimizers := Function.update r.optimizers (x.generator i) q
      returned := r.returned ++ [(i, .ok pool.next)] } := by
  obtain ⟨p', hp', hwithin⟩ := h.pools (x.generator i)
  cases hp.symm.trans hp'
  obtain ⟨q, hopening, -⟩ := hwithin.exists_opening h.reached.contains hpool hle
  refine ⟨.pooled q, ?_⟩
  have hcalls : Function.update r.calls i .opening = r.calls := by
    rw [← hcall]
    exact Function.update_eq_self i _
  simp only [Participants.advance, hcall, Generator.generation, Optimizer.generation, hp,
    Optimizer.opening, hopening, Outcome.map, Optimizer.proceed, hcalls, Function.update_eq_self]

/-! ## Runs -/

/-- **Pools never overflow.** Generators of one configuration, with pools, draw from a table of one
column that begins at the initial value and that nobody else writes. Callers call them for tenants,
one call after another, and each call advances by single calls on the database, in any order and
with any failures. At any point no arithmetic of a pool overflows, neither when a call opens nor
when it takes the value that its allocation answers. Every failure with which a call returns is that
of its allocation, and if it is an overflow, then this allocation has read a value from which the
step leaves the range. A call whose tenant has a pool that is not used up is answered the next
identifier of it, and nothing else changes but the pools. -/
theorem pools_never_overflow (x : Participants ι κ ς) {s : Settings}
    (hkind : s.optimizerKind = .pooled)
    (hx : ∀ k, ∃ d, Generator.configure s d = .ok (x.generators k)) {name : String}
    (hover : ∀ k, (x.generators k).counter.Over name) {db : Database} (hdb : db.Reachable)
    {table : Table} (hg : db.storage.get? name = some table) (hcols : table.columns.length = 1)
    (hv : db.firstValue? name = some s.initialValue.toInt) (hu : db.Unwritten name)
    {r r' : Allotment ι κ ς} (hr : r.Begins x db)
    (hrun : Relation.ReflTransGen (x.Step name) r r') (i : ι) :
    (∀ t e o, (r'.optimizers (x.generator i)).opening t ≠ .answer (.error e) o) ∧
    (∀ held place drawn db', r'.calls i = .drawing held place →
      (x.generatorOf i).counter.unobserved Database.backend place r'.database =
        (.finished (.ok drawn), db') →
      ∀ t e o, (r'.optimizers (x.generator i)).take t held drawn ≠ .answer (.error e) o) ∧
    (∀ e, (x.advance i r').returned = r'.returned ++ [(i, .error e)] →
      ∃ held id, r'.calls i = .drawing held (.connected id (.deciding [.error e] none)) ∧
        ∀ text, e = .overflow text → ∃ r₁, Relation.ReflTransGen (x.Step name) r r₁ ∧
          x.Refused i id e r₁ ∧ Relation.ReflTransGen (x.Step name) (x.advance i r₁) r') ∧
    ∀ p pool, r'.calls i = .opening → r'.optimizers (x.generator i) = .pooled p →
      p.pools.get? (x.tenant i) = some pool → pool.next.val ≤ pool.hi.val →
      ∃ q, x.advance i r' = { r' with
        optimizers := Function.update r'.optimizers (x.generator i) q
        returned := r'.returned ++ [(i, .ok pool.next)] } := by
  obtain ⟨d, hd⟩ := hx (x.generator i)
  obtain ⟨a, htype, hinitial, hincrement⟩ := Generator.exists_ascent hd
  have hascends : ∀ k, (x.generators k).Ascends name a := fun k => by
    obtain ⟨e, he⟩ := hx k
    exact Generator.ascends_of_configure he hkind (hover k) htype hinitial hincrement
  obtain ⟨ns₀, hbegin⟩ := Ascending.begin hr hascends hdb hg hcols (hinitial ▸ hv) hu
  obtain ⟨ns, v, h⟩ := hbegin.run hascends hrun
  have hopening : ∀ j, r.calls j = .opening := fun j => by rw [hr.calls]
  obtain ⟨p, hp, hwithin⟩ := h.pools (x.generator i)
  refine ⟨fun t e o he => ?_, fun held place drawn db' hcall hs t e o he => ?_,
    fun e hreturned => ?_, fun p pool hcall hp hpool hle => h.served hcall hp hpool hle⟩
  · have hsucceeds := Pooled.opening_succeeds (t := t) hwithin h.reached.contains
    rw [hp] at he
    exact Pooled.not_succeeds_of_error he hsucceeds
  · obtain ⟨hsucceeds, -⟩ := h.drawn hascends hcall hs hwithin t
    rw [hp] at he
    exact Pooled.not_succeeds_of_error he hsucceeds
  · obtain ⟨held, id, hcall⟩ := h.failed_of_returned hascends hreturned
    refine ⟨held, id, hcall, ?_⟩
    rintro text rfl
    exact hbegin.origin hascends hopening hrun hcall

/-- Pools of three shorts, from the greatest one on. -/
def crests : Settings := { threes with numberType := .short, initialValue := 32767 }

/-- Their generator. -/
def crestsGenerator : Generator := { threesIn .generic with
  counter := { (threesIn .generic).counter with numberType := .short, initial := 32767 }
  optimizer := .pooled {
    increment := 3
    increment_pos := (by decide : (0 : Int) < 3)
    initial := some 32767 } }

/-- One caller calls it. -/
def alone : Participants Unit Unit Unit where
  generators _ := crestsGenerator
  loggers _ := {}
  generator _ := ()
  session _ := ()
  tenant _ := none

/-- The database on which its script has been executed. -/
def crestsCreated : Database :=
  ((Database.connection 1).executeAll (crestsGenerator.createScript .generic) connected).2

/-- The allocation of the caller has failed. -/
def aloneRefused : Allotment Unit Unit Unit :=
  (List.replicate 5 ()).foldl (fun r i => alone.advance i r) (alone.waiting crestsCreated)

theorem crests_plain : crests.Plain := ⟨threes_plain.table, threes_plain.column⟩

theorem crestsCreated_eq : (Database.connection 1).executeAll
    (crestsGenerator.createScript .generic) connected = (.ok (), crestsCreated) := by
  rw [crestsCreated]
  exact Database.executeAll_of_ok (by decide +kernel)

theorem pools_never_overflow_crests :
    (alone.advance () aloneRefused).returned =
      [((), .error (.overflow "32767 + 3 leaves the short range"))] ∧
    ∃ id r₁, alone.Refused () id (.overflow "32767 + 3 leaves the short range") r₁ := by
  have husual : Dialect.generic.Usual := Dialect.usual_of_mem List.mem_cons_self
  have hconfigure : Generator.configure crests .generic = .ok crestsGenerator := rfl
  have hname : crests.qualifiedName = .ok ⟨none, none, ⟨"t", false⟩⟩ := rfl
  have hcolumn : crests.columnName = .ok ⟨"v", false⟩ := rfl
  have hover : crestsGenerator.counter.Over "t" :=
    (Generator.draws_of_configure crests_plain husual hconfigure hname .generic).counter_over
  obtain ⟨hdb, htransactions, hg⟩ := Database.created husual (crests_plain.table _ hname)
    (crests_plain.column _ hcolumn) rfl rfl (Database.Reachable.new.after .connect) rfl
    crestsCreated_eq
  have hunwritten : crestsCreated.Unwritten "t" := by
    refine ⟨fun table hgot => ?_, fun c => ?_⟩
    · cases hg.symm.trans hgot
      rfl
    · rw [htransactions c]
      exact connected_spares c
  have hrun : Relation.ReflTransGen (alone.Step "t") (alone.waiting crestsCreated) aloneRefused :=
    run_calls alone "t" _ _
  obtain ⟨hnone, hreturned⟩ : aloneRefused.returned = [] ∧
      (alone.advance () aloneRefused).returned =
        [((), .error (.overflow "32767 + 3 leaves the short range"))] := by decide +kernel
  obtain ⟨-, -, hfailed, -⟩ := pools_never_overflow alone rfl (fun _ => ⟨_, hconfigure⟩)
    (fun _ => hover) hdb hg rfl (Database.firstValue?_of_get? hdb hg) hunwritten
    (waiting_begins _ _) hrun ()
  obtain ⟨_, id, -, horigin⟩ := hfailed (.overflow "32767 + 3 leaves the short range") (by
    rw [hreturned, hnone]
    rfl)
  obtain ⟨r₁, -, hrefused, -⟩ := horigin _ rfl
  exact ⟨hreturned, id, r₁, hrefused⟩

end Participants

end CounterTable
