import CounterTable.Proofs.Allocation.Answers
import CounterTable.Proofs.Blocks.Supply
import CounterTable.Proofs.Sequence.Configured

/-!
# A generator that nobody else uses

Callers of one generator wait for each other, and nobody else writes its table. Then a tenant is
answered the identifiers from the initial value on without a gap, the count of the allocations is
determined by how many those are, and the row by the count.

* `Participants.Sequential`: what can happen next where callers wait for each other;
* `Participants.Supplied`, `Participants.Gapless`: the invariant;
* **`Participants.Gapless.step`**, **`Participants.Gapless.run`**: any run keeps it;
* **`Participants.identifiers_gapless`**: what a run comes to.
-/

namespace CounterTable

/-- Where a tenant stands that has been answered and has drawn so often, from where its call
stands. -/
def Optimizer.Stands (o : Optimizer) (t : Tenant) (type : NumberType) (initial : Int)
    (calls draws : Nat) : Generator.Call → Prop
  | .opening => o.Rests t initial calls draws
  | .drawing held place => o.Awaits t type initial calls draws held ∧ place.OfType type

/-- The call that is under way while callers wait for each other. -/
inductive Allotment.Current {ι κ ς : Type} (r : Allotment ι κ ς) : Generator.Call → Prop
  | none (h : ∀ i, r.calls i = .opening) : Current r .opening
  | of (i : ι) (h : ∀ j, j ≠ i → r.calls j = .opening) : Current r (r.calls i)

namespace Allotment.Current

variable {ι κ ς : Type} {r : Allotment ι κ ς} {call : Generator.Call}

theorem eq (h : r.Current call) {i : ι} (hw : ∀ j, j ≠ i → r.calls j = .opening) :
    r.calls i = call := by
  cases h with
  | none hnone => exact hnone i
  | of j hj =>
    by_cases hij : i = j
    · rw [hij]
    · rw [hj i hij, hw j (Ne.symm hij)]

theorem eq_opening (h : r.Current call) (hw : ∀ i, r.calls i = .opening) : call = .opening := by
  cases h with
  | none => rfl
  | of i => exact hw i

end Allotment.Current

namespace Participants

variable {ι ς : Type} [DecidableEq ι] [DecidableEq ς]

section Definitions

variable (x : Participants ι Unit ς)

/-- What can happen next where callers wait for each other: a step of a caller while no other one
makes a call, or an event on a connection that no call uses and that does not write the table. -/
inductive Sequential (name : String) (r : Allotment ι Unit ς) : Allotment ι Unit ς → Prop
  | call (i : ι) (hw : ∀ j, j ≠ i → r.calls j = .opening) : Sequential name r (x.advance i r)
  | other (e : Event) (ho : ∀ i w, (r.calls i).place ≠ .connected (r.database.actor e) w)
      (hw : ¬ r.database.Writes e name) :
      Sequential name r { r with database := r.database.after e }

/-- After so many values of the counter, the table has this row, the values have been counted, the
call that is under way stands where it must, and no identifier has been left out. -/
structure Supplied (name : String) (kind : OptimizerKind) (increment initial : Int) (t : Tenant)
    (r : Allotment ι Unit ς) (row : Int64) (draws : Nat) (call : Generator.Call) : Prop where
  current : r.Current call
  contest : Contest name (fun i => (x.generatorOf i).counter) (fun i => (r.calls i).place)
    r.database [row]
  row_eq : row.toInt = initial + kind.stride increment * draws
  count_eq : r.counts () = .ofNat (draws + call.place.successes)
  policy : (r.optimizers ()).kind = kind ∧ (r.optimizers ()).increment = increment
  stands : (r.optimizers ()).Stands t (x.generators ()).counter.numberType initial
    r.returned.length draws call
  identifiers_eq : r.identifiers =
    (List.range r.returned.length).map (kind.identifier increment initial)

/-- The invariant, until a call fails. -/
def Gapless (name : String) (kind : OptimizerKind) (increment initial : Int) (t : Tenant)
    (r : Allotment ι Unit ς) : Prop :=
  (∃ i e, (i, .error e) ∈ r.returned) ∨
    ∃ row draws call, x.Supplied name kind increment initial t r row draws call

end Definitions

variable {x : Participants ι Unit ς} {name : String} {kind : OptimizerKind}
  {increment initial : Int} {t : Tenant} {r r' : Allotment ι Unit ς}

/-! ## The count -/

theorem counts_advance_opening {i : ι} (hcall : r.calls i = .opening) :
    (x.advance i r).counts () = r.counts () := by
  simp only [advance, hcall, Generator.generation, Optimizer.generation]
  rcases (r.optimizers (x.generator i)).opening (x.tenant i) with held | ⟨result, o⟩ <;>
    exact Function.update_self ..

theorem counts_advance_drawing {i : ι} {held : Option Integral} {place : Counter.NextValue}
    (hcall : r.calls i = .drawing held place) {p : Progress Counter.NextValue Integral}
    {db : Database}
    (hs : (x.generatorOf i).counter.unobserved Database.backend place r.database = (p, db)) :
    match p with
    | .running place' =>
      (x.advance i r).counts () + .ofNat place.successes = r.counts () + .ofNat place'.successes
    | .finished _ => (x.advance i r).counts () = r.counts () := by
  have hcounts := (x.generatorOf i).counter.nextValue_counts Database.backend
    (x.loggers (x.session i)) place ((r.database, r.journals (x.session i)), r.counts ())
  have hprogress := ((x.generatorOf i).counter.nextValue_projects Database.backend
    (x.loggers (x.session i)) place ((r.database, r.journals (x.session i)), r.counts ())).1
  rw [hs] at hprogress
  simp only [advance, hcall, Generator.generation, Optimizer.generation]
  rcases hn : (x.generatorOf i).counter.nextValue Database.backend (x.loggers (x.session i)) place
    ((r.database, r.journals (x.session i)), r.counts ()) with ⟨place' | e | drawn, s⟩ <;>
      rw [hn] at hcounts hprogress <;> cases hprogress
  · exact (congrArg (· + UInt64.ofNat place.successes) (Function.update_self ..)).trans hcounts
  · exact (Function.update_self ..).trans hcounts
  · dsimp only
    rcases (r.optimizers (x.generator i)).take (x.tenant i) held drawn with held | ⟨result, o⟩ <;>
      exact (Function.update_self ..).trans hcounts

/-! ## Steps -/

omit [DecidableEq ι] [DecidableEq ς] in
theorem Gapless.of_error {i : ι} {e : Error} (h : r'.returned = r.returned ++ [(i, .error e)]) :
    x.Gapless name kind increment initial t r' :=
  .inl ⟨i, e, by simp [h]⟩

omit [DecidableEq ς] in
/-- **What an outcome comes to** leaves no gap. -/
theorem Gapless.proceed {i : ι} {outcome : Outcome Optimizer} {db : Database} {row : Int64}
    {draws : Nat} (hw : ∀ j, j ≠ i → r.calls j = .opening)
    (hcontest : Contest name (fun i => (x.generatorOf i).counter)
      (Function.update (fun i => (r.calls i).place) i .connecting) db [row])
    (hrow : row.toInt = initial + kind.stride increment * draws)
    (hpolicy : (r.optimizers ()).kind = kind ∧ (r.optimizers ()).increment = increment)
    (hids : r.identifiers = (List.range r.returned.length).map (kind.identifier increment initial))
    (hs : outcome.Supplies (r.optimizers ()) t (x.generators ()).counter.numberType initial
      r.returned.length draws)
    (hafter : r.After i () (Optimizer.proceed .connecting (r.optimizers ()) db outcome) r')
    (hcount : r'.counts () = .ofNat draws) : x.Gapless name kind increment initial t r' := by
  obtain ⟨hdb, hupdate, hcalls, hreturned⟩ := hafter
  rcases outcome with held | ⟨e | a, o⟩
  · have hoptimizers : r'.optimizers = r.optimizers := hupdate.trans (Function.update_eq_self _ _)
    have hcall : r'.calls i = .drawing held .connecting := by
      rw [hcalls]
      exact Function.update_self ..
    have hothers : ∀ j, j ≠ i → r'.calls j = .opening := fun j hj => by
      rw [hcalls, Function.update_of_ne hj]
      exact hw j hj
    have hreturned : r'.returned = r.returned := hreturned
    refine .inr ⟨row, draws, .drawing held .connecting, hcall ▸ .of i hothers, ?_, hrow, hcount,
      hoptimizers ▸ hpolicy, ?_, ?_⟩
    · rw [hcalls, place_update, hdb]
      exact hcontest
    · rw [hoptimizers, hreturned]
      exact ⟨hs, trivial⟩
    · rw [Allotment.identifiers, hreturned]
      exact hids
  · exact Gapless.of_error hreturned
  · obtain ⟨⟨hkind, hincrement⟩, ha, hrests⟩ := hs
    have ho : r'.optimizers () = o := by
      rw [hupdate]
      exact Function.update_self ..
    have hopening : ∀ j, r'.calls j = .opening := fun j => by
      rw [hcalls]
      by_cases hj : j = i
      · subst hj
        exact Function.update_self ..
      · rw [Function.update_of_ne hj]
        exact hw j hj
    have hlength : r'.returned.length = r.returned.length + 1 := by
      rw [hreturned]
      exact List.length_append
    refine .inr ⟨row, draws, .opening, .none hopening, ?_, hrow, hcount, ?_, ?_, ?_⟩
    · rw [hcalls, place_update, hdb]
      exact hcontest
    · rw [ho, hkind, hincrement]
      exact hpolicy
    · rw [ho, hlength]
      exact hrests
    · rw [Allotment.identifiers_append hreturned, hlength, List.range_succ, List.map_append, hids,
        ← hpolicy.1, ← hpolicy.2]
      exact congrArg (List.map _ _ ++ [·]) ha

omit [DecidableEq ς] in
theorem Supplied.moved {row : Int64} {draws : Nat} {held : Option Integral}
    {place place' : Counter.NextValue} {db : Database} {i : ι}
    (h : x.Supplied name kind increment initial t r row draws (.drawing held place))
    (hw : ∀ j, j ≠ i → r.calls j = .opening)
    (hcontest : Contest name (fun i => (x.generatorOf i).counter)
      (Function.update (fun i => (r.calls i).place) i place') db [row])
    (htype : place'.OfType (x.generators ()).counter.numberType)
    (hafter : r.After i () (.running (.drawing held place'), db, r.optimizers ()) r')
    (hcount : r'.counts () = .ofNat (draws + place'.successes)) :
    x.Gapless name kind increment initial t r' := by
  obtain ⟨hdb, hupdate, hcalls, hreturned⟩ := hafter
  have hoptimizers : r'.optimizers = r.optimizers := hupdate.trans (Function.update_eq_self _ _)
  have hnext : r'.calls i = .drawing held place' := by
    rw [hcalls]
    exact Function.update_self ..
  have hothers : ∀ j, j ≠ i → r'.calls j = .opening := fun j hj => by
    rw [hcalls, Function.update_of_ne hj]
    exact hw j hj
  refine .inr ⟨row, draws, .drawing held place', hnext ▸ .of i hothers, ?_, h.row_eq, hcount,
    hoptimizers ▸ h.policy, ?_, ?_⟩
  · rw [hcalls, place_update, hdb]
    exact hcontest
  · rw [hoptimizers, hreturned]
    exact ⟨h.stands.1, htype⟩
  · rw [Allotment.identifiers, hreturned]
    exact h.identifiers_eq

theorem Supplied.took {row : Int64} {draws : Nat} {held : Option Integral}
    {place : Counter.NextValue} {drawn : Integral} {db : Database} {i : ι}
    (h : x.Supplied name kind increment initial t r row draws (.drawing held place))
    (hx : (x.generators ()).Draws name kind increment) (hw : ∀ j, j ≠ i → r.calls j = .opening)
    (hcall : r.calls i = .drawing held place)
    (hs : (x.generatorOf i).counter.unobserved Database.backend place r.database =
      (.finished (.ok drawn), db))
    (hafter : r.After i () (Optimizer.proceed .connecting (r.optimizers ()) db
      ((r.optimizers ()).take t held drawn)) (x.advance i r)) :
    x.Gapless name kind increment initial t (x.advance i r) := by
  obtain ⟨hawaits, htype⟩ := h.stands
  have hnumbers := Counter.unobserved_ofType (c := (x.generatorOf i).counter) Database.backend
    htype r.database
  rw [hs] at hnumbers
  obtain ⟨w, hhead, hw', hmoved⟩ := stepped_drawing h.contest hx.counter_over hcall hs
  have hreplaced : replaced drawn.word w [row] = [w] := by
    rw [replaced, ← Option.some.inj hhead]
    exact congrArg (fun n => [n]) (if_pos rfl)
  have hrow : row.toInt = drawn.val := (first?_replaced rfl hhead w).1
  have hvalue : drawn.val = initial + kind.stride increment * draws := hrow ▸ h.row_eq
  have hnext : w.toInt = initial + kind.stride increment * (draws + 1 : Nat) := by
    have hstride : (x.generatorOf i).counter.step = kind.stride increment := hx.step
    rw [hw', hstride, hvalue]
    push_cast
    ring
  have hsupplies := Optimizer.take_supplies hawaits hnumbers
    (by rw [h.policy.1, h.policy.2]; exact hvalue)
  have hcount : (x.advance i r).counts () = .ofNat (draws + 1) := by
    have hplace : (r.calls i).place = place := by rw [hcall]; rfl
    have hsuccess := h.contest.claimed_of_answered (v := drawn) (i := i) (by rw [hplace]; exact hs)
    have hcounts : (x.advance i r).counts () = r.counts () := counts_advance_drawing hcall hs
    have hbefore : r.counts () = .ofNat (draws + place.successes) := h.count_eq
    rw [hplace] at hsuccess
    rw [hcounts, hbefore, hsuccess]
  exact Gapless.proceed hw (hreplaced ▸ hmoved) hnext h.policy h.identifiers_eq hsupplies hafter
    hcount

/-- **Every step of a caller** leaves no gap. -/
theorem Supplied.advance {row : Int64} {draws : Nat} {call : Generator.Call}
    (h : x.Supplied name kind increment initial t r row draws call)
    (hx : (x.generators ()).Draws name kind increment) (ht : ∀ i, x.tenant i = t) {i : ι}
    (hw : ∀ j, j ≠ i → r.calls j = .opening) :
    x.Gapless name kind increment initial t (x.advance i r) := by
  cases x.advanced i r with
  | opened hcall hafter =>
    cases hcall.symm.trans (h.current.eq hw)
    rw [ht i] at hafter
    refine Gapless.proceed hw (contest_opening h.contest hcall) h.row_eq h.policy
      h.identifiers_eq (Optimizer.opening_supplies h.stands _) hafter ?_
    rw [counts_advance_opening hcall, h.count_eq]
    rfl
  | @wentOn held place place' db hcall hs hafter =>
    cases hcall.symm.trans (h.current.eq hw)
    have hnumbers := Counter.unobserved_ofType (c := (x.generatorOf i).counter) Database.backend
      h.stands.2 r.database
    rw [hs] at hnumbers
    have hcounts : (x.advance i r).counts () + .ofNat place.successes =
        r.counts () + .ofNat place'.successes := counts_advance_drawing hcall hs
    have hbefore : r.counts () = .ofNat (draws + place.successes) := h.count_eq
    have hafterwards : (x.advance i r).counts () = .ofNat (draws + place'.successes) := by
      have hswap : UInt64.ofNat (draws + place.successes) + .ofNat place'.successes =
          .ofNat (draws + place'.successes) + .ofNat place.successes := by
        rw [UInt64.ofNat_add, UInt64.ofNat_add]
        ac_rfl
      rw [hbefore, hswap] at hcounts
      exact UInt64.add_left_inj _ |>.mp hcounts
    exact h.moved hw (stepped_drawing h.contest hx.counter_over hcall hs) hnumbers hafter
      hafterwards
  | failed hcall hs hafter => exact Gapless.of_error hafter.returned
  | took hcall hs hafter =>
    cases hcall.symm.trans (h.current.eq hw)
    rw [ht i] at hafter
    exact h.took hx hw hcall hs hafter

/-- **Every step** leaves no gap. -/
theorem Gapless.step (h : x.Gapless name kind increment initial t r)
    (hx : (x.generators ()).Draws name kind increment) (ht : ∀ i, x.tenant i = t)
    (hs : x.Sequential name r r') : x.Gapless name kind increment initial t r' := by
  cases hs with
  | call i hw =>
    obtain ⟨j, e, he⟩ | ⟨row, draws, call, h⟩ := h
    · have hmono : ∀ p ∈ r.returned, p ∈ (x.advance i r).returned := by
        intro p hp
        rw [(x.after_advance i r).returned]
        split
        · exact hp
        · exact List.mem_append_left _ hp
      exact .inl ⟨j, e, hmono _ he⟩
    · exact h.advance hx ht hw
  | other e ho hw =>
    obtain hfailed | ⟨row, draws, call, h⟩ := h
    · exact .inl hfailed
    · refine .inr ⟨row, draws, call, ?_, h.contest.environment e ho hw, h.row_eq, h.count_eq,
        h.policy, h.stands, h.identifiers_eq⟩
      cases h.current with
      | none hnone => exact .none hnone
      | of i hi => exact .of i hi

/-- **Every run** leaves no gap. -/
theorem Gapless.run (h : x.Gapless name kind increment initial t r)
    (hx : (x.generators ()).Draws name kind increment) (ht : ∀ i, x.tenant i = t)
    (hrun : Relation.ReflTransGen (x.Sequential name) r r') :
    x.Gapless name kind increment initial t r' := by
  induction hrun with
  | refl => exact h
  | tail _ hs ih => exact ih.step hx ht hs

omit [DecidableEq ι] [DecidableEq ς] in
theorem Supplied.toNat_counts {row n : Int64} {draws : Nat}
    (h : x.Supplied name kind increment initial t r row draws .opening)
    (hx : (x.generators ()).Draws name kind increment) (hn : initial = n.toInt) :
    (r.counts ()).toNat = draws := by
  have hpos : 1 ≤ kind.stride increment := hx.step ▸ hx.counter_over.step_pos
  have hmoved : (draws : Int) ≤ kind.stride increment * draws :=
    le_mul_of_one_le_left (Int.natCast_nonneg draws) hpos
  have hrow := h.row_eq
  have hlt := row.toInt_lt
  have hle := n.le_toInt
  have hcount : r.counts () = .ofNat draws := h.count_eq
  rw [hcount, UInt64.toNat_ofNat']
  refine Nat.mod_eq_of_lt ?_
  omega

omit [DecidableEq ι] [DecidableEq ς] in
theorem Supplied.begin {db : Database} {column : String} {n : Int64} (hr : r.Begins x db)
    (hzero : r.counts () = 0) (hx : (x.generators ()).Draws name kind increment)
    (hrests : (x.generators ()).optimizer.Rests t n.toInt 0 0) (hdb : db.Reachable)
    (hg : db.storage.get? name = some ⟨[column], [[n]], none, none⟩) (hu : db.Unwritten name) :
    x.Supplied name kind increment n.toInt t r n 0 .opening := by
  have hcolumn : db.columnValues name = .ok [n] := by
    rw [Database.columnValues_eq hdb.accounted hdb.numbered hg]
    rfl
  refine ⟨.none fun i => by rw [hr.calls], ?_, by simp, hzero, ?_, ?_, ?_⟩
  · rw [hr.calls, hr.database]
    exact Contest.start hdb hg rfl hcolumn (List.cons_ne_nil n []) hu
  · rw [hr.optimizers]
    exact ⟨hx.kind, hx.increment⟩
  · rw [hr.optimizers, hr.returned]
    exact hrests
  · rw [Allotment.identifiers, hr.returned]
    rfl

/-! ## Runs -/

/-- **The identifiers have no gap.** Callers call a configured generator for one tenant, in sessions
of their own, and wait for each other; nobody else writes the table, which the script of the
configuration has created. As long as no call has failed, the identifiers that have been answered
are those from the initial value on, without a gap. When no call is under way, their number tells
how many allocations have been counted, and the count tells the row. -/
theorem identifiers_gapless (x : Participants ι Unit ς) (ht : ∀ i, x.tenant i = t) {s : Settings}
    (hs : s.Plain) {d : Dialect} (hd : d.Usual)
    (hg : Generator.configure s d = .ok (x.generators ())) {db db' : Database} (hdb : db.Reachable)
    (hspares : ∀ c, Transaction.Spares (x.generators ()).counter.table (db.transaction? c))
    {id : Nat} (hfree : db.transaction? id = none)
    (hscript : (Database.connection id).executeAll ((x.generators ()).createScript d) db =
      (.ok (), db'))
    (hr : r.Begins x db') (hzero : r.counts () = 0)
    (hrun : Relation.ReflTransGen (x.Sequential (x.generators ()).counter.table) r r')
    (hok : ∀ i result, (i, result) ∈ r'.returned → ∃ a, result = .ok a) :
    r'.identifiers = (List.range r'.returned.length).map
        (s.optimizerKind.identifier s.incrementSize.toInt s.initialValue.toInt) ∧
      ((∀ i, r'.calls i = .opening) →
        (r'.counts ()).toNat = s.optimizerKind.accesses s.incrementSize.toInt s.initialValue.toInt
          r'.returned.length ∧
        ∃ row, r'.database.columnValues (x.generators ()).counter.table = .ok [row] ∧
          row.toInt = s.initialValue.toInt +
            s.optimizerKind.stride s.incrementSize.toInt * (r'.counts ()).toNat) := by
  obtain ⟨name, column, counter, optimizer, hname, hcolumn, hcounter, hbuild, hgenerator⟩ :=
    Generator.of_configure hg
  have hdraws := Generator.draws_of_configure hs hd hg hname d
  obtain ⟨htable, hcol, hinitial, -⟩ := Counter.of_define hcounter
  rw [← htable] at hdraws
  rw [hgenerator] at hscript hspares hrun ⊢
  obtain ⟨hreachable, htransactions, hget⟩ := Database.created hd (hs.table name hname)
    (hs.column column hcolumn) htable hcol hdb hfree hscript
  have hunwritten : db'.Unwritten counter.table := by
    refine ⟨fun table hgot => ?_, fun c => ?_⟩
    · cases hget.symm.trans hgot
      rfl
    · rw [htransactions c]
      exact hspares c
  have hbegin : x.Supplied counter.table s.optimizerKind s.incrementSize.toInt
      s.initialValue.toInt t r s.initialValue 0 .opening := by
    refine Supplied.begin hr hzero hdraws ?_ hreachable (hinitial ▸ hget) hunwritten
    rw [hgenerator]
    exact Optimizer.rests_of_build hbuild t
  have hrunning := Gapless.run (.inr ⟨_, _, _, hbegin⟩) hdraws ht hrun
  obtain ⟨i, e, he⟩ | ⟨row, draws, call, hend⟩ := hrunning
  · obtain ⟨a, ha⟩ := hok i _ he
    cases ha
  · refine ⟨hend.identifiers_eq, fun hrest => ?_⟩
    cases hend.current.eq_opening hrest
    have hcount : (r'.counts ()).toNat = draws := hend.toNat_counts hdraws rfl
    have hrests : (r'.optimizers ()).Rests t s.initialValue.toInt r'.returned.length draws :=
      hend.stands
    refine ⟨?_, row, hend.contest.columnValues, hcount ▸ hend.row_eq⟩
    rw [hcount, hrests.draws_eq, hend.policy.1, hend.policy.2]

theorem Sequential.repeated {i : ι} (hw : ∀ j, j ≠ i → r.calls j = .opening) (name : String)
    (n : Nat) : Relation.ReflTransGen (x.Sequential name) r ((x.advance i)^[n] r) := by
  induction n generalizing r with
  | zero => exact .refl
  | succ n ih =>
    have hnext : ∀ j, j ≠ i → (x.advance i r).calls j = .opening := fun j hj =>
      (Function.update_of_ne hj ..).trans (hw j hj)
    exact (ih hnext).head (.call i hw)

/-- Whether a call has not begun to draw. -/
def isOpening : Generator.Call → Bool
  | .opening => true
  | .drawing _ _ => false

theorem eq_opening {call : Generator.Call} (h : isOpening call = true) : call = .opening := by
  cases call with
  | opening => rfl
  | drawing held place => cases h

/-- Two callers of one generator, in sessions of their own. -/
def couple : Participants Bool Unit Bool where
  generators _ := threesIn .generic
  loggers _ := {}
  generator _ := ()
  session i := i
  tenant _ := none

/-- One of them has been answered. -/
def coupleBegun : Allotment Bool Unit Bool :=
  (couple.advance true)^[19] (couple.waiting threesCreated)

/-- The other one has been answered four times since. -/
def coupleAnswered : Allotment Bool Unit Bool := (couple.advance false)^[13] coupleBegun

theorem identifiers_gapless_couple :
    coupleAnswered.identifiers = [1, 2, 3, 4, 5] ∧ coupleAnswered.counts () = 3 ∧
      ∃ row, coupleAnswered.database.columnValues "t" = .ok [row] ∧ row.toInt = 10 := by
  have husual : Dialect.generic.Usual := Dialect.usual_of_mem List.mem_cons_self
  have hconfigure : Generator.configure threes .generic = .ok (couple.generators ()) := rfl
  obtain ⟨hbegun, hrest, hall, hlength⟩ : (∀ i, isOpening (coupleBegun.calls i) = true) ∧
      (∀ i, isOpening (coupleAnswered.calls i) = true) ∧
      coupleAnswered.returned.all (fun p => p.2.isOk) = true ∧
      coupleAnswered.returned.length = 5 := by decide +kernel
  have hrun₁ : Relation.ReflTransGen (couple.Sequential "t") (couple.waiting threesCreated)
      coupleBegun := Sequential.repeated (fun _ _ => rfl) "t" 19
  have hrun₂ : Relation.ReflTransGen (couple.Sequential "t") coupleBegun coupleAnswered :=
    Sequential.repeated (fun j _ => eq_opening (hbegun j)) "t" 13
  have hok : ∀ i result, (i, result) ∈ coupleAnswered.returned → ∃ a, result = .ok a := by
    intro i result hmem
    cases result with
    | ok a => exact ⟨a, rfl⟩
    | error e => cases List.all_eq_true.mp hall _ hmem
  obtain ⟨hids, hend⟩ := identifiers_gapless couple (fun _ => rfl) threes_plain husual hconfigure
    (Database.Reachable.new.after .connect) connected_spares rfl threesCreated_eq
    (waiting_begins _ _) rfl (hrun₁.trans hrun₂) hok
  obtain ⟨hcount, row, hcolumn, hrow⟩ := hend fun i => eq_opening (hrest i)
  have hidentifiers : (List.range 5).map (threes.optimizerKind.identifier
      threes.incrementSize.toInt threes.initialValue.toInt) = [1, 2, 3, 4, 5] := by decide +kernel
  have haccesses : threes.optimizerKind.accesses threes.incrementSize.toInt
      threes.initialValue.toInt 5 = 3 := by decide +kernel
  have hstride : threes.initialValue.toInt +
      threes.optimizerKind.stride threes.incrementSize.toInt * 3 = 10 := by decide +kernel
  rw [hlength, hidentifiers] at hids
  rw [hlength, haccesses] at hcount
  rw [hcount, hstride] at hrow
  have hthree : (coupleAnswered.counts ()).toNat = (3 : UInt64).toNat := Int.ofNat.inj hcount
  exact ⟨hids, UInt64.toNat_inj.mp hthree, row, hcolumn, hrow⟩

end Participants

end CounterTable
