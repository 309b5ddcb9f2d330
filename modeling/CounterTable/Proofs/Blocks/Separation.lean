import CounterTable.Proofs.Blocks.Outcomes
import CounterTable.Proofs.Blocks.Pools
import Mathlib.Logic.Function.Basic

/-!
# Tenants that share an optimizer

Clients call one optimizer, each for a tenant, and their calls may overlap: between the steps of a
call any others may take steps of theirs. What the calls of a tenant come to depends on the answers
that these calls have been given, and on nothing that any other tenant does.

* `Optimizer.share`: all that an optimizer is to one tenant;
* `Optimizer.next`: what the next step of a call comes to;
* `Optimizer.map_share_next`, `Optimizer.next_leaves`: the steps of the tenant, and of others;
* `Clients`, `Clients.step`, `Clients.run`: clients that take steps in any order, and what is seen
  of their steps;
* `Clients.run_of_call`: a call that no other one overlaps;
* **`Clients.tenants_separate`**: the steps of a tenant are those that it takes alone.
-/

namespace CounterTable

variable {t u : Tenant} {o o' : Optimizer}

/-! ## The share of a tenant -/

/-- All that an optimizer is to one tenant: its policy, and what the tenant holds. -/
inductive Share where
  | plain (increment : Int) (last : Option Integral)
  | hilo (increment : Int) (block : Option HiLoBlock)
  | pooled (increment : Int) (initial : Option Int) (pool : Option Pool)

/-- The share of a tenant in an optimizer. -/
def Optimizer.share (t : Tenant) : Optimizer → Share
  | plain p => .plain p.increment (p.last.get? t)
  | hilo p => .hilo p.increment (p.blocks.get? t)
  | pooled p => .pooled p.increment p.initial (p.pools.get? t)

/-- The last value of the counter that the tenant works with. -/
def Share.source? : Share → Option Integral
  | plain _ last => last
  | hilo _ block => block.map HiLoBlock.source
  | pooled _ _ pool => pool.map Pool.hi

theorem Optimizer.source?_share (o : Optimizer) (t : Tenant) :
    (o.share t).source? = o.lastSource? t := by
  cases o <;> rfl

/-- An outcome that leaves a tenant the share that it has had. -/
def Outcome.Leaves (t : Tenant) (share : Share) (x : Outcome Optimizer) : Prop :=
  ∀ result o, x = .answer result o → o.share t = share

theorem Outcome.leaves_draw (t : Tenant) (share : Share) (held : Option Integral) :
    (Outcome.draw held).Leaves t share := fun _ _ h => nomatch h

theorem Outcome.leaves_error (t : Tenant) (o : Optimizer) (e : Error) :
    (Outcome.answer (.error e) o).Leaves t (o.share t) := by
  rintro result o' ⟨⟩
  rfl

/-! ## Blocks below multiples -/

namespace HiLo

variable {p q : HiLo}

theorem map_share_serve (hincrement : p.increment = q.increment)
    (hblock : p.blocks.get? t = q.blocks.get? t) (b : HiLoBlock) :
    ((p.serve t b).map Optimizer.hilo).map (Optimizer.share t) =
      ((q.serve t b).map Optimizer.hilo).map (Optimizer.share t) := by
  unfold serve
  cases b.next.increment <;> simp [Outcome.map, Optimizer.share, hincrement, hblock]

theorem map_share_opening (hincrement : p.increment = q.increment)
    (hblock : p.blocks.get? t = q.blocks.get? t) :
    ((p.opening t).map Optimizer.hilo).map (Optimizer.share t) =
      ((q.opening t).map Optimizer.hilo).map (Optimizer.share t) := by
  have hserve := map_share_serve hincrement hblock
  unfold opening
  rw [hblock]
  cases q.blocks.get? t with
  | none => rfl
  | some b =>
    dsimp only
    split
    · exact hserve b
    · rfl

theorem map_share_take (hincrement : p.increment = q.increment)
    (hblock : p.blocks.get? t = q.blocks.get? t) (drawn : Integral) :
    ((p.take t drawn).map Optimizer.hilo).map (Optimizer.share t) =
      ((q.take t drawn).map Optimizer.hilo).map (Optimizer.share t) := by
  have hnew : p.block drawn = q.block drawn := by rw [block, hincrement, block]
  unfold take
  split
  · rfl
  · rw [hnew]
    cases q.block drawn with
    | error e => simp [Outcome.map, Optimizer.share, hincrement, hblock]
    | ok b => exact map_share_serve hincrement hblock b

theorem serve_leaves (htu : t ≠ u) (p : HiLo) (b : HiLoBlock) :
    ((p.serve u b).map Optimizer.hilo).Leaves t ((Optimizer.hilo p).share t) := by
  unfold serve
  cases b.next.increment with
  | error e => exact Outcome.leaves_error t (.hilo p) e
  | ok next =>
    rintro result o' ⟨⟩
    simp [Optimizer.share, htu]

theorem opening_leaves (htu : t ≠ u) (p : HiLo) :
    ((p.opening u).map Optimizer.hilo).Leaves t ((Optimizer.hilo p).share t) := by
  unfold opening
  cases p.blocks.get? u with
  | none => exact Outcome.leaves_draw t _ none
  | some b =>
    dsimp only
    split
    · exact serve_leaves htu p b
    · exact Outcome.leaves_draw t _ none

theorem take_leaves (htu : t ≠ u) (p : HiLo) (drawn : Integral) :
    ((p.take u drawn).map Optimizer.hilo).Leaves t ((Optimizer.hilo p).share t) := by
  unfold take
  split
  · exact Outcome.leaves_draw t _ none
  · cases p.block drawn with
    | error e => exact Outcome.leaves_error t (.hilo p) e
    | ok b => exact serve_leaves htu p b

end HiLo

/-! ## Pools below values -/

namespace Pooled

variable {p q : Pooled}

theorem map_share_serve (hincrement : p.increment = q.increment) (hinitial : p.initial = q.initial)
    (hpool : p.pools.get? t = q.pools.get? t) (pool : Pool) :
    ((p.serve t pool).map Optimizer.pooled).map (Optimizer.share t) =
      ((q.serve t pool).map Optimizer.pooled).map (Optimizer.share t) := by
  unfold serve
  cases pool.next.increment <;>
    simp [Outcome.map, Optimizer.share, hincrement, hinitial, hpool]

theorem map_share_serveNew (hincrement : p.increment = q.increment)
    (hinitial : p.initial = q.initial) (hpool : p.pools.get? t = q.pools.get? t)
    (pool? : Except Error Pool) :
    ((p.serveNew t pool?).map Optimizer.pooled).map (Optimizer.share t) =
      ((q.serveNew t pool?).map Optimizer.pooled).map (Optimizer.share t) := by
  cases pool? with
  | error e => simp [serveNew, Outcome.map, Optimizer.share, hincrement, hinitial, hpool]
  | ok pool => exact map_share_serve hincrement hinitial hpool pool

theorem map_share_opening (hincrement : p.increment = q.increment)
    (hinitial : p.initial = q.initial) (hpool : p.pools.get? t = q.pools.get? t) :
    ((p.opening t).map Optimizer.pooled).map (Optimizer.share t) =
      ((q.opening t).map Optimizer.pooled).map (Optimizer.share t) := by
  have hserve := map_share_serve hincrement hinitial hpool
  unfold opening
  rw [hpool]
  cases q.pools.get? t with
  | none => rfl
  | some pool =>
    dsimp only
    split
    · rfl
    · exact hserve pool

theorem map_share_take (hincrement : p.increment = q.increment) (hinitial : p.initial = q.initial)
    (hpool : p.pools.get? t = q.pools.get? t) (held : Option Integral) (drawn : Integral) :
    ((p.take t held drawn).map Optimizer.pooled).map (Optimizer.share t) =
      ((q.take t held drawn).map Optimizer.pooled).map (Optimizer.share t) := by
  have hserve := map_share_serveNew hincrement hinitial hpool
  have hbelow : p.poolBelow = q.poolBelow := by
    funext hi
    rw [poolBelow, hincrement, poolBelow]
  unfold take
  cases held with
  | some first =>
    have hfrom : p.poolFrom first drawn = q.poolFrom first drawn := by
      rw [poolFrom, hincrement, hbelow, poolFrom]
    dsimp only
    rw [hfrom]
    exact hserve _
  | none =>
    have hfresh : p.isFresh drawn = q.isFresh drawn := by
      rw [isFresh, hinitial, hincrement, isFresh]
    dsimp only
    rw [hpool, hfresh, hbelow]
    split
    · rfl
    · exact hserve _

theorem serveNew_leaves (htu : t ≠ u) (p : Pooled) (pool? : Except Error Pool) :
    ((p.serveNew u pool?).map Optimizer.pooled).Leaves t ((Optimizer.pooled p).share t) := by
  obtain ⟨e, he⟩ | ⟨pool, next, -, -, hserve⟩ := p.serveNew_cases u pool?
  · rw [he]
    exact Outcome.leaves_error t (.pooled p) e
  · rw [hserve]
    rintro result o' ⟨⟩
    simp [Optimizer.share, htu]

theorem opening_leaves (htu : t ≠ u) (p : Pooled) :
    ((p.opening u).map Optimizer.pooled).Leaves t ((Optimizer.pooled p).share t) := by
  unfold opening
  cases p.pools.get? u with
  | none => exact Outcome.leaves_draw t _ none
  | some pool =>
    dsimp only
    split
    · exact Outcome.leaves_draw t _ none
    · exact serveNew_leaves htu p (.ok pool)

theorem take_leaves (htu : t ≠ u) (p : Pooled) (held : Option Integral) (drawn : Integral) :
    ((p.take u held drawn).map Optimizer.pooled).Leaves t ((Optimizer.pooled p).share t) := by
  unfold take
  cases held with
  | some first => exact serveNew_leaves htu p _
  | none =>
    dsimp only
    split
    · exact Outcome.leaves_draw t _ _
    · exact serveNew_leaves htu p _

end Pooled

/-! ## A step of a call -/

/-- The answers that the next step of a call uses up: one if the call draws. -/
def Generation.uses (answer : Except Error Integral) :
    Generation Unit → List (Except Error Integral)
  | .opening => []
  | .drawing _ _ => [answer]

namespace Optimizer

/-- What the next step of a call comes to, if a draw is answered this. -/
def next (o : Optimizer) (t : Tenant) (answer : Except Error Integral) :
    Generation Unit → Outcome Optimizer
  | .opening => o.opening t
  | .drawing held _ =>
    match answer with
    | .ok drawn => o.take t held drawn
    | .error e => .answer (.error e) o

theorem map_share_opening (h : o.share t = o'.share t) :
    (o.opening t).map (share t) = (o'.opening t).map (share t) := by
  cases o with
  | plain p =>
    cases o' with
    | plain q => rfl
    | hilo | pooled => cases h
  | hilo p =>
    cases o' with
    | hilo q =>
      obtain ⟨hincrement, hblock⟩ := Share.hilo.inj h
      exact HiLo.map_share_opening hincrement hblock
    | plain | pooled => cases h
  | pooled p =>
    cases o' with
    | pooled q =>
      obtain ⟨hincrement, hinitial, hpool⟩ := Share.pooled.inj h
      exact Pooled.map_share_opening hincrement hinitial hpool
    | plain | hilo => cases h

theorem map_share_take (h : o.share t = o'.share t) (held : Option Integral) (drawn : Integral) :
    (o.take t held drawn).map (share t) = (o'.take t held drawn).map (share t) := by
  cases o with
  | plain p =>
    cases o' with
    | plain q =>
      obtain ⟨hincrement, -⟩ := Share.plain.inj h
      simp [take, Plain.take, Outcome.map, share, hincrement]
    | hilo | pooled => cases h
  | hilo p =>
    cases o' with
    | hilo q =>
      obtain ⟨hincrement, hblock⟩ := Share.hilo.inj h
      exact HiLo.map_share_take hincrement hblock drawn
    | plain | pooled => cases h
  | pooled p =>
    cases o' with
    | pooled q =>
      obtain ⟨hincrement, hinitial, hpool⟩ := Share.pooled.inj h
      exact Pooled.map_share_take hincrement hinitial hpool held drawn
    | plain | hilo => cases h

/-- **A step of a tenant** comes to what the share of the tenant says. -/
theorem map_share_next (h : o.share t = o'.share t) (answer : Except Error Integral)
    (call : Generation Unit) :
    (o.next t answer call).map (share t) = (o'.next t answer call).map (share t) := by
  cases call with
  | opening => exact map_share_opening h
  | drawing held _ =>
    cases answer with
    | ok drawn => exact map_share_take h held drawn
    | error e => simp [next, Outcome.map, h]

/-- **A step of another tenant** leaves the tenant its share. -/
theorem next_leaves (htu : t ≠ u) (o : Optimizer) (answer : Except Error Integral)
    (call : Generation Unit) : (o.next u answer call).Leaves t (o.share t) := by
  cases call with
  | opening =>
    cases o with
    | plain p => exact Outcome.leaves_draw t _ none
    | hilo p => exact HiLo.opening_leaves htu p
    | pooled p => exact Pooled.opening_leaves htu p
  | drawing held _ =>
    cases answer with
    | error e => exact Outcome.leaves_error t o e
    | ok drawn =>
      cases o with
      | plain p =>
        rintro result o' ⟨⟩
        simp [share, htu]
      | hilo p => exact HiLo.take_leaves htu p drawn
      | pooled p => exact Pooled.take_leaves htu p held drawn

/-- **A step that fails** leaves the optimizer as it is. -/
theorem eq_of_next {answer : Except Error Integral} {call : Generation Unit} {e : Error}
    (h : o.next t answer call = .answer (.error e) o') : o' = o := by
  cases call with
  | opening =>
    have hserves := o.opening_serves t fun _ => True
    rw [show o.opening t = _ from h] at hserves
    exact hserves
  | drawing held _ =>
    cases answer with
    | error e =>
      cases h
      rfl
    | ok drawn =>
      have hserves : (o.take t held drawn).Serves o t fun _ => True :=
        o.take_serves t (fun _ _ => trivial) fun _ _ => trivial
      rw [show o.take t held drawn = _ from h] at hserves
      exact hserves

end Optimizer

/-! ## Clients -/

/-- An optimizer and the clients that call it: how many answers the callbacks have given so far,
and where the call of each client stands. A client makes one call after another. -/
structure Clients (ι : Type) where
  optimizer : Optimizer
  given : Nat := 0
  calls : ι → Generation Unit := fun _ => .opening

/-- What is seen of a step of a client. -/
structure Clients.Seen where
  tenant : Tenant
  /-- The answers that its callback gives in the step. -/
  answers : List (Except Error Integral)
  /-- The result of its call, if the call returns. -/
  result? : Option (Except Error Integral)
  /-- The last value of the counter that the tenant works with after the step. -/
  source? : Option Integral
deriving DecidableEq

namespace Clients

variable {ι : Type} [DecidableEq ι]

section Definitions

variable (answers : Nat → Except Error Integral) (tenant : ι → Tenant)

/-- The next step of a client. A client whose call returns may make another one. -/
def step (i : ι) (s : Clients ι) : Seen × Clients ι :=
  let (p, (given, optimizer)) :=
    Optimizer.generation (answering answers) () (tenant i) (s.calls i) (s.given, s.optimizer)
  ({ tenant := tenant i
     answers := asked answers s.given given
     result? := match p with
       | .running _ => none
       | .finished result => some result
     source? := optimizer.lastSource? (tenant i) },
    { optimizer
      given
      calls := Function.update s.calls i (match p with
        | .running call => call
        | .finished _ => .opening) })

/-- The next steps of clients, one after another. -/
def run : List ι → Clients ι → List Seen × Clients ι
  | [], s => ([], s)
  | i :: clients, s =>
    let (seen, s) := step answers tenant i s
    let (rest, s) := run clients s
    (seen :: rest, s)

/-- The clients after a step that has used up answers and has come to an outcome. -/
def settle (s : Clients ι) (i : ι) (t : Tenant) (used : List (Except Error Integral)) :
    Outcome Optimizer → Seen × Clients ι
  | .draw held =>
    (⟨t, used, none, s.optimizer.lastSource? t⟩,
      ⟨s.optimizer, s.given + used.length, Function.update s.calls i (.drawing held ())⟩)
  | .answer result o =>
    (⟨t, used, some result, o.lastSource? t⟩,
      ⟨o, s.given + used.length, Function.update s.calls i .opening⟩)

/-- To a tenant the one looks like the other. -/
structure Alike (t : Tenant) (s s' : Clients ι) : Prop where
  share : s.optimizer.share t = s'.optimizer.share t
  calls : ∀ i, tenant i = t → s.calls i = s'.calls i

end Definitions

variable {answers : Nat → Except Error Integral} {tenant : ι → Tenant} {t : Tenant} {i : ι}
  {s s' : Clients ι} {used : List (Except Error Integral)} {x x' : Outcome Optimizer}

theorem step_eq (answers : Nat → Except Error Integral) (tenant : ι → Tenant) (i : ι)
    (s : Clients ι) : step answers tenant i s =
      s.settle i (tenant i) ((s.calls i).uses (answers s.given))
        (s.optimizer.next (tenant i) (answers s.given) (s.calls i)) := by
  have hone : asked answers s.given (s.given + 1) = [answers s.given] := Pooled.asked_one rfl
  cases hcall : s.calls i with
  | opening =>
    simp only [step, hcall, Optimizer.generation, Optimizer.next, Generation.uses]
    cases s.optimizer.opening (tenant i) <;> simp [Optimizer.proceed, settle, asked_self]
  | drawing held draw =>
    cases hanswer : answers s.given with
    | error e =>
      rw [hanswer] at hone
      simp [step, hcall, Optimizer.generation, answering, Work.once, Optimizer.next,
        Generation.uses, hanswer, settle, hone]
    | ok drawn =>
      rw [hanswer] at hone
      simp only [step, hcall, Optimizer.generation, answering, Work.once, Optimizer.next,
        Generation.uses, hanswer]
      cases s.optimizer.take (tenant i) held drawn <;> simp [Optimizer.proceed, settle, hone]

@[simp] theorem tenant_settle (s : Clients ι) (i : ι) (t : Tenant)
    (used : List (Except Error Integral)) (x : Outcome Optimizer) :
    (s.settle i t used x).1.tenant = t := by
  cases x <;> rfl

@[simp] theorem answers_settle (s : Clients ι) (i : ι) (t : Tenant)
    (used : List (Except Error Integral)) (x : Outcome Optimizer) :
    (s.settle i t used x).1.answers = used := by
  cases x <;> rfl

@[simp] theorem given_settle (s : Clients ι) (i : ι) (t : Tenant)
    (used : List (Except Error Integral)) (x : Outcome Optimizer) :
    (s.settle i t used x).2.given = s.given + used.length := by
  cases x <;> rfl

/-! ## The steps of a tenant, and of others -/

theorem Alike.update (h : Alike tenant t s s') {o o' : Optimizer} (ho : o.share t = o'.share t)
    (given given' : Nat) (i : ι) (call : Generation Unit) :
    Alike tenant t ⟨o, given, Function.update s.calls i call⟩
      ⟨o', given', Function.update s'.calls i call⟩ where
  share := ho
  calls j hj := by
    change Function.update s.calls i call j = Function.update s'.calls i call j
    by_cases hji : j = i
    · subst hji
      rw [Function.update_self, Function.update_self]
    · rw [Function.update_of_ne hji, Function.update_of_ne hji, h.calls j hj]

theorem Alike.settle (h : Alike tenant t s s')
    (hx : x.map (Optimizer.share t) = x'.map (Optimizer.share t)) (i : ι)
    (used : List (Except Error Integral)) :
    (s.settle i t used x).1 = (s'.settle i t used x').1 ∧
      Alike tenant t (s.settle i t used x).2 (s'.settle i t used x').2 := by
  have hsource : ∀ {o o' : Optimizer}, o.share t = o'.share t →
      o.lastSource? t = o'.lastSource? t := fun {o o'} ho => by
    rw [← o.source?_share, ho, o'.source?_share]
  cases x with
  | draw held =>
    cases x' with
    | answer => cases hx
    | draw held' =>
      cases hx
      exact ⟨by simp only [Clients.settle, hsource h.share], h.update h.share _ _ i _⟩
  | answer result o =>
    cases x' with
    | draw => cases hx
    | answer result' o' =>
      obtain ⟨rfl, ho⟩ := Outcome.answer.inj hx
      exact ⟨by simp only [Clients.settle, hsource ho], h.update ho _ _ i _⟩

/-- **A step of the tenant**, on clients that look the same to it, with the same answer. -/
theorem Alike.step (h : Alike tenant t s s') (answers : Nat → Except Error Integral)
    (hi : tenant i = t) {before : List (Except Error Integral)}
    (hgiven : s'.given = before.length) (after : List (Except Error Integral)) :
    let given := before ++ (step answers tenant i s).1.answers
    (step (listed (given ++ after)) tenant i s').1 = (step answers tenant i s).1 ∧
      Alike tenant t (step answers tenant i s).2 (step (listed (given ++ after)) tenant i s').2 ∧
      (step (listed (given ++ after)) tenant i s').2.given = given.length := by
  subst hi
  rw [step_eq answers, answers_settle]
  intro given
  have hnext : (s'.calls i).uses (listed (given ++ after) s'.given) =
        (s.calls i).uses (answers s.given) ∧
      ∀ o : Optimizer, o.next (tenant i) (listed (given ++ after) s'.given) (s'.calls i) =
        o.next (tenant i) (answers s.given) (s.calls i) := by
    rw [← h.calls i rfl]
    cases hcall : s.calls i with
    | opening => exact ⟨rfl, fun _ => rfl⟩
    | drawing held draw =>
      have hanswer : listed (given ++ after) s'.given = answers s.given := by
        simp [listed, given, hcall, Generation.uses, hgiven]
      rw [hanswer]
      exact ⟨rfl, fun _ => rfl⟩
  obtain ⟨hused, hnext⟩ := hnext
  obtain ⟨hseen, halike⟩ := h.settle
    (Optimizer.map_share_next h.share (answers s.given) (s.calls i)) i
    ((s.calls i).uses (answers s.given))
  rw [step_eq, hused, hnext]
  exact ⟨hseen.symm, halike, by simp [given, hgiven]⟩

/-- **A step of another tenant** is none to the tenant. -/
theorem Alike.other (h : Alike tenant t s s') (answers : Nat → Except Error Integral)
    (hi : tenant i ≠ t) :
    Alike tenant t (Clients.step answers tenant i s).2 s' := by
  have hleaves := s.optimizer.next_leaves (Ne.symm hi) (answers s.given) (s.calls i)
  have hcalls : ∀ call j, tenant j = t → Function.update s.calls i call j = s'.calls j := by
    intro call j hj
    have hji : j ≠ i := fun hji => hi (by rw [← hji, hj])
    rw [Function.update_of_ne hji, h.calls j hj]
  rw [step_eq]
  cases hx : s.optimizer.next (tenant i) (answers s.given) (s.calls i) with
  | draw held => exact ⟨h.share, hcalls _⟩
  | answer result o => exact ⟨(hleaves result o hx).trans h.share, hcalls _⟩

/-- **A run**: the steps of a tenant are those that it takes alone, with the answers that it was
given. -/
theorem Alike.run (h : Alike tenant t s s') (answers : Nat → Except Error Integral)
    (clients : List ι) {before : List (Except Error Integral)}
    (hgiven : s'.given = before.length) :
    let own := (Clients.run answers tenant clients s).1.filter fun seen => seen.tenant = t
    let alone := Clients.run (listed (before ++ own.flatMap Seen.answers)) tenant
      (clients.filter fun i => tenant i = t) s'
    alone.1 = own ∧ Alike tenant t (Clients.run answers tenant clients s).2 alone.2 := by
  induction clients generalizing s s' before with
  | nil => exact ⟨rfl, h⟩
  | cons i clients ih =>
    have htenant : (Clients.step answers tenant i s).1.tenant = tenant i := by
      rw [step_eq, tenant_settle]
    by_cases hi : tenant i = t
    · obtain ⟨hseen, halike, hlength⟩ := h.step answers hi hgiven
        (((Clients.run answers tenant clients (Clients.step answers tenant i s).2).1.filter
          fun seen => seen.tenant = t).flatMap Seen.answers)
      have hrest := ih halike hlength
      simp only [Clients.run, List.filter_cons, htenant, hi, decide_true, if_true,
        List.flatMap_cons, ← List.append_assoc, hseen]
      exact ⟨congrArg _ hrest.1, hrest.2⟩
    · have hrest := ih (h.other answers hi) hgiven
      simp only [Clients.run, List.filter_cons, htenant, hi, decide_false, Bool.false_eq_true,
        if_false]
      exact hrest

/-! ## Calls that fail, and calls that no other one overlaps -/

theorem optimizer_step (h : ∀ a, (Clients.step answers tenant i s).1.result? ≠ some (.ok a)) :
    (Clients.step answers tenant i s).2.optimizer = s.optimizer := by
  rw [step_eq] at h ⊢
  cases hx : s.optimizer.next (tenant i) (answers s.given) (s.calls i) with
  | draw held => rfl
  | answer result o =>
    cases result with
    | ok a =>
      rw [hx] at h
      exact absurd rfl (h a)
    | error e => exact Optimizer.eq_of_next hx

theorem optimizer_run {clients : List ι}
    (h : ∀ seen ∈ (Clients.run answers tenant clients s).1, ∀ a, seen.result? ≠ some (.ok a)) :
    (Clients.run answers tenant clients s).2.optimizer = s.optimizer := by
  induction clients generalizing s with
  | nil => rfl
  | cons i clients ih =>
    obtain ⟨hstep, hrest⟩ := List.forall_mem_cons.mp h
    exact (ih hrest).trans (optimizer_step hstep)

theorem run_of_call (tenant : ι → Tenant) (i : ι) {steps n : Nat} {call : Generation Unit}
    {result : Except Error Integral} {o : Optimizer}
    (h : Work.run (Optimizer.generation (answering answers) () (tenant i)) steps call
      (s.given, s.optimizer) = (some result, (n, o))) (hcall : s.calls i = call) :
    ∃ k seen, Clients.run answers tenant (List.replicate k i) s =
        (seen, ⟨o, n, Function.update s.calls i .opening⟩) ∧
      seen.filterMap Seen.result? = [result] := by
  induction steps generalizing s call with
  | zero => cases h
  | succ steps ih =>
    simp only [Work.run] at h
    rcases hstep : Optimizer.generation (answering answers) () (tenant i) call
      (s.given, s.optimizer) with ⟨p, given, optimizer⟩
    rw [hstep] at h
    cases p with
    | finished result' =>
      cases h
      refine ⟨1, [(Clients.step answers tenant i s).1], ?_, ?_⟩ <;>
        simp [Clients.run, Clients.step, hcall, hstep]
    | running call' =>
      obtain ⟨k, seen, hrun, hseen⟩ :=
        ih (s := ⟨optimizer, given, Function.update s.calls i call'⟩) h (Function.update_self ..)
      rw [Function.update_idem] at hrun
      refine ⟨k + 1, (Clients.step answers tenant i s).1 :: seen, ?_, ?_⟩ <;>
        simp [List.replicate_succ, Clients.run, Clients.step, hcall, hstep, hrun, hseen]

theorem eq_of_call {answers : Nat → Except Error Integral} {t : Tenant} {steps m n : Nat}
    {o o' : Optimizer} {e : Error}
    (h : Optimizer.call answers t steps (m, o) = (some (.error e), (n, o'))) : o' = o := by
  let before : Clients Unit := { optimizer := o, given := m }
  obtain ⟨k, seen, hrun, hseen⟩ := run_of_call (s := before) (fun _ => t) () h rfl
  have hfails : ∀ x ∈ (run answers (fun _ => t) (List.replicate k ()) before).1,
      ∀ a, x.result? ≠ some (.ok a) := by
    rw [hrun]
    intro x hx a hresult
    have hmem : Except.ok a ∈ seen.filterMap Seen.result? :=
      List.mem_filterMap.mpr ⟨x, hx, hresult⟩
    rw [hseen, List.mem_singleton] at hmem
    cases hmem
  have hleft := optimizer_run hfails
  rw [hrun] at hleft
  exact hleft

/-- **Tenants do not interfere.** The clients of an optimizer take steps in any order, and their
callbacks answer anything. What is seen of a tenant, its results and the last value of the counter
that it works with, is what is seen when its clients take the same steps alone, on an optimizer as
the clients have found it, with the answers that were given to them. A step that ends in a failure
takes nothing from anyone, and neither does the whole call. -/
theorem tenants_separate (answers : Nat → Except Error Integral) (tenant : ι → Tenant)
    (o : Optimizer) (clients : List ι) (t : Tenant) :
    (let together := run answers tenant clients { optimizer := o }
      let own := together.1.filter fun seen => seen.tenant = t
      let alone := run (listed (own.flatMap Seen.answers)) tenant
        (clients.filter fun i => tenant i = t) { optimizer := o }
      alone.1 = own ∧ alone.2.optimizer.lastSource? t = together.2.optimizer.lastSource? t) ∧
      (∀ (i : ι) (s : Clients ι), (∀ a, (step answers tenant i s).1.result? ≠ some (.ok a)) →
        (step answers tenant i s).2.optimizer = s.optimizer) ∧
      ∀ steps m n o' e, Optimizer.call answers t steps (m, o) = (some (.error e), (n, o')) →
        o' = o := by
  have halike : Alike tenant t ({ optimizer := o } : Clients ι) { optimizer := o } :=
    ⟨rfl, fun _ _ => rfl⟩
  have hgiven : ({ optimizer := o } : Clients ι).given =
    ([] : List (Except Error Integral)).length := rfl
  obtain ⟨hseen, hlast⟩ := halike.run answers clients hgiven
  refine ⟨⟨hseen, ?_⟩, fun i s => optimizer_step, fun steps m n o' e => eq_of_call⟩
  rw [← Optimizer.source?_share, ← Optimizer.source?_share]
  exact congrArg Share.source? hlast.share.symm

/-- The answers to two tenants that draw in turn, of whom the second one is refused its second
value. -/
def turns : Nat → Except Error Integral :=
  listed [Integral.make .long 1, Integral.make .long 1, .error (.lock "taken"),
    Integral.make .long 3]

/-- The first client works for no tenant, the second one for a tenant. -/
def tenantOf (i : Bool) : Tenant := if i then some "north" else none

/-- A call that fails in the middle of its first pool, and a call that it has overlapped. -/
theorem tenants_separate_pairs :
    let one : Integral := ⟨.long, 1, by decide⟩
    let three : Integral := ⟨.long, 3, by decide⟩
    let start : Clients Bool := { optimizer := .pooled Pooled.pairs }
    let own : List Seen := [⟨none, [], none, none⟩, ⟨none, [.ok one], none, none⟩,
      ⟨none, [.ok three], some (.ok one), some three⟩,
      ⟨none, [], some (.ok ⟨.long, 2, by decide⟩), some three⟩]
    let together := run turns tenantOf [false, true, false, true, true, false, false] start
    together.1.filterMap Seen.result? =
        [.error (.lock "taken"), .ok one, .ok ⟨.long, 2, by decide⟩] ∧
      together.1.filter (fun seen => seen.tenant = none) = own ∧
      (run (listed [.ok one, .ok three]) tenantOf [false, false, false, false] start).1 = own := by
  intro one three start own together
  have hown : together.1.filter (fun seen => seen.tenant = none) = own := rfl
  refine ⟨rfl, hown, ?_⟩
  have halone := (tenants_separate turns tenantOf start.optimizer
    [false, true, false, true, true, false, false] none).1.1
  exact halone.trans hown

end Clients

end CounterTable
