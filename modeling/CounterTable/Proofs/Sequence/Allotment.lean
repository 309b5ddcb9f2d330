import CounterTable.Proofs.Allocation.Race
import CounterTable.Proofs.Blocks.Outcomes
import CounterTable.Proofs.Blocks.Reservation
import CounterTable.Sequence.Generator

/-!
# Calls of generators that share a table

Any number of callers call generators of one table, each in a session and for a tenant, and several of
them may share a generator. Each call stands anywhere between its calls on the database. What the
tenants of the generators hold and what the calls have kept are reservations, which lie below a mark
that the first value of the table sets.

* `Generation.Keeps`, `Allotment.reservation`: what is reserved;
* `Participants`, `Allotment`, `Participants.Step`: who takes part, how far they are, and what can
  happen next;
* `Participants.Advanced`, `Participants.advanced`: all that a step of a caller can be;
* `Participants.Apart`: the invariant;
* **`Participants.Apart.run`**: any run keeps it.
-/

namespace CounterTable

/-! ## Calls -/

theorem Work.Projects.generation {σ τ ω : Type} {π : σ → τ} {v : Work σ ω Integral}
    {w : Work τ ω Integral} (h : Work.Projects π v w) (start : ω) (t : Tenant) :
    Work.Projects (fun s : σ × Optimizer => (π s.1, s.2)) (Optimizer.generation v start t)
      (Optimizer.generation w start t) := by
  rintro call ⟨s, o⟩
  have hproceed : ∀ s outcome,
      (Optimizer.proceed start o s outcome).1 = (Optimizer.proceed start o (π s) outcome).1 ∧
      (π (Optimizer.proceed start o s outcome).2.1, (Optimizer.proceed start o s outcome).2.2) =
        (Optimizer.proceed start o (π s) outcome).2 := by
    intro s outcome
    cases outcome <;> exact ⟨rfl, rfl⟩
  cases call with
  | opening => exact hproceed s (o.opening t)
  | drawing held x =>
    obtain ⟨h₁, h₂⟩ := h x s
    simp only [Optimizer.generation]
    rcases hv : v x s with ⟨p, s'⟩
    rcases hw : w x (π s) with ⟨p', s''⟩
    rw [hv, hw] at h₁ h₂
    dsimp only at h₁ h₂
    subst h₁ h₂
    rcases p with x | e | drawn
    · exact ⟨rfl, rfl⟩
    · exact ⟨rfl, rfl⟩
    · exact hproceed s' (o.take t held drawn)

namespace Generation

variable {ω : Type}

/-- The identifier that a call has kept from an earlier draw. -/
def Keeps : Generation ω → Int → Prop
  | opening, _ => False
  | drawing held _, n => ∃ h, held = some h ∧ n = h.val

theorem not_keeps_opening (n : Int) : ¬ (opening : Generation ω).Keeps n := id

end Generation

/-- Where the allocation of a call stands; it has not begun where the call draws nothing. -/
def Generator.Call.place : Generator.Call → Counter.NextValue
  | .opening => .connecting
  | .drawing _ place => place

/-- A call of a generator on the database, without journal and count. -/
def Generator.unobserved {σ : Type} (g : Generator) (b : Backend σ) (t : Tenant) :
    Work (σ × Optimizer) Generator.Call Integral :=
  Optimizer.generation (g.counter.unobserved b) .connecting t

theorem Generator.generation_projects {σ : Type} (g : Generator) (b : Backend σ)
    (logger : Logger) (t : Tenant) :
    Work.Projects (fun s : Accessed σ × Optimizer => (s.1.1.1, s.2)) (g.generation b logger t)
      (g.unobserved b t) :=
  (g.counter.nextValue_projects b logger).generation .connecting t

/-! ## Reservations -/

/-- How far calls of generators are: the database, what each session has observed, how many
allocations of each generator have succeeded, what its tenants hold, and where the call of each caller
stands. A caller makes one call after another, and the results of those that have returned are kept in
their order. -/
structure Allotment (ι κ ς : Type) where
  database : Database
  journals : ς → Journal
  counts : κ → UInt64
  optimizers : κ → Optimizer
  calls : ι → Generator.Call
  returned : List (ι × Except Error Integral)

namespace Allotment

variable {ι κ : Type}

/-- What the tenants of the generators hold, and what the callers have kept. -/
def reservation (optimizers : κ → Optimizer) (calls : ι → Generator.Call) (given : List Int)
    (top : Int) : Reservation ((κ × Tenant) ⊕ ι) where
  holds
    | .inl (k, t), n => (optimizers k).Holds t n
    | .inr i, n => (calls i).Keeps n
  given
  top

variable [DecidableEq ι] {optimizers : κ → Optimizer} {calls : ι → Generator.Call} {given : List Int}
  {top top' : Int} {i : ι} {k : κ} {t : Tenant}

theorem sound_moved (h : (reservation optimizers calls given top).Sound) (htop : top ≤ top')
    {call : Generator.Call}
    (hcall : ∀ n, call.Keeps n → (top < n ∧ n ≤ top') ∨ (calls i).Keeps n) :
    (reservation optimizers (Function.update calls i call) given top').Sound := by
  refine h.pass (a := .inr i) ⟨htop, fun b n hb => ?_, .inl rfl⟩
  rcases b with ⟨k, t⟩ | j
  · exact .inl hb
  · by_cases hj : j = i
    · subst hj
      have hkeeps : (Function.update calls j call j).Keeps n := hb
      rw [Function.update_self] at hkeeps
      rcases hcall n hkeeps with hfresh | hold
      · exact .inr ⟨rfl, .inl hfresh⟩
      · exact .inl hold
    · have hkeeps : (Function.update calls i call j).Keeps n := hb
      rw [Function.update_of_ne hj] at hkeeps
      exact .inl hkeeps

theorem sound_answered [DecidableEq κ] (h : (reservation optimizers calls given top).Sound) (htop : top ≤ top')
    {source : Int → Prop} (hsource : ∀ n, source n → (top < n ∧ n ≤ top') ∨ (calls i).Keeps n)
    {a : Integral} {o : Optimizer}
    (hs : (Outcome.answer (.ok a) o).Serves (optimizers k) t source) :
    (reservation (Function.update optimizers k o) (Function.update calls i .opening)
      (given ++ [a.val]) top').Sound := by
  obtain ⟨-, ha, hholds⟩ := hs
  have hself : ∀ n, (Function.update optimizers k o k).Holds t n → o.Holds t n := by
    intro n hn
    rw [Function.update_self] at hn
    exact hn
  have hopening : ∀ n, ¬ (Function.update calls i .opening i).Keeps n := by
    intro n hn
    rw [Function.update_self] at hn
    exact hn
  have hfree : ∀ n, source n → (reservation optimizers calls given top).Free
      (reservation (Function.update optimizers k o) (Function.update calls i .opening)
        (given ++ [a.val]) top') n := by
    intro n hn
    rcases hsource n hn with hfresh | hkeeps
    · exact .inl hfresh
    · exact .inr ⟨.inr i, hkeeps, hopening n⟩
  have hgone : ¬ (Function.update optimizers k o k).Holds t a.val := by
    intro hn
    rcases hholds t _ (hself _ hn) with ⟨hu, -⟩ | ⟨-, hne, -⟩
    · exact hu rfl
    · exact hne rfl
  refine h.pass (a := .inl (k, t)) ⟨htop, fun b n hb => ?_, .inr ⟨a.val, rfl, ?_, hgone⟩⟩
  · rcases b with ⟨l, u⟩ | j
    · have hb' : (Function.update optimizers k o l).Holds u n := hb
      by_cases hl : l = k
      · subst hl
        rw [Function.update_self] at hb'
        rcases hholds u n hb' with ⟨-, hold⟩ | ⟨rfl, -, hold | hnew⟩
        · exact .inl hold
        · exact .inl hold
        · exact .inr ⟨rfl, hfree n hnew⟩
      · rw [Function.update_of_ne hl] at hb'
        exact .inl hb'
    · have hb' : (Function.update calls i .opening j).Keeps n := hb
      by_cases hj : j = i
      · subst hj
        exact absurd hb' (hopening n)
      · rw [Function.update_of_ne hj] at hb'
        exact .inl hb'
  · rcases ha with hold | hnew
    · exact .inr ⟨.inl (k, t), hold, hgone⟩
    · exact hfree _ hnew

/-- The identifier that a call has been answered, if it has succeeded. -/
def identifier? {ι : Type} : ι × Except Error Integral → Option Int
  | (_, .ok a) => some a.val
  | (_, .error _) => none

/-- The identifiers that calls have been answered, in their order. -/
def identifiers {ι κ ς : Type} (r : Allotment ι κ ς) : List Int := r.returned.filterMap identifier?

theorem identifiers_append {ι κ ς : Type} {r r' : Allotment ι κ ς} {i : ι}
    {result : Except Error Integral} (h : r'.returned = r.returned ++ [(i, result)]) :
    r'.identifiers = r.identifiers ++ (identifier? (i, result)).toList := by
  rw [identifiers, h, List.filterMap_append]
  cases hc : identifier? (i, result) <;> simp [identifiers, hc]

/-- The next state, from what a step of a caller on a generator comes to. A caller whose call returns
may make another one. -/
structure After {ι κ ς : Type} [DecidableEq ι] [DecidableEq κ] (r : Allotment ι κ ς) (i : ι) (k : κ)
    (step : Progress Generator.Call Integral × Database × Optimizer) (r' : Allotment ι κ ς) :
    Prop where
  database : r'.database = step.2.1
  optimizers : r'.optimizers = Function.update r.optimizers k step.2.2
  calls : r'.calls = Function.update r.calls i (match step.1 with
    | .running call => call
    | .finished _ => .opening)
  returned : r'.returned = match step.1 with
    | .running _ => r.returned
    | .finished result => r.returned ++ [(i, result)]

theorem After.place_of_proceed {ι κ ς : Type} [DecidableEq ι] [DecidableEq κ]
    {r r' : Allotment ι κ ς} {i : ι} {k : κ} {o : Optimizer} {db : Database}
    {outcome : Outcome Optimizer}
    (h : r.After i k (Optimizer.proceed .connecting o db outcome) r') :
    (r'.calls i).place = .connecting := by
  rw [h.calls, Function.update_self]
  cases outcome <;> rfl

end Allotment

/-! ## Participants -/

/-- Who takes part: each caller calls a generator, in a session and for a tenant. -/
structure Participants (ι κ ς : Type) where
  generators : κ → Generator
  loggers : ς → Logger
  generator : ι → κ
  session : ι → ς
  tenant : ι → Tenant

/-- Nobody has called a generator yet, on this database. -/
structure Allotment.Begins {ι κ ς : Type} (r : Allotment ι κ ς) (x : Participants ι κ ς)
    (db : Database) : Prop where
  database : r.database = db
  optimizers : r.optimizers = fun k => (x.generators k).optimizer
  calls : r.calls = fun _ => .opening
  returned : r.returned = []

/-- What a generator of a table is like while nobody holds a block of it. -/
structure Generator.Draws (name : String) (kind : OptimizerKind) (increment : Int)
    (g : Generator) : Prop where
  counter_over : g.counter.Over name
  step : g.counter.step = kind.stride increment
  kind : g.optimizer.kind = kind
  increment : g.optimizer.increment = increment
  unheld : ∀ t n, ¬ g.optimizer.Holds t n

namespace Participants

variable {ι κ ς : Type} [DecidableEq ι] [DecidableEq κ] [DecidableEq ς]

section Definitions

variable (x : Participants ι κ ς)

/-- The generator that a caller calls. -/
def generatorOf (i : ι) : Generator := x.generators (x.generator i)

/-- After the next step of a caller. A caller whose call returns may make another one. The calls of
one generator may overlap. -/
def advance (i : ι) (r : Allotment ι κ ς) : Allotment ι κ ς :=
  let (p, ((database, journal), count), optimizer) :=
    (x.generatorOf i).generation Database.backend (x.loggers (x.session i)) (x.tenant i)
      (r.calls i)
      (((r.database, r.journals (x.session i)), r.counts (x.generator i)),
        r.optimizers (x.generator i))
  { database
    journals := Function.update r.journals (x.session i) journal
    counts := Function.update r.counts (x.generator i) count
    optimizers := Function.update r.optimizers (x.generator i) optimizer
    calls := Function.update r.calls i (match p with
      | .running call => call
      | .finished _ => .opening)
    returned := match p with
      | .running _ => r.returned
      | .finished result => r.returned ++ [(i, result)] }

/-- What can happen next: the step of a caller, or an event on a connection that no call uses and
that does not write the table. -/
inductive Step (name : String) (r : Allotment ι κ ς) : Allotment ι κ ς → Prop
  | call (i : ι) : Step name r (x.advance i r)
  | other (e : Event) (ho : ∀ i w, (r.calls i).place ≠ .connected (r.database.actor e) w)
      (hw : ¬ r.database.Writes e name) :
      Step name r { r with database := r.database.after e }

/-- The invariant: the allocations of the calls race for the table, and all that is reserved or has
been handed out lies at or below the mark of the first value, and is apart. -/
def Apart (name : String) (kind : OptimizerKind) (increment : Int) (r : Allotment ι κ ς) : Prop :=
  ∃ ns v, Contest name (fun i => (x.generatorOf i).counter) (fun i => (r.calls i).place)
      r.database ns ∧ first? ns = some v ∧
    (∀ k, (r.optimizers k).kind = kind ∧ (r.optimizers k).increment = increment) ∧
    (Allotment.reservation r.optimizers r.calls r.identifiers (kind.reach increment v)).Sound

end Definitions

variable {x : Participants ι κ ς} {name : String} {kind : OptimizerKind} {increment : Int}
  {r r' : Allotment ι κ ς}

/-- The step of a caller does on the database and the optimizer what its call does there
unobserved. -/
theorem after_advance (x : Participants ι κ ς) (i : ι) (r : Allotment ι κ ς) :
    r.After i (x.generator i) ((x.generatorOf i).unobserved Database.backend (x.tenant i)
      (r.calls i) (r.database, r.optimizers (x.generator i))) (x.advance i r) := by
  obtain ⟨h₁, h₂⟩ := (x.generatorOf i).generation_projects Database.backend
    (x.loggers (x.session i)) (x.tenant i) (r.calls i)
    (((r.database, r.journals (x.session i)), r.counts (x.generator i)),
      r.optimizers (x.generator i))
  rcases hstep : (x.generatorOf i).unobserved Database.backend (x.tenant i) (r.calls i)
    (r.database, r.optimizers (x.generator i)) with ⟨p, db, o⟩
  rw [hstep] at h₁ h₂
  dsimp only at h₁ h₂
  obtain ⟨hdb, ho⟩ := Prod.ext_iff.mp h₂
  subst hdb ho h₁
  exact ⟨rfl, rfl, rfl, rfl⟩

/-- All that a step of a caller can be: its call opens, its allocation goes on or fails, or its
allocation answers a value, which its call takes. -/
inductive Advanced (x : Participants ι κ ς) (i : ι) (r r' : Allotment ι κ ς) : Prop
  | opened (hfrom : r.calls i = .opening)
      (hafter : r.After i (x.generator i) (Optimizer.proceed .connecting
        (r.optimizers (x.generator i)) r.database
        ((r.optimizers (x.generator i)).opening (x.tenant i))) r')
  | wentOn {held : Option Integral} {place place' : Counter.NextValue} {db : Database}
      (hfrom : r.calls i = .drawing held place)
      (hs : (x.generatorOf i).counter.unobserved Database.backend place r.database =
        (.running place', db))
      (hafter : r.After i (x.generator i) (.running (.drawing held place'), db,
        r.optimizers (x.generator i)) r')
  | failed {held : Option Integral} {place : Counter.NextValue} {e : Error} {db : Database}
      (hfrom : r.calls i = .drawing held place)
      (hs : (x.generatorOf i).counter.unobserved Database.backend place r.database =
        (.finished (.error e), db))
      (hafter : r.After i (x.generator i) (.finished (.error e), db,
        r.optimizers (x.generator i)) r')
  | took {held : Option Integral} {place : Counter.NextValue} {drawn : Integral} {db : Database}
      (hfrom : r.calls i = .drawing held place)
      (hs : (x.generatorOf i).counter.unobserved Database.backend place r.database =
        (.finished (.ok drawn), db))
      (hafter : r.After i (x.generator i) (Optimizer.proceed .connecting
        (r.optimizers (x.generator i)) db
        ((r.optimizers (x.generator i)).take (x.tenant i) held drawn)) r')

theorem advanced (x : Participants ι κ ς) (i : ι) (r : Allotment ι κ ς) :
    x.Advanced i r (x.advance i r) := by
  have hafter := x.after_advance i r
  cases hcall : r.calls i with
  | opening =>
    rw [hcall] at hafter
    exact .opened hcall hafter
  | drawing held place =>
    rw [hcall, Generator.unobserved, Optimizer.generation] at hafter
    rcases hs : (x.generatorOf i).counter.unobserved Database.backend place r.database with ⟨p, db⟩
    rw [hs] at hafter
    rcases p with place' | e | drawn
    · exact .wentOn hcall hs hafter
    · exact .failed hcall hs hafter
    · exact .took hcall hs hafter

omit [DecidableEq κ] [DecidableEq ς] in
theorem contest_opening {ns : List Int64} (h : Contest name (fun i => (x.generatorOf i).counter)
    (fun i => (r.calls i).place) r.database ns) {i : ι} (hcall : r.calls i = .opening) :
    Contest name (fun i => (x.generatorOf i).counter)
      (Function.update (fun i => (r.calls i).place) i .connecting) r.database ns := by
  have hplace : (r.calls i).place = .connecting := by rw [hcall]; rfl
  rw [← hplace, Function.update_eq_self i fun i => (r.calls i).place]
  exact h

omit [DecidableEq κ] [DecidableEq ς] in
theorem stepped_drawing {ns : List Int64} (h : Contest name (fun i => (x.generatorOf i).counter)
    (fun i => (r.calls i).place) r.database ns) {i : ι}
    (ho : (x.generatorOf i).counter.Over name) {held : Option Integral}
    {place : Counter.NextValue} (hcall : r.calls i = .drawing held place)
    {p : Progress Counter.NextValue Integral} {db : Database}
    (hs : (x.generatorOf i).counter.unobserved Database.backend place r.database = (p, db)) :
    Contest.Stepped name (fun i => (x.generatorOf i).counter) (fun i => (r.calls i).place) ns i
      (p, db) := by
  have hplace : (r.calls i).place = place := by rw [hcall]; rfl
  have hstep := h.step (i := i) ho
  rw [hplace, hs] at hstep
  exact hstep

omit [DecidableEq κ] [DecidableEq ς] in
theorem place_update (calls : ι → Generator.Call) (i : ι) (call : Generator.Call) :
    (fun j => (Function.update calls i call j).place) =
      Function.update (fun j => (calls j).place) i call.place := by
  funext j
  exact Function.apply_update (fun _ => Generator.Call.place) calls i call j

omit [DecidableEq κ] [DecidableEq ς] in
theorem Apart.moved {i : ι} {call : Generator.Call} {ns : List Int64} {v w : Int}
    (hcontest : Contest name (fun i => (x.generatorOf i).counter)
      (Function.update (fun i => (r.calls i).place) i call.place) r'.database ns)
    (hfirst : first? ns = some w)
    (hkinds : ∀ k, (r.optimizers k).kind = kind ∧ (r.optimizers k).increment = increment)
    (hsound : (Allotment.reservation r.optimizers r.calls r.identifiers
      (kind.reach increment v)).Sound)
    (hle : kind.reach increment v ≤ kind.reach increment w)
    (hkeeps : ∀ n, call.Keeps n →
      (kind.reach increment v < n ∧ n ≤ kind.reach increment w) ∨ (r.calls i).Keeps n)
    (hoptimizers : r'.optimizers = r.optimizers)
    (hcalls : r'.calls = Function.update r.calls i call)
    (hids : r'.identifiers = r.identifiers) : x.Apart name kind increment r' := by
  refine ⟨ns, w, ?_, hfirst, hoptimizers ▸ hkinds, ?_⟩
  · rw [hcalls, place_update]
    exact hcontest
  · rw [hoptimizers, hcalls, hids]
    exact Allotment.sound_moved hsound hle hkeeps

omit [DecidableEq ς] in
/-- **What an outcome comes to** keeps all apart. -/
theorem Apart.proceed {i : ι} {k : κ} {t : Tenant} {source : Int → Prop}
    {outcome : Outcome Optimizer} {db : Database} {ns : List Int64} {v w : Int}
    (hsource : ∀ n, source n →
      (kind.reach increment v < n ∧ n ≤ kind.reach increment w) ∨ (r.calls i).Keeps n)
    (hcontest : Contest name (fun i => (x.generatorOf i).counter)
      (Function.update (fun i => (r.calls i).place) i .connecting) db ns)
    (hfirst : first? ns = some w)
    (hkinds : ∀ k, (r.optimizers k).kind = kind ∧ (r.optimizers k).increment = increment)
    (hsound : (Allotment.reservation r.optimizers r.calls r.identifiers
      (kind.reach increment v)).Sound)
    (hle : kind.reach increment v ≤ kind.reach increment w)
    (hs : outcome.Serves (r.optimizers k) t source)
    (hafter : r.After i k (Optimizer.proceed .connecting (r.optimizers k) db outcome) r') :
    x.Apart name kind increment r' := by
  obtain ⟨hdb, hupdate, hcalls, hreturned⟩ := hafter
  rcases outcome with held | ⟨e | a, o⟩
  · have hoptimizers : r'.optimizers = r.optimizers := hupdate.trans (Function.update_eq_self k _)
    refine Apart.moved (hdb ▸ hcontest) hfirst hkinds hsound hle (fun n hn => ?_) hoptimizers
      hcalls (congrArg (List.filterMap _) hreturned)
    obtain ⟨h, hh, rfl⟩ := hn
    exact hsource _ (hs h hh)
  · have hsame : o = r.optimizers k := hs
    subst hsame
    have hoptimizers : r'.optimizers = r.optimizers := hupdate.trans (Function.update_eq_self k _)
    have hids : r'.identifiers = r.identifiers :=
      (Allotment.identifiers_append hreturned).trans (List.append_nil _)
    exact Apart.moved (hdb ▸ hcontest) hfirst hkinds hsound hle
      (fun n hn => absurd hn (Generation.not_keeps_opening n)) hoptimizers hcalls hids
  · have hids : r'.identifiers = r.identifiers ++ [a.val] :=
      Allotment.identifiers_append hreturned
    refine ⟨ns, w, ?_, hfirst, ?_, ?_⟩
    · rw [hdb, hcalls, place_update]
      exact hcontest
    · rw [hupdate]
      intro l
      by_cases hl : l = k
      · subst hl
        rw [Function.update_self]
        exact ⟨hs.1.1.trans (hkinds l).1, hs.1.2.trans (hkinds l).2⟩
      · rw [Function.update_of_ne hl]
        exact hkinds l
    · rw [hupdate, hcalls, hids]
      exact Allotment.sound_answered hsound hle hsource hs

/-- **Every step of a caller** keeps all apart. -/
theorem Apart.advance (h : x.Apart name kind increment r) (hpos : 1 ≤ increment)
    (hx : ∀ k, (x.generators k).Draws name kind increment) (i : ι) :
    x.Apart name kind increment (x.advance i r) := by
  obtain ⟨ns, v, hcontest, hfirst, hkinds, hsound⟩ := h
  have hdraws : (x.generatorOf i).Draws name kind increment := hx (x.generator i)
  cases x.advanced i r with
  | opened hcall hafter =>
    exact Apart.proceed (fun n hn => hn.elim) (contest_opening hcontest hcall) hfirst hkinds hsound
      (Int.le_refl _) (Optimizer.opening_serves _ (x.tenant i) fun _ => False) hafter
  | wentOn hcall hs hafter =>
    have hstep := stepped_drawing hcontest hdraws.counter_over hcall hs
    obtain ⟨hdb, hupdate, hcalls, hreturned⟩ := hafter
    have hoptimizers := hupdate.trans (Function.update_eq_self (x.generator i) _)
    refine Apart.moved (hdb ▸ hstep) hfirst hkinds hsound (Int.le_refl _) (fun n hn => ?_)
      hoptimizers hcalls (congrArg (List.filterMap _) hreturned)
    rw [hcall]
    exact .inr hn
  | failed hcall hs hafter =>
    have hstep := stepped_drawing hcontest hdraws.counter_over hcall hs
    obtain ⟨hdb, hupdate, hcalls, hreturned⟩ := hafter
    have hoptimizers := hupdate.trans (Function.update_eq_self (x.generator i) _)
    have hids := (Allotment.identifiers_append hreturned).trans (List.append_nil _)
    exact Apart.moved (hdb ▸ hstep) hfirst hkinds hsound (Int.le_refl _)
      (fun n hn => absurd hn (Generation.not_keeps_opening n)) hoptimizers hcalls hids
  | @took held place drawn db hcall hs hafter =>
    obtain ⟨w, hhead, hw, hmoved⟩ := stepped_drawing hcontest hdraws.counter_over hcall hs
    obtain ⟨rfl, hnext⟩ := first?_replaced hfirst hhead w
    have hstride : (x.generatorOf i).counter.step = kind.stride increment := hdraws.step
    rw [hw, hstride] at hnext
    obtain ⟨hkind, hincrement⟩ := hkinds (x.generator i)
    -- The call may be answered from the block of the value, and from what it has kept.
    have hserves : ((r.optimizers (x.generator i)).take (x.tenant i) held drawn).Serves
        (r.optimizers (x.generator i)) (x.tenant i)
        (fun n => kind.Block increment drawn.val n ∨ (r.calls i).Keeps n) :=
      Optimizer.take_serves _ _
        (fun first hheld => .inr (by rw [hcall]; exact ⟨first, hheld, rfl⟩))
        (fun n hn => .inl (by rw [hkind, hincrement] at hn; exact hn))
    exact Apart.proceed (fun n hn => hn) hmoved hnext hkinds hsound
      (kind.reach_le hpos drawn.val) hserves hafter

/-- **Every step** keeps all apart. -/
theorem Apart.step (h : x.Apart name kind increment r) (hpos : 1 ≤ increment)
    (hx : ∀ k, (x.generators k).Draws name kind increment) (hs : x.Step name r r') :
    x.Apart name kind increment r' := by
  cases hs with
  | call i => exact h.advance hpos hx i
  | other e ho hw =>
    obtain ⟨ns, v, hcontest, hrest⟩ := h
    exact ⟨ns, v, hcontest.environment e ho hw, hrest⟩

/-- **Every run** keeps all apart. -/
theorem Apart.run (h : x.Apart name kind increment r) (hpos : 1 ≤ increment)
    (hx : ∀ k, (x.generators k).Draws name kind increment)
    (hrun : Relation.ReflTransGen (x.Step name) r r') : x.Apart name kind increment r' := by
  induction hrun with
  | refl => exact h
  | tail _ hs ih => exact ih.step hpos hx hs

omit [DecidableEq ι] [DecidableEq κ] [DecidableEq ς] in
theorem Apart.begin {db : Database} (hr : r.Begins x db)
    (hx : ∀ k, (x.generators k).Draws name kind increment) (hdb : db.Reachable) {table : Table}
    (hg : db.storage.get? name = some table) (hcols : table.columns.length = 1) {v : Int}
    (hv : db.firstValue? name = some v) (hu : db.Unwritten name) :
    x.Apart name kind increment r := by
  obtain ⟨ns, hns, hfirst⟩ := Database.exists_columnValues hv
  have hne : ns ≠ [] := by
    rintro rfl
    cases hfirst
  have hunheld : ∀ k t n, ¬ (r.optimizers k).Holds t n := by
    intro k t n
    rw [hr.optimizers]
    exact (hx k).unheld t n
  have hunkept : ∀ i n, ¬ (r.calls i).Keeps n := by
    intro i n
    rw [hr.calls]
    exact Generation.not_keeps_opening n
  have hids : r.identifiers = [] := by rw [Allotment.identifiers, hr.returned]; rfl
  have hnobody : ∀ a n, ¬ (Allotment.reservation r.optimizers r.calls r.identifiers
      (kind.reach increment v)).holds a n := by
    rintro (⟨k, t⟩ | i) n hn
    · exact hunheld k t n hn
    · exact hunkept i n hn
  refine ⟨ns, v, ?_, hfirst, fun k => ?_, ?_⟩
  · rw [hr.calls, hr.database]
    exact Contest.start hdb hg hcols hns hne hu
  · rw [hr.optimizers]
    exact ⟨(hx k).kind, (hx k).increment⟩
  · refine ⟨fun a b n ha => absurd ha (hnobody a n), fun a n ha => absurd ha (hnobody a n), ?_,
      fun a n ha => absurd ha (hnobody a n), fun n hn => ?_⟩
    · exact hids ▸ List.nodup_nil
    · have hmem : n ∈ r.identifiers := hn
      rw [hids] at hmem
      cases hmem

omit [DecidableEq ι] [DecidableEq κ] [DecidableEq ς] in
theorem Apart.nodup (h : x.Apart name kind increment r) : r.identifiers.Nodup := by
  obtain ⟨ns, v, -, -, -, hsound⟩ := h
  exact hsound.nodup

end Participants

end CounterTable
