import CounterTable.Proofs.Allocation.Alone
import CounterTable.Proofs.Blocks.Supply
import CounterTable.Proofs.Sequence.Allotment

/-!
# A generator that is alone with its table

On a database with nothing but the table of a generator, calls of the generator one after another
are answered, as long as they do not fail, the identifiers from the initial value on. A call comes
to an end, since only a limited number of values can be skipped or held.

* `Optimizer.patience`: how many values a call draws at most;
* `Optimizer.run_drawing_error`, `Optimizer.run_drawing_ok`: the run of a draw within a call;
* `Generator.Solitary`: what is asked of the statements and of the step;
* `Generator.At`, `Generator.Answers`: where the generator stands, and what a call comes to;
* **`Generator.answers_opening`**: every call.
-/

namespace CounterTable

/-! ## The draws of a call -/

namespace HiLo

theorem serve_ne_draw (p : HiLo) (t : Tenant) (b : HiLoBlock) (held : Option Integral) :
    p.serve t b ≠ .draw held := by
  unfold serve
  split <;> exact nofun

end HiLo

namespace Pooled

theorem serveNew_ne_draw (p : Pooled) (t : Tenant) (b : Except Error Pool)
    (held : Option Integral) : p.serveNew t b ≠ .draw held := by
  unfold serveNew serve
  split
  · split <;> exact nofun
  · exact nofun

end Pooled

theorem Outcome.eq_draw_of_map {β γ : Type} {f : β → γ} {outcome : Outcome β}
    {held : Option Integral} (h : outcome.map f = .draw held) : outcome = .draw held := by
  cases outcome with
  | draw => cases h; rfl
  | answer => cases h

namespace Optimizer

/-- How many values a call draws at most that holds a value or none, the next one being this. -/
def patience (o : Optimizer) (held : Option Integral) (next : Int) : Nat :=
  match o with
  | plain _ => 1
  | hilo _ => (1 - next).toNat + 1
  | pooled _ => if held.isSome then 1 else 2

theorem patience_pos (o : Optimizer) (held : Option Integral) (next : Int) :
    0 < o.patience held next := by
  cases o with
  | plain p => exact Nat.one_pos
  | hilo p => exact Nat.succ_pos _
  | pooled p => cases held <;> exact Nat.succ_pos _

theorem patience_le (o : Optimizer) (held : Option Integral) (next : Int) :
    o.patience held next ≤ (1 - next).toNat + 2 := by
  cases o with
  | plain p => exact Nat.le_add_left 1 _
  | hilo p => exact Nat.le_succ _
  | pooled p => cases held <;> simp [patience]

theorem patience_take {o : Optimizer} {t : Tenant} {held held' : Option Integral}
    {drawn : Integral} (h : o.take t held drawn = .draw held') :
    o.patience held' (drawn.val + o.kind.stride o.increment) < o.patience held drawn.val := by
  cases o with
  | plain p => cases h
  | hilo p =>
    have htake := Outcome.eq_draw_of_map h
    unfold HiLo.take at htake
    split at htake
    · show (1 - (drawn.val + 1)).toNat + 1 < (1 - drawn.val).toNat + 1
      omega
    · split at htake
      · exact absurd htake (p.serve_ne_draw t _ _)
      · cases htake
  | pooled p =>
    have htake := Outcome.eq_draw_of_map h
    unfold Pooled.take at htake
    split at htake
    · exact absurd htake (p.serveNew_ne_draw t _ _)
    · split at htake
      · cases htake
        exact Nat.lt_succ_self 1
      · exact absurd htake (p.serveNew_ne_draw t _ _)

variable {σ ω : Type} {source : Work σ ω Integral} {w : ω} {s s' : σ}

theorem exists_last_step {m : Nat} {r : Except Error Integral}
    (h : source.run m w s = (some r, s')) (start : ω) (t : Tenant) (held : Option Integral)
    (n : Nat) : ∃ w₁ s₁ k, n ≤ k ∧ source w₁ s₁ = (.finished r, s') ∧
      ∀ o, (generation source start t).run (m + n) (.drawing held w) (s, o) =
        (generation source start t).run (k + 1) (.drawing held w₁) (s₁, o) := by
  induction m generalizing w s with
  | zero => cases h
  | succ m ih =>
    rw [Work.run] at h
    rcases hw : source w s with ⟨w' | r', s₂⟩ <;> rw [hw] at h
    · obtain ⟨w₁, s₁, k, hk, hlast, hrun⟩ := ih h
      refine ⟨w₁, s₁, k, hk, hlast, fun o => ?_⟩
      rw [← hrun o, Nat.add_right_comm]
      exact Work.run_of_running (by simp only [generation, hw]) (m + n)
    · cases h
      exact ⟨w, s, m + n, Nat.le_add_left n m, hw, fun o => by rw [Nat.add_right_comm]⟩

theorem run_drawing_error {m : Nat} {e : Error}
    (h : source.run m w s = (some (.error e), s')) (start : ω) (t : Tenant)
    (held : Option Integral) (o : Optimizer) (n : Nat) :
    (generation source start t).run (m + n) (.drawing held w) (s, o) =
      (some (.error e), (s', o)) := by
  obtain ⟨w₁, s₁, k, -, hlast, hrun⟩ := exists_last_step h start t held n
  rw [hrun]
  exact Work.run_of_finished (by simp only [generation, hlast]) k

/-- **A draw within a call** that succeeds. -/
theorem run_drawing_ok {m : Nat} {drawn : Integral}
    (h : source.run m w s = (some (.ok drawn), s')) (start : ω) (t : Tenant)
    (held : Option Integral) (o : Optimizer) (n : Nat) :
    ∃ k, n ≤ k ∧ (generation source start t).run (m + n) (.drawing held w) (s, o) =
      match o.take t held drawn with
      | .draw held => (generation source start t).run k (.drawing held start) (s', o)
      | .answer result o => (some result, (s', o)) := by
  obtain ⟨w₁, s₁, k, hk, hlast, hrun⟩ := exists_last_step h start t held n
  refine ⟨k, hk, ?_⟩
  rw [hrun, Work.run]
  simp only [generation, hlast]
  cases o.take t held drawn <;> rfl

end Optimizer

/-! ## Calls -/

namespace Generator

variable {g : Generator} {column : String} {calls draws : Nat} {db : Database} {o : Optimizer}
  {held : Option Integral}

/-- The statement that replaces the value does so if it can be executed, and an allocation moves the
row as the values of the policy do. -/
structure Solitary (g : Generator) (column : String) : Prop where
  replaces : ∀ statement, Statement.ofText g.counter.updateText = .ok statement →
    statement.Replaces g.counter.table column
  step : g.counter.step = g.kind.stride g.counter.increment.toInt

/-- Where a generator stands that has drawn so many values from a table of its own. -/
structure At (g : Generator) (column : String) (draws : Nat) (s : Database × Optimizer) : Prop where
  kind : s.2.kind = g.kind
  increment : s.2.increment = g.counter.increment.toInt
  cell : ∃ v opened, s.1 = .cell g.counter.table column v opened ∧
    v.toInt = g.counter.initial.toInt + g.counter.step * draws

/-- What a call comes to after so many calls: it fails, or it is answered the next identifier. -/
def Answers (g : Generator) (column : String) (calls : Nat)
    (r : Option (Except Error Integral) × Database × Optimizer) : Prop :=
  (∃ e, r.1 = some (.error e)) ∨ ∃ a draws, r.1 = some (.ok a) ∧
    a.val = g.kind.identifier g.counter.increment.toInt g.counter.initial.toInt calls ∧
      g.At column draws r.2 ∧ r.2.2.Rests none g.counter.initial.toInt (calls + 1) draws

theorem answers_of_supplies {outcome : Outcome Optimizer}
    (h : g.At column draws (db, o))
    (hs : outcome.Supplies o none g.counter.numberType g.counter.initial.toInt calls draws)
    {r : Option (Except Error Integral) × Database × Optimizer}
    (hdraw : ∀ held, outcome = .draw held →
      o.Awaits none g.counter.numberType g.counter.initial.toInt calls draws held →
        g.Answers column calls r)
    (hanswer : ∀ result o', outcome = .answer result o' → r = (some result, (db, o'))) :
    g.Answers column calls r := by
  rcases outcome with held | ⟨e | a, o'⟩
  · exact hdraw held rfl hs
  · exact .inl ⟨e, congrArg Prod.fst (hanswer _ _ rfl)⟩
  · obtain ⟨⟨hkind, hincrement⟩, ha, hrests⟩ := hs
    obtain rfl := hanswer _ _ rfl
    refine .inr ⟨a, draws, rfl, ?_, ?_, hrests⟩
    · rw [ha, h.kind, h.increment]
    · exact ⟨hkind.trans h.kind, hincrement.trans h.increment, h.cell⟩

/-- **A call that draws.** -/
theorem answers_drawing (hg : g.Solitary column) (h : g.At column draws (db, o))
    (ha : o.Awaits none g.counter.numberType g.counter.initial.toInt calls draws held) (n : Nat)
    (hn : 9 * o.patience held (g.counter.initial.toInt + g.counter.step * draws) ≤ n) :
    g.Answers column calls
      ((g.unobserved Database.backend none).run n (.drawing held .connecting) (db, o)) := by
  induction hp : o.patience held (g.counter.initial.toInt + g.counter.step * draws) using
    Nat.strong_induction_on generalizing db held draws n with
  | _ k ih =>
    obtain ⟨v, opened, hdb, hv⟩ := h.cell
    have hpos := o.patience_pos held (g.counter.initial.toInt + g.counter.step * draws)
    obtain ⟨m, rfl⟩ : ∃ m, n = 9 + m := ⟨n - 9, by omega⟩
    have hdraws := Counter.draws 0 hg.replaces v opened
    rw [← hdb] at hdraws
    rcases hdraws with ⟨e, he⟩ | ⟨a, w, hdrawn, htype, ha', hw⟩
    · have hrun := Optimizer.run_drawing_error (Prod.ext he rfl) .connecting none held o m
      exact .inl ⟨e, congrArg Prod.fst hrun⟩
    · obtain ⟨k', hk', hrun⟩ := Optimizer.run_drawing_ok hdrawn .connecting none held o m
      have hstep : g.counter.step = o.kind.stride o.increment := by
        rw [hg.step, h.kind, h.increment]
      have hval : a.val = g.counter.initial.toInt + o.kind.stride o.increment * draws := by
        rw [ha', hv, hstep]
      have hat : g.At column (draws + 1) (.cell g.counter.table column w (opened + 1), o) := by
        refine ⟨h.kind, h.increment, w, opened + 1, rfl, ?_⟩
        rw [hw, hv]
        push_cast
        ring
      refine answers_of_supplies hat (Optimizer.take_supplies ha htype hval)
        (fun held' htake hawaits => ?_) (fun result o' htake => ?_)
      · have hless := Optimizer.patience_take htake
        have hnext : a.val + o.kind.stride o.increment =
            g.counter.initial.toInt + g.counter.step * (draws + 1 : Nat) := by
          rw [hval, hstep]
          push_cast
          ring
        rw [hnext, ha', hv] at hless
        rw [Generator.unobserved, hrun, htake]
        exact ih _ (by omega) hat hawaits k' (by omega) rfl
      · rw [Generator.unobserved, hrun, htake]

/-- **Every call** on a database with nothing but the table of the generator comes to an end, and is
answered the next identifier unless it fails. -/
theorem answers_opening (hg : g.Solitary column) (h : g.At column draws (db, o))
    (hrests : o.Rests none g.counter.initial.toInt calls draws) :
    g.Answers column calls
      ((g.unobserved Database.backend none).run Work.manySteps .opening (db, o)) := by
  obtain ⟨v, opened, hdb, hv⟩ := h.cell
  obtain ⟨n, hn⟩ : ∃ n, Work.manySteps = n + 1 := ⟨Work.manySteps - 1, rfl⟩
  have hsize : Work.manySteps = 64 * 2 ^ 64 := rfl
  refine answers_of_supplies h (Optimizer.opening_supplies hrests _)
    (fun held hopening hawaits => ?_) (fun result o' hopening => ?_)
  · have hpatience := o.patience_le held (g.counter.initial.toInt + g.counter.step * draws)
    have hmin := Int64.le_toInt v
    have hstep : g.unobserved Database.backend none .opening (db, o) =
        (.running (.drawing held .connecting), (db, o)) := by
      simp only [Generator.unobserved, Optimizer.generation, hopening, Optimizer.proceed]
    rw [hn, Work.run_of_running hstep]
    exact answers_drawing hg h hawaits n (by omega)
  · rw [hn, Work.run_of_finished]
    simp only [Generator.unobserved, Optimizer.generation, hopening, Optimizer.proceed]

end Generator

end CounterTable
