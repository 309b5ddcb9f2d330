import CounterTable.Blocks.Optimizer
import Mathlib.Data.Int.Range

/-!
# The calls of a tenant

A tenant calls an optimizer again and again. The values that its calls need come from a source of
which nothing is known: whatever it is asked for, it answers a value or fails. The identifiers come
from blocks, which are handed out one after another.

* `Optimizer.call`, `Optimizer.Calls`: a call, and calls one after another, each with the answers
  that the source has given it;
* `HandedOut`: identifiers that have been handed out of blocks, and what is left of the last block;
* `Optimizer.call_of_answer`, `Optimizer.call_of_draw`, `Optimizer.drawing_of_ok`: the steps of a
  call;
* **`Optimizer.exists_draw_of_lt`**: a call that has asked the source began by drawing.
-/

namespace CounterTable

/-! ## Calls -/

/-- A source that gives these answers, one after another. Its state is how many it has given. -/
def answering (answers : Nat → Except Error Integral) : Work Nat Unit Integral :=
  Work.once fun n => (answers n, n + 1)

/-- The answers of a list, and failures after them. -/
def listed (answers : List (Except Error Integral)) (n : Nat) : Except Error Integral :=
  answers.getD n (.error (.connection "no more answers"))

/-- The answers from one number on, up to another. -/
def asked (answers : Nat → Except Error Integral) (m n : Nat) : List (Except Error Integral) :=
  (List.range' m (n - m)).map answers

/-- A call that has returned: the answers that it was given, and its result. -/
structure Called where
  answers : List (Except Error Integral)
  result : Except Error Integral

namespace Called

/-- The identifier that a call has returned, if it has succeeded. -/
def identifier? (c : Called) : Option Int := c.result.toOption.map Integral.val

/-- The identifiers that calls have returned, in their order. -/
def identifiers (calls : List Called) : List Int := calls.filterMap identifier?

theorem identifiers_of_ok (calls : List Called) {answers : List (Except Error Integral)}
    {a : Integral} : identifiers (calls ++ [⟨answers, .ok a⟩]) = identifiers calls ++ [a.val] := by
  rw [identifiers, List.filterMap_append]
  rfl

theorem identifiers_of_error (calls : List Called) {answers : List (Except Error Integral)}
    {e : Error} : identifiers (calls ++ [⟨answers, .error e⟩]) = identifiers calls := by
  rw [identifiers, List.filterMap_append]
  exact List.append_nil _

end Called

theorem asked_self (answers : Nat → Except Error Integral) (m : Nat) : asked answers m m = [] := by
  rw [asked, Nat.sub_self]
  rfl

theorem asked_succ (answers : Nat → Except Error Integral) {m n : Nat} (h : m ≤ n) :
    asked answers m (n + 1) = asked answers m n ++ [answers n] := by
  have hlength : n + 1 - m = (n - m) + 1 := by omega
  have hlast : m + 1 * (n - m) = n := by omega
  rw [asked, hlength, List.range'_concat, List.map_append, hlast]
  rfl

namespace Optimizer

section Definitions

variable (answers : Nat → Except Error Integral) (t : Tenant)

/-- A call of a tenant, for at most this many steps, on a source that has given so many answers. -/
def call (steps : Nat) (s : Nat × Optimizer) :
    Option (Except Error Integral) × (Nat × Optimizer) :=
  Work.run (generation (answering answers) () t) steps .opening s

/-- A call that draws, and holds this. -/
def drawing (held : Option Integral) (steps : Nat) (s : Nat × Optimizer) :
    Option (Except Error Integral) × (Nat × Optimizer) :=
  Work.run (generation (answering answers) () t) steps (.drawing held ()) s

/-- Calls of a tenant, one after another, from one state to another. -/
inductive Calls (s : Nat × Optimizer) : List Called → Nat × Optimizer → Prop
  | none : Calls s [] s
  | more {calls : List Called} {m n steps : Nat} {o o' : Optimizer}
      {result : Except Error Integral} (h : Calls s calls (m, o))
      (hcall : call answers t steps (m, o) = (some result, (n, o'))) :
      Calls s (calls ++ [⟨asked answers m n, result⟩]) (n, o')

end Definitions

variable {answers : Nat → Except Error Integral} {t : Tenant} {o o' : Optimizer} {m n steps : Nat}
  {held : Option Integral} {result : Except Error Integral}

theorem Calls.trans {s s' s'' : Nat × Optimizer} {calls calls' : List Called}
    (h : Calls answers t s calls s') (h' : Calls answers t s' calls' s'') :
    Calls answers t s (calls ++ calls') s'' := by
  induction h' with
  | none => rwa [List.append_nil]
  | more _ hcall ih =>
    rw [← List.append_assoc]
    exact .more ih hcall

theorem Calls.single {s : Nat × Optimizer} (h : (call answers t steps s).1 = some result) :
    Calls answers t s [⟨asked answers s.1 (call answers t steps s).2.1, result⟩]
      (call answers t steps s).2 :=
  Calls.none.more (Prod.ext h rfl)

/-! ## The steps of a call -/

theorem call_of_answer (h : o.opening t = .answer result o') (m steps : Nat) :
    call answers t (steps + 1) (m, o) = (some result, (m, o')) := by
  simp only [call, Work.run, generation, h, proceed]

theorem call_of_draw (h : o.opening t = .draw held) (m steps : Nat) :
    call answers t (steps + 1) (m, o) = drawing answers t held steps (m, o) := by
  simp only [call, Work.run, generation, h, proceed, drawing]

theorem drawing_of_error {e : Error} (h : answers m = .error e) (o : Optimizer) (steps : Nat) :
    drawing answers t held (steps + 1) (m, o) = (some (.error e), (m + 1, o)) := by
  simp only [drawing, Work.run, generation, answering, Work.once, h]

theorem drawing_of_ok {drawn : Integral} (h : answers m = .ok drawn) (o : Optimizer) (steps : Nat) :
    drawing answers t held (steps + 1) (m, o) =
      match o.take t held drawn with
      | .draw held => drawing answers t held steps (m + 1, o)
      | .answer result o' => (some result, (m + 1, o')) := by
  simp only [drawing, Work.run, generation, answering, Work.once, h]
  cases o.take t held drawn <;> rfl

/-- **A call asks the source** only if it begins by drawing. -/
theorem exists_draw_of_lt {r : Option (Except Error Integral)}
    (h : call answers t steps (m, o) = (r, (n, o'))) (hlt : m < n) :
    ∃ held, o.opening t = .draw held := by
  cases hopening : o.opening t with
  | draw held => exact ⟨held, rfl⟩
  | answer result o'' =>
    cases steps with
    | zero =>
      cases h
      exact absurd hlt (Nat.lt_irrefl _)
    | succ steps =>
      rw [call_of_answer hopening] at h
      cases h
      exact absurd hlt (Nat.lt_irrefl _)

end Optimizer

/-! ## Blocks -/

theorem range_eq_nil {low high : Int} (h : high ≤ low) : Int.range low high = [] := by
  have hzero : (high - low).toNat = 0 := by omega
  rw [Int.range, hzero]
  rfl

theorem range_eq_cons {low high : Int} (h : low < high) :
    Int.range low high = low :: Int.range (low + 1) high := by
  have hlength : (high - low).toNat = (high - (low + 1)).toNat + 1 := by omega
  rw [Int.range, hlength, List.range_succ_eq_map, List.map_cons, List.map_map, Int.range]
  refine congrArg₂ List.cons (Int.add_zero low) (List.map_congr_left fun i _ => ?_)
  simp only [Function.comp_apply, Nat.succ_eq_add_one]
  omega

/-- Identifiers that have been handed out of blocks, one block after another, and what is left of
the last block. A block of which nothing has been handed out is none of them. -/
structure HandedOut (blocks : List (List Int)) (given left : List Int) : Prop where
  all : given ++ left = blocks.flatten
  begun : ∀ block ∈ blocks.getLast?, left.length < block.length

namespace HandedOut

variable {blocks : List (List Int)} {given left : List Int} {a : Int}

theorem nil : HandedOut [] [] [] := ⟨rfl, nofun⟩

theorem next (h : HandedOut blocks given (a :: left)) : HandedOut blocks (given ++ [a]) left where
  all := by rw [List.append_assoc, List.singleton_append, h.all]
  begun block hblock := Nat.lt_of_succ_lt (h.begun block hblock)

theorem first (h : HandedOut blocks given []) :
    HandedOut (blocks ++ [a :: left]) (given ++ [a]) left where
  all := by
    have hall := h.all
    rw [List.append_nil] at hall
    rw [List.flatten_concat, ← hall, List.append_assoc, List.singleton_append]
  begun block hblock := by
    rw [List.getLast?_concat, Option.mem_some_iff] at hblock
    subst hblock
    exact Nat.lt_succ_self _

end HandedOut

end CounterTable
