import CounterTable.Proofs.Number.Integral

/-!
# Arithmetic without wrapping

A sequence of additions, subtractions and multiplications by words, from any value of any type. A
step gives the exact result if that lies in the range of the type, and else it overflows and leaves
the value. The arithmetic of words cannot come between: a result that no word is lies in no range.

* `Arithmetic`, `Arithmetic.exact`: the steps, and what they come to among all integers;
* `Arithmetic.onWords?`, `Arithmetic.onWords?_eq`: the same with words, which may wrap around;
* `Arithmetic.Answers`, `Arithmetic.answers_apply`: what one step answers;
* `Integral.follow`, `Integral.Follows`: steps one after another;
* **`Integral.steps_exact`**: what all steps answer.
-/

namespace CounterTable

open CounterTable.Text

/-! ## Words -/

namespace Text

/-- No word is the integer. -/
def Beyond (n : Int) : Prop := n ≥ 9223372036854775808 ∨ n < -9223372036854775808

theorem word?_of_wrapped {n : Int} {wrapped : Bool} (h : wrapped = true ↔ Beyond n) :
    word? n = if wrapped then none else some (Int64.ofInt n) := by
  have hmin : Int64.minValue.toInt = -9223372036854775808 := rfl
  have hmax : Int64.maxValue.toInt = 9223372036854775807 := rfl
  rw [Beyond] at h
  rw [word?, hmin, hmax]
  by_cases hn : -9223372036854775808 ≤ n ∧ n ≤ 9223372036854775807
  · have hwrapped : ¬ wrapped = true := by
      rw [h]
      omega
    rw [if_pos hn, if_neg hwrapped]
  · have hwrapped : wrapped = true := by
      rw [h]
      omega
    rw [if_neg hn, if_pos hwrapped]

end Text

theorem Integral.ofInt?_eq_bind (type : NumberType) (n : Int) :
    ofInt? type n = (word? n).bind fun w => ofInt? type w.toInt := by
  cases hw : word? n with
  | some w => rw [Option.bind_some, Text.toInt_word hw]
  | none =>
    have hnot : ¬ type.Contains n := fun h => by
      have hword : Int64.minValue.toInt ≤ n ∧ n ≤ Int64.maxValue.toInt := h.long
      rw [word?, if_pos hword] at hw
      cases hw
    rw [ofInt?, dif_neg hnot]
    rfl

/-! ## One step -/

/-- A step of arithmetic, with the word that it takes. -/
inductive Arithmetic where
  | add (n : Int64)
  | subtract (n : Int64)
  | multiply (n : Int64)
  | increment
deriving DecidableEq, Repr

namespace Arithmetic

/-- The step on a value. -/
def apply : Arithmetic → Integral → Except Error Integral
  | add n, a => a.add n.toInt
  | subtract n, a => a.subtract n.toInt
  | multiply n, a => a.multiply n.toInt
  | increment, a => a.increment

/-- What the step comes to among all integers. -/
def exact : Arithmetic → Int → Int
  | add n, m => m + n.toInt
  | subtract n, m => m - n.toInt
  | multiply n, m => m * n.toInt
  | increment, m => m + 1

/-- The sum of words, which wraps around; none if this one does. -/
def sumOfWords? (w n : Int64) : Option Int64 :=
  if w.toBitVec.saddOverflow n.toBitVec then none else some (w + n)

/-- The step with words; none if its result wraps around. -/
def onWords? : Arithmetic → Int64 → Option Int64
  | add n, w => sumOfWords? w n
  | subtract n, w => if w.toBitVec.ssubOverflow n.toBitVec then none else some (w - n)
  | multiply n, w => if w.toBitVec.smulOverflow n.toBitVec then none else some (w * n)
  | increment, w => sumOfWords? w 1

/-- How the step is written between a value and its operand, and the operand. -/
def written : Arithmetic → String × Int
  | add n => ("+", n.toInt)
  | subtract n => ("-", n.toInt)
  | multiply n => ("*", n.toInt)
  | increment => ("+", 1)

/-- The failure of a step that leaves the range. -/
def overflow (op : Arithmetic) (a : Integral) : Error :=
  .overflow
    s!"{renderInt a.val} {op.written.1} {renderInt op.written.2} leaves the {a.type.name} range"

variable {op : Arithmetic} {a : Integral}

theorem sumOfWords?_eq (w n : Int64) : sumOfWords? w n = word? (w.toInt + n.toInt) := by
  have hwrapped : w.toBitVec.saddOverflow n.toBitVec = true ↔ Beyond (w.toInt + n.toInt) := by
    rw [BitVec.saddOverflow, Bool.or_eq_true, decide_eq_true_eq, decide_eq_true_eq]
    rfl
  rw [word?_of_wrapped hwrapped, Int64.ofInt_add, Int64.ofInt_toInt, Int64.ofInt_toInt, sumOfWords?]

theorem onWords?_eq (op : Arithmetic) (w : Int64) : op.onWords? w = word? (op.exact w.toInt) := by
  cases op with
  | add n => exact sumOfWords?_eq w n
  | subtract n =>
    have hwrapped : w.toBitVec.ssubOverflow n.toBitVec = true ↔ Beyond (w.toInt - n.toInt) := by
      rw [BitVec.ssubOverflow, Bool.or_eq_true, decide_eq_true_eq, decide_eq_true_eq]
      rfl
    rw [exact, word?_of_wrapped hwrapped, Int64.ofInt_sub, Int64.ofInt_toInt, Int64.ofInt_toInt,
      onWords?]
  | multiply n =>
    have hwrapped : w.toBitVec.smulOverflow n.toBitVec = true ↔ Beyond (w.toInt * n.toInt) := by
      rw [BitVec.smulOverflow, Bool.or_eq_true, decide_eq_true_eq, decide_eq_true_eq]
      rfl
    rw [exact, word?_of_wrapped hwrapped, Int64.ofInt_mul, Int64.ofInt_toInt, Int64.ofInt_toInt,
      onWords?]
  | increment => exact sumOfWords?_eq w 1

theorem apply_eq_checked (op : Arithmetic) (a : Integral) :
    op.apply a = a.checked op.written.1 op.written.2 (op.exact a.val) := by
  cases op <;> rfl

theorem apply_of_contains (h : a.type.Contains (op.exact a.val)) :
    op.apply a = .ok ⟨a.type, op.exact a.val, h⟩ := by
  rw [apply_eq_checked, Integral.checked_of_contains h]

theorem apply_of_not_contains (h : ¬ a.type.Contains (op.exact a.val)) :
    op.apply a = .error (op.overflow a) := by
  rw [apply_eq_checked, Integral.checked, Integral.ofInt?, dif_neg h, overflow]

/-- What a step has to answer, and the value after it. -/
structure Answers (op : Arithmetic) (a : Integral) (answer : Except Error Integral)
    (next : Integral) : Prop where
  ok_iff : (∃ b, answer = .ok b) ↔ a.type.Contains (op.exact a.val)
  exact : ∀ b, answer = .ok b → b.type = a.type ∧ b.val = op.exact a.val ∧ next = b
  overflow : ∀ e, answer = .error e → e = op.overflow a ∧ next = a
  /-- The result of the step with words, if that does not wrap around and lies in the range. -/
  words : answer.toOption = (op.onWords? a.word).bind fun w => Integral.ofInt? a.type w.toInt

/-- **A step** answers the exact result, or overflows and leaves the value. -/
theorem answers_apply (op : Arithmetic) (a : Integral) :
    op.Answers a (op.apply a) ((op.apply a).toOption.getD a) := by
  have hwords : (op.onWords? a.word).bind (fun w => Integral.ofInt? a.type w.toInt) =
      Integral.ofInt? a.type (op.exact a.val) := by
    rw [onWords?_eq, Integral.toInt_word, ← Integral.ofInt?_eq_bind]
  by_cases h : a.type.Contains (op.exact a.val)
  · rw [apply_of_contains h]
    refine ⟨⟨fun _ => h, fun _ => ⟨_, rfl⟩⟩, ?_, nofun, ?_⟩
    · rintro b ⟨⟩
      exact ⟨rfl, rfl, rfl⟩
    · rw [hwords, Integral.ofInt?, dif_pos h]
      rfl
  · rw [apply_of_not_contains h]
    refine ⟨⟨?_, fun hc => absurd hc h⟩, ?_, ?_, ?_⟩
    · rintro ⟨b, ⟨⟩⟩
    · rintro b ⟨⟩
    · rintro e ⟨⟩
      exact ⟨rfl, rfl⟩
    · rw [hwords, Integral.ofInt?, dif_neg h]
      rfl

end Arithmetic

/-! ## Steps one after another -/

namespace Integral

/-- What steps answer one after another, and the value after them all. A step that fails leaves the
value. -/
def follow (a : Integral) : List Arithmetic → List (Except Error Integral) × Integral
  | [] => ([], a)
  | op :: ops =>
    let rest := follow ((op.apply a).toOption.getD a) ops
    (op.apply a :: rest.1, rest.2)

/-- Each of some steps answers what it has to on the value that the steps before it have left. -/
inductive Follows : Integral → List Arithmetic → List (Except Error Integral) → Integral → Prop
  | nil (a : Integral) : Follows a [] [] a
  | step {op : Arithmetic} {ops : List Arithmetic} {a next last : Integral}
      {answer : Except Error Integral} {answers : List (Except Error Integral)}
      (head : op.Answers a answer next) (rest : Follows next ops answers last) :
      Follows a (op :: ops) (answer :: answers) last

variable {a last : Integral} {ops : List Arithmetic} {answers : List (Except Error Integral)}

theorem follows_follow (a : Integral) (ops : List Arithmetic) :
    Follows a ops (a.follow ops).1 (a.follow ops).2 := by
  induction ops generalizing a with
  | nil => exact .nil a
  | cons op ops ih => exact .step (op.answers_apply a) (ih _)

theorem type_of_answers {op : Arithmetic} {answer : Except Error Integral} {next : Integral}
    (h : op.Answers a answer next) : next.type = a.type := by
  cases answer with
  | error e => rw [(h.overflow e rfl).2]
  | ok b =>
    obtain ⟨htype, -, rfl⟩ := h.exact b rfl
    exact htype

theorem Follows.type_eq (h : Follows a ops answers last) :
    last.type = a.type ∧ ∀ b, .ok b ∈ answers → b.type = a.type := by
  induction h with
  | nil a => exact ⟨rfl, fun _ hb => absurd hb List.not_mem_nil⟩
  | step head rest ih =>
    have hnext := type_of_answers head
    refine ⟨ih.1.trans hnext, fun b hb => ?_⟩
    rcases List.mem_cons.mp hb with heq | hb
    · exact (head.exact b heq.symm).1
    · exact (ih.2 b hb).trans hnext

/-- **Arithmetic is exact.** From any value, which is what its integer is made into, each of any steps
succeeds exactly if the exact result lies in the range of the type, and then answers it; it fails with
an overflow otherwise, and leaves the value. So does the arithmetic of words, with the range of the
type checked after it. All results are of the type of the first value, and lie in its range. -/
theorem steps_exact (a : Integral) (ops : List Arithmetic) :
    make a.type a.val = .ok a ∧ Follows a ops (a.follow ops).1 (a.follow ops).2 ∧
      (a.follow ops).2.type = a.type ∧
      ∀ b, .ok b ∈ (a.follow ops).1 → b.type = a.type ∧ a.type.Contains b.val := by
  have hfollows := follows_follow a ops
  obtain ⟨hlast, htypes⟩ := hfollows.type_eq
  refine ⟨make_of_contains a.inRange, hfollows, hlast, fun b hb => ?_⟩
  have htype := htypes b hb
  exact ⟨htype, htype ▸ b.inRange⟩

/-- The product with -1 is no word, and the next value is one again. -/
example : (follow ⟨.long, -9223372036854775808, by decide⟩ [.multiply (-1), .increment]).1 =
    [.error (.overflow "-9223372036854775808 * -1 leaves the long range"),
      .ok ⟨.long, -9223372036854775807, by decide⟩] := by decide +kernel

end Integral

end CounterTable
