import CounterTable.Session.Session
import Mathlib.Algebra.Order.BigOperators.Group.List
import Mathlib.Algebra.Order.Ring.Nat

/-!
# The time of many executions

The time of an execution is clamped to a word, but the words are added without clamping: the sum
starts over when the word is full. So the time that statistics show is the exact sum only as long as
that fits, it can fall from one execution to the next, and it does not depend on their order.

* `Statistics.elapsed`: the time that is shown, in nanoseconds;
* `Statistics.ofExecutions`, `Statistics.clamped`: executions one after another, and their sum;
* `Statistics.elapsed_ofExecutions`: the time is their sum, as far as it fits;
* `Statistics.elapsed_le_concat_iff`: one more execution;
* **`Statistics.elapsed_adds_up`**: when the time is the sum, and when it falls.
-/

namespace CounterTable.Statistics

/-- The time that is shown, in nanoseconds. -/
def elapsed (s : Statistics) : Nat := s.time.1 * nanosecondsPerSecond + s.time.2

/-- The statistics of executions that took so many nanoseconds, one after another. -/
def ofExecutions (durations : List Nat) : Statistics := durations.foldl executeEnded {}

/-- The sum of times, of which none counts for more than the longest. -/
def clamped (durations : List Nat) : Nat := (durations.map (min · longest)).sum

variable {durations : List Nat}

theorem elapsed_eq (s : Statistics) : s.elapsed = s.nanoseconds.toNat := Nat.div_add_mod' _ _

theorem elapsed_lt (s : Statistics) : s.elapsed < UInt64.size := by
  rw [elapsed_eq]
  exact s.nanoseconds.toNat_lt

theorem elapsed_executeEnded (s : Statistics) (d : Nat) :
    (s.executeEnded d).elapsed = (s.elapsed + min d longest) % UInt64.size := by
  rw [elapsed_eq, elapsed_eq, executeEnded, UInt64.toNat_add, UInt64.toNat_ofNat', Nat.add_mod_mod]

theorem elapsed_foldl (s : Statistics) (durations : List Nat) :
    (durations.foldl executeEnded s).elapsed = (s.elapsed + clamped durations) % UInt64.size := by
  induction durations generalizing s with
  | nil =>
    have hnone : clamped [] = 0 := rfl
    rw [hnone, Nat.add_zero, Nat.mod_eq_of_lt s.elapsed_lt, List.foldl_nil]
  | cons d durations ih =>
    rw [List.foldl_cons, ih, elapsed_executeEnded, Nat.mod_add_mod, Nat.add_assoc]
    rfl

/-- **The time of executions** is their clamped sum, as far as it fits into a word. -/
theorem elapsed_ofExecutions (durations : List Nat) :
    (ofExecutions durations).elapsed = clamped durations % UInt64.size := by
  rw [ofExecutions, elapsed_foldl, Nat.add_comm]
  rfl

theorem ofExecutions_concat (durations : List Nat) (d : Nat) :
    ofExecutions (durations ++ [d]) = (ofExecutions durations).executeEnded d :=
  List.foldl_concat ..

theorem time_eq (s : Statistics) :
    s.time = (s.elapsed / nanosecondsPerSecond, s.elapsed % nanosecondsPerSecond) := by
  rw [elapsed_eq]
  rfl

theorem clamped_eq_sum (h : durations.sum ≤ longest) : clamped durations = durations.sum := by
  have hmap : durations.map (min · longest) = durations :=
    List.map_congr_left (g := id) (fun d hd =>
      min_eq_left ((List.single_le_sum (fun _ _ => Nat.zero_le _) d hd).trans h)) |>.trans
        (List.map_id _)
  rw [clamped, hmap]

theorem elapsed_le_concat_iff (durations : List Nat) (d : Nat) :
    (ofExecutions durations).elapsed ≤ (ofExecutions (durations ++ [d])).elapsed ↔
      (ofExecutions durations).elapsed + min d longest ≤ longest := by
  have hbefore := (ofExecutions durations).elapsed_lt
  have hd : min d longest ≤ longest := min_le_right d longest
  have hsize : UInt64.size = longest + 1 := rfl
  rw [hsize] at hbefore
  rw [ofExecutions_concat, elapsed_executeEnded, hsize]
  by_cases h : (ofExecutions durations).elapsed + min d longest ≤ longest
  · rw [Nat.mod_eq_of_lt (Nat.lt_succ_of_le h)]
    exact iff_of_true (Nat.le_add_right _ _) h
  · rw [Nat.mod_eq_sub_mod (by omega), Nat.mod_eq_of_lt (by omega)]
    exact iff_of_false (by omega) h

/-- **How times add up.** After any executions the time that is shown is their clamped sum modulo
the size of a word. It is the exact sum, cut off at the greatest word, as long as that sum fits into
a word, and beyond that only by the accident that the word has just been filled. One more execution
makes it fall exactly when the word overflows, and the order of the executions does not matter. -/
theorem elapsed_adds_up (durations : List Nat) :
    (ofExecutions durations).elapsed = clamped durations % UInt64.size ∧
      ((ofExecutions durations).elapsed = min durations.sum longest ↔
        durations.sum ≤ longest ∨ clamped durations % UInt64.size = longest) ∧
      (∀ d, (ofExecutions durations).elapsed ≤ (ofExecutions (durations ++ [d])).elapsed ↔
        (ofExecutions durations).elapsed + min d longest ≤ longest) ∧
      ∀ others, others.Perm durations →
        (ofExecutions others).time = (ofExecutions durations).time := by
  refine ⟨elapsed_ofExecutions durations, ?_, elapsed_le_concat_iff durations, ?_⟩
  · rw [elapsed_ofExecutions]
    by_cases h : durations.sum ≤ longest
    · have hlt : durations.sum < UInt64.size := Nat.lt_succ_of_le h
      rw [clamped_eq_sum h, min_eq_left h, Nat.mod_eq_of_lt hlt]
      exact iff_of_true rfl (.inl h)
    · rw [min_eq_right (Nat.le_of_not_le h), or_iff_right h]
  · intro others h
    have hclamped : clamped others = clamped durations := (h.map _).sum_eq
    rw [time_eq, time_eq, elapsed_ofExecutions, elapsed_ofExecutions, hclamped]

/-- The time of a full word is lost in the next nanosecond. -/
theorem elapsed_lost : ¬ ∀ durations,
    (ofExecutions durations).elapsed = min durations.sum longest ∧
      ∀ d, (ofExecutions durations).elapsed ≤ (ofExecutions (durations ++ [d])).elapsed := by
  intro h
  have hfull : (ofExecutions [longest]).elapsed = longest := by decide +kernel
  have hnext : (ofExecutions [longest, 1]).elapsed = 0 := by decide +kernel
  have hle := (h [longest]).2 1
  rw [hfull, List.singleton_append, hnext] at hle
  exact absurd hle (by decide)

end CounterTable.Statistics
