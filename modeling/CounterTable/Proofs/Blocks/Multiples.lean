import CounterTable.Proofs.Blocks.Calls
import CounterTable.Proofs.Number.Integral

/-!
# Blocks below multiples, handed out whole

Whatever the source of a tenant answers, the identifiers that the tenant gets are those of the
blocks of the values that it has drawn, one block after another. The next value is drawn when the
block is used up, and not earlier.

The limit of a block is the identifier after it, and has to lie in the range of the number type as
well. So a block that ends at the greatest value of the type is lost, and it is the only one that
fits and is.

* `HiLo.blockOf`, `HiLo.sources`: the block of a value, and the values that calls have drawn;
* `HiLo.Draw`, `HiLo.Response`: all that a call can come to;
* **`HiLo.response_of_call`**: what a call comes to;
* **`HiLo.blocks_handed_out`**: the identifiers are those of the blocks;
* **`HiLo.block_served_whole`**: a block below the greatest value is handed out to its end.
-/

namespace CounterTable

theorem NumberType.Contains.between {type : NumberType} {n x : Int} (h : type.Contains n)
    (hpos : 1 ≤ x) (hle : x ≤ n) : type.Contains x := by
  have hmin : type.min ≤ 1 := by cases type <;> decide
  exact ⟨Int.le_trans hmin hpos, Int.le_trans hle h.2⟩

/-- The next identifier and the limit of a block are of one type, and in order. -/
structure HiLoBlock.Sound (b : HiLoBlock) : Prop where
  type : b.next.type = b.limit.type
  le : b.next.val ≤ b.limit.val

theorem HiLoBlock.Sound.increment_next {b : HiLoBlock} (h : b.Sound)
    (hlt : b.next.val < b.limit.val) : ∃ next, b.next.increment = .ok next ∧
      { b with next }.Sound ∧ next.val = b.next.val + 1 := by
  have hcontains : b.next.type.Contains (b.next.val + 1) := by
    have hlow := b.next.inRange.1
    have hhigh := b.limit.inRange.2
    rw [← h.type] at hhigh
    exact ⟨by omega, by omega⟩
  exact ⟨_, Integral.add_of_contains hcontains, ⟨h.type, hlt⟩, rfl⟩

namespace HiLo

variable {answers : Nat → Except Error Integral} {t : Tenant} {p q : HiLo} {m n steps : Nat}
  {result : Except Error Integral} {o : Optimizer}

/-- The block of a value of the counter: the multiples of the increment part the blocks. -/
def blockOf (p : HiLo) (s : Integral) : List Int :=
  Int.range ((s.val - 1) * p.increment + 1) (s.val * p.increment + 1)

/-- The values from 1 on among answers. -/
def fromOne (answers : List (Except Error Integral)) : List Integral :=
  (answers.filterMap Except.toOption).filter fun s => 1 ≤ s.val

/-- The values from 1 on that calls have drawn which have succeeded, in their order. -/
def sources (calls : List Called) : List Integral :=
  (calls.filter fun c => c.result.isOk).flatMap fun c => fromOne c.answers

/-- The identifiers of its block that a tenant has left. -/
def left (p : HiLo) (t : Tenant) : List Int :=
  match p.blocks.get? t with
  | some b => Int.range b.next.val b.limit.val
  | none => []

/-- The block of a tenant, if it has one, is sound. -/
def Sound (p : HiLo) (t : Tenant) : Prop := ∀ b, p.blocks.get? t = some b → b.Sound

theorem left_set {b : HiLoBlock} : { p with blocks := p.blocks.set t b }.left t =
    Int.range b.next.val b.limit.val := by
  simp only [left, Keyed.get?_set, beq_self_eq_true, if_true]

theorem sound_set {b : HiLoBlock} (h : b.Sound) :
    { p with blocks := p.blocks.set t b }.Sound t := by
  intro b' hb'
  simp only [Keyed.get?_set, beq_self_eq_true, if_true, Option.some.injEq] at hb'
  exact hb' ▸ h

theorem blockOf_congr (h : q.increment = p.increment) : q.blockOf = p.blockOf := by
  funext s
  rw [blockOf, h, blockOf]

/-! ## What a value comes to -/

theorem contains_limit_iff {s : Integral} (hpos : 1 ≤ s.val) :
    s.type.Contains (s.val * p.increment + 1) ↔ s.val * p.increment < s.type.max := by
  have hmin : s.type.min ≤ s.val := s.inRange.1
  have hgrow : s.val * 1 ≤ s.val * p.increment :=
    Int.mul_le_mul_of_nonneg_left p.increment_pos (by omega)
  constructor
  · intro h
    have hle := h.2
    omega
  · intro h
    exact ⟨by omega, by omega⟩

theorem exists_block {s : Integral} (hpos : 1 ≤ s.val)
    (hfit : s.type.Contains (s.val * p.increment + 1)) : ∃ b, p.block s = .ok b ∧
      b.next.type = b.limit.type ∧ b.limit.val = s.val * p.increment + 1 ∧
        b.next.val = (s.val - 1) * p.increment + 1 := by
  have hincrement := p.increment_pos
  have hsplit : (s.val - 1) * p.increment = s.val * p.increment - p.increment := by
    rw [Int.sub_mul, Int.one_mul]
  have hnonneg : 0 ≤ (s.val - 1) * p.increment := Int.mul_nonneg (by omega) (by omega)
  have hproduct : s.type.Contains (s.val * p.increment) := hfit.between (by omega) (by omega)
  have hfirst : s.type.Contains (s.val * p.increment + 1 - p.increment) :=
    hfit.between (by omega) (by omega)
  obtain ⟨product, hmultiply, hproductType, hproductVal⟩ : ∃ a, s.multiply p.increment = .ok a ∧
      a.type = s.type ∧ a.val = s.val * p.increment := Integral.exists_checked hproduct
  obtain ⟨limit, hlimit, hlimitType, hlimitVal⟩ : ∃ a, product.increment = .ok a ∧
      a.type = product.type ∧ a.val = product.val + 1 :=
    Integral.exists_checked (by rw [hproductType, hproductVal]; exact hfit)
  obtain ⟨first, hsubtract, hfirstType, hfirstVal⟩ : ∃ a, limit.subtract p.increment = .ok a ∧
      a.type = limit.type ∧ a.val = limit.val - p.increment :=
    Integral.exists_checked (by rw [hlimitType, hproductType, hlimitVal, hproductVal]; exact hfirst)
  refine ⟨⟨s, limit, first⟩, ?_, hfirstType, by rw [hlimitVal, hproductVal], ?_⟩
  · rw [block, hmultiply]
    change (product.increment >>= _) = _
    rw [hlimit]
    change (limit.subtract _ >>= _) = _
    rw [hsubtract]
    rfl
  · rw [hfirstVal, hlimitVal, hproductVal]
    omega

/-- **A value whose block ends below the greatest one** of the type gives the tenant its block, of
which the first identifier is handed out. -/
theorem take_of_contains {s : Integral} (hpos : 1 ≤ s.val)
    (hfit : s.type.Contains (s.val * p.increment + 1)) : ∃ (b : HiLoBlock) (first : Integral),
      p.take t s = .answer (.ok first) { p with blocks := p.blocks.set t b } ∧
        b.Sound ∧ p.blockOf s = first.val :: Int.range b.next.val b.limit.val := by
  obtain ⟨b, hb, htype, hlimit, hfirst⟩ := exists_block hpos hfit
  have hincrement := p.increment_pos
  have hsplit : (s.val - 1) * p.increment = s.val * p.increment - p.increment := by
    rw [Int.sub_mul, Int.one_mul]
  have hlt : b.next.val < b.limit.val := by omega
  have hs : b.Sound := ⟨htype, Int.le_of_lt hlt⟩
  obtain ⟨next, hnext, hsound, hval⟩ := hs.increment_next hlt
  refine ⟨{ b with next }, b.next, ?_, hsound, ?_⟩
  · rw [take, if_neg (by omega), hb]
    simp only [serve, hnext]
  · have hblock : p.blockOf s = Int.range b.next.val b.limit.val := by rw [blockOf, hlimit, hfirst]
    rw [hblock, range_eq_cons hlt, hval]

/-- **A value whose block does not end below the greatest one** of the type is lost. -/
theorem take_of_not_contains {s : Integral} (hpos : 1 ≤ s.val)
    (hout : ¬ s.type.Contains (s.val * p.increment + 1)) :
    ∃ text, p.take t s = .answer (.error (.overflow text)) p := by
  have hblock : ∃ text, p.block s = .error (.overflow text) := by
    rw [block, Integral.multiply]
    by_cases hproduct : s.type.Contains (s.val * p.increment)
    · obtain ⟨product, hmultiply, htype, hval⟩ := Integral.exists_checked (a := s) hproduct
      obtain ⟨text, htext⟩ : ∃ text, product.increment = .error (.overflow text) :=
        Integral.checked_of_not_contains (by rw [htype, hval]; exact hout)
      rw [hmultiply]
      change ∃ text, (product.increment >>= _) = _
      rw [htext]
      exact ⟨text, rfl⟩
    · obtain ⟨text, htext⟩ := Integral.checked_of_not_contains (a := s) hproduct
      rw [htext]
      exact ⟨text, rfl⟩
  obtain ⟨text, htext⟩ := hblock
  exact ⟨text, by rw [take, if_neg (by omega), htext]⟩

/-! ## What a call comes to -/

/-- The answers from one number on, up to another, are values below 1, which are skipped. -/
def Skips (answers : Nat → Except Error Integral) (m k : Nat) : Prop :=
  ∀ i, m ≤ i → i < k → ∃ a, answers i = .ok a ∧ a.val < 1

theorem Skips.cons (h : Skips answers (m + 1) n) {a : Integral} (ha : answers m = .ok a)
    (hlt : a.val < 1) : Skips answers m n := by
  intro i hm hn
  rcases Nat.eq_or_lt_of_le hm with rfl | hlt'
  · exact ⟨a, ha, hlt⟩
  · exact h i hlt' hn

theorem Skips.fromOne_eq (h : Skips answers m n) : fromOne (asked answers m n) = [] := by
  refine List.filter_eq_nil_iff.mpr fun s hs => ?_
  obtain ⟨r, hr, hrs⟩ := List.mem_filterMap.mp hs
  obtain ⟨i, hi, rfl⟩ := List.mem_map.mp hr
  obtain ⟨hm, hn⟩ := List.mem_range'_1.mp hi
  obtain ⟨a, ha, hlt⟩ := h i hm (by omega)
  rw [ha] at hrs
  cases hrs
  simpa using hlt

/-- What a call comes to that draws: it skips some values, and the answer after them decides. -/
inductive Draw (answers : Nat → Except Error Integral) (t : Tenant) (m : Nat) (p : HiLo) :
    Except Error Integral → Nat → HiLo → Prop
  /-- The source fails. -/
  | failed {k : Nat} {e : Error} (hle : m ≤ k) (hskip : Skips answers m k)
      (he : answers k = .error e) : Draw answers t m p (.error e) (k + 1) p
  /-- The limit of the block is outside of the range. -/
  | lost {k : Nat} {s : Integral} {text : String} (hle : m ≤ k) (hskip : Skips answers m k)
      (hs : answers k = .ok s) (hpos : 1 ≤ s.val)
      (hout : ¬ s.type.Contains (s.val * p.increment + 1)) :
      Draw answers t m p (.error (.overflow text)) (k + 1) p
  /-- The value gives the tenant its block. -/
  | drew {k : Nat} {s first : Integral} {b : HiLoBlock} (hle : m ≤ k) (hskip : Skips answers m k)
      (hs : answers k = .ok s) (hpos : 1 ≤ s.val) (hb : b.Sound)
      (hblock : p.blockOf s = first.val :: Int.range b.next.val b.limit.val) :
      Draw answers t m p (.ok first) (k + 1) { p with blocks := p.blocks.set t b }

/-- What a call comes to. -/
inductive Response (answers : Nat → Except Error Integral) (t : Tenant) (m : Nat) (p : HiLo) :
    Except Error Integral → Nat → HiLo → Prop
  /-- The block is not used up. -/
  | served {b : HiLoBlock} {next : Integral} (hb : p.blocks.get? t = some b)
      (hlt : b.next.val < b.limit.val) (hnext : next.val = b.next.val + 1)
      (hs : { b with next }.Sound) :
      Response answers t m p (.ok b.next) m { p with blocks := p.blocks.set t { b with next } }
  /-- There is no block, or nothing is left of it. -/
  | drawn {result : Except Error Integral} {n : Nat} {q : HiLo} (hleft : p.left t = [])
      (h : Draw answers t m p result n q) :
      Response answers t m p result n q

theorem Draw.skip (h : Draw answers t (m + 1) p result n q) {a : Integral} (ha : answers m = .ok a)
    (hlt : a.val < 1) : Draw answers t m p result n q := by
  cases h with
  | failed hle hskip he => exact .failed (Nat.le_of_succ_le hle) (hskip.cons ha hlt) he
  | lost hle hskip hs hpos hout =>
    exact .lost (Nat.le_of_succ_le hle) (hskip.cons ha hlt) hs hpos hout
  | drew hle hskip hs hpos hb hblock =>
    exact .drew (Nat.le_of_succ_le hle) (hskip.cons ha hlt) hs hpos hb hblock

theorem draw_of_drawing (h : Optimizer.drawing answers t none steps (m, .hilo p) =
    (some result, (n, o))) : ∃ q, o = .hilo q ∧ Draw answers t m p result n q := by
  induction steps generalizing m with
  | zero => cases h
  | succ steps ih =>
    cases ha : answers m with
    | error e =>
      rw [Optimizer.drawing_of_error ha] at h
      cases h
      exact ⟨p, rfl, .failed (Nat.le_refl m) (fun i hm hi => absurd hi (Nat.not_lt.mpr hm)) ha⟩
    | ok a =>
      have hskip : Skips answers m m := fun i hm hi => absurd hi (Nat.not_lt.mpr hm)
      rw [Optimizer.drawing_of_ok ha] at h
      simp only [Optimizer.take] at h
      by_cases hlt : a.val < 1
      · rw [take, if_pos hlt] at h
        obtain ⟨q, hq, hdraw⟩ := ih h
        exact ⟨q, hq, hdraw.skip ha hlt⟩
      · by_cases hfit : a.type.Contains (a.val * p.increment + 1)
        · obtain ⟨b, first, htake, hb, hblock⟩ := take_of_contains (t := t) (by omega) hfit
          rw [htake] at h
          cases h
          exact ⟨_, rfl, .drew (Nat.le_refl m) hskip ha (by omega) hb hblock⟩
        · obtain ⟨text, htake⟩ := take_of_not_contains (t := t) (by omega) hfit
          rw [htake] at h
          cases h
          exact ⟨_, rfl, .lost (Nat.le_refl m) hskip ha (by omega) hfit⟩

theorem opening_of_lt (hp : p.Sound t) {b : HiLoBlock} (hb : p.blocks.get? t = some b)
    (hlt : b.next.val < b.limit.val) : ∃ next, next.val = b.next.val + 1 ∧
      { b with next }.Sound ∧ p.opening t =
        .answer (.ok b.next) { p with blocks := p.blocks.set t { b with next } } := by
  obtain ⟨next, hnext, hs, hval⟩ := (hp b hb).increment_next hlt
  refine ⟨next, hval, hs, ?_⟩
  simp only [opening, hb, if_pos hlt, serve, hnext]

/-- **What a call comes to.** -/
theorem response_of_call (hp : p.Sound t)
    (h : Optimizer.call answers t steps (m, .hilo p) = (some result, (n, o))) :
    ∃ q, o = .hilo q ∧ Response answers t m p result n q := by
  cases steps with
  | zero => cases h
  | succ steps =>
    have hdraw : p.left t = [] → (Optimizer.hilo p).opening t = .draw none →
        ∃ q, o = .hilo q ∧ Response answers t m p result n q := by
      intro hleft hopening
      rw [Optimizer.call_of_draw hopening] at h
      obtain ⟨q, hq, hdraw⟩ := draw_of_drawing h
      exact ⟨q, hq, .drawn hleft hdraw⟩
    cases hb : p.blocks.get? t with
    | none =>
      refine hdraw (by rw [left, hb]) ?_
      simp only [Optimizer.opening, opening, hb, Outcome.map]
    | some b =>
      by_cases hlt : b.next.val < b.limit.val
      · obtain ⟨next, hval, hs, hopening⟩ := opening_of_lt hp hb hlt
        have hanswer : (Optimizer.hilo p).opening t = .answer (.ok b.next)
            (.hilo { p with blocks := p.blocks.set t { b with next } }) := by
          simp only [Optimizer.opening, hopening, Outcome.map]
        rw [Optimizer.call_of_answer hanswer] at h
        cases h
        exact ⟨_, rfl, .served hb hlt hval hs⟩
      · refine hdraw ?_ ?_
        · rw [left, hb]
          exact range_eq_nil (Int.not_lt.mp hlt)
        · simp only [Optimizer.opening, opening, hb, if_neg hlt, Outcome.map]

theorem left_eq_nil {held : Option Integral} (hp : p.Sound t) (h : (Optimizer.hilo p).opening t =
    .draw held) : p.left t = [] := by
  cases hb : p.blocks.get? t with
  | none => rw [left, hb]
  | some b =>
    by_cases hlt : b.next.val < b.limit.val
    · obtain ⟨next, -, -, hopening⟩ := opening_of_lt hp hb hlt
      simp only [Optimizer.opening, hopening, Outcome.map] at h
      cases h
    · rw [left, hb]
      exact range_eq_nil (Int.not_lt.mp hlt)

/-! ## Runs of calls -/

theorem fromOne_append (as bs : List (Except Error Integral)) :
    fromOne (as ++ bs) = fromOne as ++ fromOne bs := by
  rw [fromOne, List.filterMap_append, List.filter_append]
  rfl

theorem Skips.fromOne_eq_singleton {k : Nat} (hskip : Skips answers m k) (hle : m ≤ k)
    {s : Integral} (hs : answers k = .ok s) (hpos : 1 ≤ s.val) :
    fromOne (asked answers m (k + 1)) = [s] := by
  rw [asked_succ answers hle, fromOne_append, hskip.fromOne_eq, hs, List.nil_append]
  exact List.filter_cons_of_pos (by simpa using hpos)

theorem sources_of_ok (calls : List Called) (as : List (Except Error Integral)) (a : Integral) :
    sources (calls ++ [⟨as, .ok a⟩]) = sources calls ++ fromOne as := by
  have hlast : [(⟨as, .ok a⟩ : Called)].filter (fun c => c.result.isOk) = [⟨as, .ok a⟩] := rfl
  rw [sources, List.filter_append, List.flatMap_append, hlast, List.flatMap_singleton]
  rfl

theorem sources_of_error (calls : List Called) (as : List (Except Error Integral)) (e : Error) :
    sources (calls ++ [⟨as, .error e⟩]) = sources calls := by
  have hlast : [(⟨as, .error e⟩ : Called)].filter (fun c => c.result.isOk) = [] := rfl
  rw [sources, List.filter_append, hlast, List.append_nil]
  rfl

/-- The invariant of calls: what the tenant has left is left of the blocks of the values that they
have drawn. -/
structure Serving (p : HiLo) (t : Tenant) (calls : List Called) (q : HiLo) : Prop where
  increment_eq : q.increment = p.increment
  sound : q.Sound t
  handed : HandedOut ((sources calls).map p.blockOf) (Called.identifiers calls) (q.left t)

/-- **Every call** goes on handing out the blocks. -/
theorem Serving.call {calls : List Called} {q' : HiLo} (h : p.Serving t calls q)
    (hr : Response answers t m q result n q') :
    p.Serving t (calls ++ [⟨asked answers m n, result⟩]) q' := by
  cases hr with
  | @served b next hb hlt hnext hs =>
    refine ⟨h.increment_eq, sound_set hs, ?_⟩
    rw [sources_of_ok, asked_self, Called.identifiers_of_ok, left_set]
    have hleft : q.left t = Int.range b.next.val b.limit.val := by rw [left, hb]
    have hhanded := h.handed
    rw [hleft, range_eq_cons hlt, ← hnext] at hhanded
    simpa [fromOne] using hhanded.next
  | drawn hleft hdraw =>
    cases hdraw with
    | failed hle hskip he =>
      refine ⟨h.increment_eq, h.sound, ?_⟩
      rw [sources_of_error, Called.identifiers_of_error]
      exact h.handed
    | lost hle hskip hs hpos hout =>
      refine ⟨h.increment_eq, h.sound, ?_⟩
      rw [sources_of_error, Called.identifiers_of_error]
      exact h.handed
    | drew hle hskip hs hpos hb hblock =>
      refine ⟨h.increment_eq, sound_set hb, ?_⟩
      have hhanded := h.handed
      rw [hleft] at hhanded
      rw [sources_of_ok, hskip.fromOne_eq_singleton hle hs hpos, Called.identifiers_of_ok, left_set,
        List.map_append, List.map_singleton, ← blockOf_congr h.increment_eq, hblock,
        blockOf_congr h.increment_eq]
      exact hhanded.first

theorem Serving.begin (hp : p.blocks.get? t = none) : p.Serving t [] p where
  increment_eq := rfl
  sound b hb := by
    rw [hp] at hb
    cases hb
  handed := by
    have hleft : p.left t = [] := by rw [left, hp]
    rw [hleft]
    exact .nil

/-- **Every run of calls** hands out the blocks. -/
theorem Serving.run (hp : p.blocks.get? t = none) {calls : List Called}
    (h : Optimizer.Calls answers t (m, .hilo p) calls (n, o)) :
    ∃ q, o = .hilo q ∧ p.Serving t calls q := by
  generalize hend : (n, o) = s at h
  induction h generalizing n o with
  | none =>
    cases hend
    exact ⟨p, rfl, .begin hp⟩
  | more _ hcall ih =>
    cases hend
    obtain ⟨q, rfl, hserving⟩ := ih rfl
    obtain ⟨q', hq', hresponse⟩ := response_of_call hserving.sound hcall
    exact ⟨q', hq', hserving.call hresponse⟩

theorem Serving.exists_response (hp : p.blocks.get? t = none) {calls : List Called}
    (h : Optimizer.Calls answers t (m, .hilo p) calls (n, o)) {c : Called} (hc : c ∈ calls) :
    ∃ k l q q', q.increment = p.increment ∧ c.answers = asked answers k l ∧
      Response answers t k q c.result l q' := by
  generalize hend : (n, o) = s at h
  induction h generalizing n o with
  | none => cases hc
  | more h hcall ih =>
    rcases List.mem_append.mp hc with hc | hc
    · exact ih hc rfl
    · cases List.mem_singleton.mp hc
      obtain ⟨q, rfl, hserving⟩ := Serving.run hp h
      obtain ⟨q', -, hresponse⟩ := response_of_call hserving.sound hcall
      exact ⟨_, _, q, q', hserving.increment_eq, rfl, hresponse⟩

/-- **The blocks of the drawn values are handed out whole**, whatever the source answers. The
identifiers of the calls that have succeeded are, in their order, those of the blocks of the values
from 1 on that the calls have drawn, one block after another, and only the last one may be
incomplete. The next call asks the source only if nothing is left of it. -/
theorem blocks_handed_out (p : HiLo) {t : Tenant} (hp : p.blocks.get? t = none)
    {answers : Nat → Except Error Integral} {m n : Nat} {calls : List Called} {o : Optimizer}
    (h : Optimizer.Calls answers t (m, .hilo p) calls (n, o)) :
    ∃ left, HandedOut ((sources calls).map p.blockOf) (Called.identifiers calls) left ∧
      ∀ steps r n' o', Optimizer.call answers t steps (n, o) = (r, (n', o')) → n < n' →
        left = [] := by
  obtain ⟨q, rfl, hserving⟩ := Serving.run hp h
  refine ⟨q.left t, hserving.handed, fun steps r n' o' hcall hlt => ?_⟩
  obtain ⟨held, hopening⟩ := Optimizer.exists_draw_of_lt hcall hlt
  exact left_eq_nil hserving.sound hopening

/-- Blocks of two identifiers. -/
def twos : HiLo := { increment := 2, increment_pos := by decide }

/-- The answers for them: one value is skipped, two have their blocks, and between them the source
fails. -/
def answersForTwos : Nat → Except Error Integral :=
  listed [Integral.make .long 0, Integral.make .long 1, .error (.lock "taken"),
    Integral.make .long 5]

/-- The state after so many calls. -/
def twosAfter : Nat → Nat × Optimizer
  | 0 => (0, .hilo twos)
  | calls + 1 => (Optimizer.call answersForTwos none 3 (twosAfter calls)).2

theorem blocks_handed_out_twos : ∃ calls,
    Optimizer.Calls answersForTwos none (0, .hilo twos) calls (twosAfter 4) ∧
      Called.identifiers calls = [1, 2, 9] ∧
      ∃ left, HandedOut [[1, 2], [9, 10]] [1, 2, 9] left := by
  have h₁ : (Optimizer.call answersForTwos none 3 (twosAfter 0)).1 =
      some (.ok ⟨.long, 1, by decide⟩) := rfl
  have h₂ : (Optimizer.call answersForTwos none 3 (twosAfter 1)).1 =
      some (.ok ⟨.long, 2, by decide⟩) := rfl
  have h₃ : (Optimizer.call answersForTwos none 3 (twosAfter 2)).1 =
      some (.error (.lock "taken")) := rfl
  have h₄ : (Optimizer.call answersForTwos none 3 (twosAfter 3)).1 =
      some (.ok ⟨.long, 9, by decide⟩) := rfl
  have h := (((Optimizer.Calls.single h₁).trans (.single h₂)).trans (.single h₃)).trans (.single h₄)
  obtain ⟨left, hleft, -⟩ := blocks_handed_out twos rfl h
  exact ⟨_, h, rfl, left, hleft⟩

/-! ## A block to its end -/

theorem exists_drawing {k : Nat} {s : Integral} (hle : m ≤ k) (hskip : Skips answers m k)
    (hs : answers k = .ok s) (htake : p.take t s = .answer result q) : ∃ steps,
      Optimizer.drawing answers t none steps (m, .hilo p) = (some result, (k + 1, .hilo q)) := by
  obtain ⟨j, rfl⟩ := Nat.exists_eq_add_of_le hle
  clear hle
  induction j generalizing m with
  | zero =>
    rw [Nat.add_zero] at hs ⊢
    refine ⟨0 + 1, ?_⟩
    rw [Optimizer.drawing_of_ok hs]
    simp only [Optimizer.take, htake, Outcome.map]
  | succ j ih =>
    obtain ⟨a, ha, hlt⟩ := hskip m (Nat.le_refl m) (by omega)
    have hnext : m + (j + 1) = m + 1 + j := by omega
    rw [hnext] at hskip hs ⊢
    obtain ⟨steps, hsteps⟩ := ih (fun i hm hi => hskip i (Nat.le_of_succ_le hm) hi) hs
    refine ⟨steps + 1, ?_⟩
    rw [Optimizer.drawing_of_ok ha]
    simp only [Optimizer.take, take, if_pos hlt, Outcome.map]
    exact hsteps

/-- The calls after each other that hand out what is left of a block. They ask the source for
nothing. -/
theorem exists_calls_left (answers : Nat → Except Error Integral) (n : Nat) {b : HiLoBlock}
    (hb : q.blocks.get? t = some b) (hs : b.Sound) : ∃ calls o,
      Optimizer.Calls answers t (n, .hilo q) calls (n, o) ∧
        calls.map (fun c => c.result.map Integral.val) =
          (Int.range b.next.val b.limit.val).map .ok ∧ ∀ c ∈ calls, c.answers = [] := by
  generalize hlength : (b.limit.val - b.next.val).toNat = length
  induction length generalizing q b with
  | zero =>
    have hle : b.limit.val ≤ b.next.val := by omega
    refine ⟨[], _, .none, ?_, List.forall_mem_nil _⟩
    rw [range_eq_nil hle]
    rfl
  | succ length ih =>
    have hlt : b.next.val < b.limit.val := by omega
    have hsound : q.Sound t := fun b' hb' => by
      cases hb.symm.trans hb'
      exact hs
    obtain ⟨next, hnext, hs', hopening⟩ := opening_of_lt hsound hb hlt
    have hanswer : (Optimizer.hilo q).opening t = .answer (.ok b.next)
        (.hilo { q with blocks := q.blocks.set t { b with next } }) := by
      simp only [Optimizer.opening, hopening, Outcome.map]
    have hcall : Optimizer.call answers t 1 (n, .hilo q) = (some (.ok b.next),
        (n, .hilo { q with blocks := q.blocks.set t { b with next } })) :=
      Optimizer.call_of_answer hanswer n 0
    obtain ⟨calls, o, hcalls, hresults, hanswers⟩ := ih (b := { b with next })
      (q := { q with blocks := q.blocks.set t { b with next } }) (by simp) hs'
      (by show (b.limit.val - next.val).toNat = length; omega)
    refine ⟨_, o, (Optimizer.Calls.none.more hcall).trans hcalls, ?_, ?_⟩
    · rw [range_eq_cons hlt, ← hnext, List.map_append, hresults]
      rfl
    · simpa [asked_self] using hanswers

/-- **No block below the greatest value of the type is lost.** If the next call draws, and the first
value from 1 on that it is answered has its block below the greatest value of the type, then this
call and those after it hand out the block from its first identifier to its last one, and they ask
for no other value. A call fails only if the source does, or if its value has a block that reaches
the greatest value of the type. -/
theorem block_served_whole (p : HiLo) {t : Tenant} (hp : p.blocks.get? t = none)
    {answers : Nat → Except Error Integral} {m n : Nat} {calls : List Called} {o : Optimizer}
    (h : Optimizer.Calls answers t (m, .hilo p) calls (n, o)) :
    (∀ k s, o.opening t = .draw none → n ≤ k →
      (∀ i, n ≤ i → i < k → ∃ a, answers i = .ok a ∧ a.val < 1) → answers k = .ok s →
      1 ≤ s.val → s.val * p.increment < s.type.max →
        ∃ block o', Optimizer.Calls answers t (n, o) block (k + 1, o') ∧
          block.map (fun c => c.result.map Integral.val) =
            (Int.range ((s.val - 1) * p.increment + 1) (s.val * p.increment + 1)).map .ok ∧
          ∀ c ∈ block.tail, c.answers = []) ∧
      ∀ c ∈ calls, ∀ e, c.result = .error e →
        c.answers.getLast? = some (.error e) ∨ ∃ s text, c.answers.getLast? = some (.ok s) ∧
          1 ≤ s.val ∧ s.type.max ≤ s.val * p.increment ∧ e = .overflow text := by
  obtain ⟨q, rfl, hserving⟩ := Serving.run hp h
  refine ⟨fun k s hopening hle hskip hs hpos hfit => ?_, fun c hc e he => ?_⟩
  · have hincrement := hserving.increment_eq
    have hcontains : s.type.Contains (s.val * q.increment + 1) := by
      rw [hincrement]
      exact (contains_limit_iff hpos).mpr hfit
    obtain ⟨b, first, htake, hb, hblock⟩ := take_of_contains (t := t) hpos hcontains
    obtain ⟨steps, hsteps⟩ := exists_drawing hle hskip hs htake
    have hcall : Optimizer.call answers t (steps + 1) (n, .hilo q) =
        (some (.ok first), (k + 1, .hilo { q with blocks := q.blocks.set t b })) := by
      rw [Optimizer.call_of_draw hopening]
      exact hsteps
    obtain ⟨rest, o', hrest, hresults, hanswers⟩ := exists_calls_left answers (k + 1)
      (q := { q with blocks := q.blocks.set t b }) (t := t) (b := b) (by simp) hb
    refine ⟨_, o', (Optimizer.Calls.none.more hcall).trans hrest, ?_, hanswers⟩
    rw [List.map_append, hresults, ← hincrement]
    exact congrArg (List.map Except.ok) hblock.symm
  · obtain ⟨k, l, q, q', hincrement, hanswers, hresponse⟩ := Serving.exists_response hp h hc
    have hlast : ∀ i, k ≤ i → c.answers = asked answers k (i + 1) →
        c.answers.getLast? = some (answers i) := fun i hi hasked => by
      rw [hasked, asked_succ answers hi, List.getLast?_concat]
    rw [he] at hresponse
    cases hresponse with
    | drawn hleft hdraw =>
      cases hdraw with
      | failed hle hskip herror => exact .inl (herror ▸ hlast _ hle hanswers)
      | lost hle hskip hs hpos hout =>
        refine .inr ⟨_, _, hs ▸ hlast _ hle hanswers, hpos, ?_, rfl⟩
        rw [← hincrement]
        exact Int.not_lt.mp fun hlt => hout ((contains_limit_iff hpos).mpr hlt)

/-- Blocks of seven identifiers. -/
def sevens : HiLo := { increment := 7, increment_pos := by decide }

/-- The value whose block of seven ends at the greatest value of its type. -/
def crest : Integral := ⟨.short, 4681, by decide⟩

/-- Answers for them: the value whose block is lost, one that is skipped, and one whose block ends
below the greatest value. -/
def answersForSevens : Nat → Except Error Integral :=
  listed [.ok crest, Integral.make .short 0, Integral.make .short 4680]

theorem block_served_whole_sevens : ∃ calls,
    Optimizer.Calls answersForSevens none (0, .hilo sevens) calls (1, .hilo sevens) ∧
      (∃ block o, Optimizer.Calls answersForSevens none (1, .hilo sevens) block (3, o) ∧
        block.map (fun c => c.result.map Integral.val) =
          [32754, 32755, 32756, 32757, 32758, 32759, 32760].map .ok) ∧
      ∀ c ∈ calls, ∃ s text, c.answers.getLast? = some (.ok s) ∧
        s.type.max ≤ s.val * 7 ∧ c.result = .error (.overflow text) := by
  have hfirst : (Optimizer.call answersForSevens none 2 (0, .hilo sevens)).1 =
      some (.error (.overflow "32767 + 1 leaves the short range")) := rfl
  have h := Optimizer.Calls.single hfirst
  obtain ⟨hserved, hfailed⟩ := block_served_whole sevens rfl h
  have hskip : ∀ i, 1 ≤ i → i < 2 → ∃ a, answersForSevens i = .ok a ∧ a.val < 1 := by
    intro i hm hi
    obtain rfl : i = 1 := by omega
    exact ⟨_, rfl, by decide⟩
  refine ⟨_, h, ?_, fun c hc => ?_⟩
  · obtain ⟨block, o, hcalls, hresults, -⟩ := hserved 2 ⟨.short, 4680, by decide⟩ rfl (by decide)
      hskip rfl (by decide) (by decide)
    exact ⟨block, o, hcalls, hresults⟩
  · cases List.mem_singleton.mp hc
    obtain hsource | ⟨s, text, hs, -, hmax, he⟩ := hfailed _ hc _ rfl
    · cases hsource
    · exact ⟨s, text, hs, hmax, congrArg Except.error he⟩

/-- The block that ends at the greatest value of the type would fit, but is lost. -/
theorem last_block_lost : 1 ≤ crest.val ∧ crest.val * sevens.increment = crest.type.max ∧
    Optimizer.call (listed [.ok crest]) none 2 (0, .hilo sevens) =
      (some (.error (.overflow "32767 + 1 leaves the short range")), (1, .hilo sevens)) := by
  refine ⟨by decide, by decide, ?_⟩
  rfl

end HiLo

end CounterTable
