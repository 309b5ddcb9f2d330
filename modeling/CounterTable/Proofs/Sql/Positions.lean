import CounterTable.Proofs.Sql.Parameters
import CounterTable.Proofs.Sql.QueryPlaces
import CounterTable.Proofs.Store.Substitution

/-!
# The positions of parameters

The placeholders that stand for values get their positions in the order of the text. Those in other
parts of a statement are skipped, so that the position of a placeholder can be less than its ordinal
among all placeholders of the text. It is its ordinal where none is skipped before it.

* `Placeless`, `Ordered`: what is read of a statement holds its placeholders in order;
* `Clause.values`, `Clause.ordinals`: what stands for values, and the ordinals of those
  placeholders;
* `Numbered`: how placeholders are numbered;
* `add_countP_notMem`: numbers and ordinals;
* `Statement.Positioned`, **`Statement.parameters_in_order`**: the positions.
-/

namespace CounterTable

open CounterTable.Sql

namespace Sql.Grammar

variable {α : Type} {g : Nesting}

/-! ## Statements without values -/

/-- What is read holds no places. -/
class Placeless (p : Parser Clause) : Prop where
  places : ∀ {ts us : List Token} {c : Clause}, p ts = some (c, us) → c.places = []

namespace Placeless

variable {p : Parser α} {q r : Parser Clause} {f : α → Parser Clause}

theorem pure {c : Clause} (h : c.places = []) : Placeless (Pure.pure c) where
  places hp := by
    cases hp
    exact h

instance other : Placeless (Pure.pure .other) := pure rfl

instance failure : Placeless Alternative.failure where
  places hp := by cases hp

instance bind [hf : ∀ a, Placeless (f a)] : Placeless (p >>= f) where
  places h := by
    obtain ⟨a, us, -, hrest⟩ := exists_of_bind h
    exact (hf a).places hrest

theorem step (h : ∀ a, Placeless (f a)) : Placeless (p >>= f) := inferInstance

instance ite {c : Prop} [Decidable c] [Placeless q] [Placeless r] :
    Placeless (if c then q else r) := by
  split <;> infer_instance

instance createTable : Placeless (Grammar.createTable g) := by
  unfold Grammar.createTable
  repeat refine step fun _ => ?_
  split <;> first | exact step fun _ => pure rfl | exact pure rfl

instance createView : Placeless (Grammar.createView g) := by
  unfold Grammar.createView
  repeat refine step fun _ => ?_
  split
  · repeat refine step fun _ => ?_
    infer_instance
  · repeat refine step fun _ => ?_
    infer_instance

instance createIndex : Placeless (Grammar.createIndex g) := by
  unfold Grammar.createIndex
  refine step fun _ => step fun _ => step fun _ => ?_
  extract_lets named
  have hnamed : ∀ u, Placeless (named u) := fun _ => by
    unfold named
    repeat refine step fun _ => ?_
    infer_instance
  split
  · exact step fun _ => step hnamed
  · exact hnamed ()

instance createOther (kind : String) : Placeless (Grammar.createOther g kind) := by
  unfold Grammar.createOther
  refine step fun _ => ?_
  extract_lets done owned
  have hdone : ∀ u, Placeless (done u) := fun _ => pure rfl
  have howned : ∀ u, Placeless (owned u) := fun _ =>
    step fun _ => step fun _ => step fun _ => step hdone
  split
  · refine step fun _ => ?_
    split
    · exact howned ()
    · exact step fun _ => step howned
  · exact step fun _ => step fun _ => step hdone
  · exact step fun _ => step fun _ => step fun _ => step hdone
  · exact step fun _ => step fun _ => step hdone
  · refine step fun _ => step fun _ => step fun _ => ?_
    split
    · exact step hdone
    · refine step fun _ => step fun _ => ?_
      split
      · exact hdone ()
      · exact step fun _ => step hdone
  · exact step fun _ => step fun _ => step fun _ => step fun _ => step fun _ => step hdone
  · refine step fun _ => step fun _ => ?_
    split
    · exact step fun _ => step fun _ => step hdone
    · exact hdone ()
  · exact step hdone

instance create : Placeless (Grammar.create g) := by
  unfold Grammar.create
  repeat refine step fun _ => ?_
  infer_instance

instance drop : Placeless Grammar.drop := by
  unfold Grammar.drop
  refine step fun _ => step fun _ => ?_
  extract_lets done done' dropped
  have hdone : ∀ u, Placeless (done u) := fun _ => step fun _ => pure rfl
  have hdone' : ∀ u, Placeless (done' u) := fun _ => step fun _ => pure rfl
  have hdropped : ∀ kind, Placeless (dropped kind) := fun kind => by
    refine step fun ifExists => ?_
    split
    · infer_instance
    split
    · infer_instance
    split
    · infer_instance
    refine step fun names => step fun _ => step fun _ => step fun _ => ?_
    extract_lets listed
    have hlisted : ∀ u, Placeless (listed u) := fun _ => step fun _ => pure rfl
    split
    · exact step hlisted
    · exact hlisted ()
  infer_instance

instance alter : Placeless (Grammar.alter g) := by
  unfold Grammar.alter
  refine step fun kind => ?_
  extract_lets done
  have hdone : ∀ u, Placeless (done u) := fun _ => pure rfl
  split
  · exact step fun _ => step fun _ => step fun _ => step fun _ => step hdone
  · exact step fun _ => step fun _ => step fun _ => step fun _ => step hdone
  · refine step fun _ => step fun _ => step fun _ => ?_
    split
    · exact hdone ()
    · exact step fun _ => step hdone
  · exact step fun _ => step fun _ => step hdone

instance delete : Placeless (Grammar.delete g) := by
  unfold Grammar.delete
  repeat refine step fun _ => ?_
  infer_instance

instance merge : Placeless (Grammar.merge g) := by
  unfold Grammar.merge
  repeat refine step fun _ => ?_
  infer_instance

instance truncate : Placeless (Grammar.truncate g) := by
  unfold Grammar.truncate
  repeat refine step fun _ => ?_
  split
  · infer_instance
  · exact step fun _ => step fun _ => pure rfl

instance setting : Placeless (Grammar.setting g) := by
  unfold Grammar.setting
  refine step fun _ => step fun _ => ?_
  extract_lets done
  have hdone : ∀ u, Placeless (done u) := fun _ => pure rfl
  infer_instance

instance explanation : Placeless (Grammar.explanation g) := by
  unfold Grammar.explanation
  refine step fun _ => ?_
  extract_lets answered asked
  have hanswered : ∀ again, Placeless (answered again) := fun again => by
    refine step fun c => ?_
    split <;> infer_instance
  have hasked : ∀ u, Placeless (asked u) := fun _ => by
    refine step fun t => ?_
    split <;> infer_instance
  split
  · exact hasked ()
  · exact step fun _ => step fun _ => step hasked

instance transaction (word : String) : Placeless (Grammar.transaction word) := by
  unfold Grammar.transaction
  split <;> infer_instance

instance rights (last : String) : Placeless (Grammar.rights last) := by
  unfold Grammar.rights
  refine step fun _ => step fun _ => ?_
  extract_lets given
  have hgiven : ∀ u, Placeless (given u) := fun _ => by
    unfold given
    repeat refine step fun _ => ?_
    infer_instance
  split
  · exact step fun _ => step hgiven
  · exact hgiven ()

instance command (word : String) : Placeless (Grammar.command g word) := by
  unfold Grammar.command
  extract_lets done prepared
  have hdone : ∀ u, Placeless (done u) := fun _ => pure rfl
  have hprepared : ∀ u, Placeless (prepared u) := fun _ => step fun _ => step hdone
  split <;> first | infer_instance | exact step fun _ => step fun _ => inferInstance

end Placeless

/-! ## Statements of a text -/

/-- What is read holds its placeholders in the order of the text. -/
class Ordered (p : Parser Clause) : Prop where
  passed : ∀ {ts us : List Token} {c : Clause},
    p ts = some (c, us) → ∃ vs, Passed ts c.places vs

namespace Ordered

variable {p : Parser α} {q : Parser Clause} {f : α → Parser Clause}

instance of_placeless [hq : Placeless q] : Ordered q where
  passed {ts us c} h := ⟨ts, by
    rw [hq.places h]
    exact .nil (List.suffix_refl ts)⟩

instance of_keeps [hq : Keeps [] Clause.places q] : Ordered q where
  passed h := ⟨_, hq.passed (.nil (List.suffix_refl _)) h⟩

theorem step [hp : Passes p] (hf : ∀ a, Ordered (f a)) : Ordered (p >>= f) where
  passed h := by
    obtain ⟨a, us, hfirst, hrest⟩ := exists_of_bind h
    obtain ⟨vs, hvs⟩ := (hf a).passed hrest
    exact ⟨vs, (Passed.nil (hp.suffix hfirst)).append hvs⟩

instance clause [hg : Orderly g] : Ordered (Grammar.clause g) := by
  have hquery : Keeps [] Clause.places (Clause.query <$> g.query) :=
    .map hg.query fun _ => List.Sublist.refl _
  unfold Grammar.clause
  refine step fun t => ?_
  split
  · infer_instance
  · split
    · infer_instance
    · refine step fun _ => ?_
      split <;> infer_instance
  · infer_instance

end Ordered

theorem exists_passed {text : List Char} {c : Clause} (h : statements text = some [c]) :
    ∃ ts us, tokenize text = some ts ∧ Passed ts c.places us := by
  obtain ⟨ts, us, hts, hwithin⟩ := exists_of_statements h
  obtain ⟨vs, ws, hskip, hclause⟩ := exists_of_statementsWithin hwithin
  have hsemicolons : Passes
      (skip (many do if ← symbol? ";" then return some () else return none)) := inferInstance
  obtain ⟨xs, hpassed⟩ := (Ordered.clause (g := nesting (depthLimit - 1))).passed hclause
  exact ⟨ts, xs, hts, (Passed.nil (hsemicolons.suffix hskip)).append hpassed⟩

end Sql.Grammar

/-! ## Values -/

namespace Sql

/-- The place of a value that is a placeholder without a position, possibly in parentheses. -/
def Expr.place? : Expr → Option Nat
  | .placeholder text behind => if text = "?" then some behind else none
  | .nested e => e.place?
  | _ => none

/-- What a filter compares with. -/
def Expr.compared : Expr → Expr
  | .nested e => e.compared
  | .equation _ r => r
  | e => e

/-- The values of a statement: what is inserted or assigned, and what is compared with. -/
def Clause.values : Clause → List Expr
  | .insert _ _ (some ⟨.values rows, _, _⟩) => rows.flatten
  | .query ⟨.select s, _, _⟩ => s.filter.toList.map Expr.compared
  | .update _ changes filter => changes.map Prod.snd ++ filter.toList.map Expr.compared
  | _ => []

/-- The places of the values that are placeholders. -/
def Clause.valuePlaces (c : Clause) : List Nat := c.values.filterMap Expr.place?

theorem Expr.sublist_place? (e : Expr) : e.place?.toList.Sublist e.places := by
  induction e with
  | placeholder text behind =>
    unfold place? places
    split <;> exact List.Sublist.refl _
  | nested e ih => exact ih
  | _ => exact List.nil_sublist _

theorem Expr.sublist_compared (e : Expr) : e.compared.place?.toList.Sublist e.places := by
  induction e with
  | nested e ih => exact ih
  | equation l r => exact (sublist_place? r).trans (List.sublist_append_right _ _)
  | _ => exact sublist_place? _

theorem sublist_filterMap {α : Type} {f : α → Option Nat} {g : α → List Nat}
    (h : ∀ a, (f a).toList.Sublist (g a)) (l : List α) : (l.filterMap f).Sublist (l.flatMap g) := by
  rw [List.filterMap_eq_flatMap_toList]
  induction l with
  | nil => exact List.Sublist.refl _
  | cons a l ih => exact (h a).append ih

theorem Clause.sublist_valuePlaces (c : Clause) : c.valuePlaces.Sublist c.places := by
  have hfilter : ∀ filter : Option Expr, ((filter.toList.map Expr.compared).filterMap
      Expr.place?).Sublist (filter.elim [] Expr.places) := fun filter => by
    cases filter with
    | none => exact List.Sublist.refl _
    | some e =>
      rw [Option.toList_some, List.map_singleton, List.filterMap_eq_flatMap_toList,
        List.flatMap_singleton]
      exact e.sublist_compared
  unfold valuePlaces values
  split
  · next rows locks text =>
    have hrows : (rows.flatMap (·.flatMap Expr.places)) = rows.flatten.flatMap Expr.places := by
      rw [List.flatten_eq_flatMap, List.flatMap_assoc]
      rfl
    change (rows.flatten.filterMap Expr.place?).Sublist (rows.flatMap (·.flatMap Expr.places))
    rw [hrows]
    exact sublist_filterMap Expr.sublist_place? _
  · exact hfilter _
  · next changes filter =>
    rw [List.filterMap_append, List.filterMap_map]
    exact (sublist_filterMap (fun a => a.2.sublist_place?) changes).append (hfilter filter)
  · exact List.nil_sublist _

end Sql

/-! ## Numbers -/

/-- Operands for values, where each placeholder without a position gets the next number. -/
inductive Numbered : Nat → List Expr → List Operand → Nat → Prop
  | nil (n : Nat) : Numbered n [] [] n
  | next {n m b : Nat} {e : Expr} {es : List Expr} {os : List Operand} (h : e.place? = some b)
      (hes : Numbered (n + 1) es os m) : Numbered n (e :: es) (.param (n + 1) :: os) m
  | skip {n m : Nat} {e : Expr} {o : Operand} {es : List Expr} {os : List Operand}
      (h : e.place? = none) (hes : Numbered n es os m) : Numbered n (e :: es) (o :: os) m

namespace Numbered

variable {n k m : Nat} {es fs : List Expr} {os ps : List Operand}

theorem append (h : Numbered n es os k) (hfs : Numbered k fs ps m) :
    Numbered n (es ++ fs) (os ++ ps) m := by
  induction h with
  | nil => exact hfs
  | next h _ ih => exact .next h (ih hfs)
  | skip h _ ih => exact .skip h (ih hfs)

theorem length_eq (h : Numbered n es os m) : os.length = es.length := by
  induction h with
  | nil => rfl
  | next _ _ ih => simp [ih]
  | skip _ _ ih => simp [ih]

theorem exists_param (h : Numbered n es os m) {i b : Nat} {e : Expr} (he : es[i]? = some e)
    (hb : e.place? = some b) :
    ∃ j, os[i]? = some (.param (n + j + 1)) ∧ (es.filterMap Expr.place?)[j]? = some b := by
  induction h generalizing i with
  | nil => cases he
  | @next n m b' f es os hf hes ih =>
    rw [List.filterMap_cons_some hf]
    cases i with
    | zero =>
      cases he
      cases hf.symm.trans hb
      exact ⟨0, rfl, rfl⟩
    | succ i =>
      obtain ⟨j, ho, hplace⟩ := ih he
      exact ⟨j + 1, by rw [List.getElem?_cons_succ, ho]; congr 3; omega, hplace⟩
  | @skip n m f o es os hf hes ih =>
    rw [List.filterMap_cons_none hf]
    cases i with
    | zero =>
      cases he
      cases hf.symm.trans hb
    | succ i => exact ih he

end Numbered

namespace Statement

variable {n m : Nat}

theorem count_of_lift {α : Type} {x : Except Error α} {a : α}
    (h : (liftM x : Recognition α).run n = .ok (a, m)) : m = n := by
  cases x with
  | error => cases h
  | ok a =>
    cases h
    rfl

theorem place_operand {e : Expr} {o : Operand} (h : (operand e).run n = .ok (o, m)) :
    (∃ b, e.place? = some b ∧ o = .param (n + 1) ∧ m = n + 1) ∨ e.place? = none ∧ m = n := by
  induction e generalizing n m o with
  | nested e ih => exact ih h
  | negated e ih =>
    obtain ⟨v, k, hv, hneg⟩ := exists_of_run_bind h
    rcases ih hv with ⟨b, -, rfl, -⟩ | ⟨-, rfl⟩
    · cases hneg
    · exact .inr ⟨rfl, count_of_lift hneg⟩
  | number text long =>
    unfold operand at h
    split at h
    · cases h
      exact .inr ⟨rfl, rfl⟩
    · cases h
  | placeholder text behind =>
    change placeholder text n = .ok (o, m) at h
    unfold placeholder at h
    split at h
    · next htext =>
      cases h
      have htext : text = "?" := String.toList_inj.mp htext
      exact .inl ⟨behind, by rw [Expr.place?, if_pos htext], rfl, rfl⟩
    · next position htext =>
      have htext : text ≠ "?" := by
        rintro rfl
        cases htext
      refine .inr ⟨by rw [Expr.place?, if_neg htext], ?_⟩
      split at h
      · split at h <;> cases h
        rfl
      · cases h
    · cases h
  | column | literal | equation | other => cases h

theorem numbered_operand {e : Expr} {o : Operand} (h : (operand e).run n = .ok (o, m)) :
    Numbered n [e] [o] m := by
  rcases place_operand h with ⟨b, hb, rfl, rfl⟩ | ⟨hnone, rfl⟩
  · exact .next hb (.nil _)
  · exact .skip hnone (.nil _)

theorem numbered_filter {e : Expr} {f : Filter} (h : (filter e).run n = .ok (f, m)) :
    Numbered n [e.compared] [f.value] m := by
  induction e generalizing n m f with
  | nested e ih => exact ih h
  | equation l r =>
    obtain ⟨c, k, hc, h⟩ := exists_of_run_bind h
    obtain ⟨o, k', ho, h⟩ := exists_of_run_bind h
    cases h
    obtain rfl := count_of_lift hc
    exact numbered_operand ho
  | column | number | placeholder | literal | negated | other => cases h

theorem numbered_mapM {α β : Type} {f : α → Recognition β} (values : α → List Expr)
    (operands : β → List Operand)
    (hf : ∀ {a n b m}, (f a).run n = .ok (b, m) → Numbered n (values a) (operands b) m)
    {l : List α} {bs : List β} (h : (l.mapM f).run n = .ok (bs, m)) :
    Numbered n (l.flatMap values) (bs.flatMap operands) m := by
  induction l generalizing n bs with
  | nil =>
    cases h
    exact .nil _
  | cons a l ih =>
    rw [List.mapM_cons] at h
    obtain ⟨b, k, hb, h⟩ := exists_of_run_bind h
    obtain ⟨bs, k', hbs, h⟩ := exists_of_run_bind h
    cases h
    exact (hf hb).append (ih hbs)

theorem numbered_optionalFilter {e : Option Expr} {f : Option Filter}
    (h : (optionalFilter e).run n = .ok (f, m)) :
    Numbered n (e.toList.map Expr.compared) (f.toList.map Filter.value) m := by
  cases e with
  | none =>
    cases h
    exact .nil _
  | some e =>
    rw [optionalFilter, map_eq_pure_bind] at h
    obtain ⟨f, k, hf, h⟩ := exists_of_run_bind h
    cases h
    exact numbered_filter hf

theorem numbered_assignment {a : Target × Expr} {p : String × Operand}
    (h : (assignment a).run n = .ok (p, m)) : Numbered n [a.2] [p.2] m := by
  obtain ⟨c, k, hc, h⟩ := exists_of_run_bind h
  obtain ⟨o, k', ho, h⟩ := exists_of_run_bind h
  cases h
  obtain rfl := count_of_lift hc
  exact numbered_operand ho

theorem numbered_insertion {table columns : List Ident} {source : Option Query} {s : Statement}
    (h : (insertion table source).run n = .ok (s, m)) :
    Numbered n (Clause.insert table columns source).values s.operands m := by
  unfold insertion at h
  split at h
  · cases h
  · next q =>
    obtain ⟨body, locks, text⟩ := q
    split at h
    · next rows hbody =>
      obtain rfl : body = .values rows := hbody
      obtain ⟨os, k, hrows, h⟩ := exists_of_run_bind h
      cases h
      have hrow : ∀ {row : List Expr} {n os m}, (row.mapM operand).run n = .ok (os, m) →
          Numbered n row os m := fun {row n os m} hrow => by
        have hmap := numbered_mapM (fun e => [e]) (fun o => [o]) numbered_operand hrow
        rwa [List.flatMap_singleton', List.flatMap_singleton'] at hmap
      have hmap := numbered_mapM id id hrow hrows
      rwa [List.flatMap_id, List.flatMap_id] at hmap
    · cases h

theorem numbered_selection {q : Query} {s : Statement} (h : (selection q).run n = .ok (s, m)) :
    Numbered n (Clause.query q).values s.operands m := by
  unfold selection at h
  obtain ⟨body, locks, text⟩ := q
  split at h
  · next select hbody =>
    obtain rfl : body = .select select := hbody
    split at h
    · split at h
      · obtain ⟨items, k, hitems, h⟩ := exists_of_run_bind h
        obtain ⟨f, k', hf, h⟩ := exists_of_run_bind h
        cases h
        have hmap := numbered_mapM (fun _ => []) (fun _ => [])
          (fun hitem => by rw [count_of_lift hitem]; exact .nil _) hitems
        rw [List.flatMap_eq_nil_iff.mpr fun _ _ => rfl, List.flatMap_eq_nil_iff.mpr fun _ _ => rfl]
          at hmap
        cases hmap
        exact numbered_optionalFilter hf
      · cases h
    · cases h
  · cases h

/-- **The operands** of a statement, where the placeholders among its values are numbered from 1. -/
theorem numbered_ofClause {c : Clause} {s : Statement} (h : (ofClause c).run n = .ok (s, m)) :
    Numbered n c.values s.operands m := by
  unfold ofClause at h
  split at h
  · cases h
    exact .nil _
  · cases h
    exact .nil _
  · cases h
  · exact numbered_insertion h
  · exact numbered_selection h
  · obtain ⟨assignments, k, hassignments, h⟩ := exists_of_run_bind h
    obtain ⟨f, k', hf, h⟩ := exists_of_run_bind h
    cases h
    have hmap := numbered_mapM (fun a => [a.2]) (fun p => [p.2]) numbered_assignment hassignments
    rw [← List.map_eq_flatMap, ← List.map_eq_flatMap] at hmap
    exact hmap.append (numbered_optionalFilter hf)
  · cases h
  · cases h

end Statement

/-! ## Ordinals -/

namespace Sql.Clause

variable (c : Clause) (n : Nat)

/-- The ordinals, among `n` placeholders of a text, of those that are values. -/
def ordinals : List Nat := c.valuePlaces.map (n - ·)

/-- The ordinal of one of the values, if that is a placeholder. -/
def ordinal? (i : Nat) : Option Nat := (c.values[i]?.bind Expr.place?).map (n - ·)

/-- How many of the first `o` placeholders of a text are no values. -/
def skipped (o : Nat) : Nat := (List.range' 1 o).countP (· ∉ c.ordinals n)

theorem mem_ordinals {o : Nat} : o ∈ c.ordinals n ↔ ∃ i, c.ordinal? n i = some o := by
  constructor
  · intro ho
    obtain ⟨b, hb, rfl⟩ := List.mem_map.mp ho
    obtain ⟨e, he, hplace⟩ := List.mem_filterMap.mp hb
    obtain ⟨i, hi⟩ := List.getElem?_of_mem he
    exact ⟨i, by rw [ordinal?, hi, Option.bind_some, hplace, Option.map_some]⟩
  · rintro ⟨i, hi⟩
    obtain ⟨b, hb, rfl⟩ := Option.map_eq_some_iff.mp hi
    obtain ⟨e, he, hplace⟩ := Option.bind_eq_some_iff.mp hb
    exact List.mem_map_of_mem (List.mem_filterMap.mpr ⟨e, List.mem_of_getElem? he, hplace⟩)

end Sql.Clause

/-- The numbers up to one in an ascending list are those before it in the list, and those that the
list skips. -/
theorem add_countP_notMem {l : List Nat} (hl : l.Pairwise (· < ·)) {a : Nat} (ha : ∀ x ∈ l, a < x)
    {j o : Nat} (hj : l[j]? = some o) :
    a + (j + 1) + (List.range' (a + 1) (o - a)).countP (· ∉ l) = o := by
  induction l generalizing a j with
  | nil => cases hj
  | cons x l ih =>
    obtain ⟨hx, htail⟩ := List.pairwise_cons.mp hl
    have hxo : x ≤ o := by
      cases j with
      | zero => exact Nat.le_of_eq (Option.some.inj hj)
      | succ j => exact Nat.le_of_lt (hx o (List.mem_of_getElem? hj))
    have hax : a + 1 ≤ x := ha x List.mem_cons_self
    obtain ⟨k, rfl⟩ := Nat.exists_eq_add_of_le hax
    obtain ⟨d, rfl⟩ := Nat.exists_eq_add_of_le hxo
    -- The numbers before the first of the list, that one, and those behind it.
    have hsplit : List.range' (a + 1) (a + 1 + k + d - a) =
        List.range' (a + 1) k ++ (a + 1 + k) :: List.range' (a + 1 + k + 1) d := by
      rw [← List.range'_succ, List.range'_append_1]
      congr 1
      omega
    have hbefore : (List.range' (a + 1) k).countP (· ∉ (a + 1 + k) :: l) = k := by
      rw [List.countP_eq_length.mpr, List.length_range']
      intro y hy
      have hlt := (List.mem_range'_1.mp hy).2
      refine decide_eq_true fun hmem => ?_
      rcases List.mem_cons.mp hmem with rfl | hmem
      · omega
      · have := hx y hmem
        omega
    have hbehind : (List.range' (a + 1 + k + 1) d).countP (· ∉ (a + 1 + k) :: l) =
        (List.range' (a + 1 + k + 1) d).countP (· ∉ l) := by
      refine List.countP_congr fun y hy => ?_
      have hlt := (List.mem_range'_1.mp hy).1
      simp [show y ≠ a + 1 + k by omega]
    rw [hsplit, List.countP_append, List.countP_cons_of_neg (by simp), hbefore, hbehind]
    cases j with
    | zero =>
      obtain rfl : d = 0 := by
        have := Option.some.inj hj
        omega
      simp only [List.range'_zero, List.countP_nil]
      omega
    | succ j =>
      have hrest := ih htail hx hj
      rw [Nat.add_sub_cancel_left] at hrest
      omega

namespace Statement

open Grammar

/-- The positions of the parameters of a statement, where its text is known. -/
structure Positioned (ts : List Token) (c : Clause) (s : Statement) : Prop where
  length_eq : s.operands.length = c.values.length
  /-- An ordinal counts the placeholders of the text up to one of them. -/
  written : ∀ o ∈ c.ordinals (questions ts), ∃ before after,
    ts = before ++ .placeholder "?" :: after ∧ questions before + 1 = o
  ordered : (c.ordinals (questions ts)).Pairwise (· < ·)
  /-- A placeholder without a position gets its ordinal, less the number of those before it that are
  no values. -/
  position : ∀ i o, c.ordinal? (questions ts) i = some o →
    ∃ p, s.operands[i]? = some (.param p) ∧ p + c.skipped (questions ts) o = o
  /-- Each gets its ordinal if and only if none is skipped before one that is a value. -/
  position_eq_iff : (∀ i o, c.ordinal? (questions ts) i = some o →
      s.operands[i]? = some (.param o)) ↔
    ∀ o ∈ c.ordinals (questions ts), c.skipped (questions ts) o = 0

theorem positioned_of_passed {ts vs : List Token} {c : Clause} {s : Statement} {m : Nat}
    (hc : Passed ts c.places vs) (hs : Numbered 0 c.values s.operands m) : Positioned ts c s := by
  have hplaces := hc.sublist c.sublist_valuePlaces
  have hwritten : ∀ o ∈ c.ordinals (questions ts), ∃ before after,
      ts = before ++ .placeholder "?" :: after ∧ questions before + 1 = o := by
    intro o ho
    obtain ⟨b, hb, rfl⟩ := List.mem_map.mp ho
    obtain ⟨-, after, ⟨before, hts⟩, rfl⟩ := hplaces.placed b hb
    refine ⟨before, after, hts.symm, ?_⟩
    have hcount : questions ts = questions before + (questions after + 1) := by
      rw [← hts, ← questions_question, questions, List.count_append]
      rfl
    omega
  have hordered : (c.ordinals (questions ts)).Pairwise (· < ·) := by
    refine List.pairwise_map.mpr (hplaces.ordered.imp_of_mem fun {b d} hb hd hlt => ?_)
    have := hplaces.lt hb
    omega
  have hposition : ∀ i o, c.ordinal? (questions ts) i = some o →
      ∃ p, s.operands[i]? = some (.param p) ∧ p + c.skipped (questions ts) o = o := by
    intro i o ho
    obtain ⟨b, hb, rfl⟩ := Option.map_eq_some_iff.mp ho
    obtain ⟨e, he, hb⟩ := Option.bind_eq_some_iff.mp hb
    obtain ⟨j, hparam, hj⟩ := hs.exists_param he hb
    refine ⟨0 + j + 1, hparam, ?_⟩
    have hordinal : (c.ordinals (questions ts))[j]? = some (questions ts - b) := by
      rw [Clause.ordinals, List.getElem?_map, Clause.valuePlaces, hj]
      rfl
    have hpositive : ∀ o ∈ c.ordinals (questions ts), 0 < o := fun o ho => by
      obtain ⟨before, after, -, rfl⟩ := hwritten o ho
      exact Nat.succ_pos _
    exact add_countP_notMem hordered hpositive hordinal
  refine ⟨hs.length_eq, hwritten, hordered, hposition, fun hexact o ho => ?_,
    fun hnone i o hi => ?_⟩
  · obtain ⟨i, hi⟩ := c.mem_ordinals _ |>.mp ho
    obtain ⟨p, hp, hskipped⟩ := hposition i o hi
    cases (hexact i o hi).symm.trans hp
    omega
  · obtain ⟨p, hp, hskipped⟩ := hposition i o hi
    have hzero := hnone o (c.mem_ordinals _ |>.mpr ⟨i, hi⟩)
    obtain rfl : p = o := by omega
    exact hp

/-- **The positions of parameters** in a statement that is read from a text. -/
theorem parameters_in_order {text : String} {s : Statement} (h : ofText text = .ok s) :
    ∃ ts c, tokenize text.toList = some ts ∧ Grammar.statements text.toList = some [c] ∧
      Positioned ts c s := by
  obtain ⟨c, m, hc, hrun⟩ := ofText_eq_ok_iff.mp h
  obtain ⟨ts, us, hts, hpassed⟩ := exists_passed hc
  exact ⟨ts, c, hts, hc, positioned_of_passed hpassed (numbered_ofClause hrun)⟩

/-- Nothing is skipped before the values of this update. -/
theorem parameters_in_order_update :
    let text := "update t set a = ? where b = (?) returning ?"
    let s : Statement := .update "t" [("a", .param 1)] (some ⟨"b", .param 2⟩)
    ofText text = .ok s ∧ ∃ ts c, tokenize text.toList = some ts ∧
      Grammar.statements text.toList = some [c] ∧ Positioned ts c s ∧ questions ts = 3 ∧
        c.ordinals (questions ts) = [1, 2] := by
  intro text s
  have htokens : tokenize text.toList = some [.keyword "UPDATE" "update", .name "t",
      .keyword "SET" "set", .name "a", .symbol "=", .placeholder "?", .keyword "WHERE" "where",
      .name "b", .symbol "=", .symbol "(", .placeholder "?", .symbol ")",
      .keyword "RETURNING" "returning", .placeholder "?"] := by
    decide +kernel
  have hread : Grammar.statements text.toList = some [.update (.table [⟨"t", none⟩] false)
      [(.column [⟨"a", none⟩], .placeholder "?" 2)]
      (some (.equation (.column [⟨"b", none⟩]) (.nested (.placeholder "?" 1))))] := by
    rw [statements_of_tokenize htokens]
    decide +kernel
  have hs : ofText text = .ok s := by
    rw [ofText_of_statements hread]
    decide +kernel
  obtain ⟨ts, c, hts, hc, hpositioned⟩ := parameters_in_order hs
  cases hc.symm.trans hread
  cases hts.symm.trans htokens
  exact ⟨hs, _, _, hts, hc, hpositioned, by decide, by decide⟩

/-- The second placeholder of this text gets the first position. -/
theorem parameters_skip_distinct :
    let text := "select distinct on (?) a from t where a = ?"
    let s : Statement := .select "t" [.column "a" none] (some ⟨"a", .param 1⟩) false
    ∃ ts c, ofText text = .ok s ∧ tokenize text.toList = some ts ∧
      Grammar.statements text.toList = some [c] ∧ c.ordinal? (questions ts) 0 = some 2 ∧
        s.operands[0]? ≠ some (.param 2) := by
  intro text s
  have htokens : tokenize text.toList = some [.keyword "SELECT" "select",
      .keyword "DISTINCT" "distinct", .keyword "ON" "on", .symbol "(", .placeholder "?",
      .symbol ")", .name "a", .keyword "FROM" "from", .name "t", .keyword "WHERE" "where",
      .name "a", .symbol "=", .placeholder "?"] := by
    decide +kernel
  have hread : Grammar.statements text.toList = some [.query
      ⟨.select ⟨[.expr (.column [⟨"a", none⟩])], [⟨.table [⟨"t", none⟩] false, false⟩],
        some (.equation (.column [⟨"a", none⟩]) (.placeholder "?" 0))⟩, false,
      "SELECT DISTINCT ON (?) a FROM t WHERE a = ?"⟩] := by
    rw [statements_of_tokenize htokens]
    decide +kernel
  refine ⟨_, _, ?_, htokens, hread, by decide, by decide⟩
  rw [ofText_of_statements hread]
  decide +kernel

end Statement

end CounterTable
