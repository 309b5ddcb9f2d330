import CounterTable.Proofs.Sql.Equations

/-!
# What parsers leave

A parser takes tokens from the front, so that what it leaves is an end of what was there. This goes
from parsers to what is composed of them.

* `Passes`: parsers that leave an end of the tokens;
* `Passes.bind`, `Passes.orElse`, `Passes.commaSeparated` and others: composed parsers;
* `Within`: parsers that look at all tokens and go on with an end of them;
* **`Passes.objectName`**, **`Passes.dataType`**: names and types.
-/

namespace CounterTable.Sql.Grammar

variable {α β : Type}

/-- What the parser leaves is an end of the tokens. -/
class Passes (p : Parser α) : Prop where
  suffix : ∀ {ts : List Token} {a : α} {us : List Token}, p ts = some (a, us) → us <:+ ts

/-- On ends of these tokens, the parser leaves ends of them. -/
def Within (all : List Token) (p : Parser α) : Prop :=
  ∀ ts a us, ts <:+ all → p ts = some (a, us) → us <:+ all

theorem suffix_cons_cons (t u : Token) (ts : List Token) : ts <:+ t :: u :: ts :=
  (List.suffix_cons _ _).trans (List.suffix_cons _ _)

namespace Passes

variable {p q : Parser α} {f : α → Parser β}

/-! ## Composed parsers -/

instance pure (a : α) : Passes (Pure.pure a : Parser α) where
  suffix h := by
    cases h
    exact List.suffix_refl _

instance failure : Passes (Alternative.failure : Parser α) where
  suffix h := by cases h

instance bind [hp : Passes p] [hf : ∀ a, Passes (f a)] : Passes (p >>= f) where
  suffix h := by
    obtain ⟨a, vs, hfirst, hrest⟩ := exists_of_bind h
    exact ((hf a).suffix hrest).trans (hp.suffix hfirst)

theorem step [Passes p] (h : ∀ a, Passes (f a)) : Passes (p >>= f) := inferInstance

theorem andThen (_ : Passes p) (_ : ∀ a, Passes (f a)) : Passes (p >>= f) := inferInstance

instance ite {c : Prop} [Decidable c] [Passes p] [Passes q] : Passes (if c then p else q) := by
  split <;> infer_instance

instance orElse [hp : Passes p] [hq : Passes q] : Passes (p <|> q) where
  suffix h := by
    rw [orElse_apply] at h
    split at h
    · next hr =>
      cases h
      exact hp.suffix hr
    · exact hq.suffix h

instance map [hp : Passes p] (g : α → β) : Passes (g <$> p) where
  suffix h := by
    obtain ⟨a, hrun, -⟩ := exists_of_map h
    exact hp.suffix hrun

instance skip [hp : Passes p] : Passes (Grammar.skip p) where
  suffix h := by
    rw [Grammar.skip, discard_apply, ← bind_apply] at h
    exact (bind (p := p)).suffix h

instance discard [Passes p] : Passes (Functor.discard p) := skip (p := p)

instance optional? [hp : Passes p] : Passes (Grammar.optional? p) where
  suffix h := by
    unfold Grammar.optional? at h
    split at h <;> cases h
    · next hr => exact hp.suffix hr
    · exact List.suffix_refl _

instance whenever [Passes p] (c : Bool) : Passes (Grammar.whenever c p) := by
  unfold Grammar.whenever
  infer_instance

/-! ## Tokens -/

instance peek : Passes Grammar.peek where
  suffix h := by
    cases h
    exact List.suffix_refl _

instance next : Passes Grammar.next where
  suffix {ts a us} h := by
    cases ts with
    | nil => cases h
    | cons t ts =>
      cases h
      exact List.suffix_cons _ _

instance peekKeyword (word : String) : Passes (Grammar.peekKeyword word) where
  suffix h := by
    unfold Grammar.peekKeyword at h
    split at h <;> cases h <;> exact List.suffix_refl _

instance peekSymbol (text : String) : Passes (Grammar.peekSymbol text) where
  suffix h := by
    cases h
    exact List.suffix_refl _

instance keyword? (word : String) : Passes (Grammar.keyword? word) where
  suffix h := by
    unfold Grammar.keyword? at h
    split at h
    · split at h <;> cases h
      · exact List.suffix_cons _ _
      · exact List.suffix_refl _
    · cases h
      exact List.suffix_refl _

instance symbol? (text : String) : Passes (Grammar.symbol? text) where
  suffix h := by
    unfold Grammar.symbol? at h
    split at h
    · split at h <;> cases h
      · exact List.suffix_cons _ _
      · exact List.suffix_refl _
    · cases h
      exact List.suffix_refl _

theorem suffix_of_afterKeywords {words : List String} {ts us : List Token}
    (h : afterKeywords words ts = some us) : us <:+ ts := by
  induction words generalizing ts with
  | nil =>
    cases h
    exact List.suffix_refl _
  | cons word words ih =>
    cases ts with
    | nil => cases h
    | cons t ts =>
      cases t with
      | keyword w text =>
        simp only [afterKeywords] at h
        split at h
        · exact (ih h).trans (List.suffix_cons _ _)
        · cases h
      | _ => cases h

instance keywords? (words : List String) : Passes (Grammar.keywords? words) where
  suffix h := by
    unfold Grammar.keywords? at h
    split at h <;> cases h
    · next hwords => exact suffix_of_afterKeywords hwords
    · exact List.suffix_refl _

instance oneOf? (words : List String) : Passes (Grammar.oneOf? words) where
  suffix h := by
    unfold Grammar.oneOf? at h
    split at h
    · split at h <;> cases h
      · exact List.suffix_cons _ _
      · exact List.suffix_refl _
    · cases h
      exact List.suffix_refl _

instance keyword (word : String) : Passes (Grammar.keyword word) := by
  unfold Grammar.keyword
  infer_instance

instance keywords (words : List String) : Passes (Grammar.keywords words) := by
  unfold Grammar.keywords
  infer_instance

instance symbol (text : String) : Passes (Grammar.symbol text) := by
  unfold Grammar.symbol
  infer_instance

instance oneOf (words : List String) : Passes (Grammar.oneOf words) := by
  unfold Grammar.oneOf
  refine step fun word => ?_
  split <;> infer_instance

instance parenthesized [Passes p] : Passes (Grammar.parenthesized p) := by
  unfold Grammar.parenthesized
  infer_instance

theorem between (_ : Passes p) : Passes (Grammar.parenthesized p) := inferInstance

instance phrase? [Passes p] (words : List String) : Passes (Grammar.phrase? words p) := by
  unfold Grammar.phrase?
  infer_instance

instance phraseMaybe [Passes p] (words : List String) : Passes (Grammar.phraseMaybe words p) := by
  unfold Grammar.phraseMaybe
  infer_instance

/-! ## Repetitions -/

instance commaSeparatedWithin [Passes p] (n : Nat) : Passes (Grammar.commaSeparatedWithin p n) := by
  induction n with
  | zero =>
    unfold Grammar.commaSeparatedWithin
    infer_instance
  | succ n ih =>
    unfold Grammar.commaSeparatedWithin
    infer_instance

instance commaSeparated [Passes p] : Passes (Grammar.commaSeparated p) where
  suffix h := (commaSeparatedWithin (p := p) _).suffix h

theorem several (_ : Passes p) : Passes (Grammar.commaSeparated p) := inferInstance

instance manyWithin {p : Parser (Option α)} [Passes p] (n : Nat) :
    Passes (Grammar.manyWithin p n) := by
  induction n with
  | zero =>
    unfold Grammar.manyWithin
    infer_instance
  | succ n ih =>
    unfold Grammar.manyWithin
    refine step fun a => ?_
    split <;> infer_instance

instance many {p : Parser (Option α)} [Passes p] : Passes (Grammar.many p) where
  suffix h := (manyWithin (p := p) _).suffix h

theorem repeated {p : Parser (Option α)} (_ : Passes p) : Passes (Grammar.many p) := inferInstance

/-! ## Names and types -/

instance ident : Passes Grammar.ident where
  suffix {ts a us} h := by
    cases ts with
    | nil => cases h
    | cons t ts =>
      obtain ⟨i, -, heq⟩ := Option.map_eq_some_iff.mp h
      cases heq
      exact List.suffix_cons _ _

instance objectNameWithin (n : Nat) : Passes (Grammar.objectNameWithin n) := by
  induction n with
  | zero =>
    unfold Grammar.objectNameWithin
    infer_instance
  | succ n ih =>
    unfold Grammar.objectNameWithin
    infer_instance

instance objectName : Passes Grammar.objectName where
  suffix h := (objectNameWithin _).suffix h

instance columnList : Passes Grammar.columnList := by
  unfold Grammar.columnList
  infer_instance

instance listedColumns : Passes Grammar.listedColumns := by
  unfold Grammar.listedColumns
  infer_instance

instance optionalColumns : Passes Grammar.optionalColumns := by
  unfold Grammar.optionalColumns
  infer_instance

instance typeParameter : Passes Grammar.typeParameter := by
  unfold Grammar.typeParameter
  refine step fun t => ?_
  split
  · infer_instance
  · infer_instance
  · split <;> infer_instance

instance typeParameters : Passes Grammar.typeParameters := by
  unfold Grammar.typeParameters
  infer_instance

instance typeLength : Passes Grammar.typeLength := by
  unfold Grammar.typeLength
  refine step fun opened => ?_
  split
  · refine step fun t => ?_
    split <;> infer_instance
  · infer_instance

instance characterLength : Passes Grammar.characterLength := by
  unfold Grammar.characterLength
  refine step fun opened => ?_
  split
  · refine step fun t => ?_
    split <;> infer_instance
  · infer_instance

instance typePrecision : Passes Grammar.typePrecision := by
  unfold Grammar.typePrecision
  infer_instance

instance signSuffix : Passes Grammar.signSuffix := by
  unfold Grammar.signSuffix
  refine step fun sign => ?_
  split <;> infer_instance

instance zoneSuffix : Passes Grammar.zoneSuffix := by
  unfold Grammar.zoneSuffix
  infer_instance

instance keywordType (word : String) : Passes (Grammar.keywordType word) := by
  unfold Grammar.keywordType
  split
  · infer_instance
  · split
    · infer_instance
    · split
      · infer_instance
      · split
        · infer_instance
        · split <;> infer_instance

instance arraySuffix : Passes Grammar.arraySuffix := by
  unfold Grammar.arraySuffix
  refine step fun opened => ?_
  split
  · refine step fun t => ?_
    split <;> infer_instance
  · infer_instance

end Passes

/-! ## Parsers that look at all tokens -/

namespace Within

variable {p : Parser α} {f : α → Parser β} {all us : List Token}

theorem of [h : Passes p] : Within all p := fun _ _ _ hts hp => (h.suffix hp).trans hts

theorem bind (hp : Within all p) (hf : ∀ a, Within all (f a)) : Within all (p >>= f) := by
  intro ts b vs hts h
  obtain ⟨a, us, hfirst, hrest⟩ := exists_of_bind h
  exact hf a us b vs (hp ts a us hts hfirst) hrest

theorem set {f : PUnit → Parser β} (hus : us <:+ all) (h : Within all (f ⟨⟩)) :
    Within all ((MonadState.set us : Parser PUnit) >>= f) := fun _ b vs _ hrun =>
  h us b vs hus hrun

end Within

namespace Passes

theorem get {f : List Token → Parser β} (h : ∀ ts, Within ts (f ts)) :
    Passes (MonadState.get >>= f) where
  suffix {ts} _ _ hrun := h ts _ _ _ (List.suffix_refl ts) hrun

/-- A data type; where a keyword begins none, it is read again. -/
instance dataType : Passes Grammar.dataType := by
  unfold Grammar.dataType
  refine step fun t => ?_
  extract_lets suffixed read
  have hsuffixed : ∀ t, Passes (suffixed t) := fun t => by
    unfold suffixed
    infer_instance
  have hread : ∀ known, Passes (read known) := fun known => by
    unfold read
    split
    · infer_instance
    · refine step fun t => ?_
      split <;> infer_instance
  split
  · refine get fun ts => .bind .of fun _ => .bind .of fun known => ?_
    split
    · exact .of
    · exact .set (List.suffix_refl ts) .of
  · infer_instance

end Passes

end CounterTable.Sql.Grammar
