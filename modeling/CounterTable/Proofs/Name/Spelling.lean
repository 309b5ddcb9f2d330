import CounterTable.Proofs.Name.ReadBack

/-!
# Names as they may be spelled

Each part of a name may be spelled as a plain word, or between quotes of three kinds, with blanks
around it. Whatever stands between its quotes, also dots and other quotes, belongs to the part.

* `Spelling`: a part as it may be spelled;
* `Spelling.exists_flush`: the blanks around a name do not matter;
* **`QualifiedName.ofText_spelled`**: one to three parts make a name, and more do not.
-/

namespace CounterTable

open CounterTable.Text

/-- A part of a name as it may be spelled: a plain word, or a text between quotes in which the
closing one does not occur, and the blanks around it. -/
structure Spelling where
  text : String
  quotes : Option (Char × Char) := none
  before : List Char := []
  after : List Char := []
  plain : quotes = none → Identifier.isPlain text.toList = true
  quoted : ∀ q ∈ quotes, q ∈ Identifier.quotePairs ∧ text ≠ "" ∧ q.2 ∉ text.toList
  blank_before : ∀ c ∈ before, isBlank c = true
  blank_after : ∀ c ∈ after, isBlank c = true

theorem Identifier.closingQuote?_of_mem {q : Char × Char} (h : q ∈ quotePairs) :
    closingQuote? q.1 = some q.2 := by
  have hall : ∀ q ∈ quotePairs, closingQuote? q.1 = some q.2 := by decide
  exact hall q h

theorem Segments.balanced_of_blank {cs : List Char} (h : ∀ c ∈ cs, isBlank c = true) :
    Balanced cs := by
  refine balanced_of_forall fun c hc => ⟨?_, ?_⟩
  · rintro rfl
    exact absurd (h '.' hc) (by decide)
  · refine Option.eq_none_iff_forall_ne_some.mpr fun closing hquote => ?_
    have hblank := (Identifier.isBlank_of_closingQuote? hquote).1
    rw [h c hc] at hblank
    cases hblank

namespace Spelling

variable (p : Spelling)

/-- What stands between the blanks. -/
def word : List Char :=
  match p.quotes with
  | none => p.text.toList
  | some (opening, closing) => opening :: (p.text.toList ++ [closing])

/-- All that is written. -/
def chars : List Char := p.before ++ p.word ++ p.after

/-- The identifier that is spelled. -/
def identifier : Identifier := ⟨p.text, p.quotes.isSome⟩

variable {p}

theorem spells (p : Spelling) : p.identifier.Spells p.word := by
  unfold word
  split
  · next hquotes => exact .plain (by rw [identifier, hquotes]; rfl) (p.plain hquotes)
  · next opening closing hquotes =>
    obtain ⟨hmem, hne, -⟩ := p.quoted _ hquotes
    refine .quoted (by rw [identifier, hquotes]; rfl) (Identifier.closingQuote?_of_mem hmem) ?_
    exact fun hnil => hne (String.toList_eq_nil_iff.mp hnil)

theorem ofChars_chars (p : Spelling) : Identifier.ofChars p.chars = .ok p.identifier := by
  rw [Identifier.ofChars_eq_ok_iff, chars,
    p.spells.solid.trim_between p.blank_before p.blank_after]
  exact p.spells

theorem balanced_word (p : Spelling) : Segments.Balanced p.word := by
  unfold word
  split
  · next hquotes => exact Identifier.balanced_of_isPlain (p.plain hquotes)
  · next opening closing hquotes =>
    obtain ⟨hmem, -, hnot⟩ := p.quoted _ hquotes
    exact Segments.balanced_quoted (Identifier.closingQuote?_of_mem hmem) hnot

theorem balanced_chars (p : Spelling) : Segments.Balanced p.chars :=
  ((Segments.balanced_of_blank p.blank_before).append p.balanced_word).append
    (Segments.balanced_of_blank p.blank_after)

theorem trim_chars (p : Spelling) : trim p.chars ≠ [] := by
  rw [chars, p.spells.solid.trim_between p.blank_before p.blank_after]
  exact p.spells.solid.ne_nil

/-! ## Blanks around a name -/

/-- The part without the blanks before it, -/
def flushLeft (p : Spelling) : Spelling := { p with before := [], blank_before := nofun }

/-- or behind it. -/
def flushRight (p : Spelling) : Spelling := { p with after := [], blank_after := nofun }

/-- **The blanks around a name** do not matter: it may be spelled without them. -/
theorem exists_flush (p : Spelling) (ps : List Spelling) :
    ∃ l : List Spelling, l ≠ [] ∧ l.map identifier = (p :: ps).map identifier ∧
      List.intercalate ['.'] (l.map chars) =
        trim (List.intercalate ['.'] ((p :: ps).map chars)) := by
  rcases List.eq_nil_or_concat ps with rfl | ⟨init, last, rfl⟩
  · refine ⟨[p.flushLeft.flushRight], List.cons_ne_nil _ _, rfl, ?_⟩
    have hword : p.flushLeft.flushRight.chars = p.word := List.append_nil _
    rw [List.map_singleton, List.map_singleton, List.intercalate_singleton,
      List.intercalate_singleton, hword, chars,
      p.spells.solid.trim_between p.blank_before p.blank_after]
  · refine ⟨p.flushLeft :: (init ++ [last.flushRight]), List.cons_ne_nil _ _, ?_, ?_⟩
    · simp only [List.map_cons, List.map_append, List.concat_eq_append]
      rfl
    · have hbetween := p.spells.solid.append last.spells.solid
        (p.after ++ ['.'] ++ (init.map chars).flatMap (· ++ ['.']) ++ last.before)
      have htrim := hbetween.trim_between p.blank_before last.blank_after
      have hwhole : List.intercalate ['.'] ((p :: init.concat last).map chars) =
          p.before ++ (p.word ++ (p.after ++ ['.'] ++ (init.map chars).flatMap (· ++ ['.']) ++
            last.before) ++ last.word) ++ last.after := by
        rw [List.concat_eq_append, ← List.cons_append, List.map_append, List.map_singleton,
          Segments.intercalate_concat]
        simp only [List.map_cons, List.flatMap_cons, chars, List.append_assoc]
      rw [hwhole, htrim, ← List.cons_append, List.map_append, List.map_singleton,
        Segments.intercalate_concat]
      simp only [List.map_cons, List.flatMap_cons, chars, flushLeft, flushRight, word,
        List.append_assoc, List.nil_append, List.append_nil]

end Spelling

namespace QualifiedName

/-- **A name is read from its parts**, however they are spelled: the last one is the object, and the
ones before it are its schema and its catalog. More than three parts make no name. -/
theorem ofText_spelled (p : Spelling) (ps : List Spelling) :
    let raw := String.ofList (List.intercalate ['.'] ((p :: ps).map Spelling.chars))
    ofText raw =
      match ps with
      | [] => .ok ⟨none, none, p.identifier⟩
      | [q] => .ok ⟨none, some p.identifier, q.identifier⟩
      | [q, r] => .ok ⟨some p.identifier, some q.identifier, r.identifier⟩
      | _ => .error (.configuration
          s!"Qualified name '{raw}' has {ps.length + 1} parts, expected at most 3") := by
  intro raw
  obtain ⟨l, hne, hidentifiers, hflush⟩ := Spelling.exists_flush p ps
  have hsplit : Segments.split raw = .ok (l.map Spelling.chars) := by
    rw [Segments.split_eq_ok_iff, String.toList_ofList]
    refine ⟨fun hnil => hne (List.map_eq_nil_iff.mp hnil), hflush, fun cs hcs => ?_⟩
    obtain ⟨q, -, rfl⟩ := List.mem_map.mp hcs
    exact ⟨q.balanced_chars, q.trim_chars⟩
  have hread : (l.map Spelling.chars).mapM Identifier.ofChars =
      .ok ((p :: ps).map Spelling.identifier) := by
    have hchars : ∀ q ∈ l, Identifier.ofChars q.chars = .ok q.identifier := fun q _ =>
      q.ofChars_chars
    rw [mapM_map_eq_ok hchars, hidentifiers]
  rw [ofText, hsplit]
  change (List.mapM Identifier.ofChars _ >>= _) = _
  rw [hread]
  rcases ps with _ | ⟨q, _ | ⟨r, _ | ⟨s, ps⟩⟩⟩
  · rfl
  · rfl
  · rfl
  · simp only [List.map_cons]
    change Except.error _ = Except.error _
    simp only [List.length_cons, List.length_map]

/-- A part with a dot between double quotes, with blanks around it, -/
def dotted : Spelling where
  text := "odd.name"
  quotes := some ('"', '"')
  before := [' ']
  after := ['\u3000']
  plain := nofun
  quoted := by simp [Identifier.quotePairs]
  blank_before := by simp [isBlank]
  blank_after := by simp [isBlank]

/-- one with the other quotes between brackets, -/
def bracketed : Spelling where
  text := "x\"y\x60z"
  quotes := some ('[', ']')
  plain := nofun
  quoted := by simp [Identifier.quotePairs]
  blank_before := by simp
  blank_after := by simp

/-- and a plain word. -/
def bare : Spelling where
  text := "plain_1$"
  before := [' ']
  plain := by decide
  quoted := by simp
  blank_before := by simp [isBlank]
  blank_after := by simp

theorem ofText_spelled_odd : ofText " \"odd.name\"\u3000.[x\"y\x60z]. plain_1$" =
    .ok ⟨some ⟨"odd.name", true⟩, some ⟨"x\"y\x60z", true⟩, ⟨"plain_1$", false⟩⟩ := by
  have hraw : " \"odd.name\"\u3000.[x\"y\x60z]. plain_1$" = String.ofList
      (List.intercalate ['.'] ([dotted, bracketed, bare].map Spelling.chars)) := by
    decide +kernel
  rw [hraw]
  exact ofText_spelled dotted [bracketed, bare]

end QualifiedName

end CounterTable
