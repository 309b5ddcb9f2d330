import CounterTable.Proofs.Json.Scanning

/-!
# JSON values that are written and read

The compact text of a value is read as the same value, but for the control characters of its
strings.

* `Json.reread`: what a value comes back as;
* `Json.Writable`: the values that have a text, at most so deep;
* `Json.Reader.listed_intercalate`, `Json.Reader.enclosed_intercalate`: what stands between commas;
* **`Json.Reader.value_chars`**, **`Json.ofText?_render`**: values.
-/

namespace CounterTable.Json

open Reader

mutual

/-- What a value comes back as when it is written and read. -/
def reread : Json → Json
  | null => null
  | bool b => bool b
  | number text => number text
  | string ps => string (ps.map JsonPiece.reread)
  | array items => array (rereadItems items)
  | object members => object (rereadMembers members)

/-- What the items of an array come back as. -/
def rereadItems : List Json → List Json
  | [] => []
  | j :: js => reread j :: rereadItems js

/-- What the members of an object come back as. -/
def rereadMembers : List (List JsonPiece × Json) → List (List JsonPiece × Json)
  | [] => []
  | (key, j) :: ms => (key.map JsonPiece.reread, reread j) :: rereadMembers ms

end

theorem rereadItems_eq_map (js : List Json) : rereadItems js = js.map reread := by
  induction js with
  | nil => rfl
  | cons j js ih => rw [rereadItems, ih]; rfl

/-- What a member of an object comes back as. -/
def rereadMember (m : List JsonPiece × Json) : List JsonPiece × Json :=
  (m.1.map JsonPiece.reread, m.2.reread)

theorem rereadMembers_eq_map (ms : List (List JsonPiece × Json)) :
    rereadMembers ms = ms.map rereadMember := by
  induction ms with
  | nil => rfl
  | cons m ms ih => rw [rereadMembers, ih]; rfl

/-- A value with arrays and objects at most so deep, whose numbers are numbers and whose code units
are code units. -/
def Writable : Nat → Json → Prop
  | _, null | _, bool _ => True
  | _, number text => number? text = some (text, [])
  | _, string ps => ∀ p ∈ ps, p.Writable
  | 0, array _ | 0, object _ => False
  | depth + 1, array items => ∀ j ∈ items, Writable depth j
  | depth + 1, object members => ∀ m ∈ members, (∀ p ∈ m.1, p.Writable) ∧ Writable depth m.2

/-- The text of a member of an object. -/
def memberText (m : List JsonPiece × Json) : List Char := stringText m.1 ++ ':' :: chars m.2

theorem itemsText_eq_intercalate (js : List Json) :
    itemsText js = [','].intercalate (js.map chars) := by
  induction js with
  | nil => rfl
  | cons j js ih =>
    rcases js with _ | ⟨k, js⟩
    · simp [itemsText]
    · rw [itemsText, ih]
      · simp [List.intercalate_cons_cons]
      · exact List.cons_ne_nil k js

theorem membersText_eq_intercalate (ms : List (List JsonPiece × Json)) :
    membersText ms = [','].intercalate (ms.map memberText) := by
  induction ms with
  | nil => rfl
  | cons m ms ih =>
    rcases ms with _ | ⟨m', ms⟩
    · simp [membersText, memberText]
    · rw [membersText, ih]
      · simp [List.intercalate_cons_cons, memberText]
      · exact List.cons_ne_nil m' ms

namespace Reader

variable {depth : Nat} {rest : List Char}

/-! ## Between commas -/

theorem afterSpaces_cons {c : Char} (h : isSpace c = false) (cs : List Char) :
    afterSpaces (c :: cs) = c :: cs := List.dropWhile_cons_of_neg (Bool.eq_false_iff.mp h)

/-- A text that begins neither with a space nor with the mark that closes a list. -/
def Begins (close : Char) (text : List Char) : Prop :=
  ∃ c cs, text = c :: cs ∧ isSpace c = false ∧ c ≠ close

theorem Begins.afterSpaces {close : Char} {text : List Char} (h : Begins close text)
    (cs : List Char) : Reader.afterSpaces (text ++ cs) = text ++ cs := by
  obtain ⟨c, text, rfl, hc, -⟩ := h
  exact afterSpaces_cons hc (text ++ cs)

section Lists

variable {α β : Type} {item : Reads α} {close : Char} {text : β → List Char} {val : β → α}

/-- **Things between commas** are read one after another. -/
theorem listed_intercalate (hspace : isSpace close = false) (hcomma : close ≠ ',')
    (hends : Ends (close :: rest)) {bs : List β}
    (hitem : ∀ b ∈ bs, ∀ cs, Ends cs → item (text b ++ cs) = some (val b, cs))
    (hbegins : ∀ b ∈ bs, Begins close (text b)) (hne : bs ≠ []) {n : Nat} (hn : bs.length ≤ n) :
    listed item close n ([','].intercalate (bs.map text) ++ close :: rest) =
      some (bs.map val, rest) := by
  induction bs generalizing n with
  | nil => exact absurd rfl hne
  | cons b bs ih =>
    obtain ⟨n, rfl⟩ : ∃ m, n = m + 1 := ⟨n - 1, by simp at hn; omega⟩
    have hb := hbegins b List.mem_cons_self
    cases bs with
    | nil =>
      have htext : [','].intercalate ([b].map text) = text b := by simp
      rw [htext, listed, hb.afterSpaces, hitem b List.mem_cons_self _ hends]
      simp [afterSpaces_cons hspace]
    | cons b' bs =>
      have htext : [','].intercalate ((b :: b' :: bs).map text) ++ close :: rest =
          text b ++ ',' :: ([','].intercalate ((b' :: bs).map text) ++ close :: rest) := by
        simp [List.intercalate_cons_cons]
      have hrest := ih (fun c hc => hitem c (List.mem_cons_of_mem b hc))
        (fun c hc => hbegins c (List.mem_cons_of_mem b hc)) (List.cons_ne_nil b' bs)
        (Nat.le_of_succ_le_succ hn)
      have hcomma' : Ends (',' :: ([','].intercalate ((b' :: bs).map text) ++ close :: rest)) := by
        rintro c ⟨⟩
        decide
      rw [htext, listed, hb.afterSpaces, hitem b List.mem_cons_self _ hcomma']
      simp only [Option.bind_eq_bind, Option.bind_some, afterSpaces_cons (c := ',') rfl, hrest,
        Option.pure_def]
      rfl

theorem length_le_length_intercalate {bs : List β} (h : ∀ b ∈ bs, text b ≠ []) :
    bs.length ≤ ([','].intercalate (bs.map text)).length := by
  induction bs with
  | nil => exact Nat.zero_le _
  | cons b bs ih =>
    have hb := List.length_pos_iff.mpr (h b List.mem_cons_self)
    have hbs := ih fun c hc => h c (List.mem_cons_of_mem b hc)
    cases bs with
    | nil =>
      rw [List.map_singleton, List.intercalate_singleton]
      exact hb
    | cons b' bs =>
      simp only [List.map_cons, List.intercalate_cons_cons, List.length_append,
        List.length_cons, List.length_nil] at hbs ⊢
      omega

/-- **Things between commas**, possibly none, up to the mark that closes them. -/
theorem enclosed_intercalate (hspace : isSpace close = false) (hcomma : close ≠ ',')
    (hends : Ends (close :: rest)) {bs : List β}
    (hitem : ∀ b ∈ bs, ∀ cs, Ends cs → item (text b ++ cs) = some (val b, cs))
    (hbegins : ∀ b ∈ bs, Begins close (text b)) :
    enclosed item close ([','].intercalate (bs.map text) ++ close :: rest) =
      some (bs.map val, rest) := by
  rcases bs with _ | ⟨b, bs⟩
  · have htext : [','].intercalate (([] : List β).map text) ++ close :: rest = close :: rest := rfl
    rw [htext, enclosed, afterSpaces_cons hspace]
    exact if_pos rfl
  · obtain ⟨c, cs, htext, hc, hclose⟩ := hbegins b List.mem_cons_self
    obtain ⟨tail, htail⟩ : ∃ tail, [','].intercalate ((b :: bs).map text) ++ close :: rest =
        c :: tail := by
      rcases bs with _ | ⟨b', bs⟩
      · exact ⟨cs ++ close :: rest, by simp [htext]⟩
      · exact ⟨cs ++ ',' :: ([','].intercalate ((b' :: bs).map text) ++ close :: rest),
          by simp [List.intercalate_cons_cons, htext]⟩
    have hlength : (b :: bs).length ≤
        ([','].intercalate ((b :: bs).map text) ++ close :: rest).length := by
      have hne : ∀ c ∈ b :: bs, text c ≠ [] := fun c hc => by
        obtain ⟨d, ds, hd, -⟩ := hbegins c hc
        rw [hd]
        exact List.cons_ne_nil d ds
      rw [List.length_append]
      exact Nat.le_add_right_of_le (length_le_length_intercalate hne)
    have hlisted := listed_intercalate hspace hcomma hends hitem hbegins (List.cons_ne_nil b bs)
      hlength
    rw [htail] at hlisted ⊢
    rw [enclosed, afterSpaces_cons hc]
    exact (if_neg hclose).trans hlisted

end Lists

/-! ## Values -/

theorem isSpace_of_isDigit {c : Char} (h : c.isDigit = true) : isSpace c = false := by
  rw [isSpace, Bool.or_eq_false_iff, Bool.or_eq_false_iff, Bool.or_eq_false_iff]
  refine ⟨⟨⟨?_, ?_⟩, ?_⟩, ?_⟩ <;>
  · rw [beq_eq_false_iff_ne]
    rintro rfl
    cases h

theorem begins_chars {j : Json} (hj : j.Writable depth) {close : Char}
    (hclose : close = ']' ∨ close = '\x7d') : Begins close (chars j) := by
  have hliteral : ∀ c cs, isSpace c = false → c ≠ ']' → c ≠ '\x7d' → Begins close (c :: cs) := by
    rintro c cs hspace hbracket hbrace
    obtain rfl | rfl := hclose
    · exact ⟨c, cs, rfl, hspace, hbracket⟩
    · exact ⟨c, cs, rfl, hspace, hbrace⟩
  cases j with
  | null => exact hliteral 'n' _ rfl (by decide) (by decide)
  | bool b =>
    cases b with
    | true => exact hliteral 't' _ rfl (by decide) (by decide)
    | false => exact hliteral 'f' _ rfl (by decide) (by decide)
  | number text =>
    have hnumber : number? text = some (text, []) := by cases depth <;> exact hj
    obtain ⟨c, cs, rfl, rfl | hdigit⟩ := head_of_number? hnumber
    · exact hliteral '-' cs rfl (by decide) (by decide)
    · refine hliteral c cs (isSpace_of_isDigit hdigit) ?_ ?_ <;>
      · rintro rfl
        cases hdigit
  | string ps => exact hliteral '"' _ rfl (by decide) (by decide)
  | array items => exact hliteral '[' _ rfl (by decide) (by decide)
  | object members => exact hliteral '\x7b' _ rfl (by decide) (by decide)

theorem value_number (depth : Nat) {c : Char} (h : c = '-' ∨ c.isDigit = true) (cs : List Char) :
    value depth (c :: cs) = (number? (c :: cs)).map fun (text, rest) => (.number text, rest) := by
  have hne : ∀ d ds, d ≠ '-' → d.isDigit = false → c :: cs ≠ d :: ds := by
    rintro d ds hsign hdigit he
    cases (List.cons.inj he).1
    obtain rfl | hc := h
    · exact hsign rfl
    · rw [hdigit] at hc
      cases hc
  rw [value]
  all_goals exact fun _ => hne _ _ (by decide) rfl

theorem writable_number {text : List Char} (h : Writable depth (number text)) :
    number? text = some (text, []) := by
  cases depth <;> exact h

theorem writable_string {ps : List JsonPiece} (h : Writable depth (string ps)) :
    ∀ p ∈ ps, p.Writable := by
  cases depth <;> exact h

theorem member_memberText {m : List JsonPiece × Json} (hkey : ∀ p ∈ m.1, p.Writable)
    (hj : m.2.Writable depth) (hvalue : ∀ cs, Ends cs →
      value depth (chars m.2 ++ cs) = some (m.2.reread, cs)) (hr : Ends rest) :
    member (value depth) (memberText m ++ rest) = some (rereadMember m, rest) := by
  have htext : memberText m ++ rest =
      '"' :: (m.1.flatMap pieceText ++ '"' :: ':' :: (chars m.2 ++ rest)) := by
    simp [memberText, stringText]
  have hspaces := (begins_chars hj (.inl rfl)).afterSpaces rest
  rw [htext, member, piecesUntilQuote_flatMap hkey]
  simp only [Option.bind_eq_bind, Option.bind_some, afterSpaces_cons (c := ':') rfl, hspaces,
    hvalue rest hr, Option.pure_def]
  rfl

/-- **Values** are read back. -/
theorem value_chars : ∀ (depth : Nat) (j : Json), Writable depth j → ∀ rest, Ends rest →
    value depth (chars j ++ rest) = some (j.reread, rest)
  | depth, null, _, rest, _ => by
    have htext : chars null ++ rest = 'n' :: 'u' :: 'l' :: 'l' :: rest := rfl
    rw [htext, value]
    rfl
  | depth, bool true, _, rest, _ => by
    have htext : chars (bool true) ++ rest = 't' :: 'r' :: 'u' :: 'e' :: rest := rfl
    rw [htext, value]
    rfl
  | depth, bool false, _, rest, _ => by
    have htext : chars (bool false) ++ rest = 'f' :: 'a' :: 'l' :: 's' :: 'e' :: rest := rfl
    rw [htext, value]
    rfl
  | depth, number text, hj, rest, hr => by
    have hnumber := writable_number hj
    obtain ⟨c, cs, rfl, hc⟩ := head_of_number? hnumber
    have hread := number?_append hr hnumber
    rw [chars, List.cons_append, value_number depth hc, ← List.cons_append, hread]
    rfl
  | depth, string ps, hj, rest, _ => by
    have htext : chars (string ps) ++ rest = '"' :: (ps.flatMap pieceText ++ '"' :: rest) := by
      simp [chars, stringText]
    rw [htext, value, piecesUntilQuote_flatMap (writable_string hj)]
    rfl
  | depth + 1, array items, hj, rest, _ => by
    have hitems : ∀ j ∈ items, Writable depth j := hj
    have htext : chars (array items) ++ rest =
        '[' :: ([','].intercalate (items.map chars) ++ ']' :: rest) := by
      simp [chars, itemsText_eq_intercalate]
    have hends : Ends (']' :: rest) := by
      rintro c ⟨⟩
      decide
    rw [htext, value, enclosed_intercalate rfl (by decide) hends
      (fun j hmem cs hcs => value_chars depth j (hitems j hmem) cs hcs)
      (fun j hmem => begins_chars (hitems j hmem) (.inl rfl)), reread, rereadItems_eq_map]
    rfl
  | depth + 1, object members, hj, rest, _ => by
    have hmembers : ∀ m ∈ members, (∀ p ∈ m.1, p.Writable) ∧ Writable depth m.2 := hj
    have htext : chars (object members) ++ rest =
        '\x7b' :: ([','].intercalate (members.map memberText) ++ '\x7d' :: rest) := by
      simp [chars, membersText_eq_intercalate]
    have hends : Ends ('\x7d' :: rest) := by
      rintro c ⟨⟩
      decide
    rw [htext, value, enclosed_intercalate rfl (by decide) hends
      (fun m hmem cs hcs => member_memberText (hmembers m hmem).1 (hmembers m hmem).2
        (value_chars depth m.2 (hmembers m hmem).2) hcs)
      (fun m _ => ⟨'"', _, rfl, rfl, by decide⟩), reread, rereadMembers_eq_map]
    rfl

end Reader

/-- **A value** that is written and read. -/
theorem ofText?_render {j : Json} (h : j.Writable depthLimit) :
    ofText? j.render = some j.reread := by
  have hspaces : afterSpaces (chars j) = chars j := by
    have hbegins := (begins_chars h (.inl rfl)).afterSpaces []
    rwa [List.append_nil] at hbegins
  have hvalue := value_chars depthLimit j h [] nofun
  rw [List.append_nil] at hvalue
  rw [ofText?, render, String.toList_ofList, hspaces, hvalue]
  rfl

end CounterTable.Json
