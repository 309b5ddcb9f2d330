import CounterTable.Proofs.Json.RoundTrip
import CounterTable.Proofs.Number.Finite
import CounterTable.Sequence.SettingsJson

/-!
# Settings that are written and read

Valid settings are read from the text that they are written as, whatever their texts, numbers and
choices are.

* `Json.string?_reread`, `Json.word?_reread`: texts and words;
* `RetryPolicy.ofJson?_reread`: retry policies;
* `Settings.writable_toJson`, `Settings.ofJson?_reread`: settings as values;
* **`Settings.ofJsonText_toJsonText`**: settings as texts.
-/

namespace CounterTable

open CounterTable.Text

namespace Json

/-! ## Texts, words and choices -/

theorem string?_reread (s : String) : (ofString s).reread.string? = some s := by
  rw [ofString, reread, string?, JsonPiece.chars?_reread, JsonPiece.chars?_map_char,
    Option.map_some, String.ofList_toList]

theorem choice?_reread (s : String) : (ofString s).reread.choice? = some s := string?_reread s

theorem integer?_reread (n : Int) : (ofInt n).reread.integer? = some n := by
  rw [ofInt, reread, integer?]
  · exact readInt?_renderInt n
  · intro he
    have hn := readInt?_renderInt n
    rw [he] at hn
    cases hn
    cases he

theorem word?_reread (w : Int64) : (ofInt w.toInt).reread.word? = some w := by
  rw [word?, integer?_reread, Option.bind_some, Text.word?_toInt]

theorem optional?_reread (s : Option String) :
    optional? string? (ofOption s).reread = some s := by
  cases s with
  | none => rfl
  | some s => exact congrArg (Option.map some) (string?_reread s)

theorem writable_map_char (cs : List Char) : ∀ p ∈ cs.map JsonPiece.char, p.Writable := by
  intro p hp
  obtain ⟨c, -, rfl⟩ := List.mem_map.mp hp
  trivial

theorem writable_ofString (depth : Nat) (s : String) : (ofString s).Writable depth := by
  cases depth <;> exact writable_map_char s.toList

theorem writable_ofInt (depth : Nat) (n : Int) : (ofInt n).Writable depth := by
  cases depth <;> exact Reader.number?_renderInt n

theorem writable_ofOption (depth : Nat) (s : Option String) : (ofOption s).Writable depth := by
  cases s with
  | none => cases depth <;> trivial
  | some s => exact writable_ofString depth s

/-- The members of an object whose names are texts. -/
def named (names : List String) (js : List Json) : List (List JsonPiece × Json) :=
  (names.map fun name => name.toList.map .char).zip js

theorem members?_reread (names : List String) (js : List Json) :
    members? ((named names js).map rereadMember) = some (names.zip (js.map reread)) := by
  induction names generalizing js with
  | nil => rfl
  | cons name names ih =>
    cases js with
    | nil => rfl
    | cons j js =>
      have hrest := ih js
      unfold members? at hrest ⊢
      simp only [named, List.map_cons, List.zip_cons_cons, List.mapM_cons, rereadMember,
        JsonPiece.chars?_reread, JsonPiece.chars?_map_char] at hrest ⊢
      simp [hrest]

theorem writable_named {depth : Nat} (names : List String) {js : List Json}
    (h : ∀ j ∈ js, j.Writable depth) : (object (named names js)).Writable (depth + 1) := by
  intro m hm
  obtain ⟨hkey, hj⟩ := List.of_mem_zip hm
  obtain ⟨name, -, hname⟩ := List.mem_map.mp hkey
  refine ⟨?_, h m.2 hj⟩
  rw [← hname]
  exact writable_map_char name.toList

theorem reread_named (names : List String) (js : List Json) :
    (object (named names js)).reread = object ((named names js).map rereadMember) := by
  rw [reread, rereadMembers_eq_map]

theorem sound_named (names : List String) {js : List Json} (h : ∀ j ∈ js, j.reread.sound = true) :
    (object (named names js)).reread.sound = true := by
  rw [reread_named, sound]
  induction names generalizing js with
  | nil => rfl
  | cons name names ih =>
    cases js with
    | nil => rfl
    | cons j js =>
      have hj := h j List.mem_cons_self
      have hjs := ih fun k hk => h k (List.mem_cons_of_mem j hk)
      show ((JsonPiece.chars? ((name.toList.map .char).map JsonPiece.reread)).isSome &&
        j.reread.sound && soundMembers ((named names js).map rereadMember)) = true
      rw [JsonPiece.chars?_reread, JsonPiece.chars?_map_char, hj, hjs]
      rfl

theorem sound_reread_ofString (s : String) : (ofString s).reread.sound = true := by
  rw [ofString, reread, sound, JsonPiece.chars?_reread, JsonPiece.chars?_map_char]
  rfl

theorem sound_reread_ofInt {n : Nat} (h : n < Number.Binary64.leadingOne) :
    (ofInt n).reread.sound = true := by
  obtain ⟨x, hx, hfinite⟩ := Number.Binary64.ofText?_toDigits h
  rw [ofInt, reread, sound, toList_renderInt_of_nonneg (Int.natCast_nonneg n), Int.toNat_natCast,
    isFinite, hx, Option.map_some]
  cases hd : x.decode with
  | finite negative mantissa exponent => rfl
  | infinite negative =>
    rw [hd] at hfinite
    exact hfinite.elim
  | notANumber =>
    rw [hd] at hfinite
    exact hfinite.elim

end Json

/-! ## Choices -/

theorem NumberType.ofJson?_reread (t : NumberType) : ofJson? t.toJson.reread = some t := by
  rw [ofJson?, toJson, Json.choice?_reread, Option.bind_some, ofName?_name]

theorem OptimizerKind.ofJson?_reread (k : OptimizerKind) : ofJson? k.toJson.reread = some k := by
  rw [ofJson?, toJson, Json.choice?_reread, Option.bind_some]
  cases k <;> decide

/-! ## Retry policies -/

namespace RetryPolicy

theorem bound?_eq {n : Int} (h : 0 ≤ n ∧ n < UInt32.size) {j : Json} (hj : j.integer? = some n) :
    bound? j = some (.bounded (UInt32.ofNat n.toNat)) := by
  simp only [bound?, hj, Option.bind_eq_bind, Option.bind_some]
  rw [if_pos h]
  rfl

theorem bound?_reread (n : UInt32) : bound? (Json.ofInt n.toNat).reread = some (.bounded n) := by
  have hlt : (n.toNat : Int) < UInt32.size := Int.ofNat_lt.mpr n.toNat_lt_size
  rw [bound?_eq ⟨Int.natCast_nonneg _, hlt⟩ (Json.integer?_reread _), Int.toNat_natCast,
    UInt32.ofNat_toNat]

/-- The values of the members that a policy is written as. -/
def values : RetryPolicy → List Json
  | unbounded => [.ofString "unbounded"]
  | bounded n => [.ofString "bounded", .ofInt n.toNat]

theorem toJson_eq_named (p : RetryPolicy) :
    p.toJson = .object (Json.named ["kind", "max_attempts"] p.values) := by
  cases p <;> rfl

theorem writable_toJson (depth : Nat) (p : RetryPolicy) : p.toJson.Writable (depth + 1) := by
  rw [toJson_eq_named]
  refine Json.writable_named _ ?_
  cases p with
  | unbounded => simpa [values] using Json.writable_ofString depth "unbounded"
  | bounded n =>
    simpa [values] using
      And.intro (Json.writable_ofString depth "bounded") (Json.writable_ofInt depth n.toNat)

theorem sound_toJson (p : RetryPolicy) : p.toJson.reread.sound = true := by
  rw [toJson_eq_named]
  refine Json.sound_named _ ?_
  cases p with
  | unbounded => simpa [values] using Json.sound_reread_ofString "unbounded"
  | bounded n =>
    have hlt : n.toNat < Number.Binary64.leadingOne := Nat.lt_trans n.toNat_lt (by decide)
    simpa [values] using
      And.intro (Json.sound_reread_ofString "bounded") (Json.sound_reread_ofInt hlt)

/-- **A retry policy** is read back. -/
theorem ofJson?_reread (p : RetryPolicy) : ofJson? p.toJson.reread = some p := by
  have hsound := p.sound_toJson
  unfold ofJson?
  rw [if_pos hsound, toJson_eq_named, Json.reread_named]
  simp only [Json.members?_reread]
  cases p with
  | unbounded =>
    have hkind := Json.string?_reread "unbounded"
    simp [values, hkind]
  | bounded n =>
    have hkind := Json.string?_reread "bounded"
    have hbound := bound?_reread n
    simp [values, hkind, hbound]

end RetryPolicy

/-! ## Settings -/

namespace Settings

/-- The values of the members that settings are written as. -/
def values (s : Settings) : List Json :=
  [.ofString s.tableName, .ofOption s.catalog, .ofOption s.schema, .ofString s.valueColumn,
    .ofInt s.initialValue.toInt, .ofInt s.incrementSize.toInt, s.numberType.toJson,
    (match s.optimizer with | some k => k.toJson | none => .null), s.retry.toJson]

theorem toJson_eq_named (s : Settings) : s.toJson = .object (Json.named fieldNames s.values) := rfl

theorem writable_toJson (depth : Nat) (s : Settings) : s.toJson.Writable (depth + 2) := by
  rw [toJson_eq_named]
  refine Json.writable_named _ ?_
  simp only [values, List.forall_mem_cons]
  refine ⟨Json.writable_ofString _ _, Json.writable_ofOption _ _, Json.writable_ofOption _ _,
    Json.writable_ofString _ _, Json.writable_ofInt _ _, Json.writable_ofInt _ _,
    Json.writable_ofString _ _, ?_, RetryPolicy.writable_toJson _ _, nofun⟩
  cases s.optimizer with
  | none => trivial
  | some k => exact Json.writable_ofString _ _

/-- **Settings** are read back. -/
theorem ofJson?_reread (s : Settings) : ofJson? s.toJson.reread = some s := by
  have hoptimizer : Json.optional? OptimizerKind.ofJson?
      (match s.optimizer with | some k => k.toJson | none => Json.null).reread =
        some s.optimizer := by
    cases s.optimizer with
    | none => rfl
    | some k => exact congrArg (Option.map some) (OptimizerKind.ofJson?_reread k)
  rw [toJson_eq_named, Json.reread_named]
  simp only [ofJson?, Json.members?_reread, Option.bind_eq_bind, Option.bind_some]
  have hnames : (fieldNames.zip (s.values.map Json.reread)).map (·.1) = fieldNames := rfl
  rw [hnames, if_pos (by decide)]
  simp only [setFields, fieldNames, values, List.map_cons, List.map_nil, List.zip_cons_cons,
    List.zip_nil_right, List.foldlM_cons, List.foldlM_nil, setField, Json.string?_reread,
    Json.optional?_reread, Json.word?_reread, NumberType.ofJson?_reread, hoptimizer,
    RetryPolicy.ofJson?_reread, Option.map_some, Option.bind_eq_bind, Option.bind_some]
  rfl

/-- **Settings that are written and read**: valid ones come back from their text. -/
theorem ofJsonText_toJsonText {s : Settings} (h : s.validate = .ok ()) :
    ofJsonText s.toJsonText = .ok s := by
  have hread : (Json.ofText? s.toJsonText).bind ofJson? = some s := by
    rw [toJsonText, Json.ofText?_render (s.writable_toJson 125), Option.bind_some, ofJson?_reread]
  rw [ofJsonText, hread]
  exact congrArg (Except.map fun _ => s) h

/-- Settings with control characters, quotes and a character beyond the basic plane. -/
def adorned : Settings where
  tableName := "\"a\t\u0001\\😀\""
  catalog := some "c"
  valueColumn := "v"
  initialValue := -5
  incrementSize := 9223372036854775807
  numberType := .short
  optimizer := some .hilo
  retry := .bounded 4294967295

theorem ofJsonText_toJsonText_adorned :
    adorned.validate = .ok () ∧ ofJsonText adorned.toJsonText = .ok adorned := by
  have hvalid : adorned.validate = .ok () := by decide +kernel
  exact ⟨hvalid, ofJsonText_toJsonText hvalid⟩

end Settings

end CounterTable
