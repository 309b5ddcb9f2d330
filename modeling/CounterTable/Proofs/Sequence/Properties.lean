import CounterTable.Proofs.Text.Numerals
import CounterTable.Sequence.Settings

/-!
# Settings as properties

Settings can be written as a flat map of properties, with numbers in decimal, choices by their
names, and no property for what is not set. They are read back from every map that has these
properties, with blanks around the numbers and names if one likes, whatever else it has.

* `Text.Padded`: a text between blanks;
* `Keyed.ofOptions`: values by key, of which some are missing;
* `Settings.properties`, `Settings.Spells`: the properties of settings, and the maps that have them;
* `Settings.ofProperties_congr`: properties of other names are ignored;
* `Settings.readNumber_padded`, `Settings.readRetries_padded`, `NumberType.ofText_padded`,
  `OptimizerKind.ofText_padded`: each kind of property is read back;
* **`Settings.ofProperties_spelled`**: so are the settings.
-/

namespace CounterTable

open CounterTable.Text

/-! ## Texts between blanks -/

namespace Text

/-- What has a text between blanks. -/
def Padded (raw text : String) : Prop :=
  ∃ before after, (∀ c ∈ before, isBlank c = true) ∧ (∀ c ∈ after, isBlank c = true) ∧
    raw.toList = before ++ text.toList ++ after

theorem Padded.trim_eq {raw text : String} (h : Padded raw text) (hs : Solid text.toList) :
    trim raw.toList = text.toList := by
  obtain ⟨before, after, hbefore, hafter, heq⟩ := h
  rw [heq, hs.trim_between hbefore hafter]

end Text

theorem Settings.readNumber_padded {raw : String} {w : Int64}
    (h : Padded raw (renderInt w.toInt)) (key : String) : readNumber key raw = .ok w := by
  have hsolid : Solid (renderInt w.toInt).toList :=
    (readInt?_eq_some_iff.mp (readInt?_renderInt w.toInt)).solid
  rw [readNumber, h.trim_eq hsolid, readWord?_renderInt]

theorem NumberType.ofText_padded {raw : String} {t : NumberType} (h : Padded raw t.name) :
    ofText raw = .ok t := by
  have hsolid : Solid t.name.toList := by
    cases t <;> exact ⟨nofun, by rintro _ ⟨⟩; rfl, by rintro _ ⟨⟩; rfl⟩
  have hlower : String.ofList (lower t.name.toList) = t.name := by cases t <;> rfl
  simp only [ofText, h.trim_eq hsolid, hlower, ofName?_name]

theorem OptimizerKind.ofText_padded {raw : String} {k : OptimizerKind} (h : Padded raw k.name) :
    ofText raw = .ok k := by
  have hsolid : Solid k.name.toList := by
    cases k <;> exact ⟨nofun, by rintro _ ⟨⟩; rfl, by rintro _ ⟨⟩; rfl⟩
  have hlower : String.ofList (lower k.name.toList) = k.name := by cases k <;> rfl
  simp only [ofText, h.trim_eq hsolid, hlower, ofName?_name]

theorem Settings.readRetries_padded {raw : String} {n : UInt32}
    (h : Padded raw (renderInt n.toNat)) (key : String) :
    readRetries key raw = .ok (.bounded n) := by
  have hlt : n.toNat < 4294967296 := n.toNat_lt
  have hword : (Int64.ofNat n.toNat).toInt = n.toNat := Int64.toInt_ofNat_of_lt (by omega)
  rw [← hword] at h
  have hrange : 0 ≤ (n.toNat : Int) ∧ (n.toNat : Int) < UInt32.size :=
    ⟨Int.natCast_nonneg _, Int.ofNat_lt.mpr n.toNat_lt_size⟩
  rw [readRetries, readNumber_padded h]
  change (if 0 ≤ (Int64.ofNat n.toNat).toInt ∧ _ then _ else _) = _
  rw [hword, if_pos hrange, Int.toNat_natCast, UInt32.ofNat_toNat]
  rfl

/-! ## Values of which some are missing -/

namespace Keyed

variable {κ α : Type}

/-- The values that are there, by their keys. -/
def ofOptions (l : List (κ × Option α)) : Keyed κ α :=
  l.filterMap fun p => p.2.map fun a => (p.1, a)

theorem get?_ofOptions_of_forall_ne [BEq κ] [LawfulBEq κ] {l : List (κ × Option α)} {k : κ}
    (h : ∀ p ∈ l, p.1 ≠ k) : (ofOptions l).get? k = none := by
  refine List.lookup_eq_none_iff.mpr fun p hp => ?_
  obtain ⟨q, hq, hmap⟩ := List.mem_filterMap.mp hp
  obtain ⟨a, -, rfl⟩ := Option.map_eq_some_iff.mp hmap
  exact bne_iff_ne.mpr (h q hq).symm

/-- **The value of a key**, if keys come once. -/
theorem get?_ofOptions_of_mem [BEq κ] [LawfulBEq κ] {l : List (κ × Option α)}
    (hl : (l.map Prod.fst).Nodup) {k : κ} {o : Option α} (h : (k, o) ∈ l) :
    (ofOptions l).get? k = o := by
  induction l with
  | nil => cases h
  | cons p l ih =>
    obtain ⟨hfirst, hrest⟩ := List.nodup_cons.mp hl
    rcases List.mem_cons.mp h with rfl | hmem
    · cases o with
      | none =>
        exact get?_ofOptions_of_forall_ne (l := l) fun q hq heq =>
          hfirst (List.mem_map.mpr ⟨q, hq, heq⟩)
      | some a => exact List.lookup_cons_self
    · have hne : k ≠ p.1 := fun heq => hfirst (heq ▸ List.mem_map_of_mem (f := Prod.fst) hmem)
      obtain ⟨j, o'⟩ := p
      cases o' with
      | none => exact ih hrest hmem
      | some a =>
        change List.lookup k ((j, a) :: ofOptions l) = _
        rw [List.lookup_cons, beq_eq_false_iff_ne.mpr hne]
        exact ih hrest hmem

end Keyed

/-! ## Settings -/

/-- The property of a bound on retries. -/
def RetryPolicy.property : RetryPolicy → Option String
  | unbounded => none
  | bounded n => some (renderInt n.toNat)

namespace Settings

variable {s : Settings} {m : Keyed String String}

/-- The properties of settings, with those that are missing. -/
def fields (s : Settings) : List (String × Option String) := [
  ("table_name", some s.tableName),
  ("catalog", s.catalog),
  ("schema", s.schema),
  ("value_column", some s.valueColumn),
  ("initial_value", some (renderInt s.initialValue.toInt)),
  ("increment_size", some (renderInt s.incrementSize.toInt)),
  ("number_type", some s.numberType.name),
  ("optimizer", s.optimizer.map OptimizerKind.name),
  ("max_retries", s.retry.property)]

/-- The properties of settings. -/
def properties (s : Settings) : Keyed String String := .ofOptions s.fields

theorem get?_properties {key : String} {o : Option String} (h : (key, o) ∈ s.fields) :
    s.properties.get? key = o :=
  Keyed.get?_ofOptions_of_mem (by simp [fields]) h

/-- The properties that are taken as they are. -/
def textKeys : List String := ["table_name", "catalog", "schema", "value_column"]

/-- The properties that are numbers or the names of choices. -/
def choiceKeys : List String :=
  ["initial_value", "increment_size", "number_type", "optimizer", "max_retries"]

/-- A map that has the properties of settings, with blanks around the numbers and the names of
choices. Nothing is said of other properties, of which the name of a sequence is one. -/
structure Spells (s : Settings) (m : Keyed String String) : Prop where
  text : ∀ key ∈ textKeys, m.get? key = s.properties.get? key
  choice : ∀ key ∈ choiceKeys, Option.Rel Padded (m.get? key) (s.properties.get? key)

/-- What is read depends on no other property, and on the name of a sequence only if there is no
name of a table. -/
theorem ofProperties_congr {m' : Keyed String String}
    (h : ∀ key ∈ textKeys ++ choiceKeys, m.get? key = m'.get? key)
    (hname : (m.get? "table_name").isSome ∨ m.get? "sequence_name" = m'.get? "sequence_name") :
    ofProperties m = ofProperties m' := by
  have htable : ∀ default : String,
      (m.get? "table_name").getD ((m.get? "sequence_name").getD default) =
        (m'.get? "table_name").getD ((m'.get? "sequence_name").getD default) := by
    intro default
    rw [← h "table_name" (by decide)]
    rcases hname with hsome | hsequence
    · obtain ⟨text, htext⟩ := Option.isSome_iff_exists.mp hsome
      rw [htext]
      rfl
    · rw [hsequence]
  simp only [ofProperties, htable, h "catalog" (by decide), h "schema" (by decide),
    h "value_column" (by decide), h "initial_value" (by decide), h "increment_size" (by decide),
    h "number_type" (by decide), h "optimizer" (by decide), h "max_retries" (by decide)]

namespace Spells

theorem get?_text (h : s.Spells m) {key : String} {o : Option String} (ho : (key, o) ∈ s.fields)
    (hkey : key ∈ textKeys) : m.get? key = o :=
  (h.text key hkey).trans (get?_properties ho)

theorem rel_choice (h : s.Spells m) {key : String} {o : Option String} (ho : (key, o) ∈ s.fields)
    (hkey : key ∈ choiceKeys) : Option.Rel Padded (m.get? key) o :=
  get?_properties ho ▸ h.choice key hkey

theorem exists_of_some (h : s.Spells m) {key text : String} (ho : (key, some text) ∈ s.fields)
    (hkey : key ∈ choiceKeys) : ∃ raw, m.get? key = some raw ∧ Padded raw text := by
  have hrel := h.rel_choice ho hkey
  generalize m.get? key = o at hrel
  cases hrel with
  | some hpadded => exact ⟨_, rfl, hpadded⟩

theorem read_optimizer (h : s.Spells m) :
    (match m.get? "optimizer" with
      | some raw => some <$> OptimizerKind.ofText raw
      | none => .ok none) = .ok s.optimizer := by
  have hrel : Option.Rel Padded (m.get? "optimizer") (s.optimizer.map OptimizerKind.name) :=
    h.rel_choice (by simp [fields]) (by decide)
  generalize m.get? "optimizer" = o at hrel
  cases hset : s.optimizer with
  | none =>
    rw [hset] at hrel
    cases hrel with
    | none => rfl
  | some k =>
    rw [hset] at hrel
    cases hrel with
    | some hpadded => exact congrArg (some <$> ·) (OptimizerKind.ofText_padded hpadded)

theorem read_retry (h : s.Spells m) :
    (match m.get? "max_retries" with
      | some raw => readRetries "max_retries" raw
      | none => .ok .unbounded) = .ok s.retry := by
  have hrel : Option.Rel Padded (m.get? "max_retries") s.retry.property :=
    h.rel_choice (by simp [fields]) (by decide)
  generalize m.get? "max_retries" = o at hrel
  cases hset : s.retry with
  | unbounded =>
    rw [hset] at hrel
    cases hrel with
    | none => rfl
  | bounded n =>
    rw [hset] at hrel
    cases hrel with
    | some hpadded => exact readRetries_padded hpadded "max_retries"

end Spells

/-- **Settings are read back from their properties.** Settings that make sense come back from every
map that has their properties: with blanks around the numbers and the names of choices, and with any
other properties, also with the name of a sequence, which the name of the table overrides. -/
theorem ofProperties_spelled (hs : s.validate = .ok ()) (hm : s.Spells m) :
    ofProperties m = .ok s := by
  have htable : m.get? "table_name" = some s.tableName :=
    hm.get?_text (by simp [fields]) (by decide)
  have hcatalog : m.get? "catalog" = s.catalog := hm.get?_text (by simp [fields]) (by decide)
  have hschema : m.get? "schema" = s.schema := hm.get?_text (by simp [fields]) (by decide)
  have hcolumn : m.get? "value_column" = some s.valueColumn :=
    hm.get?_text (by simp [fields]) (by decide)
  obtain ⟨initial, hinitial, hinitial'⟩ : ∃ raw, m.get? "initial_value" = some raw ∧
      Padded raw (renderInt s.initialValue.toInt) :=
    hm.exists_of_some (by simp [fields]) (by decide)
  obtain ⟨increment, hincrement, hincrement'⟩ : ∃ raw, m.get? "increment_size" = some raw ∧
      Padded raw (renderInt s.incrementSize.toInt) :=
    hm.exists_of_some (by simp [fields]) (by decide)
  obtain ⟨number, hnumber, hnumber'⟩ : ∃ raw, m.get? "number_type" = some raw ∧
      Padded raw s.numberType.name :=
    hm.exists_of_some (by simp [fields]) (by decide)
  unfold ofProperties
  simp only [htable, hcatalog, hschema, hcolumn, hinitial, hincrement, hnumber,
    readNumber_padded hinitial', readNumber_padded hincrement', NumberType.ofText_padded hnumber']
  change (do
    let optimizer ← (match m.get? "optimizer" with
      | some raw => some <$> OptimizerKind.ofText raw
      | none => .ok none)
    let retry ← (match m.get? "max_retries" with
      | some raw => readRetries "max_retries" raw
      | none => .ok .unbounded)
    validated { s with optimizer, retry }) = .ok s
  rw [hm.read_optimizer, hm.read_retry]
  exact congrArg (Except.map fun _ => s) hs

/-- Settings of which each field is set. -/
def quarterly : Settings :=
  { tableName := "ids", catalog := some "c", schema := some "s", valueColumn := "n",
    initialValue := -5, incrementSize := 25, numberType := .short, optimizer := some .hilo,
    retry := .bounded 4294967295 }

/-- Their properties, with blanks of several kinds, a property that nothing reads and the name of a
sequence. -/
def quarterlyProperties : Keyed String String := [
  ("colour", "blue"), ("sequence_name", "other"), ("max_retries", "4294967295\n"),
  ("optimizer", "\thilo "), ("number_type", " short"), ("increment_size", "25\u00a0"),
  ("initial_value", "\u2003-5"), ("value_column", "n"), ("schema", "s"), ("catalog", "c"),
  ("table_name", "ids")]

theorem ofProperties_spelled_quarterly :
    quarterly.validate = .ok () ∧ ofProperties quarterlyProperties = .ok quarterly := by
  have hvalid : quarterly.validate = .ok () := by decide +kernel
  have hspells : quarterly.Spells quarterlyProperties := by
    refine ⟨by decide +kernel, ?_⟩
    simp only [choiceKeys, List.forall_mem_cons]
    have hblank {c : Char} (h : isBlank c = true) : ∀ b ∈ [c], isBlank b = true :=
      List.forall_mem_singleton.mpr h
    exact ⟨.some ⟨['\u2003'], [], hblank rfl, List.forall_mem_nil _, by decide +kernel⟩,
      .some ⟨[], ['\u00a0'], List.forall_mem_nil _, hblank rfl, by decide +kernel⟩,
      .some ⟨[' '], [], hblank rfl, List.forall_mem_nil _, by decide +kernel⟩,
      .some ⟨['\t'], [' '], hblank rfl, hblank rfl, by decide +kernel⟩,
      .some ⟨[], ['\n'], List.forall_mem_nil _, hblank rfl, by decide +kernel⟩,
      List.forall_mem_nil _⟩
  exact ⟨hvalid, ofProperties_spelled hvalid hspells⟩

end Settings

end CounterTable
