import CounterTable.Proofs.Allocation.Unobserved
import CounterTable.Proofs.Store.Frame
import CounterTable.Proofs.Store.OneColumn
import CounterTable.Store.Rehearsal
import Mathlib.Logic.Function.Basic

/-!
# Allocations that race for one table

Any number of allocations, with counters of any steps, stand anywhere between their calls on the
database. A value that one of them has read may be stale, but then it lies below the first value of
the table and occurs nowhere in it: values are only replaced by greater ones, all equal ones at
once. So an update that finds the value it looks for replaces the first one.

* `Counter.Over`: the statements of a counter read and replace the column of a table;
* `Seen`: what is known of a value that was read;
* `Stands`: what is known of an allocation, from where it stands;
* `Contest`: the invariant of the race.
-/

namespace CounterTable

/-- The statements of a counter, as far as the database understands them, read the column of this
table and replace values in it. -/
structure Counter.Over (name : String) (c : Counter) : Prop where
  step_pos : 0 < c.step
  reads : ∀ s, Statement.ofText c.selectText = .ok s → ∃ column shown forUpdate,
    s = .select name [.column column shown] none forUpdate
  writes : ∀ s, Statement.ofText c.updateText = .ok s → ∃ column column',
    s = .update name [(column, .param 1)] (some ⟨column', .param 2⟩)

/-- A value is the first one of the column, or lies below it and does not occur in it. -/
def Seen (ns : List Int64) (v : Int) : Prop :=
  ∃ first, first? ns = some first ∧ (v = first ∨ v < first ∧ ∀ n ∈ ns, n.toInt ≠ v)

variable {ns ms : List Int64} {v w : Int64}

theorem Seen.first {n : Int64} (h : ns.head? = some n) : Seen ns n.toInt :=
  ⟨n.toInt, by rw [first?, h]; rfl, .inl rfl⟩

theorem Seen.eq_first (h : Seen ns v.toInt) (hv : v ∈ ns) : ns.head? = some v := by
  obtain ⟨first, hf, he | ⟨-, hn⟩⟩ := h
  · obtain ⟨n, hn, rfl⟩ := Option.map_eq_some_iff.mp hf
    rw [hn, Int64.toInt_inj.mp he]
  · exact absurd rfl (hn v hv)

theorem head?_replaced (h : ns.head? = some v) : (replaced v w ns).head? = some w := by
  obtain ⟨rest, rfl⟩ := List.head?_eq_some_iff.mp h
  simp [replaced]

theorem first?_replaced {u : Int} {current : Integral} (hfirst : first? ns = some u)
    (hhead : ns.head? = some current.word) (w : Int64) :
    u = current.val ∧ first? (CounterTable.replaced current.word w ns) = some w.toInt := by
  rw [first?, hhead, Option.map_some, Option.some.injEq, Integral.toInt_word] at hfirst
  refine ⟨hfirst.symm, ?_⟩
  rw [first?, head?_replaced hhead]
  rfl

theorem Seen.replaced (h : ns.head? = some v) (hvw : v.toInt < w.toInt) {u : Int} (hu : Seen ns u) :
    Seen (replaced v w ns) u := by
  obtain ⟨first, hf, hu⟩ := hu
  rw [first?, h] at hf
  cases hf
  refine ⟨w.toInt, by rw [first?, head?_replaced h]; rfl, .inr ?_⟩
  rcases hu with rfl | ⟨hlt, hn⟩
  · refine ⟨hvw, fun m hm he => ?_⟩
    rcases mem_replaced hm with rfl | ⟨-, hne⟩
    · exact Int.ne_of_gt hvw he
    · exact hne (Int64.toInt_inj.mp he)
  · have huw : u < w.toInt := Int.lt_trans hlt hvw
    refine ⟨huw, fun m hm he => ?_⟩
    rcases mem_replaced hm with rfl | ⟨hin, -⟩
    · exact Int.ne_of_gt huw he
    · exact hn m hin he

/-! ## Where allocations stand -/

/-- What is known of an attempt: what it has read, and what it has prepared and bound. -/
def Counter.Attempting (c : Counter) (ns : List Int64) (prepared : Option Prepared) :
    Attempt → Prop
  | .preparingRead => True
  | .reading => ∃ s, Statement.ofText c.selectText = .ok s ∧ prepared = some ⟨c.selectText, s, []⟩
  | .preparingWrite current advanced => Seen ns current.val ∧ advanced.val = current.val + c.step
  | .bindingAdvanced current advanced =>
    Seen ns current.val ∧ advanced.val = current.val + c.step ∧
      ∃ s, Statement.ofText c.updateText = .ok s ∧ prepared = some ⟨c.updateText, s, []⟩
  | .bindingCurrent current =>
    Seen ns current.val ∧ ∃ s b, Statement.ofText c.updateText = .ok s ∧
      prepared = some ⟨c.updateText, s, b⟩ ∧
      ∃ w : Int64, b.get? 1 = some (.integer w) ∧ w.toInt = current.val + c.step
  | .writing current =>
    Seen ns current.val ∧ ∃ s b, Statement.ofText c.updateText = .ok s ∧
      prepared = some ⟨c.updateText, s, b⟩ ∧ b.get? 2 = some (.integer current.word) ∧
      ∃ w : Int64, b.get? 1 = some (.integer w) ∧ w.toInt = current.val + c.step

theorem Counter.Attempting.mono {c : Counter} {prepared : Option Prepared} {a : Attempt}
    (h : c.Attempting ns prepared a) (hs : ∀ u, Seen ns u → Seen ms u) :
    c.Attempting ms prepared a := by
  cases a with
  | preparingRead => trivial
  | reading => exact h
  | preparingWrite current advanced => exact ⟨hs _ h.1, h.2⟩
  | bindingAdvanced current advanced => exact ⟨hs _ h.1, h.2⟩
  | bindingCurrent current => exact ⟨hs _ h.1, h.2⟩
  | writing current => exact ⟨hs _ h.1, h.2⟩

/-- The connection holds the lock of the table, and has replaced the first of its values. -/
def Database.Claimed (db : Database) (name : String) (id : Nat) (ns : List Int64) (step : Int)
    (current : Integral) : Prop :=
  ∃ table w, db.storage.get? name = some table ∧ table.lockedBy? = some id ∧
    ns.head? = some current.word ∧ w.toInt = current.val + step ∧
    table.rows = rowsOf (replaced current.word w ns)

/-- What is known of an allocation, from where it stands. -/
inductive Counter.Stands (c : Counter) (name : String) (ns : List Int64) (db : Database) :
    NextValue → Prop
  | connecting : Stands c name ns db .connecting
  | connected {id : Nat} {link : Link} (hl : db.links.get? id = some link)
      (hx : link.transaction = none) : Stands c name ns db (.connected id (.deciding [] none))
  | attempting {id : Nat} {link : Link} {x : Transaction} {a : Allocation}
      (hl : db.links.get? id = some link) (hx : link.transaction = some x)
      (ha : c.Attempting ns link.prepared a.attempt) :
      Stands c name ns db (.connected id (.working [] none a))
  | claimed {id : Nat} {link : Link} {x : Transaction} {current : Integral}
      (hl : db.links.get? id = some link) (hx : link.transaction = some x)
      (hc : db.Claimed name id ns c.step current) :
      Stands c name ns db (.connected id (.deciding [.ok ()] (some current)))
  | failed {id : Nat} {link : Link} {e : Error} (hl : db.links.get? id = some link) :
      Stands c name ns db (.connected id (.deciding [.error e] none))

/-- The allocation has replaced the first value, on this connection. -/
def Counter.NextValue.Claims (id : Nat) (w : Counter.NextValue) : Prop :=
  ∃ current, w = .connected id (.deciding [.ok ()] (some current))

variable {c : Counter} {name : String} {db db' : Database} {place : Counter.NextValue}

theorem Counter.Stands.isOpen {id : Nat} {w : Delegated Allocation Integral}
    (h : c.Stands name ns db (.connected id w)) : (db.links.get? id).isSome := by
  cases h with
  | connected hl _ => exact Option.isSome_of_eq_some hl
  | attempting hl _ _ => exact Option.isSome_of_eq_some hl
  | claimed hl _ _ => exact Option.isSome_of_eq_some hl
  | failed hl => exact Option.isSome_of_eq_some hl

theorem Counter.Stands.mono (h : c.Stands name ns db place)
    (hl : ∀ id w, place = .connected id w → db'.links.get? id = db.links.get? id)
    (hs : ∀ u, Seen ns u → Seen ms u)
    (hc : ∀ id current, place = .connected id (.deciding [.ok ()] (some current)) →
      db.Claimed name id ns c.step current → db'.Claimed name id ms c.step current) :
    c.Stands name ms db' place := by
  cases h with
  | connecting => exact .connecting
  | connected hlink hx => exact .connected ((hl _ _ rfl).trans hlink) hx
  | attempting hlink hx ha => exact .attempting ((hl _ _ rfl).trans hlink) hx (ha.mono hs)
  | claimed hlink hx hcl => exact .claimed ((hl _ _ rfl).trans hlink) hx (hc _ _ rfl hcl)
  | failed hlink => exact .failed ((hl _ _ rfl).trans hlink)

/-! ## The invariant -/

variable {ι : Type}

/-- The invariant of a race for a table with the committed values `ns`, where the allocation `i` of
the counter `counter i` stands at `place i`. -/
structure Contest (name : String) (counter : ι → Counter) (place : ι → Counter.NextValue)
    (db : Database) (ns : List Int64) : Prop where
  numbered : db.Numbered
  accounted : db.Accounted
  /-- Nobody can take back the creation or the removal of the table. -/
  spares : ∀ c, Transaction.Spares name (db.transaction? c)
  table : ∃ table, db.storage.get? name = some table ∧ table.columns.length = 1 ∧
    table.committed = rowsOf ns ∧
      ((∃ i id, (place i).Claims id ∧ table.lockedBy? = some id) ∨ table.rows = table.committed)
  nonempty : ns ≠ []
  stands : ∀ i, (counter i).Stands name ns db (place i)
  separate : ∀ i j id w w', place i = .connected id w → place j = .connected id w' → i = j

namespace Contest

variable {counter : ι → Counter} {places places' : ι → Counter.NextValue}

theorem rows_eq (h : Contest name counter places db ns) {id : Nat}
    (hc : ∀ i, ¬ (places i).Claims id) {table : Table} (hg : db.storage.get? name = some table)
    (hl : table.lockedBy? = some id) : table.rows = table.committed := by
  obtain ⟨u, hu, -, -, ⟨i, k, hcl, hk⟩ | hr⟩ := h.table
  · rw [hg] at hu
    cases hu
    cases hl.symm.trans hk
    exact absurd hcl (hc i)
  · rw [hg] at hu
    cases hu
    exact hr

theorem of_kept (h : Contest name counter places db ns) (e : Event) (target : Option ι)
    (ho : ∀ j, target ≠ some j → places' j = places j ∧ ∀ w, places j ≠ .connected (db.actor e) w)
    (ht : ∀ i, target = some i → (counter i).Stands name ns (db.after e) (places' i) ∧
      (∀ id w, places' i = .connected id w → id = db.actor e) ∧ ∀ id, ¬ (places i).Claims id)
    (hk : ∀ table, db.storage.get? name = some table →
      ∃ table', (db.after e).storage.get? name = some table' ∧ table.Kept (db.actor e) table')
    (hs : Transaction.Spares name ((db.after e).transaction? (db.actor e))) :
    Contest name counter places' (db.after e) ns where
  numbered := h.numbered.after e
  accounted := h.accounted.after h.numbered e
  spares c := by
    by_cases hc : c = db.actor e
    · exact hc ▸ hs
    · rw [Database.transaction?_after e hc]
      exact h.spares c
  table := by
    obtain ⟨table, hg, hcols, hcom, hrows⟩ := h.table
    obtain ⟨table', hg', hkept⟩ := hk table hg
    refine ⟨table', hg', by rw [hkept.columns, hcols], by rw [hkept.committed, hcom], ?_⟩
    rcases hrows with ⟨i, id, hcl, hl⟩ | hr
    · have hi : target ≠ some i := fun hi => (ht i hi).2.2 id hcl
      obtain ⟨hsame, hne⟩ := ho i hi
      have hid : id ≠ db.actor e := by
        obtain ⟨current, hp⟩ := hcl
        exact fun he => hne _ (he ▸ hp)
      exact .inl ⟨i, id, hsame.symm ▸ hcl, (hkept.others id hid).mpr hl⟩
    · exact .inr (by rw [hkept.rows, hr, hkept.committed])
  nonempty := h.nonempty
  stands j := by
    by_cases hj : target = some j
    · exact (ht j hj).1
    · obtain ⟨hsame, hne⟩ := ho j hj
      have hid : ∀ id w, places j = .connected id w → id ≠ db.actor e :=
        fun id w hp he => hne w (he ▸ hp)
      rw [hsame]
      refine (h.stands j).mono (fun id w hp => Database.links_after e (hid id w hp)) (fun _ hu => hu) ?_
      rintro id current hp ⟨table, w, hg, hl, hhead, hw, hrows⟩
      obtain ⟨table', hg', hkept⟩ := hk table hg
      exact ⟨table', w, hg', (hkept.others id (hid id _ hp)).mpr hl, hhead, hw,
        hkept.rows.trans hrows⟩
  separate i j id w w' hi hj := by
    by_cases hti : target = some i
    · by_cases htj : target = some j
      · exact Option.some.inj (hti.symm.trans htj)
      · obtain ⟨hsame, hne⟩ := ho j htj
        exact absurd ((ht i hti).2.1 id w hi ▸ hsame ▸ hj) (hne w')
    · obtain ⟨hsame, hne⟩ := ho i hti
      by_cases htj : target = some j
      · exact absurd ((ht j htj).2.1 id w' hj ▸ hsame ▸ hi) (hne w)
      · exact h.separate i j id w w' (hsame ▸ hi) ((ho j htj).1 ▸ hj)

theorem of_not_writes (h : Contest name counter places db ns) (e : Event) (target : Option ι)
    (ho : ∀ j, target ≠ some j → places' j = places j ∧ ∀ w, places j ≠ .connected (db.actor e) w)
    (ht : ∀ i, target = some i → (counter i).Stands name ns (db.after e) (places' i) ∧
      (∀ id w, places' i = .connected id w → id = db.actor e) ∧ ∀ id, ¬ (places i).Claims id)
    (hw : ¬ db.Writes e name) : Contest name counter places' (db.after e) ns := by
  have hclaims : ∀ i, ¬ (places i).Claims (db.actor e) := by
    intro i hc
    by_cases hi : target = some i
    · exact (ht i hi).2.2 _ hc
    · obtain ⟨current, hp⟩ := hc
      exact (ho i hi).2 _ hp
  obtain ⟨table, hg, -⟩ := h.table
  obtain ⟨⟨table', hg', hk⟩, hs⟩ := Database.after_kept h.numbered hw (h.spares _) hg
    (h.accounted.tables name table hg).1 (h.rows_eq hclaims hg)
  refine h.of_kept e target ho ht (fun u hu => ?_) hs
  cases hg.symm.trans hu
  exact ⟨table', hg', hk⟩

/-- **Everything that others do** who do not write the table leaves the race as it is. -/
theorem environment (h : Contest name counter places db ns) (e : Event)
    (ho : ∀ j w, places j ≠ .connected (db.actor e) w) (hw : ¬ db.Writes e name) :
    Contest name counter places (db.after e) ns :=
  h.of_not_writes e none (fun j _ => ⟨rfl, ho j⟩) nofun hw

/-! ## Events of the allocations -/

variable [DecidableEq ι] {i : ι} {id : Nat} {w₀ w₁ : Delegated Allocation Integral}

theorem call (h : Contest name counter places db ns) (hp : places i = .connected id w₀)
    (hc : ∀ k, ¬ (places i).Claims k) {c : Call} (hw : ¬ db.Writes (.call id c) name)
    (hs : (counter i).Stands name ns (db.after (.call id c)) (.connected id w₁)) :
    Contest name counter (Function.update places i (.connected id w₁)) (db.after (.call id c)) ns := by
  refine h.of_not_writes (.call id c) (some i) (fun j hj => ⟨?_, fun w hpj => ?_⟩) ?_ hw
  · exact Function.update_of_ne (fun he => hj (congrArg some he.symm)) _ _
  · exact hj (congrArg some (h.separate i j id w₀ w hp hpj))
  · rintro j ⟨⟩
    rw [Function.update_self]
    exact ⟨hs, fun k w hk => by cases hk; rfl, hc⟩

theorem disconnect (h : Contest name counter places db ns) (hp : places i = .connected id w₀)
    (hc : ∀ k, ¬ (places i).Claims k) :
    Contest name counter (Function.update places i .connecting) (db.after (.disconnect id)) ns := by
  refine h.of_not_writes (.disconnect id) (some i) (fun j hj => ⟨?_, fun w hpj => ?_⟩) ?_
    fun hw => hw
  · exact Function.update_of_ne (fun he => hj (congrArg some he.symm)) _ _
  · exact hj (congrArg some (h.separate i j id w₀ w hp hpj))
  · rintro j ⟨⟩
    rw [Function.update_self]
    exact ⟨.connecting, fun k w hk => (nomatch hk), hc⟩

theorem connect (h : Contest name counter places db ns) (hp : places i = .connecting) :
    Contest name counter
      (Function.update places i (.connected (db.opened + 1) Delegate.start)) (db.after .connect)
      ns := by
  refine h.of_not_writes .connect (some i) (fun j hj => ⟨?_, fun w hpj => ?_⟩) ?_ fun hw => hw
  · exact Function.update_of_ne (fun he => hj (congrArg some he.symm)) _ _
  · have := h.numbered _ (hpj ▸ h.stands j : (counter j).Stands name ns db _).isOpen
    exact absurd this.2 (Nat.not_succ_le_self db.opened)
  · rintro j ⟨⟩
    rw [Function.update_self]
    have hl : (db.after .connect).links.get? (db.opened + 1) = some {} := by
      simp [Database.after, Database.connect]
    refine ⟨.connected hl rfl, fun k w hk => by cases hk; rfl, fun k hk => ?_⟩
    obtain ⟨current, hk⟩ := hk
    cases hp.symm.trans hk

theorem separate_update (h : Contest name counter places db ns) (hp : places i = .connected id w₀)
    (w₁ : Delegated Allocation Integral) (j k : ι) (m : Nat) (w w' : Delegated Allocation Integral)
    (hj : Function.update places i (.connected id w₁) j = .connected m w)
    (hk : Function.update places i (.connected id w₁) k = .connected m w') : j = k := by
  have hold : ∀ j w, Function.update places i (.connected id w₁) j = .connected m w →
      ∃ w', places j = .connected m w' := by
    intro j w hj
    by_cases hji : j = i
    · subst hji
      rw [Function.update_self] at hj
      cases hj
      exact ⟨w₀, hp⟩
    · rw [Function.update_of_ne hji] at hj
      exact ⟨w, hj⟩
  obtain ⟨u, hu⟩ := hold j w hj
  obtain ⟨u', hu'⟩ := hold k w' hk
  exact h.separate j k m u u' hu hu'

/-- **An update that finds its value** claims the first value of the table. -/
theorem claim (h : Contest name counter places db ns) (hp : places i = .connected id w₀)
    {table : Table} (hg : db.storage.get? name = some table) (hf : table.Free id)
    {current : Integral} (hhead : ns.head? = some current.word) {w : Int64}
    (hw : w.toInt = current.val + (counter i).step)
    (hget : (db.after (.call id .update)).storage.get? name =
      some { table.acquire id with rows := rowsOf (replaced current.word w ns) })
    {link : Link} {x : Transaction}
    (hlink : (db.after (.call id .update)).links.get? id = some link)
    (hx : link.transaction = some x)
    (hs : Transaction.Spares name ((db.after (.call id .update)).transaction? id)) :
    Contest name counter
      (Function.update places i (.connected id (.deciding [.ok ()] (some current))))
      (db.after (.call id .update)) ns where
  numbered := h.numbered.after _
  accounted := h.accounted.after h.numbered _
  spares c := by
    by_cases hc : c = id
    · exact hc ▸ hs
    · rw [Database.transaction?_after (.call id .update) hc]
      exact h.spares c
  table := by
    obtain ⟨u, hu, hcols, hcom, -⟩ := h.table
    cases hg.symm.trans hu
    refine ⟨_, hget, (congrArg List.length (Table.columns_acquire table id)).trans hcols, ?_,
      .inl ⟨i, id, ⟨current, Function.update_self ..⟩, hf.lockedBy?_acquire⟩⟩
    rw [(h.accounted.tables name table hg).1.committed_acquire hf, hcom]
  nonempty := h.nonempty
  stands j := by
    by_cases hj : j = i
    · subst hj
      rw [Function.update_self]
      exact .claimed hlink hx ⟨_, w, hget, hf.lockedBy?_acquire, hhead, hw, rfl⟩
    · rw [Function.update_of_ne hj]
      have hid : ∀ k u, places j = .connected k u → k ≠ id :=
        fun k u hk he => hj (h.separate j i id u w₀ (he ▸ hk) hp)
      refine (h.stands j).mono (fun k u hk => Database.links_after _ (hid k u hk)) (fun _ hu => hu) ?_
      rintro k current' hk ⟨u, w', hu, hl, -⟩
      cases hg.symm.trans hu
      exact absurd (hf.eq_of_locked hl) (hid k _ hk)
  separate := h.separate_update hp _

/-- **The commit of a claim** moves the first value of the table by the step of the counter. -/
theorem commit (h : Contest name counter places db ns) (hpos : 0 < (counter i).step)
    {current : Integral} (hp : places i = .connected id (.deciding [.ok ()] (some current))) :
    ∃ w : Int64, ns.head? = some current.word ∧ w.toInt = current.val + (counter i).step ∧
      Contest name counter (Function.update places i (.connected id (.deciding [] none)))
        (db.after (.call id .commit)) (replaced current.word w ns) := by
  obtain ⟨link, x, hl, hx, table, w, hg, hlock, hhead, hw, hrows⟩ :
      ∃ link x, db.links.get? id = some link ∧ link.transaction = some x ∧
        db.Claimed name id ns (counter i).step current := by
    have hs := hp ▸ h.stands i
    cases hs with
    | claimed hl hx hc => exact ⟨_, _, hl, hx, hc⟩
  have hafter : db.after (.call id .commit) =
      db.settle id link ⟨Turn.ended id true db.storage x, none⟩ :=
    congrArg Prod.snd (Database.finish_of_transaction hl hx true)
  have hget : (db.after (.call id .commit)).storage.get? name = some (table.release id true) := by
    refine (h.accounted.get?_finish (fun _ _ => .inl rfl) name).trans ?_
    rw [hg]
    rfl
  have hrel : table.release id true = { table with lockedBy? := none, saved? := none } := by
    rw [Table.release, if_pos hlock]
    rfl
  refine ⟨w, hhead, hw, ?_⟩
  have hown : ∀ j, j ≠ i → ∀ k u, places j = .connected k u → k ≠ id :=
    fun j hj k u hk he => hj (h.separate j i id u _ (he ▸ hk) hp)
  exact {
    numbered := h.numbered.after _
    accounted := h.accounted.after h.numbered _
    spares := by
      intro c
      by_cases hc : c = id
      · rw [hafter, hc, Database.transaction?_settle, if_pos rfl]
        rintro y ⟨⟩
      · rw [Database.transaction?_after (.call id .commit) hc]
        exact h.spares c
    table := by
      obtain ⟨u, hu, hcols, -⟩ := h.table
      cases hg.symm.trans hu
      exact ⟨_, hget.trans (congrArg some hrel), hcols, hrows, .inr rfl⟩
    nonempty := by
      intro he
      have := head?_replaced (w := w) hhead
      rw [he] at this
      cases this
    stands := by
      intro j
      by_cases hj : j = i
      · subst hj
        rw [Function.update_self]
        have hnone : (db.after (.call id .commit)).links.get? id =
            some { link with transaction := none } := by
          rw [hafter, Database.links_settle, if_pos rfl]
        exact .connected hnone rfl
      · rw [Function.update_of_ne hj]
        refine (h.stands j).mono (fun k u hk => Database.links_after _ (hown j hj k u hk))
          (fun _ hu => hu.replaced hhead ?_) ?_
        · rw [Integral.toInt_word, hw]
          omega
        · rintro k current' hk ⟨u, w', hu, hl', -⟩
          cases hg.symm.trans hu
          cases hlock.symm.trans hl'
          exact absurd rfl (hown j hj _ _ hk)
    separate := h.separate_update hp _ }

end Contest

end CounterTable
