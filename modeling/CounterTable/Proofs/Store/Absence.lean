import CounterTable.Proofs.Store.Exclusion

/-!
# Tables that are not there

A table that is not there comes to be there only where somebody prepares a statement that creates
it.

* `Database.Prepares`, `Database.prepares_of_after`: where a prepared statement comes from;
* `Database.Lacks`: there is no table of this name, and nothing that could create it;
* **`Database.Lacks.after`**, `Database.Lacks.executeAll`: what an event keeps, and a script.
-/

namespace CounterTable

namespace Turn

variable {id : Nat} {b : Bindings} {s : Statement} {name : String} {t : Turn}

theorem get?_execute_of_none
    (hs : ∀ table, t.storage.get? s.target = some table → table.Sound)
    (hg : t.storage.get? name = none) (hrows : s.target = name → s.OnRows) :
    (execute id b s t).2.storage.get? name = none := by
  by_cases hn : s.target = name
  · have hwritten : ∀ {table u rows}, t.storage.get? s.target = some table →
        Written id s.target table rows t u → u.storage.get? name = none := by
      intro table u rows htable
      rw [hn, hg] at htable
      cases htable
    cases execute_cases hs (hrows hn) id b with
    | idle h _ => rw [h, hg]
    | failed htable _ _ hw => exact hwritten htable hw
    | done htable _ _ _ hw => exact hwritten htable hw
  · cases execute_course hs id b with
    | idle h _ => rw [h, hg]
    | failed h _ _ => rw [h.others name (Ne.symm hn), hg]
    | done h _ _ => rw [h.others name (Ne.symm hn), hg]

end Turn

namespace Database

variable {db : Database} {id : Nat} {link : Link} {p : Prepared} {name : String} {e : Event}

/-- The prepared statement of a connection, if there is one, is this one. -/
def Prepares (db : Database) (id : Nat) (s : Statement) : Prop :=
  ∃ link p, db.links.get? id = some link ∧ link.prepared = some p ∧ p.statement = s

variable {s : Statement}

theorem prepares_set (h : ({ db with links := db.links.set id link } : Database).Prepares id s) :
    ∃ p, link.prepared = some p ∧ p.statement = s := by
  obtain ⟨link', p, hl, hp⟩ := h
  simp only [Keyed.get?_set, beq_self_eq_true, if_true, Option.some.injEq] at hl
  subst hl
  exact ⟨p, hp⟩

theorem prepares_settle {t : Turn} (hl : db.links.get? id = some link)
    (h : (db.settle id link t).Prepares id s) : db.Prepares id s := by
  obtain ⟨link', p, hl', hp⟩ := h
  rw [links_settle, if_pos rfl] at hl'
  cases hl'
  exact ⟨link, p, hl, hp⟩

theorem Called.prepares {c : Call} {db' : Database} (hc : Called id db c db')
    (h : db'.Prepares id s) :
    db.Prepares id s ∨ ∃ sql, c = .prepare sql ∧ Statement.ofText sql = .ok s := by
  cases hc with
  | idle => exact .inl h
  | begun hl _ =>
    obtain ⟨p, hp⟩ := prepares_set h
    exact .inl ⟨_, p, hl, hp⟩
  | finished keep hl => exact .inl (prepares_settle hl h)
  | prepared hl hs =>
    obtain ⟨p, ⟨⟩, rfl⟩ := prepares_set h
    exact .inr ⟨_, rfl, hs⟩
  | bound hp =>
    obtain ⟨q, ⟨⟩, rfl⟩ := prepares_set h
    obtain ⟨hl, hp⟩ := prepared?_eq_ok.mp hp
    exact .inl ⟨_, _, hl, hp, rfl⟩
  | executed hp => exact .inl (prepares_settle (prepared?_eq_ok.mp hp).1 h)

/-- **A prepared statement** was prepared before, or it is prepared by the event. -/
theorem prepares_of_after (e : Event) (h : (db.after e).Prepares id s) : db.Prepares id s ∨
    ∃ sql, e = .call id (.prepare sql) ∧ Statement.ofText sql = .ok s := by
  by_cases hid : id = db.actor e
  · cases e with
    | connect =>
      cases hid
      obtain ⟨p, hp, -⟩ := prepares_set h
      cases hp
    | disconnect c =>
      obtain ⟨link, p, hl, -⟩ := h
      have hclosed : (db.after (.disconnect c)).links.get? id = none :=
        (links_disconnect c db id).trans (if_pos hid)
      rw [hclosed] at hl
      cases hl
    | call c call =>
      cases hid
      rcases (called c call db).prepares h with hold | ⟨sql, rfl, hs⟩
      · exact .inl hold
      · exact .inr ⟨sql, rfl, hs⟩
  · obtain ⟨link, p, hl, hp⟩ := h
    exact .inl ⟨link, p, (links_after e hid).symm.trans hl, hp⟩

/-- There is no table of this name, and nothing that could create it is prepared. -/
structure Lacks (db : Database) (name : String) : Prop where
  reachable : db.Reachable
  missing : db.storage.get? name = none
  spares : ∀ id, Transaction.Spares name (db.transaction? id)
  prepared : ∀ id s, db.Prepares id s → s.target = name → s.OnRows

namespace Lacks

theorem not_reshapes (h : db.Lacks name) (e : Event) : ¬ db.Reshapes name e := by
  cases e with
  | call id c =>
    cases c with
    | query | update =>
      rintro ⟨link, p, hp, htarget, hrows⟩
      obtain ⟨hl, hprepared⟩ := prepared?_eq_ok.mp hp
      exact hrows (h.prepared id _ ⟨link, p, hl, hprepared, rfl⟩ htarget)
    | _ => exact fun h => h
  | _ => exact fun h => h

theorem missing_finish (h : db.Lacks name) (id : Nat) (keep : Bool) :
    (finish id keep db).2.storage.get? name = none := by
  cases hx : db.transaction? id with
  | none =>
    obtain ⟨-, -, hstorage, -⟩ := finish_of_none hx keep
    rw [hstorage, h.missing]
  | some x =>
    obtain ⟨link, hl, hlx⟩ := Option.bind_eq_some_iff.mp hx
    have hundone : (if keep then db.storage else x.undo.foldl Storage.undo db.storage).get? name =
        none := by
      split
      · exact h.missing
      · rw [Storage.get?_undo_all_of_ne (h.spares id x hx), h.missing]
    rw [finish_of_transaction hl hlx, storage_settle, Turn.get?_ended, hundone]
    rfl

/-- **An event** creates the table only if it is prepared. -/
theorem after (h : db.Lacks name) {e : Event} (he : ∀ id sql s, e = .call id (.prepare sql) →
    Statement.ofText sql = .ok s → s.target = name → s.OnRows) : (db.after e).Lacks name where
  reachable := h.reachable.after e
  missing := by
    cases db.happens h.reachable.numbered e with
    | rested hrested =>
      cases hrested with
      | idle hs _ => rw [hs, h.missing]
      | began hs _ _ => rw [hs, h.missing]
    | @executed link p hp _ hafter =>
      obtain ⟨hl, hprepared⟩ := prepared?_eq_ok.mp hp
      rw [hafter, storage_settle]
      exact Turn.get?_execute_of_none (fun _ hg => h.reachable.sound hg) h.missing
        (h.prepared _ _ ⟨link, p, hl, hprepared, rfl⟩)
    | ended keep _ hs =>
      rw [hs]
      exact h.missing_finish _ keep
  spares := spares_after h.reachable (h.not_reshapes e) h.spares
  prepared id s hs := by
    rcases prepares_of_after e hs with hold | ⟨sql, rfl, hsql⟩
    · exact h.prepared id s hold
    · exact he id sql s rfl hsql

theorem new (name : String) : ({} : Database).Lacks name where
  reachable := .new
  missing := rfl
  spares _ := .of_none rfl name
  prepared id s hs := by
    obtain ⟨link, p, hl, -⟩ := hs
    cases hl

theorem execute (h : db.Lacks name) (id : Nat) {sql : String}
    (hsql : ∀ s, Statement.ofText sql = .ok s → s.target = name → s.OnRows) :
    ((connection id).execute sql db).2.Lacks name := by
  have hprepare : (db.after (.call id (.prepare sql))).Lacks name := by
    refine h.after ?_
    rintro _ _ s ⟨⟩ hs
    exact hsql s hs
  rcases hcall : (connection id).call (.prepare sql) db with ⟨e | u, db₁⟩
  all_goals
    have hdb : db.after (.call id (.prepare sql)) = db₁ := congrArg Prod.snd hcall
    simp only [Connection.execute, Action.andThen, hcall]
  · exact hdb ▸ hprepare
  · exact (hdb ▸ hprepare : db₁.Lacks name).after (e := .call id .update) nofun

theorem executeAll (h : db.Lacks name) (id : Nat) {script : List String}
    (hscript : ∀ sql ∈ script, ∀ s, Statement.ofText sql = .ok s → s.target = name → s.OnRows) :
    ((connection id).executeAll script db).2.Lacks name := by
  induction script generalizing db with
  | nil => exact h
  | cons sql script ih =>
    have hfirst := h.execute id (hscript sql List.mem_cons_self)
    rw [Connection.executeAll, Action.andThen]
    rcases hexecute : (connection id).execute sql db with ⟨e | n, db₁⟩ <;> rw [hexecute] at hfirst
    · exact hfirst
    · exact ih hfirst fun sql hsql => hscript sql (List.mem_cons_of_mem _ hsql)

end Lacks

end Database

end CounterTable
