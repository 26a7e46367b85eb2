import CreditExtraction.Proofs.Sql.Effects

/-! # Updates that go through

`Effects` reads what an update did when it succeeded. This module gives the other half: when an
update succeeds. On a table without triggers, under the default conflict rule, an update goes
through when it names columns the table has, assigns no reference and no key that a reference
is to, and each row it rewrites takes values that fill the columns that may not be null and keep
its unique keys apart from every other row's (`Database.update_isOk`). The checks on the way
refuse nothing then, and no reference is left open. -/

namespace CreditExtraction.Sql

theorem Except.ok_bind {ε α β : Type} (a : α) (f : α → Except ε β) : (Except.ok a >>= f) = f a :=
  rfl

/-! ## One row at a time -/

/-- The values of a row fill every column of `cols` that may not be null. -/
def FillsNotNull (cols : List Column) (vs : List Value) : Prop :=
  ∀ p ∈ cols.zip vs, p.1.notNull = true → p.2.isNull = false

theorem Database.fillNotNull_ok (t : Table) :
    ∀ {cols : List Column} {vs : List Value}, FillsNotNull cols vs →
      Database.fillNotNull t .abort cols vs = .ok (some vs) := by
  intro cols
  induction cols with
  | nil => intro vs _; cases vs <;> rfl
  | cons c cs ih =>
    intro vs h
    cases vs with
    | nil => rfl
    | cons v vs =>
      have hv : (c.notNull && v.isNull) = false := by
        cases hn : c.notNull
        · rfl
        · simpa using h (c, v) List.mem_cons_self hn
      have hrest := ih fun p hp => h p (List.mem_cons_of_mem _ hp)
      simp [Database.fillNotNull, hv, hrest, bind, Except.bind, pure, Except.pure]

theorem Database.failedCheck_nil {t : Table} (h : t.checks = []) (vs : List Value) :
    Database.failedCheck t vs = .ok none := by
  simp [Database.failedCheck, h, List.findM?, pure, Except.pure]

/-- A fold whose every step keeps nothing taken away keeps it so. -/
theorem foldlM_keeps_none_gone_ok {β : Type}
    (f : Option (List Row) → β → Except SqlError (Option (List Row))) :
    ∀ (l : List β), (∀ b ∈ l, f (some []) b = .ok (some [])) →
      l.foldlM f (some []) = .ok (some []) := by
  intro l
  induction l with
  | nil => intro _; rfl
  | cons b bs ih =>
    intro h
    rw [List.foldlM_cons, h b List.mem_cons_self]
    exact ih fun c hc => h c (List.mem_cons_of_mem _ hc)

/-- A row that shares no unique key with another row, in a table with no row-number column,
clashes with nothing. -/
theorem Database.clashingRows_ok {t : Table} {self : Option Nat} {vs : List Value}
    (hnum : ∀ c ∈ t.columns, t.isRowNumber c = false) (hfree : t.KeysFree self vs) :
    Database.clashingRows t self vs .abort = .ok (some []) := by
  have hnumbered : ((t.columns.zip vs).filter fun p => t.isRowNumber p.1 && !p.2.isNull) = [] := by
    refine List.filter_eq_nil_iff.mpr fun p hp => ?_
    simp [hnum p.1 (List.of_mem_zip hp).1]
  unfold Database.clashingRows
  simp only [hnumbered, List.foldlM_nil, pure, Except.pure, bind, Except.bind]
  refine foldlM_keeps_none_gone_ok _ _ fun ix hix => ?_
  obtain ⟨hix, hu⟩ := List.mem_filter.mp hix
  simp only
  split
  · rfl
  · rename_i hkey
    simp only [Bool.or_eq_true, Bool.not_eq_true', not_or, Bool.not_eq_false] at hkey
    obtain ⟨hnull, hin⟩ := hkey
    have hnull' : (Database.indexKey t vs ix).any Value.isNull = false := by simpa using hnull
    -- every other row is kept off the key by `hfree`
    rw [List.filter_eq_nil_iff.mpr]
    intro r hr hclash
    obtain ⟨hr, hself⟩ := List.mem_filter.mp hr
    simp only [List.any_nil, Bool.not_false, Bool.and_true, bne_iff_ne, ne_eq] at hself
    simp only [Bool.and_eq_true] at hclash
    exact hfree ix hix (by simpa using hu) hnull' hin r hr hself hclash

theorem Database.acceptRow_ok {t : Table} {self : Option Nat} {vs : List Value}
    (hfill : FillsNotNull t.columns vs) (hchecks : t.checks = [])
    (hnum : ∀ c ∈ t.columns, t.isRowNumber c = false) (hfree : t.KeysFree self vs) :
    Database.acceptRow t self vs .abort = .ok (some (vs, [])) := by
  simp [Database.acceptRow, Database.fillNotNull_ok t hfill, Database.failedCheck_nil hchecks,
    Database.clashingRows_ok hnum hfree, bind, Except.bind, pure, Except.pure]

/-- One row of an update, with no triggers and under `abort`, whose new values are accepted:
the row takes them in place, and nothing is taken away. -/
theorem Database.updateRow_ok {db : Database} (htr : db.triggers = []) {sets : List (String × Expr)}
    {t : Table} {r : Row} {vs : List Value} (hvs : Database.assigned t r sets = .ok vs)
    (hfill : FillsNotNull t.columns vs) (hchecks : t.checks = [])
    (hnum : ∀ c ∈ t.columns, t.isRowNumber c = false) (hfree : t.KeysFree (some r.number) vs) :
    db.updateRow sets .abort t r = .ok (some
      ({ t with rows := t.rows.map fun y => if y.number == r.number then ⟨r.number, vs⟩ else y },
        ⟨r.number, vs⟩, [])) := by
  simp [Database.updateRow, hvs, Database.fire_of_triggers_nil htr,
    Database.acceptRow_ok hfill hchecks hnum hfree, bind, Except.bind, pure, Except.pure]

@[simp] theorem Database.orphansOf_nil (db : Database) (t : Table) (r : Row) :
    db.orphansOf t r [] = 0 := rfl

@[simp] theorem Database.referrers_nil (db : Database) (t : Table) (r : Row) (except : Option Nat) :
    db.referrers t r [] except = 0 := rfl

/-- A fold over the rows of `t` that puts, row by row, the image under `f` in place of each row,
and keeps a property of what else it carries, succeeds when every step does so. -/
theorem foldlM_reshapes_ok {ε σ : Type} {step : Table × σ → Row → Except ε (Table × σ)}
    {f : Row → Row} {P : σ → Prop} {t : Table}
    (hstep : ∀ pre r rest s, t.rows = pre ++ r :: rest → P s →
      ∃ s', step ({ t with rows := pre.map f ++ r :: rest }, s) r =
        .ok ({ t with rows := (pre ++ [r]).map f ++ rest }, s') ∧ P s') :
    ∀ rest pre s, t.rows = pre ++ rest → P s →
      ∃ s', rest.foldlM step ({ t with rows := pre.map f ++ rest }, s) =
        .ok ({ t with rows := t.rows.map f }, s') ∧ P s' := by
  intro rest
  induction rest with
  | nil =>
    intro pre s hrows hs
    exact ⟨s, by simp [hrows, pure, Except.pure], hs⟩
  | cons r rest ih =>
    intro pre s hrows hs
    obtain ⟨s₁, hone, hs₁⟩ := hstep pre r rest s hrows hs
    obtain ⟨s₂, hfold, hs₂⟩ := ih (pre ++ [r]) s₁ (by simp [hrows]) hs₁
    exact ⟨s₂, by rw [List.foldlM_cons, hone]; exact hfold, hs₂⟩

/-- The fold of `foldlM_reshapes_ok` from the table itself. -/
theorem foldlM_rows_ok {ε σ : Type} {step : Table × σ → Row → Except ε (Table × σ)}
    {f : Row → Row} {P : σ → Prop} {t : Table}
    (hstep : ∀ pre r rest s, t.rows = pre ++ r :: rest → P s →
      ∃ s', step ({ t with rows := pre.map f ++ r :: rest }, s) r =
        .ok ({ t with rows := (pre ++ [r]).map f ++ rest }, s') ∧ P s')
    {s : σ} (hs : P s) : ∃ a, t.rows.foldlM step (t, s) = .ok a ∧ P a.2 := by
  obtain ⟨s', hfold, hs'⟩ := foldlM_reshapes_ok hstep t.rows [] s rfl hs
  have ht : ({ t with rows := ([] : List Row).map f ++ t.rows } : Table) = t := by
    cases t
    rfl
  rw [ht] at hfold
  exact ⟨_, hfold, hs'⟩

theorem Except.exists_ok_bind {ε α β : Type} {x : Except ε α} {f : α → Except ε β} (Q : α → Prop)
    (hx : ∃ a, x = .ok a ∧ Q a) (hf : ∀ a, Q a → ∃ b, f a = .ok b) : ∃ b, (x >>= f) = .ok b := by
  obtain ⟨a, rfl, ha⟩ := hx
  exact hf a ha

/-! ## A whole update -/

@[simp] theorem Database.requireParents_nil (db : Database) (t : Table) :
    db.requireParents t [] = .ok () := rfl

@[simp] theorem Database.requireKeys_nil (t : Table) : Database.requireKeys t [] = .ok () := rfl

/-- A loop whose every turn goes on goes through. -/
theorem forIn_yield_ok {ε α : Type} {l : List α} {f : α → PUnit → Except ε (ForInStep PUnit)}
    (h : ∀ a ∈ l, f a PUnit.unit = .ok (.yield PUnit.unit)) : forIn l PUnit.unit f = .ok PUnit.unit := by
  induction l with
  | nil => rfl
  | cons a l ih =>
    rw [List.forIn_cons, h a List.mem_cons_self]
    exact ih fun b hb => h b (List.mem_cons_of_mem _ hb)

theorem Database.prepareTriggers_nil {db : Database} (htr : db.triggers = []) (t : Table) (ev : Event)
    (tm : Timing) (changed : List String) : db.prepareTriggers t ev tm changed = .ok () := by
  simp [Database.prepareTriggers, Database.triggersFor, htr, pure, Except.pure]

section Update

variable {db : Database} {name : String} {sets : List (String × Expr)} {cond : Expr} {t : Table}

/-- An update, with no triggers and under `abort`, of a table that reads and has no row-number
column nor `CHECK` constraint, goes through when it names columns the table has, assigns no
reference nor a key that a reference is to, its condition evaluates on every row, and each row
it holds of takes values that fill the columns that may not be null and share no unique key
with the other rows, as the update has left them so far. -/
theorem Database.update_isOk (hopen : db.isOpen = true) (htr : db.triggers = [])
    (ht : db.tableToChange name = .ok t)
    (hsets : ∀ p ∈ sets, t.resolve p.2.columns = .ok () ∧ (t.column? p.1).isSome = true)
    (hcond : t.resolve cond.columns = .ok ())
    (hlinks : t.links.filter (fun x => (sets.map fun x => x.1).any fun c => sameName c x.1.name) = [])
    (hkeys : (db.childLinks t).filter (fun x => (Database.keyNames t x.2.2).any fun k =>
      (sets.map fun x => x.1).any fun c => sameName c k) = [])
    (hread : t.damaged = false) (hchecks : t.checks = [])
    (hnum : ∀ c ∈ t.columns, t.isRowNumber c = false) (hnd : (t.rows.map Row.number).Nodup)
    (hrows : ∀ pre r rest, t.rows = pre ++ r :: rest →
      ∃ b, holds ⟨some (t.frame r), none, none⟩ cond = .ok b ∧
        (b = true → ∃ vs, Database.assigned t r sets = .ok vs ∧ FillsNotNull t.columns vs ∧
          ({ t with rows := pre.map (t.rewritten sets cond) ++ r :: rest } : Table).KeysFree
            (some r.number) vs)) :
    ∃ res, db.update name sets cond = .ok res := by
  unfold Database.update Database.updateWith
  simp only [Database.ensureOpen, hopen, ht, ite_true, Except.ok_bind]
  simp only [hlinks, hkeys]
  rw [forIn_yield_ok fun p hp => by
    obtain ⟨hres, hcol⟩ := hsets p hp
    rw [hres, Except.ok_bind]
    cases h : t.column? p.1 with
    | none => simp [h] at hcol
    | some _ => rfl]
  simp only [Except.ok_bind, hcond, Database.prepareTriggers_nil htr, Table.ensureReadable, hread,
    Database.requireParents_nil, Database.requireKeys_nil, Bool.false_eq_true, ite_false, pure,
    Except.pure]
  refine Except.exists_ok_bind (fun a => a.2.2 = 0) ?_ fun a ha =>
    ⟨(db.setTable a.1, a.2.1), by simp [ha, Database.settleReferences, Except.ok_bind]⟩
  -- the rows are visited in order; each is rewritten in place and opens no reference
  apply foldlM_rows_ok (f := t.rewritten sets cond) (P := fun s : Nat × Int => s.2 = 0) _ rfl
  intro pre r rest s hrs hs
  obtain ⟨hpre, hrest⟩ := number_ne_of_nodup (hrs ▸ hnd)
  obtain ⟨b, hb, hvals⟩ := hrows pre r rest hrs
  simp only [find?_at_number (Table.rewritten_number t sets cond) hpre, hb, Except.ok_bind]
  cases b with
  | false =>
    have hr : t.rewritten sets cond r = r := by
      unfold Table.rewritten
      rw [hb]
    exact ⟨s, by simp [hr], hs⟩
  | true =>
    obtain ⟨vs, hvs, hfill, hfree⟩ := hvals rfl
    have hr : t.rewritten sets cond r = ⟨r.number, vs⟩ := by
      unfold Table.rewritten
      rw [hb, hvs]
    rw [Database.updateRow_ok (t := { t with rows := pre.map (t.rewritten sets cond) ++ r :: rest })
      (by simpa [Database.setTable] using htr) hvs hfill hchecks hnum hfree]
    have hpre' : ∀ y ∈ pre.map (t.rewritten sets cond), y.number ≠ r.number := by
      simp only [List.mem_map, forall_exists_index, and_imp, forall_apply_eq_imp_iff₂,
        Table.rewritten_number]
      exact hpre
    refine ⟨(s.1 + 1, 0), ?_, rfl⟩
    simp only [List.map_append, List.map_cons, map_at_number_of_ne _ _ _ hpre',
      map_at_number_of_ne _ _ _ hrest, beq_self_eq_true, ↓reduceIte, List.map_nil,
      List.append_assoc, List.cons_append, List.nil_append, hr, Database.orphansOf_nil,
      Database.referrers_nil, hs]
    rfl

end Update

end CreditExtraction.Sql
