import Mathlib.Algebra.GroupWithZero.Nat
import CreditExtraction.Sql.Database

/-! # What a statement does to a table without triggers

The store's own statements run on tables that no trigger guards, and always under the default
conflict rule (`abort`). There a successful statement has a plain effect on the rows of its
table, whatever checks it passed on the way:

* an update rewrites, in place, each row its condition holds of (`Table.updated`);
* an insert adds one row with the next number (`Table.appended`), and no row already there
  shares a key of a unique index with it (`Table.KeysFree`);
* a delete keeps the rows its condition does not hold of (`Table.pruned`);
* a query returns the rows its condition holds of, in row order.

The statements visit rows one at a time and look each up again by its number, so the effects
are stated for tables whose rows have distinct numbers. -/

namespace CreditExtraction

theorem Except.bind_eq_ok {ε α β : Type} {x : Except ε α} {f : α → Except ε β} {b : β} :
    x >>= f = .ok b ↔ ∃ a, x = .ok a ∧ f a = .ok b := by
  cases x <;> simp [bind, Except.bind]

namespace Sql

/-! ## Conditions on a row -/

/-- Does a condition hold of a row of the table (an error counting as no)? -/
def Table.held (t : Table) (cond : Expr) (r : Row) : Bool :=
  match holds ⟨some (t.frame r), none, none⟩ cond with
  | .ok b => b
  | .error _ => false

theorem Table.held_of_holds {t : Table} {cond : Expr} {r : Row} {b : Bool}
    (h : holds ⟨some (t.frame r), none, none⟩ cond = .ok b) : t.held cond r = b := by
  simp [Table.held, h]

/-! ## Rows refused or accepted under `abort` -/

theorem Database.fire_of_triggers_nil {db : Database} (h : db.triggers = []) (table : String)
    (ev : Event) (tm : Timing) (changed : List String) (s : Scope) :
    db.fire table ev tm changed s = .ok false := by
  simp [Database.fire, Database.triggersFor, h, Database.fire.go, pure, Except.pure]

theorem Database.fillNotNull_abort {t : Table} :
    ∀ {cols : List Column} {vs : List Value} {x : Option (List Value)},
      Database.fillNotNull t .abort cols vs = .ok x → x = some vs := by
  intro cols
  induction cols with
  | nil =>
      intro vs x h
      cases vs <;> simpa [Database.fillNotNull, pure, Except.pure] using h.symm
  | cons c cs ih =>
      intro vs x h
      cases vs with
      | nil => simpa [Database.fillNotNull, pure, Except.pure] using h.symm
      | cons v vs =>
          unfold Database.fillNotNull at h
          by_cases hnull : (c.notNull && v.isNull) = true
          · simp [hnull, Database.refuse, bind, Except.bind] at h
          · simp only [hnull, Bool.false_eq_true, ↓reduceIte, Except.bind_eq_ok] at h
            obtain ⟨w, hw, hrest⟩ := h
            simp only [pure, Except.pure, Except.ok.injEq] at hw
            subst hw
            simp only [Except.bind_eq_ok] at hrest
            obtain ⟨rest, hcs, hx⟩ := hrest
            rw [ih hcs] at hx
            simpa [pure, Except.pure] using hx.symm

/-- No other row of a table shares the key of a unique index with a row of values `vs`. -/
def Table.KeysFree (t : Table) (self : Option Nat) (vs : List Value) : Prop :=
  ∀ ix ∈ t.indexes, ix.unique = true → (Database.indexKey t vs ix).any Value.isNull = false →
    Database.inIndex t vs ix = true → ∀ r ∈ t.rows, some r.number ≠ self →
      ¬ (Database.inIndex t r.values ix = true ∧
        (List.zipWith Value.same (Database.indexKey t r.values ix) (Database.indexKey t vs ix)).all id)

/-- A fold that starts with nothing taken away and whose every step keeps it so. -/
theorem foldlM_keeps_none_gone {β : Type}
    (f : Option (List Row) → β → Except SqlError (Option (List Row)))
    (hf : ∀ b y, f (some []) b = .ok y → y = some []) :
    ∀ (l : List β) y, l.foldlM f (some []) = .ok y →
      y = some [] ∧ ∀ b ∈ l, f (some []) b = .ok (some []) := by
  intro l
  induction l with
  | nil => intro y hy; simpa [List.foldlM, pure, Except.pure] using hy.symm
  | cons b bs ih =>
      intro y hy
      simp only [List.foldlM_cons, Except.bind_eq_ok] at hy
      obtain ⟨y', h1, h2⟩ := hy
      have hy' := hf b y' h1
      subst hy'
      obtain ⟨hy, hbs⟩ := ih y h2
      refine ⟨hy, ?_⟩
      intro c hc
      rcases List.mem_cons.mp hc with rfl | hc
      · exact h1
      · exact hbs c hc

/-- A clash under `abort` refuses the row: a row that is accepted takes no other away, and no
other row shares a unique key with it. -/
theorem Database.clashingRows_abort {t : Table} {self : Option Nat} {vs : List Value}
    {x : Option (List Row)} (h : Database.clashingRows t self vs .abort = .ok x) :
    x = some [] ∧ t.KeysFree self vs := by
  unfold Database.clashingRows at h
  simp only [Except.bind_eq_ok] at h
  obtain ⟨byNumber, hnum, hix⟩ := h
  have hnum' : byNumber = some [] := by
    refine (foldlM_keeps_none_gone _ ?_ _ _ hnum).1
    intro b y hy
    simp only at hy
    split at hy
    · simpa [pure, Except.pure] using hy.symm
    · simp [Database.refuse] at hy
  subst hnum'
  -- the unique indexes are tried in turn; each one that finds a clash refuses
  have hkept := foldlM_keeps_none_gone _ ?step _ _ hix
  case step =>
    intro ix y hy
    simp only at hy
    split at hy
    · simpa [pure, Except.pure] using hy.symm
    · split at hy
      · simpa [pure, Except.pure] using hy.symm
      · simp [Database.refuse] at hy
  obtain ⟨hx, hall⟩ := hkept
  refine ⟨hx, ?_⟩
  intro ix hix hu hnull hin r hr hself hclash
  have hone := hall ix (List.mem_filter.mpr ⟨hix, hu⟩)
  simp only [hnull, hin, Bool.not_true, Bool.or_false, Bool.false_eq_true, ↓reduceIte] at hone
  split at hone
  · rename_i hnil
    have := List.filter_eq_nil_iff.mp hnil r (List.mem_filter.mpr ⟨hr, by simpa using hself⟩)
    simp [hclash.1, hclash.2] at this
  · simp [Database.refuse] at hone

@[simp] theorem Database.withoutRows_nil (t : Table) : Database.withoutRows t [] = t := by
  cases t
  simp [Database.withoutRows]

theorem Database.acceptRow_abort {t : Table} {self : Option Nat} {vs : List Value}
    {x : Option (List Value × List Row)} (h : Database.acceptRow t self vs .abort = .ok x) :
    x = some (vs, []) ∧ t.KeysFree self vs := by
  unfold Database.acceptRow at h
  simp only [Except.bind_eq_ok] at h
  obtain ⟨filled, hfill, h⟩ := h
  rw [Database.fillNotNull_abort hfill] at h
  simp only [Except.bind_eq_ok] at h
  obtain ⟨check, hcheck, h⟩ := h
  cases check with
  | some c => simp [Database.refuse] at h
  | none =>
      simp only [Except.bind_eq_ok] at h
      obtain ⟨gone, hgone, h⟩ := h
      obtain ⟨rfl, hfree⟩ := Database.clashingRows_abort hgone
      exact ⟨by simpa [pure, Except.pure] using h.symm, hfree⟩

/-- An update of one row with no triggers and under `abort`: the row takes its assigned
values in place, and nothing else changes. -/
theorem Database.updateRow_abort {db : Database} (htr : db.triggers = [])
    {sets : List (String × Expr)} {t : Table} {r : Row} {x : Option (Table × Row × List Row)}
    (h : db.updateRow sets .abort t r = .ok x) :
    ∃ vs, Database.assigned t r sets = .ok vs ∧
      x = some ({ t with rows := t.rows.map fun y => if y.number == r.number then ⟨r.number, vs⟩ else y },
        ⟨r.number, vs⟩, []) := by
  unfold Database.updateRow at h
  simp only [Except.bind_eq_ok] at h
  obtain ⟨vs, hvs, h⟩ := h
  refine ⟨vs, hvs, ?_⟩
  simp only [Database.fire_of_triggers_nil htr, Except.ok.injEq] at h
  obtain ⟨_, rfl, h⟩ := h
  simp only [Bool.false_eq_true, ↓reduceIte, Except.bind_eq_ok] at h
  obtain ⟨accepted, hacc, h⟩ := h
  rw [(Database.acceptRow_abort hacc).1] at h
  simpa [pure, Except.pure, bind, Except.bind] using h.symm

/-- A table with one more row, numbered next. -/
def Table.appended (t : Table) (vs : List Value) : Table :=
  { t with rows := t.rows ++ [⟨t.nextNumber, vs⟩], nextNumber := t.nextNumber + 1 }

/-- One row of an insert with no triggers and under `abort`: the row is added with the next
number, and no other row shares a unique key with it. -/
theorem Database.insertRow_abort {db : Database} (htr : db.triggers = []) {t : Table}
    {assigns : List (String × Value)} {x : Option (Table × Row × List Row)}
    (h : db.insertRow t assigns .abort = .ok x) :
    x = some (t.appended (Database.newValues t assigns t.nextNumber),
      ⟨t.nextNumber, Database.newValues t assigns t.nextNumber⟩, []) ∧
      t.KeysFree none (Database.newValues t assigns t.nextNumber) := by
  unfold Database.insertRow at h
  simp only [Database.fire_of_triggers_nil htr, Except.bind_eq_ok, Except.ok.injEq] at h
  obtain ⟨_, rfl, h⟩ := h
  simp only [Bool.false_eq_true, ↓reduceIte, Except.bind_eq_ok] at h
  obtain ⟨accepted, hacc, h⟩ := h
  obtain ⟨rfl, hfree⟩ := Database.acceptRow_abort hacc
  refine ⟨?_, hfree⟩
  simpa [pure, Except.pure, bind, Except.bind, Table.appended] using h.symm

/-! ## Visiting the rows one at a time -/

/-- A fold over the rows of `t` that, row by row, puts in place of each row its image under
`f` (the row itself, a rewritten row, or nothing), and adds `c r` to a count it keeps. -/
theorem foldlM_reshapes {ε σ : Type} {step : Table × σ → Row → Except ε (Table × σ)}
    {f : Row → List Row} {c : Row → Nat} {k : σ → Nat} {t : Table}
    (hstep : ∀ pre r rest s acc' s', t.rows = pre ++ r :: rest →
        step ({ t with rows := pre.flatMap f ++ r :: rest }, s) r = .ok (acc', s') →
        acc' = { t with rows := (pre ++ [r]).flatMap f ++ rest } ∧ k s' = k s + c r) :
    ∀ rest pre acc s res, t.rows = pre ++ rest → acc = { t with rows := pre.flatMap f ++ rest } →
      rest.foldlM step (acc, s) = .ok res →
        res.1 = { t with rows := t.rows.flatMap f } ∧ k res.2 = k s + (rest.map c).sum := by
  intro rest
  induction rest with
  | nil =>
      intro pre acc s res hrows hacc hfold
      simp only [List.foldlM, pure, Except.pure, Except.ok.injEq] at hfold
      subst hfold hacc
      simp [hrows]
  | cons r rest ih =>
      intro pre acc s res hrows hacc hfold
      subst hacc
      simp only [List.foldlM_cons, Except.bind_eq_ok] at hfold
      obtain ⟨⟨acc', s'⟩, hone, hrest⟩ := hfold
      obtain ⟨hacc', hcnt⟩ := hstep pre r rest s acc' s' hrows hone
      obtain ⟨hres, hcnt'⟩ := ih (pre ++ [r]) acc' s' res (by simp [hrows]) hacc' hrest
      refine ⟨hres, ?_⟩
      rw [hcnt', hcnt, List.map_cons, List.sum_cons]
      omega

theorem Table.eq_with_rows (t : Table) {f : Row → List Row} :
    t = { t with rows := ([] : List Row).flatMap f ++ t.rows } := by
  cases t; rfl

/-- Of rows with distinct numbers, a row is the only one with its number. -/
theorem number_ne_of_nodup {pre rest : List Row} {r : Row}
    (hnd : ((pre ++ r :: rest).map Row.number).Nodup) :
    (∀ x ∈ pre, x.number ≠ r.number) ∧ (∀ x ∈ rest, x.number ≠ r.number) := by
  simp only [List.map_append, List.map_cons, List.nodup_append, List.nodup_cons] at hnd
  obtain ⟨-, ⟨hr, -⟩, hsep⟩ := hnd
  constructor
  · intro x hx he
    exact hsep x.number (List.mem_map_of_mem hx) r.number List.mem_cons_self he
  · intro x hx he
    exact hr (he ▸ List.mem_map_of_mem hx)

/-- Rows none of which has a given number are left alone by whatever is done at that number. -/
theorem map_at_number_of_ne (n : Nat) (g : Row → Row) :
    ∀ l : List Row, (∀ y ∈ l, y.number ≠ n) →
      l.map (fun y => if (y.number == n) = true then g y else y) = l := by
  intro l hl
  induction l with
  | nil => rfl
  | cons y l ih =>
      simp only [List.map_cons, List.cons.injEq]
      exact ⟨by simp [hl y List.mem_cons_self], ih fun z hz => hl z (List.mem_cons_of_mem _ hz)⟩

/-! ## Updates -/

/-- A row as an update leaves it: with its assigned values when the condition holds of it. -/
def Table.rewritten (t : Table) (sets : List (String × Expr)) (cond : Expr) (r : Row) : Row :=
  match holds ⟨some (t.frame r), none, none⟩ cond, Database.assigned t r sets with
  | .ok true, .ok vs => ⟨r.number, vs⟩
  | _, _ => r

/-- The table after an update of the rows a condition holds of. -/
def Table.updated (t : Table) (sets : List (String × Expr)) (cond : Expr) : Table :=
  { t with rows := t.rows.map (t.rewritten sets cond) }

theorem Table.rewritten_number (t : Table) (sets : List (String × Expr)) (cond : Expr) (r : Row) :
    (t.rewritten sets cond r).number = r.number := by
  unfold Table.rewritten
  split <;> rfl

/-- Among rows with distinct numbers, a row rewritten row by row up to it is found again by its
number. -/
theorem find?_at_number {g : Row → Row} (hg : ∀ x, (g x).number = x.number) {pre rest : List Row}
    {r : Row} (hpre : ∀ x ∈ pre, x.number ≠ r.number) :
    (pre.map g ++ r :: rest).find? (·.number == r.number) = some r := by
  rw [List.find?_append, List.find?_eq_none.mpr]
  · simp
  · simp only [List.mem_map, beq_iff_eq, forall_exists_index, and_imp, forall_apply_eq_imp_iff₂, hg]
    exact hpre

/-- Counting one for each row a test passes counts the rows that pass it. -/
theorem sum_map_ite_eq_countP (p : Row → Bool) (l : List Row) :
    (l.map fun r => if p r then 1 else 0).sum = l.countP p := by
  induction l with
  | nil => rfl
  | cons r l ih => cases h : p r <;> simp [h, ih, Nat.add_comm]

/-- A successful update of a table without triggers rewrites exactly the rows its condition
holds of, and counts them. -/
theorem Database.update_eq_setTable {db : Database} (htr : db.triggers = [])
    {name : String} {sets : List (String × Expr)} {cond : Expr} {t : Table}
    (ht : db.tableToChange name = .ok t) (hnd : (t.rows.map Row.number).Nodup)
    {db' : Database} {n : Nat} (h : db.update name sets cond = .ok (db', n)) :
    db' = db.setTable (t.updated sets cond) ∧ n = t.rows.countP (t.held cond) := by
  unfold Database.update Database.updateWith at h
  simp only [Except.bind_eq_ok, ht, Except.ok.injEq, exists_eq_left'] at h
  obtain ⟨_, -, _, -, _, -, _, -, _, -, _, -, _, -, _, -, ⟨t', n', count⟩, hfold, hfin⟩ := h
  simp only [pure, Except.pure, Except.ok.injEq, Prod.mk.injEq] at hfin
  obtain ⟨_, -, rfl, rfl⟩ := hfin
  have := foldlM_reshapes (f := fun r => [t.rewritten sets cond r])
    (c := fun r => if t.held cond r then 1 else 0) (k := Prod.fst) ?_ t.rows [] t (0, 0)
    (t', n', count) rfl (Table.eq_with_rows t) hfold
  · obtain ⟨hrows, hcount⟩ := this
    simp only [← List.map_eq_flatMap] at hrows
    refine ⟨by rw [hrows]; rfl, ?_⟩
    simpa [sum_map_ite_eq_countP] using hcount
  intro pre r rest s acc' s' hrows hone
  obtain ⟨hpre, hrest⟩ := number_ne_of_nodup (hrows ▸ hnd)
  simp only [← List.map_eq_flatMap] at hone ⊢
  simp only [find?_at_number (Table.rewritten_number t sets cond) hpre] at hone
  -- the visited row is rewritten when the condition holds of it, and kept otherwise
  cases hh : holds ⟨some (t.frame r), none, none⟩ cond with
  | error e => simp [hh, bind, Except.bind] at hone
  | ok b =>
      have hb := Table.held_of_holds hh
      cases b with
      | false =>
          have hr : t.rewritten sets cond r = r := by
            unfold Table.rewritten
            rw [hh]
          simp only [hh, bind, Except.bind, Bool.false_eq_true, ↓reduceIte, pure, Except.pure,
            Except.ok.injEq, Prod.mk.injEq] at hone
          rw [← hone.1, ← hone.2]
          simp [hr, hb]
      | true =>
          simp only [hh, bind, Except.bind, ↓reduceIte] at hone
          split at hone
          · simp at hone
          · rename_i x hx
            obtain ⟨vs, hvs, rfl⟩ := Database.updateRow_abort (by simpa [Database.setTable] using htr) hx
            have hr : t.rewritten sets cond r = ⟨r.number, vs⟩ := by
              unfold Table.rewritten
              rw [hh, show Database.assigned t r sets = .ok vs from hvs]
            simp only [pure, Except.pure, Except.ok.injEq, Prod.mk.injEq] at hone
            rw [← hone.1, ← hone.2]
            have hpre' : ∀ y ∈ pre.map (t.rewritten sets cond), y.number ≠ r.number := by
              simp only [List.mem_map, forall_exists_index, and_imp, forall_apply_eq_imp_iff₂,
                Table.rewritten_number]
              exact hpre
            refine ⟨?_, by simp [hb]⟩
            simp only [List.map_append, List.map_cons, map_at_number_of_ne _ _ _ hpre',
              map_at_number_of_ne _ _ _ hrest, beq_self_eq_true, ↓reduceIte, List.map_nil,
              List.append_assoc, List.cons_append, List.nil_append, hr]

/-! ## Inserts -/

/-- A successful insert of one row into a table without triggers adds the row with the next
number, and no row already there shares a unique key with it. -/
theorem Database.insert_eq_setTable {db : Database} (htr : db.triggers = []) {name : String}
    {assigns : List (String × Value)} {t : Table} (ht : db.tableToChange name = .ok t)
    (hself : db.tableOrFail t.name = .ok t) {db' : Database}
    (h : db.insert name assigns = .ok db') :
    db' = db.setTable (t.appended (Database.newValues t assigns t.nextNumber)) ∧
      t.KeysFree none (Database.newValues t assigns t.nextNumber) := by
  unfold Database.insert Database.insertRows at h
  simp only [Except.bind_eq_ok, ht, Except.ok.injEq, exists_eq_left'] at h
  obtain ⟨⟨db'', n⟩, ⟨_, -, _, -, _, -, _, -, _, -, _, -, res, hfold, _, -, hres⟩, hout⟩ := h
  simp only [pure, Except.pure, Except.ok.injEq] at hres hout
  subst hout
  -- the one row given is the whole fold
  simp only [List.foldlM_cons, List.foldlM_nil, hself, Except.bind_eq_ok, Except.ok.injEq,
    exists_eq_left'] at hfold
  obtain ⟨x, ⟨row, hrow, hx⟩, hrest⟩ := hfold
  obtain ⟨rfl, hfree⟩ := Database.insertRow_abort htr hrow
  refine ⟨?_, hfree⟩
  simp only [pure, Except.pure, Except.ok.injEq] at hrest hx
  rw [← hrest, ← hx] at hres
  simp only [Prod.mk.injEq] at hres
  exact hres.1.symm

/-- A successful insert of one row into a table without triggers leaves none of the row's
references without its parent row. -/
theorem Database.insert_parents {db : Database} (htr : db.triggers = []) {name : String}
    {assigns : List (String × Value)} {t : Table} (ht : db.tableToChange name = .ok t)
    (hself : db.tableOrFail t.name = .ok t) {db' : Database}
    (h : db.insert name assigns = .ok db') :
    db'.orphansOf (t.appended (Database.newValues t assigns t.nextNumber))
      ⟨t.nextNumber, Database.newValues t assigns t.nextNumber⟩ t.links = 0 := by
  unfold Database.insert Database.insertRows at h
  simp only [Except.bind_eq_ok, ht, Except.ok.injEq, exists_eq_left'] at h
  obtain ⟨⟨db'', n⟩, ⟨_, -, _, -, _, -, _, -, _, -, _, -, res, hfold, hres⟩, hout⟩ := h
  simp only [pure, Except.pure, Except.ok.injEq] at hout
  subst hout
  simp only [List.foldlM_cons, List.foldlM_nil, hself, Except.bind_eq_ok, Except.ok.injEq,
    exists_eq_left'] at hfold
  obtain ⟨x, ⟨row, hrow, hx⟩, hrest⟩ := hfold
  obtain ⟨rfl, -⟩ := Database.insertRow_abort htr hrow
  simp only [pure, Except.pure, Except.ok.injEq] at hrest hx
  subst hrest hx
  -- one row and no trigger: the open references are the row's own, and none may be left
  simp [Database.settleReferences, htr, pure, Except.pure] at hres
  obtain ⟨hcount, rfl, -⟩ := hres
  exact hcount

/-- A reference of a row none of whose references is left without a parent has its parent. -/
theorem Database.not_orphan {db : Database} {t : Table} {r : Row}
    {links : List (Column × Reference)} (h : db.orphansOf t r links = 0) {c : Column}
    {ref : Reference} (hc : (c, ref) ∈ links) : db.orphan ref (t.get r c.name) = false := by
  unfold Database.orphansOf at h
  rw [List.length_eq_zero_iff, List.filter_eq_nil_iff] at h
  simpa using h _ hc

/-! ## Deletes -/

/-- The table without the rows a condition holds of. -/
def Table.pruned (t : Table) (cond : Expr) : Table :=
  { t with rows := t.rows.filter fun r => !t.held cond r }

/-- Taking away a row by its number leaves the rows with other numbers. -/
theorem Database.withoutRows_one {t : Table} {pre rest : List Row} {r : Row}
    (hpre : ∀ x ∈ pre, x.number ≠ r.number) (hrest : ∀ x ∈ rest, x.number ≠ r.number) :
    Database.withoutRows { t with rows := pre ++ r :: rest } [r] = { t with rows := pre ++ rest } := by
  have keep : ∀ l : List Row, (∀ x ∈ l, x.number ≠ r.number) →
      l.filter (fun x => !(r.number == x.number)) = l := by
    intro l hl
    refine List.filter_eq_self.mpr fun x hx => ?_
    simpa using (hl x hx).symm
  simp only [Database.withoutRows, List.any_cons, List.any_nil, Bool.or_false, List.filter_append,
    List.filter_cons, beq_self_eq_true, Bool.not_true, Bool.false_eq_true, ↓reduceIte,
    keep pre hpre, keep rest hrest]

theorem filter_eq_flatMap (p : Row → Bool) (l : List Row) :
    l.filter p = l.flatMap fun r => if p r then [r] else [] := by
  induction l with
  | nil => rfl
  | cons r l ih => cases h : p r <;> simp [h, ih]

/-- A successful delete from a table without triggers takes away exactly the rows its
condition holds of. -/
theorem Database.delete_eq_setTable {db : Database} (htr : db.triggers = []) {name : String}
    {cond : Expr} {t : Table} (ht : db.tableToChange name = .ok t)
    (hnd : (t.rows.map Row.number).Nodup) {db' : Database} {n : Nat}
    (h : db.delete name cond = .ok (db', n)) :
    db' = db.setTable (t.pruned cond) := by
  unfold Database.delete at h
  simp only [Except.bind_eq_ok, ht, Except.ok.injEq, exists_eq_left'] at h
  obtain ⟨_, -, _, -, _, -, _, -, _, -, _, -, _, -, ⟨t', n', count⟩, hfold, _, -, hfin⟩ := h
  simp only [pure, Except.pure, Except.ok.injEq, Prod.mk.injEq] at hfin
  obtain ⟨rfl, -⟩ := hfin
  have := foldlM_reshapes (f := fun r => if !t.held cond r then [r] else [])
    (c := fun _ => 0) (k := fun _ => 0) ?_ t.rows [] t (0, 0) (t', n', count) rfl
    (Table.eq_with_rows t) hfold
  · simp only at this
    rw [this.1, Table.pruned, filter_eq_flatMap]
  intro pre r rest s acc' s' hrows hone
  obtain ⟨hpre, hrest⟩ := number_ne_of_nodup (hrows ▸ hnd)
  -- the visited row goes when the condition holds of it, and stays otherwise
  cases hh : holds ⟨some (t.frame r), none, none⟩ cond with
  | error e => simp [hh, bind, Except.bind] at hone
  | ok b =>
      have hb := Table.held_of_holds hh
      cases b with
      | false =>
          simp only [hh, bind, Except.bind, Bool.false_eq_true, ↓reduceIte, pure, Except.pure,
            Except.ok.injEq, Prod.mk.injEq] at hone
          rw [← hone.1]
          simp [hb]
      | true =>
          simp only [hh, bind, Except.bind, ↓reduceIte, Database.fire_of_triggers_nil htr,
            Bool.false_eq_true, pure, Except.pure, Except.ok.injEq, Prod.mk.injEq] at hone
          rw [← hone.1]
          have hpre' : ∀ x ∈ pre.flatMap (fun r => if !t.held cond r then [r] else []),
              x.number ≠ r.number := by
            intro x hx
            simp only [List.mem_flatMap] at hx
            obtain ⟨y, hy, hxy⟩ := hx
            split at hxy
            · simp only [List.mem_singleton] at hxy
              exact hxy ▸ hpre y hy
            · simp at hxy
          rw [Database.withoutRows_one hpre' hrest]
          simp [hb]

/-! ## Queries -/

theorem Table.filterAuxM_holds (t : Table) (cond : Expr) :
    ∀ (l acc res : List Row),
      l.filterAuxM (fun r => holds ⟨some (t.frame r), none, none⟩ cond) acc = .ok res →
        res = (l.filter (t.held cond)).reverse ++ acc := by
  intro l
  induction l with
  | nil =>
      intro acc res h
      simp [List.filterAuxM, pure, Except.pure] at h
      simp [h]
  | cons r l ih =>
      intro acc res h
      simp only [List.filterAuxM, Except.bind_eq_ok] at h
      obtain ⟨b, hb, hrest⟩ := h
      rw [ih _ _ hrest, List.filter_cons, Table.held_of_holds hb]
      cases b <;> simp

/-- A successful query reads the rows of the named table its condition holds of, in row
order. -/
theorem Database.select_rows {db : Database} {name : String} {cols : List String} {cond : Expr}
    {order : List String} {t : Table} {rows : List Row}
    (h : db.select name cols cond order = .ok (t, rows)) :
    db.tableOrFail name = .ok t ∧ rows = t.rows.filter (t.held cond) := by
  unfold Database.select at h
  simp only [Except.bind_eq_ok] at h
  obtain ⟨_, -, t', ht, _, -, _, -, rows', hf, hfin⟩ := h
  simp only [List.filterM, Except.bind_eq_ok] at hf
  obtain ⟨acc, hacc, hout⟩ := hf
  simp only [pure, Except.pure, Except.ok.injEq, Prod.mk.injEq] at hfin hout
  obtain ⟨rfl, rfl⟩ := hfin
  refine ⟨ht, ?_⟩
  rw [← hout, Table.filterAuxM_holds t' cond _ _ _ hacc]
  simp

end Sql

end CreditExtraction
