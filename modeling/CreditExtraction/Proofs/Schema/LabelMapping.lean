import Mathlib.Data.List.DropRight
import Mathlib.Data.List.TakeWhile
import CreditExtraction.Proofs.Sql.Effects
import CreditExtraction.Schema.DocumentType

/-!
# The label mapper against its reference

`Mapper.ofFields` binds every field name and then every alias, trimmed, to its field, and
`Mapper.map?` looks a label up exactly and then with case ignored. Both are stated here against
a reference written over the list of bindings alone (`bound`):

* building succeeds exactly when every bound label is non-empty, no label is bound to two
  fields and no alias is the name of another field (`LabelsWellBound`);
* a built mapper answers as `referenceMap`: the field a label is bound to, else the one field
  that every case-insensitive match is bound to;
* so names map to themselves, aliases to their field, every answer is a field name, and two
  field lists that bind alike, such as any reordering of fields and aliases, build alike.

Main statement: `ofFields_agrees_with_reference`.

The build keeps two association lists. The exact one answers as the first binding of a label;
the case-folded one answers with the field shared by all bindings under a folded key, or `""`
once two of them disagree (`Tables`). Both facts hold after every prefix of the bindings, by
induction over the build loop; the empty-string sentinel never hides a field because field
names of a well-bound list are not empty.
-/

namespace CreditExtraction

namespace Text.CharClass

theorem trimSpace_toList (s : String) :
    (trimSpace s).toList = (s.toList.dropWhile isSpace).rdropWhile isSpace := by
  simp [trimSpace, List.rdropWhile, String.toList_ofList]

/-- A list without leading blanks keeps none when its trailing blanks go. -/
theorem dropWhile_rdropWhile {p : Char → Bool} {l : List Char} (h : l.dropWhile p = l) :
    (l.rdropWhile p).dropWhile p = l.rdropWhile p := by
  rw [List.dropWhile_eq_self_iff] at h ⊢
  intro hl
  have hpre := List.rdropWhile_prefix (p := p) (l := l)
  rw [hpre.getElem]
  exact h (Nat.lt_of_lt_of_le hl hpre.length_le)

@[simp] theorem trimSpace_trimSpace (s : String) : trimSpace (trimSpace s) = trimSpace s := by
  apply String.toList_injective
  rw [trimSpace_toList, trimSpace_toList,
    dropWhile_rdropWhile (List.dropWhile_idempotent _ _), List.rdropWhile_idempotent]

@[simp] theorem trimSpace_empty : trimSpace "" = "" := by decide

theorem ne_empty_of_trimSpace_ne_empty {s : String} (h : trimSpace s ≠ "") : s ≠ "" := by
  rintro rfl
  exact h trimSpace_empty

end Text.CharClass

namespace Mapper

open Text

/-! ## Association lists -/

theorem find?_append_single (m : List (String × String)) (k v k' : String) :
    find? (m ++ [(k, v)]) k' = (find? m k').or (if k = k' then some v else none) := by
  unfold find?
  rw [List.find?_append]
  cases m.find? (·.1 == k') <;> by_cases h : k = k' <;> simp [h]

theorem find?_eq_none_iff {m : List (String × String)} {k : String} :
    find? m k = none ↔ ∀ p ∈ m, p.1 ≠ k := by
  simp [find?]

theorem mem_of_find?_eq_some {m : List (String × String)} {k c : String} (h : find? m k = some c) :
    (k, c) ∈ m := by
  simp only [find?, Option.map_eq_some_iff] at h
  obtain ⟨p, hp, rfl⟩ := h
  have hk : p.1 = k := by simpa using List.find?_some hp
  rw [← hk]
  exact List.mem_of_find?_eq_some hp

theorem find?_isSome_of_mem {m : List (String × String)} {k c : String} (h : (k, c) ∈ m) :
    ∃ c', find? m k = some c' := by
  cases hf : find? m k with
  | none => exact absurd rfl (find?_eq_none_iff.1 hf _ h)
  | some c' => exact ⟨c', rfl⟩

theorem find?_assign (m : List (String × String)) (k v k' : String) :
    find? (assign m k v) k' = if k = k' then some v else find? m k' := by
  unfold assign
  split
  · rename_i hany
    -- the rewrite keeps every key, so the lookup finds the same entry, now with `v` under `k`
    rw [find?, List.find?_map]
    have hkey : ((fun p : String × String => p.1 == k') ∘
        fun (p : String × String) => if p.1 == k then (p.1, v) else (p.1, p.2)) =
          fun p => p.1 == k' := by
      funext p
      by_cases h : p.1 = k <;> simp [h]
    rw [hkey, Option.map_map]
    cases hq : m.find? (·.1 == k') with
    | none =>
      have hall : ∀ p ∈ m, p.1 ≠ k' := by simpa using hq
      obtain ⟨p, hp, hpk⟩ := List.any_eq_true.1 hany
      by_cases h : k = k'
      · exact absurd (by simpa [h] using hpk) (hall p hp)
      · simp [h, find?, hq]
    | some p =>
      have hp : p.1 = k' := by simpa using List.find?_some hq
      by_cases h : k = k'
      · simp [h, hp]
      · have : p.1 ≠ k := fun e => h (e.symm.trans hp)
        simp [h, find?, hq, this]
  · rename_i hany
    have hnone : find? m k = none := by
      simp only [find?_eq_none_iff]
      intro p hp hpk
      exact hany (List.any_eq_true.2 ⟨p, hp, by simpa using hpk⟩)
    rw [find?_append_single]
    by_cases h : k = k'
    · subst h; simp [hnone]
    · simp [h]

/-- No label of a binding list is bound to two fields. -/
def Functional (B : List (String × String)) : Prop :=
  ∀ p ∈ B, ∀ q ∈ B, p.1 = q.1 → p.2 = q.2

theorem functional_append_single {B : List (String × String)} {l t : String} :
    Functional (B ++ [(l, t)]) ↔ Functional B ∧ ∀ p ∈ B, p.1 = l → p.2 = t := by
  simp only [Functional, List.mem_append, List.mem_singleton]
  constructor
  · intro h
    exact ⟨fun p hp q hq => h p (.inl hp) q (.inl hq), fun p hp hl => h p (.inl hp) _ (.inr rfl) hl⟩
  · rintro ⟨hB, hnew⟩ p (hp | rfl) q (hq | rfl) hpq
    · exact hB p hp q hq hpq
    · exact hnew p hp hpq
    · exact (hnew q hq hpq.symm).symm
    · rfl

theorem find?_eq_some_iff {B : List (String × String)} (hB : Functional B) {l c : String} :
    find? B l = some c ↔ (l, c) ∈ B := by
  constructor
  · exact mem_of_find?_eq_some
  · intro h
    obtain ⟨c', hc'⟩ := find?_isSome_of_mem h
    have hsame : c' = c := hB _ (mem_of_find?_eq_some hc') _ h rfl
    rw [hc', hsame]

/-! ## The case-folded view of a binding list -/

/-- The bindings with their labels lower-cased. -/
def folds (B : List (String × String)) : List (String × String) :=
  B.map fun p => (CharClass.lowerString p.1, p.2)

/-- Is every binding whose label folds to `k` bound to `c`? -/
def agreeOn (B : List (String × String)) (k c : String) : Bool :=
  B.all fun p => CharClass.lowerString p.1 != k || p.2 == c

/-- What the case-folded table holds for the key `k`: the field shared by every binding under
`k`, or `""` when two of them disagree. -/
def foldedEntry (B : List (String × String)) (k : String) : Option String :=
  (find? (folds B) k).map fun c => if agreeOn B k c then c else ""

/-- The field shared by every binding whose label folds to `k`, when there is one. -/
def foldedTarget (B : List (String × String)) (k : String) : Option String :=
  (find? (folds B) k).bind fun c => if agreeOn B k c then some c else none

theorem agreeOn_iff {B : List (String × String)} {k c : String} :
    agreeOn B k c = true ↔ ∀ p ∈ B, CharClass.lowerString p.1 = k → p.2 = c := by
  simp only [agreeOn, List.all_eq_true, Bool.or_eq_true, bne_iff_ne, ne_eq, beq_iff_eq]
  exact forall₂_congr fun p _ => by tauto

theorem agreeOn_append_single {B : List (String × String)} {k c l t : String} :
    agreeOn (B ++ [(l, t)]) k c = (agreeOn B k c && (CharClass.lowerString l != k || t == c)) := by
  simp [agreeOn, List.all_append]

theorem find?_folds_eq_some {B : List (String × String)} {k c : String}
    (h : find? (folds B) k = some c) : ∃ l, (l, c) ∈ B ∧ CharClass.lowerString l = k := by
  have hm := mem_of_find?_eq_some h
  simp only [folds, List.mem_map, Prod.mk.injEq] at hm
  obtain ⟨⟨l, t⟩, hmem, hl, rfl⟩ := hm
  exact ⟨l, hmem, hl⟩

theorem foldedTarget_eq_some_iff {B : List (String × String)} {k c : String} :
    foldedTarget B k = some c ↔
      (∃ p ∈ B, CharClass.lowerString p.1 = k) ∧ ∀ p ∈ B, CharClass.lowerString p.1 = k → p.2 = c := by
  unfold foldedTarget
  cases hf : find? (folds B) k with
  | none =>
    have hnone : ∀ p ∈ B, CharClass.lowerString p.1 ≠ k := by
      intro p hp hpk
      have := find?_eq_none_iff.1 hf (CharClass.lowerString p.1, p.2)
        (List.mem_map.2 ⟨p, hp, rfl⟩)
      exact this hpk
    simp only [Option.bind_none, reduceCtorEq, false_iff, not_and]
    rintro ⟨p, hp, hpk⟩
    exact absurd hpk (hnone p hp)
  | some c' =>
    obtain ⟨l, hl, hlk⟩ := find?_folds_eq_some hf
    simp only [Option.bind_some]
    constructor
    · intro h
      split at h
      · rename_i hagree
        cases h
        exact ⟨⟨(l, c), hl, hlk⟩, agreeOn_iff.1 hagree⟩
      · cases h
    · rintro ⟨-, hall⟩
      have hc : c' = c := hall (l, c') hl hlk
      subst hc
      simp [agreeOn_iff.2 hall]

/-! ## The two tables of a build -/

/-- The tables of a mapper after the bindings `B`: the exact table answers as the first binding
of a label, the case-folded one as `foldedEntry`. -/
structure Tables (m : Mapper) (B : List (String × String)) : Prop where
  exact : ∀ l, find? m.exact l = find? B l
  folded : ∀ k, find? m.folded k = foldedEntry B k

theorem tables_empty : Tables ⟨[], []⟩ [] := ⟨fun _ => rfl, fun _ => rfl⟩

/-- The case-folded key a new binding lands on, given what the table held there. -/
theorem foldedEntry_append_single (B : List (String × String)) (l t k : String) :
    foldedEntry (B ++ [(l, t)]) k =
      if CharClass.lowerString l = k then
        some ((foldedEntry B k).elim t fun prev => if prev = t then prev else "")
      else foldedEntry B k := by
  unfold foldedEntry
  have hfolds : folds (B ++ [(l, t)]) = folds B ++ [(CharClass.lowerString l, t)] := by
    simp [folds]
  rw [hfolds, find?_append_single]
  simp only [agreeOn_append_single]
  cases hf : find? (folds B) k with
  | none =>
    -- no earlier binding under `k`, so all of them agree on the new field
    have hagree : agreeOn B k t = true := by
      rw [agreeOn_iff]
      intro p hp hpk
      exact absurd rfl (find?_eq_none_iff.1 hf _ (List.mem_map.2 ⟨p, hp, by rw [hpk]⟩))
    by_cases hk : CharClass.lowerString l = k <;> simp [hk, hagree]
  | some c =>
    by_cases hk : CharClass.lowerString l = k
    · by_cases hag : agreeOn B k c = true
      · by_cases hct : c = t
        · subst hct
          simp [hk, hag]
        · simp [hk, hag, hct, Ne.symm hct]
      · simp [hk, hag]
    · simp [hk]

/-- A binding the exact table agreed with: the canonical-name check, then both writes. -/
theorem bindChecked_eq_ok {canonical : List String} {m m' : Mapper} {l target : String}
    (h : Mapper.bind.bindChecked canonical m l target = .ok m') :
    (l ∈ canonical → l = target) ∧ m'.exact = assign m.exact l target ∧
    ∀ k, find? m'.folded k =
      if CharClass.lowerString l = k then
        some ((find? m.folded k).elim target fun prev => if prev = target then prev else "")
      else find? m.folded k := by
  unfold Mapper.bind.bindChecked at h
  split at h
  · cases h
  · rename_i hcheck
    cases h
    refine ⟨fun hl => ?_, rfl, fun k => ?_⟩
    · simpa [List.contains_iff_mem, hl] using hcheck
    · split
      · rename_i prev hprev
        split
        · rename_i hdiff
          rw [find?_assign]
          by_cases hk : CharClass.lowerString l = k
          · subst hk
            have : prev ≠ target := by simpa using hdiff
            simp [hprev, this]
          · simp [hk]
        · rename_i hsame
          have : prev = target := by simpa using hsame
          by_cases hk : CharClass.lowerString l = k
          · subst hk
            simp [hprev, this]
          · simp [hk]
      · rename_i hnone
        rw [find?_append_single]
        by_cases hk : CharClass.lowerString l = k
        · subst hk
          simp [hnone]
        · simp [hk]

/-- What a successful binding checked and what it wrote. -/
theorem bind_eq_ok {canonical : List String} {m m' : Mapper} {label target : String}
    (h : Mapper.bind canonical m label target = .ok m') :
    CharClass.trimSpace label ≠ "" ∧
    (∀ prev, find? m.exact (CharClass.trimSpace label) = some prev → prev = target) ∧
    (CharClass.trimSpace label ∈ canonical → CharClass.trimSpace label = target) ∧
    m'.exact = assign m.exact (CharClass.trimSpace label) target ∧
    ∀ k, find? m'.folded k =
      if CharClass.lowerString (CharClass.trimSpace label) = k then
        some ((find? m.folded k).elim target fun prev => if prev = target then prev else "")
      else find? m.folded k := by
  unfold Mapper.bind at h
  simp only at h
  split at h
  · cases h
  · rename_i hne
    have hne' : CharClass.trimSpace label ≠ "" := by simpa using hne
    split at h
    · rename_i prev hprev
      split at h
      · cases h
      · rename_i hsame
        have : prev = target := by simpa using hsame
        exact ⟨hne', fun p hp => (by rw [hprev] at hp; cases hp; exact this), bindChecked_eq_ok h⟩
    · rename_i hnone
      exact ⟨hne', fun p hp => (by rw [hnone] at hp; cases hp), bindChecked_eq_ok h⟩

/-- One successful binding extends both tables by it. -/
theorem Tables.bind {canonical : List String} {m m' : Mapper} {B : List (String × String)}
    {label target : String} (hm : Tables m B) (h : Mapper.bind canonical m label target = .ok m') :
    Tables m' (B ++ [(CharClass.trimSpace label, target)]) := by
  obtain ⟨-, hfirst, -, hexact, hfolded⟩ := bind_eq_ok h
  refine ⟨fun l => ?_, fun k => ?_⟩
  · rw [hexact, find?_assign, find?_append_single, ← hm.exact]
    by_cases hl : CharClass.trimSpace label = l
    · subst hl
      cases hprev : find? m.exact (CharClass.trimSpace label) with
      | none => simp
      | some prev => simp [hfirst prev hprev]
    · simp [hl]
  · rw [hfolded, foldedEntry_append_single, hm.folded]

/-! ## Which binding lists the build accepts -/

/-- A binding list the build accepts: no label is empty, none is bound to two fields, and a
label that is a field name is bound to that field only. -/
structure Admissible (canonical : List String) (B : List (String × String)) : Prop where
  nonempty : ∀ p ∈ B, p.1 ≠ ""
  functional : Functional B
  canonical : ∀ p ∈ B, p.1 ∈ canonical → p.1 = p.2

theorem admissible_nil (canonical : List String) : Admissible canonical [] :=
  ⟨by simp, by simp [Functional], by simp⟩

theorem Admissible.of_append {canonical : List String} {B Q : List (String × String)}
    (h : Admissible canonical (B ++ Q)) : Admissible canonical B :=
  ⟨fun p hp => h.nonempty p (List.mem_append_left _ hp),
    fun p hp q hq => h.functional p (List.mem_append_left _ hp) q (List.mem_append_left _ hq),
    fun p hp => h.canonical p (List.mem_append_left _ hp)⟩

/-- The checks one more binding has to pass. -/
theorem admissible_append_single {canonical : List String} {B : List (String × String)}
    {l t : String} :
    Admissible canonical (B ++ [(l, t)]) ↔
      Admissible canonical B ∧ l ≠ "" ∧ (∀ p ∈ B, p.1 = l → p.2 = t) ∧ (l ∈ canonical → l = t) := by
  constructor
  · intro h
    have hB := h.of_append
    exact ⟨hB, h.nonempty (l, t) (by simp), (functional_append_single.1 h.functional).2,
      h.canonical (l, t) (by simp)⟩
  · rintro ⟨hB, hl, hnew, hcan⟩
    refine ⟨fun p hp => ?_, functional_append_single.2 ⟨hB.functional, hnew⟩, fun p hp => ?_⟩
    · rcases List.mem_append.1 hp with hp | hp
      · exact hB.nonempty p hp
      · simp only [List.mem_singleton] at hp; subst hp; exact hl
    · rcases List.mem_append.1 hp with hp | hp
      · exact hB.canonical p hp
      · simp only [List.mem_singleton] at hp; subst hp; exact hcan

theorem bindChecked_ok {canonical : List String} {m : Mapper} {l target : String}
    (hcan : l ∈ canonical → l = target) :
    ∃ m', Mapper.bind.bindChecked canonical m l target = .ok m' := by
  unfold Mapper.bind.bindChecked
  split
  · rename_i hcheck
    have : l ∈ canonical ∧ l ≠ target := by simpa [List.contains_iff_mem] using hcheck
    exact absurd (hcan this.1) this.2
  · exact ⟨_, rfl⟩

/-- A binding succeeds exactly when it passes the checks of `admissible_append_single`. -/
theorem bind_ok_iff {canonical : List String} {m : Mapper} {B : List (String × String)}
    {label target : String} (hm : Tables m B) (hB : Functional B) :
    (∃ m', Mapper.bind canonical m label target = .ok m') ↔
      CharClass.trimSpace label ≠ "" ∧ (∀ p ∈ B, p.1 = CharClass.trimSpace label → p.2 = target) ∧
      (CharClass.trimSpace label ∈ canonical → CharClass.trimSpace label = target) := by
  constructor
  · rintro ⟨m', h⟩
    obtain ⟨hne, hfirst, hcan, -⟩ := bind_eq_ok h
    refine ⟨hne, fun p hp hpl => ?_, hcan⟩
    -- the exact table holds the first binding of the label, which every other one agrees with
    obtain ⟨l, t⟩ := p
    simp only at hpl ⊢
    subst hpl
    obtain ⟨c, hc⟩ := find?_isSome_of_mem hp
    have htc : t = c := hB _ hp _ (mem_of_find?_eq_some hc) rfl
    rw [htc]
    exact hfirst c (by rw [hm.exact, hc])
  · rintro ⟨hne, hnew, hcan⟩
    unfold Mapper.bind
    simp only
    split
    · rename_i hempty
      exact absurd (by simpa using hempty) hne
    · split
      · rename_i prev hprev
        split
        · rename_i hdiff
          have hmem := mem_of_find?_eq_some (hm.exact _ ▸ hprev)
          exact absurd (hnew _ hmem rfl) (by simpa using hdiff)
        · exact bindChecked_ok hcan
      · exact bindChecked_ok hcan

/-- The bindings a list of requested ones makes, with their labels trimmed. -/
def trimmed (P : List (String × String)) : List (String × String) :=
  P.map fun p => (CharClass.trimSpace p.1, p.2)

section Run

variable (canonical : List String)

/-- The build loop over requested bindings. -/
def run (P : List (String × String)) (m : Mapper) : Except Failure Mapper :=
  P.foldlM (fun m p => Mapper.bind canonical m p.1 p.2) m

theorem run_cons (p : (String × String)) (P : List (String × String)) (m : Mapper) :
    run canonical (p :: P) m = (Mapper.bind canonical m p.1 p.2 >>= run canonical P) :=
  rfl

/-- After a successful build loop the tables hold all the bindings made. -/
theorem tables_run : ∀ (P : List (String × String)) {m m' : Mapper} {B : List (String × String)},
    Tables m B → run canonical P m = .ok m' → Tables m' (B ++ trimmed P)
  | [], m, m', B, hm, h => by
    cases h
    simpa [trimmed] using hm
  | p :: P, m, m', B, hm, h => by
    rw [run_cons, Except.bind_eq_ok] at h
    obtain ⟨m₁, h₁, hrest⟩ := h
    have := tables_run P (hm.bind h₁) hrest
    simpa [trimmed] using this

/-- The build loop succeeds exactly when all the bindings together are admissible. -/
theorem run_ok_iff : ∀ (P : List (String × String)) {m : Mapper} {B : List (String × String)},
    Tables m B → Admissible canonical B →
      ((∃ m', run canonical P m = .ok m') ↔ Admissible canonical (B ++ trimmed P))
  | [], m, B, _, hB => by simp [run, trimmed, pure, Except.pure, hB]
  | p :: P, m, B, hm, hB => by
    have hsplit : B ++ trimmed (p :: P) =
        (B ++ [(CharClass.trimSpace p.1, p.2)]) ++ trimmed P := by simp [trimmed]
    rw [run_cons, hsplit]
    cases hb : Mapper.bind canonical m p.1 p.2 with
    | error e =>
      -- the failed check is one of the conditions on the longer list
      have hfail : ¬ ∃ m', Mapper.bind canonical m p.1 p.2 = .ok m' := by simp [hb]
      rw [bind_ok_iff hm hB.functional] at hfail
      simp only [Except.bind_eq_ok, reduceCtorEq, false_and, exists_false, false_iff]
      intro hall
      exact hfail (admissible_append_single.1 hall.of_append).2
    | ok m₁ =>
      have hnext : Admissible canonical (B ++ [(CharClass.trimSpace p.1, p.2)]) :=
        admissible_append_single.2 ⟨hB, (bind_ok_iff hm hB.functional).1 ⟨m₁, hb⟩⟩
      have hstep : (Except.ok m₁ >>= run canonical P) = run canonical P m₁ := rfl
      rw [hstep]
      simpa using run_ok_iff P (hm.bind hb) hnext

end Run

/-! ## The bindings of a field list -/

/-- The bindings a field list requests, in the order they are made: every name to itself, then
every alias to its field. -/
def declared (fields : List SchemaField) : List (String × String) :=
  fields.map (fun f => (f.name, f.name)) ++ fields.flatMap fun f => f.aliases.map fun a => (a, f.name)

/-- The labels a field list binds, trimmed, each with its field. -/
def bound (fields : List SchemaField) : List (String × String) := trimmed (declared fields)

theorem mem_bound {fields : List SchemaField} {p : String × String} :
    p ∈ bound fields ↔
      (∃ f ∈ fields, p = (CharClass.trimSpace f.name, f.name)) ∨
      ∃ f ∈ fields, ∃ a ∈ f.aliases, p = (CharClass.trimSpace a, f.name) := by
  simp only [bound, trimmed, declared, List.map_append, List.map_map, List.mem_append,
    List.mem_map, List.mem_flatMap, Function.comp]
  constructor
  · rintro (⟨f, hf, rfl⟩ | ⟨⟨a, n⟩, ⟨f, hf, ha⟩, rfl⟩)
    · exact .inl ⟨f, hf, rfl⟩
    · obtain ⟨a, ha, h⟩ := ha
      cases h
      exact .inr ⟨f, hf, a, ha, rfl⟩
  · rintro (⟨f, hf, rfl⟩ | ⟨f, hf, a, ha, rfl⟩)
    · exact .inl ⟨f, hf, rfl⟩
    · exact .inr ⟨(a, f.name), ⟨f, hf, a, ha, rfl⟩, rfl⟩

theorem name_mem_bound {fields : List SchemaField} {f : SchemaField} (hf : f ∈ fields) :
    (CharClass.trimSpace f.name, f.name) ∈ bound fields :=
  mem_bound.2 (.inl ⟨f, hf, rfl⟩)

theorem alias_mem_bound {fields : List SchemaField} {f : SchemaField} (hf : f ∈ fields)
    {a : String} (ha : a ∈ f.aliases) : (CharClass.trimSpace a, f.name) ∈ bound fields :=
  mem_bound.2 (.inr ⟨f, hf, a, ha, rfl⟩)

/-- Every label is bound to a field name. -/
theorem target_mem_names {fields : List SchemaField} {p : String × String} (hp : p ∈ bound fields) :
    p.2 ∈ fields.map (·.name) := by
  rcases mem_bound.1 hp with ⟨f, hf, rfl⟩ | ⟨f, hf, a, -, rfl⟩ <;> exact List.mem_map_of_mem hf

theorem foldlM_aliases (canonical : List String) (fields : List SchemaField) (m : Mapper) :
    fields.foldlM (fun m f => f.aliases.foldlM (fun m a => Mapper.bind canonical m a f.name) m) m =
      run canonical (fields.flatMap fun f => f.aliases.map fun a => (a, f.name)) m := by
  induction fields generalizing m with
  | nil => rfl
  | cons f fields ih =>
    simp only [List.foldlM_cons, List.flatMap_cons, run, List.foldlM_append, List.foldlM_map]
    congr 1
    funext m'
    exact ih m'

/-- The build is the loop over the requested bindings. -/
theorem ofFields_eq_run (fields : List SchemaField) :
    ofFields fields = run (fields.map (·.name)) (declared fields) ⟨[], []⟩ := by
  simp only [ofFields, declared, run, List.foldlM_append, List.foldlM_map, foldlM_aliases]

theorem ofFields_ok_iff_admissible (fields : List SchemaField) :
    (∃ m, ofFields fields = .ok m) ↔ Admissible (fields.map (·.name)) (bound fields) := by
  rw [ofFields_eq_run, run_ok_iff _ _ tables_empty (admissible_nil _)]
  rfl

theorem tables_ofFields {fields : List SchemaField} {m : Mapper} (h : ofFields fields = .ok m) :
    Tables m (bound fields) := by
  rw [ofFields_eq_run] at h
  simpa [bound] using tables_run _ _ tables_empty h

/-! ## The conditions as the schema states them -/

/-- The labels of a field list are well bound: every trimmed name and alias is non-empty, no
trimmed label is bound to two fields, and no trimmed alias is the name of another field. -/
structure LabelsWellBound (fields : List SchemaField) : Prop where
  nonempty : ∀ p ∈ bound fields, p.1 ≠ ""
  functional : Functional (bound fields)
  aliasNotOtherName : ∀ f ∈ fields, ∀ a ∈ f.aliases,
    CharClass.trimSpace a ∈ fields.map (·.name) → CharClass.trimSpace a = f.name

/-- The schema's conditions are the build's: a trimmed name that is another field's name is
already a label bound twice. -/
theorem labelsWellBound_iff_admissible (fields : List SchemaField) :
    LabelsWellBound fields ↔ Admissible (fields.map (·.name)) (bound fields) := by
  constructor
  · intro h
    refine ⟨h.nonempty, h.functional, fun p hp hname => ?_⟩
    rcases mem_bound.1 hp with ⟨f, hf, rfl⟩ | ⟨f, hf, a, ha, rfl⟩
    · -- the other field `g` binds its own trimmed name, the same label, to itself
      obtain ⟨g, hg, hgname⟩ := List.mem_map.1 hname
      simp only at hgname ⊢
      have hgb := name_mem_bound hg
      rw [hgname, CharClass.trimSpace_trimSpace] at hgb
      exact (h.functional _ hp _ hgb rfl).symm
    · exact h.aliasNotOtherName f hf a ha hname
  · intro h
    exact ⟨h.nonempty, h.functional,
      fun f hf a ha hname => h.canonical _ (alias_mem_bound hf ha) hname⟩

/-- Field names of an admissible list are not empty, so no field is mistaken for the sentinel. -/
theorem target_ne_empty {fields : List SchemaField}
    (h : Admissible (fields.map (·.name)) (bound fields)) {p : String × String}
    (hp : p ∈ bound fields) : p.2 ≠ "" := by
  obtain ⟨f, hf, hname⟩ := List.mem_map.1 (target_mem_names hp)
  rw [← hname]
  exact CharClass.ne_empty_of_trimSpace_ne_empty (h.nonempty _ (name_mem_bound hf))

/-! ## Looking labels up -/

/-- What a label maps to: the field its trimmed form is bound to, else the field that all
bound labels equal to it up to case are bound to. -/
def referenceMap (fields : List SchemaField) (label : String) : Option String :=
  let l := CharClass.trimSpace label
  (find? (bound fields) l).or (foldedTarget (bound fields) (CharClass.lowerString l))

/-- A mapper with the tables of `B` answers from `B`, as long as no field is `""`. -/
theorem map?_eq_of_tables {m : Mapper} {B : List (String × String)} (hm : Tables m B)
    (hne : ∀ p ∈ B, p.2 ≠ "") (label : String) :
    m.map? label = (find? B (CharClass.trimSpace label)).or
      (foldedTarget B (CharClass.lowerString (CharClass.trimSpace label))) := by
  simp only [map?, hm.exact, hm.folded]
  cases find? B (CharClass.trimSpace label) with
  | some c => rfl
  | none =>
    simp only [Option.none_or, foldedEntry, foldedTarget]
    cases hf : find? (folds B) (CharClass.lowerString (CharClass.trimSpace label)) with
    | none => rfl
    | some c =>
      obtain ⟨l, hl, -⟩ := find?_folds_eq_some hf
      have hc : c ≠ "" := hne _ hl
      by_cases hag : agreeOn B (CharClass.lowerString (CharClass.trimSpace label)) c = true <;>
        simp [hag, hc]

theorem map?_eq_referenceMap {fields : List SchemaField} {m : Mapper}
    (h : ofFields fields = .ok m) (label : String) : m.map? label = referenceMap fields label := by
  have hadm := (ofFields_ok_iff_admissible fields).1 ⟨m, h⟩
  exact map?_eq_of_tables (tables_ofFields h) (fun _ hp => target_ne_empty hadm hp) label

theorem referenceMap_of_mem {fields : List SchemaField} (hB : Functional (bound fields))
    {label c : String} (h : (CharClass.trimSpace label, c) ∈ bound fields) :
    referenceMap fields label = some c := by
  simp [referenceMap, (find?_eq_some_iff hB).2 h]

theorem referenceMap_mem_names {fields : List SchemaField} {label c : String}
    (h : referenceMap fields label = some c) : c ∈ fields.map (·.name) := by
  simp only [referenceMap, Option.or_eq_some_iff] at h
  rcases h with h | ⟨-, h⟩
  · exact target_mem_names (mem_of_find?_eq_some h)
  · simp only [foldedTarget, Option.bind_eq_some_iff] at h
    obtain ⟨c', hc', hsome⟩ := h
    split at hsome
    · cases hsome
      obtain ⟨l, hl, -⟩ := find?_folds_eq_some hc'
      exact target_mem_names hl
    · cases hsome

/-! ## Order does not matter -/

/-- Two field lists bind alike: they have the same field names and bind the same trimmed labels
to the same fields, however their fields and aliases are ordered or repeated. -/
structure BindsAlike (fields fields' : List SchemaField) : Prop where
  names : ∀ n, n ∈ fields.map (·.name) ↔ n ∈ fields'.map (·.name)
  bindings : ∀ p, p ∈ bound fields ↔ p ∈ bound fields'

/-- Reordering the fields binds alike. -/
theorem BindsAlike.of_perm {fields fields' : List SchemaField} (h : fields.Perm fields') :
    BindsAlike fields fields' :=
  ⟨fun _ => (h.map _).mem_iff, fun _ => by simp only [mem_bound, h.mem_iff]⟩

theorem Admissible.congr {c c' : List String} {B B' : List (String × String)}
    (hc : ∀ n, n ∈ c ↔ n ∈ c') (hB : ∀ p, p ∈ B ↔ p ∈ B') (h : Admissible c B) :
    Admissible c' B' :=
  ⟨fun p hp => h.nonempty p ((hB p).2 hp),
    fun p hp q hq => h.functional p ((hB p).2 hp) q ((hB q).2 hq),
    fun p hp hn => h.canonical p ((hB p).2 hp) ((hc _).2 hn)⟩

theorem BindsAlike.admissible_iff {fields fields' : List SchemaField} (h : BindsAlike fields fields') :
    Admissible (fields.map (·.name)) (bound fields) ↔ Admissible (fields'.map (·.name)) (bound fields') :=
  ⟨Admissible.congr h.names h.bindings,
    Admissible.congr (fun n => (h.names n).symm) (fun p => (h.bindings p).symm)⟩

/-- Under no conflicting binding, the reference depends only on which bindings there are. -/
theorem BindsAlike.referenceMap_eq {fields fields' : List SchemaField} (h : BindsAlike fields fields')
    (hB : Functional (bound fields)) (label : String) :
    referenceMap fields label = referenceMap fields' label := by
  have hB' : Functional (bound fields') :=
    fun p hp q hq => hB p ((h.bindings p).2 hp) q ((h.bindings q).2 hq)
  have hexact : find? (bound fields) (CharClass.trimSpace label) =
      find? (bound fields') (CharClass.trimSpace label) :=
    Option.ext fun c => by rw [find?_eq_some_iff hB, find?_eq_some_iff hB', h.bindings]
  have hfolded : ∀ k, foldedTarget (bound fields) k = foldedTarget (bound fields') k :=
    fun k => Option.ext fun c => by
      simp only [foldedTarget_eq_some_iff, h.bindings]
  simp only [referenceMap, hexact, hfolded]

/-! ## The mapper against its reference -/

/-- The mapper of a field list is its reference. It is built exactly when the labels are well
bound; it then sends every label to `referenceMap`, so each name to itself, each alias to its
field and any label only to a field name; and a field list that binds alike builds alike. -/
theorem ofFields_agrees_with_reference (fields : List SchemaField) :
    ((∃ m, ofFields fields = .ok m) ↔ LabelsWellBound fields) ∧
    (∀ m, ofFields fields = .ok m →
      (∀ label, m.map? label = referenceMap fields label) ∧
      (∀ f ∈ fields, m.map? f.name = some f.name ∧ ∀ a ∈ f.aliases, m.map? a = some f.name) ∧
      (∀ label c, m.map? label = some c → c ∈ fields.map (·.name))) ∧
    (∀ fields', BindsAlike fields fields' →
      ((∃ m, ofFields fields = .ok m) ↔ ∃ m', ofFields fields' = .ok m') ∧
      ∀ m m', ofFields fields = .ok m → ofFields fields' = .ok m' →
        ∀ label, m.map? label = m'.map? label) := by
  refine ⟨?_, fun m h => ?_, fun fields' halike => ?_⟩
  · rw [ofFields_ok_iff_admissible, labelsWellBound_iff_admissible]
  · have hB := ((ofFields_ok_iff_admissible fields).1 ⟨m, h⟩).functional
    refine ⟨map?_eq_referenceMap h, fun f hf => ⟨?_, fun a ha => ?_⟩, fun label c hc => ?_⟩
    · rw [map?_eq_referenceMap h]
      exact referenceMap_of_mem hB (name_mem_bound hf)
    · rw [map?_eq_referenceMap h]
      exact referenceMap_of_mem hB (alias_mem_bound hf ha)
    · rw [map?_eq_referenceMap h] at hc
      exact referenceMap_mem_names hc
  · refine ⟨?_, fun m m' h h' label => ?_⟩
    · rw [ofFields_ok_iff_admissible, ofFields_ok_iff_admissible, halike.admissible_iff]
    · have hB := ((ofFields_ok_iff_admissible fields).1 ⟨m, h⟩).functional
      rw [map?_eq_referenceMap h, map?_eq_referenceMap h', halike.referenceMap_eq hB]

/-- Two fields with aliases, one of them padded with blanks: the labels are well bound, the
padded alias maps to its field, and the reversed field list maps every label alike. -/
theorem ofFields_agrees_on_two_fields :
    let fields : List SchemaField :=
      [⟨"amount", "", ["Betrag", "Summe"], Rule.plain, false⟩, ⟨"date", "", [" Datum "], Rule.plain, false⟩]
    LabelsWellBound fields ∧ ∃ m, ofFields fields = .ok m ∧ m.map? " Datum " = some "date" ∧
      ∃ m', ofFields fields.reverse = .ok m' ∧ ∀ label, m.map? label = m'.map? label := by
  intro fields
  obtain ⟨hbuilt, hmaps, halike⟩ := ofFields_agrees_with_reference fields
  obtain ⟨m, hm⟩ : ∃ m, ofFields fields = .ok m := ⟨_, rfl⟩
  obtain ⟨m', hm'⟩ : ∃ m', ofFields fields.reverse = .ok m' := ⟨_, rfl⟩
  have hrev := halike fields.reverse (BindsAlike.of_perm (List.reverse_perm fields).symm)
  have hdate := (hmaps m hm).2.1 ⟨"date", "", [" Datum "], Rule.plain, false⟩ (by simp [fields])
  exact ⟨hbuilt.1 ⟨m, hm⟩, m, hm, hdate.2 " Datum " (by simp), m', hm', hrev.2 m m' hm hm'⟩

end Mapper

end CreditExtraction
