import Mathlib
import CreditExtraction.Proofs.Files.Paths

/-! # What the tree operations change

The tree looks a path up by walking its ancestors, so what an operation leaves alone has two
sides: the nodes it does not touch, and the answers of `lookup`, which also read the nodes above.
The second follows from the first in a *well-formed* tree (`Tree.WF`), where every node's
ancestors are directories. There a lookup is decided by the node itself and by whether a file
stands above it (`lookup_of_wf`); the order of the walk no longer matters.

* `node?_put`, `node?_remove_of_file`: a put changes one node, the removal of a file one node.
* `WF.put`, `WF.remove_of_file`: both keep the tree well-formed, under the checks the operations
  make.
* `Changes t t' S ps`: the nodes outside `S` are as they were, except for directories added
  along `ps`. It composes (`Changes.trans`), and under it the lookups of untouched paths agree
  (`Changes.lookup_eq`).
* `mkdirAll_spec`: making directories only adds directories, at leading runs of the path.
* `node?_tempFor`: the temporary file of an atomic write is free.
* `writeFile_spec`, `writeAtomic_spec`: a write changes the file it writes and no other, and
  keeps the tree well-formed.
* `writeAtomic_ok`: the conditions under which an atomic write succeeds.
-/

namespace CreditExtraction.Files

namespace Path

theorem ancestors_congr {p q : String} (h : parts p = parts q) : ancestors p = ancestors q := by
  simp [ancestors, h]

theorem parts_ne_nil_of_mem_ancestors {p a : String} (h : a ∈ ancestors p) : parts a ≠ [] := by
  obtain ⟨i, h0, hi, ha⟩ := parts_of_mem_ancestors h
  rw [ha]
  simpa [List.take_eq_nil_iff] using ⟨h0.ne', fun h' => by simp [h'] at hi⟩

theorem length_lt_of_mem_ancestors {p a : String} (h : a ∈ ancestors p) :
    (parts a).length < (parts p).length := by
  obtain ⟨i, -, hi, ha⟩ := parts_of_mem_ancestors h
  simp [ha, hi]

/-- A proper, nonempty leading run of a path's parts is the path of one of its ancestors. -/
theorem ofParts_mem_ancestors {p : String} {ps : List String} (h : ps <+: parts p) (h0 : ps ≠ [])
    (hlt : ps.length < (parts p).length) : ofParts ps ∈ ancestors p := by
  rw [List.prefix_iff_eq_take] at h
  exact mem_ancestors.2 ⟨ps.length, List.length_pos_of_ne_nil h0, hlt, by rw [← h]⟩

/-- Each ancestor is an ancestor of the later ones: the walk goes outermost first. -/
theorem ancestors_pairwise (p : String) : (ancestors p).Pairwise (fun a b => a ∈ ancestors b) := by
  unfold ancestors
  refine List.pairwise_filterMap.2 (List.pairwise_lt_range.imp_of_mem ?_)
  intro i j _ hj hij a ha b hb
  split at ha <;> split at hb <;> simp only [Option.some.injEq, reduceCtorEq] at ha hb
  subst ha hb
  rename_i hi _
  have hj : j < (parts p).length := List.mem_range.1 hj
  have hi0 : 0 < i := Nat.pos_of_ne_zero (by simpa using hi)
  have hne : (parts p).take i ≠ [] := by
    simpa [List.take_eq_nil_iff] using ⟨hi0.ne', fun h => by simp [h] at hj⟩
  refine ofParts_mem_ancestors ?_ hne ?_ <;> rw [parts_ofParts_take]
  · exact List.take_prefix_take_left hij.le
  · simp [List.length_take]; omega

end Path

namespace Tree

/-! ## Nodes -/

/-- Is there a file at a path? (Its node alone; the ancestors are not looked at.) -/
def hasFile (t : Tree) (p : String) : Bool :=
  match t.node? p with
  | some (.file _) => true
  | _ => false

/-- A well-formed tree: the ancestors of every node are directories. -/
def WF (t : Tree) : Prop := ∀ q n, t.node? q = some n → ∀ a ∈ Path.ancestors q, t.node? a = some .dir

theorem node?_congr (t : Tree) {p q : String} (h : Path.parts p = Path.parts q) :
    t.node? p = t.node? q := by
  simp [node?, h]

theorem node?_root (t : Tree) {p : String} (h : Path.parts p = []) : t.node? p = some .dir := by
  simp [node?, h]

/-- Only the root has no parts, and it is a directory. -/
theorem parts_ne_nil_of_ne_dir {t : Tree} {p : String} (h : t.node? p ≠ some .dir) :
    Path.parts p ≠ [] :=
  fun h0 => h (node?_root t h0)

theorem node?_of_ne_nil (t : Tree) {p : String} (h : Path.parts p ≠ []) :
    t.node? p = (t.nodes.find? (·.1 == Path.ofParts (Path.parts p))).map (·.2) := by
  simp [node?, h]

theorem parts_ne_nil_of_node? {t : Tree} {p : String} {d : ByteArray}
    (h : t.node? p = some (.file d)) : Path.parts p ≠ [] := by
  intro h0
  rw [node?_root t h0] at h
  cases h

theorem node?_empty {p : String} (h : Path.parts p ≠ []) : empty.node? p = none := by
  simp [node?, h, empty]

theorem wf_empty : empty.WF := by
  intro q n hq
  by_cases h0 : Path.parts q = []
  · simp [Path.ancestors, h0]
  · simp [node?_empty h0] at hq

/-- The keys of two paths agree exactly when their parts do. -/
theorem key_eq_iff {p q : String} :
    Path.ofParts (Path.parts p) = Path.ofParts (Path.parts q) ↔ Path.parts p = Path.parts q :=
  ⟨Path.ofParts_inj (fun _ => Path.isPart_of_mem_parts) (fun _ => Path.isPart_of_mem_parts),
    congrArg _⟩

/-- A put sets the node at its path (the root stays a directory) and no other. -/
theorem node?_put (t : Tree) (p : String) (n : Node) (q : String) :
    (t.put p n).node? q =
      if Path.parts q ≠ [] ∧ Path.parts q = Path.parts p then some n else t.node? q := by
  by_cases h0 : Path.parts q = []
  · simp [node?, h0]
  simp only [node?_of_ne_nil _ h0, ne_eq, h0, not_false_eq_true, true_and]
  by_cases hqp : Path.parts q = Path.parts p
  · have hQ : Path.ofParts (Path.parts q) = Path.ofParts (Path.parts p) := by rw [hqp]
    rw [if_pos hqp, hQ]
    dsimp only [put]
    split
    · -- the key is there: the entries under it now hold `n`
      rename_i hany
      obtain ⟨e, he, hek⟩ := List.any_eq_true.1 hany
      rw [List.find?_map, Option.map_map]
      have hfind : (t.nodes.find? ((·.1 == Path.ofParts (Path.parts p)) ∘
          fun e => if e.1 == Path.ofParts (Path.parts p) then (Path.ofParts (Path.parts p), n) else e)).isSome := by
        rw [List.find?_isSome]
        exact ⟨e, he, by simp_all⟩
      obtain ⟨e', he'⟩ := Option.isSome_iff_exists.1 hfind
      have hk : e'.1 = Path.ofParts (Path.parts p) := by
        have := List.find?_some he'
        simp only [Function.comp_apply] at this
        split at this <;> simp_all
      rw [he']
      simp [hk]
    · -- the key is new: it goes last
      rename_i hany
      have hnone : t.nodes.find? (·.1 == Path.ofParts (Path.parts p)) = none := by
        rw [List.find?_eq_none]
        intro e he hek
        exact hany (List.any_eq_true.2 ⟨e, he, hek⟩)
      simp [List.find?_append, hnone]
  · have hQ : Path.ofParts (Path.parts q) ≠ Path.ofParts (Path.parts p) := fun h => hqp (key_eq_iff.1 h)
    rw [if_neg hqp]
    dsimp only [put]
    split
    · -- the entries the map rewrites are not found under `q`'s key
      rw [List.find?_map, Option.map_map]
      have hpred : ((·.1 == Path.ofParts (Path.parts q)) ∘
          fun e : String × Node =>
            if e.1 == Path.ofParts (Path.parts p) then (Path.ofParts (Path.parts p), n) else e) =
          (·.1 == Path.ofParts (Path.parts q)) := by
        funext e
        simp only [Function.comp_apply]
        split
        · rename_i h
          simp only [beq_iff_eq] at h ⊢
          simp [h]
        · rfl
      rw [hpred]
      apply Option.map_congr
      intro e he
      have hk : e.1 = Path.ofParts (Path.parts q) := by simpa using List.find?_some he
      simp [hk, hQ]
    · simp [List.find?_append, Ne.symm hQ]

/-! ## Lookups -/

/-- The walk of `lookup` over a list of ancestors: the first that is not a directory fails it. -/
def walk (t : Tree) (op p : String) : List String → Except FsError Unit
  | [] => .ok ()
  | a :: as =>
    match t.node? a with
    | some .dir => t.walk op p as
    | some (.file _) => .error ⟨op, [p], .notDir⟩
    | none => .error ⟨op, [p], .notFound⟩

theorem lookup_eq_walk (t : Tree) (op p : String) :
    t.lookup op p = (t.walk op p (Path.ancestors p) >>= fun _ =>
      match t.node? p with
      | some n => .ok n
      | none => .error ⟨op, [p], .notFound⟩) := by
  unfold lookup
  congr 1
  induction Path.ancestors p with
  | nil => rfl
  | cons a as ih =>
    simp only [List.forIn_cons, walk]
    split <;> simp_all [bind, Except.bind] <;> rfl

/-- Is there a directory at a path? (Its node alone.) -/
def hasDir (t : Tree) (p : String) : Bool :=
  match t.node? p with
  | some .dir => true
  | _ => false

theorem hasDir_iff {t : Tree} {p : String} : t.hasDir p = true ↔ t.node? p = some .dir := by
  unfold hasDir
  split <;> simp_all

/-- In a well-formed tree, along a chain of ancestors, the walk fails at a file if there is one
above, and for a missing directory otherwise: a file has only directories above it. -/
theorem walk_of_wf {t : Tree} (hw : t.WF) (op p : String) :
    ∀ {l : List String}, l.Pairwise (fun a b => a ∈ Path.ancestors b) →
      t.walk op p l = if l.all t.hasDir then .ok ()
        else .error ⟨op, [p], if l.any t.hasFile then .notDir else .notFound⟩
  | [], _ => rfl
  | a :: as, hl => by
    have ih := walk_of_wf hw op p (List.pairwise_cons.1 hl).2
    unfold walk
    split
    · rename_i hd
      simp [ih, hasDir, hasFile, hd]
    · rename_i d hd
      simp [hasDir, hasFile, hd]
    · rename_i hd
      -- nothing stands at `a`, so nothing stands below it either
      have hnf : as.any t.hasFile = false := by
        rw [List.any_eq_false]
        intro b hb hf
        unfold hasFile at hf
        split at hf
        · rename_i d hbd
          have := hw b _ hbd a ((List.pairwise_cons.1 hl).1 b hb)
          rw [hd] at this
          cases this
        · cases hf
      simp [hasDir, hasFile, hd, hnf]

/-- In a well-formed tree a lookup finds the node at the path, or fails for a file above it or
else for a missing node. -/
theorem lookup_of_wf {t : Tree} (hw : t.WF) (op p : String) :
    t.lookup op p = match t.node? p with
      | some n => .ok n
      | none => .error ⟨op, [p], if (Path.ancestors p).any t.hasFile then .notDir else .notFound⟩ := by
  rw [lookup_eq_walk, walk_of_wf hw op p (Path.ancestors_pairwise p)]
  cases hp : t.node? p with
  | some n =>
    have hall : (Path.ancestors p).all t.hasDir = true :=
      List.all_eq_true.2 fun a ha => hasDir_iff.2 (hw p n hp a ha)
    simp [hall, bind, Except.bind]
  | none =>
    by_cases hall : (Path.ancestors p).all t.hasDir = true
    · have hnf : (Path.ancestors p).any t.hasFile = false := by
        rw [List.any_eq_false]
        intro a ha hf
        have := hasDir_iff.1 (List.all_eq_true.1 hall a ha)
        simp [hasFile, this] at hf
      simp [hall, hnf, bind, Except.bind]
    · simp [hall, bind, Except.bind]

theorem lookup_ok_iff {t : Tree} (hw : t.WF) {op p : String} {n : Node} :
    t.lookup op p = .ok n ↔ t.node? p = some n := by
  rw [lookup_of_wf hw]
  split <;> simp_all

/-- Two well-formed trees answer a lookup alike when they have the same node at the path and the
same files above it. -/
theorem lookup_congr {t t' : Tree} (hw : t.WF) (hw' : t'.WF) {p : String}
    (hp : t'.node? p = t.node? p) (ha : ∀ a ∈ Path.ancestors p, t'.hasFile a = t.hasFile a)
    (op : String) : t'.lookup op p = t.lookup op p := by
  have hf : (Path.ancestors p).any t'.hasFile = (Path.ancestors p).any t.hasFile := by
    rw [Bool.eq_iff_iff, List.any_eq_true, List.any_eq_true]
    constructor
    · rintro ⟨a, ha', h⟩
      exact ⟨a, ha', by rw [← ha a ha']; exact h⟩
    · rintro ⟨a, ha', h⟩
      exact ⟨a, ha', by rw [ha a ha']; exact h⟩
  rw [lookup_of_wf hw, lookup_of_wf hw', hp, hf]

/-- A directory above a path makes all of the path's ancestors directories. -/
theorem ancestors_dir_of_parent {t : Tree} (hw : t.WF) {p : String}
    (hpar : t.node? (Path.parent p) = some .dir) :
    ∀ a ∈ Path.ancestors p, t.node? a = some .dir := by
  intro a ha
  obtain ⟨i, h0, hi, rfl⟩ := Path.mem_ancestors.1 ha
  have hpp := Path.parts_parent p
  by_cases hlast : i = (Path.parts p).length - 1
  · -- the last ancestor is the parent itself
    rw [node?_congr t (q := Path.parent p) (by rw [Path.parts_ofParts_take, hpp,
      List.dropLast_eq_take, hlast])]
    exact hpar
  · -- the others are ancestors of the parent
    have hne : (Path.parts p).take i ≠ [] := by
      simpa [List.take_eq_nil_iff] using ⟨h0.ne', fun h => by simp [h] at hi⟩
    have : Path.ofParts ((Path.parts p).take i) ∈ Path.ancestors (Path.parent p) := by
      refine Path.ofParts_mem_ancestors ?_ hne ?_ <;> rw [hpp]
      · rw [List.dropLast_eq_take]; exact List.take_prefix_take_left (by omega)
      · simp [List.length_dropLast]; omega
    exact hw _ _ hpar _ this

/-! ## Well-formedness -/

/-- A put keeps the tree well-formed when the directories above it stand, and a file goes only
where no directory does. -/
theorem WF.put {t : Tree} (hw : t.WF) {p : String} {n : Node}
    (ha : ∀ a ∈ Path.ancestors p, t.node? a = some .dir)
    (hn : t.node? p = some .dir → n = .dir) : (t.put p n).WF := by
  intro q m hq a haq
  have hane := Path.parts_ne_nil_of_mem_ancestors haq
  rw [node?_put] at hq ⊢
  by_cases hqp : Path.parts q ≠ [] ∧ Path.parts q = Path.parts p
  · -- the node put: its ancestors are those of `p`
    have hap : ¬ Path.parts a = Path.parts p := by
      intro h
      have := Path.length_lt_of_mem_ancestors haq
      rw [h, hqp.2] at this
      exact lt_irrefl _ this
    rw [if_neg (by simp [hap])]
    exact ha a (Path.ancestors_congr hqp.2 ▸ haq)
  · rw [if_neg hqp] at hq
    have hd := hw q m hq a haq
    split
    · rename_i hap
      rw [hn (by rw [← node?_congr t hap.2]; exact hd)]
    · exact hd

/-- A path that starts with another and a slash has the other's parts first. -/
theorem parts_of_startsWith {s k : String} (h : s.startsWith (k ++ "/") = true) :
    ∃ r, Path.parts s = Path.parts k ++ Path.parts r := by
  obtain ⟨r, hr⟩ := String.startsWith_string_iff.1 h
  refine ⟨String.ofList r, ?_⟩
  have : s = k ++ "/" ++ String.ofList r := by
    rw [← String.toList_inj]
    simp [← hr]
  rw [this, Path.parts_append_slash]

/-- Removing a file clears its node alone: in a well-formed tree nothing lies below a file. -/
theorem node?_remove_of_file {t : Tree} (hw : t.WF) {p : String} {d : ByteArray}
    (hp : t.node? p = some (.file d)) (q : String) :
    (t.remove p).node? q = if Path.parts q = Path.parts p then none else t.node? q := by
  have hp0 := parts_ne_nil_of_node? hp
  by_cases h0 : Path.parts q = []
  · have : Path.parts q ≠ Path.parts p := by rw [h0]; exact Ne.symm hp0
    rw [node?_root _ h0, if_neg this, node?_root _ h0]
  rw [node?_of_ne_nil _ h0, node?_of_ne_nil _ h0]
  simp only [remove, List.find?_filter]
  split
  · -- every entry under the key is filtered out
    rename_i hqp
    rw [Option.map_eq_none_iff, List.find?_eq_none]
    intro e _ he
    simp only [hqp, bne_iff_ne, ne_eq, Bool.and_eq_true, Bool.not_eq_eq_eq_not, Bool.not_true,
      beq_iff_eq, decide_eq_true_eq] at he
    exact he.1.1 he.2
  · -- the entries under `q`'s key survive: it is not below `p`, which holds a file
    rename_i hqp
    congr 1
    apply List.find?_congr
    intro e he
    by_cases heq : e.1 = Path.ofParts (Path.parts q)
    · have hne : e.1 ≠ Path.ofParts (Path.parts p) := by
        rw [heq]; exact fun h => hqp (key_eq_iff.1 h)
      have hns : e.1.startsWith (Path.ofParts (Path.parts p) ++ "/") = false := by
        rw [Bool.eq_false_iff]
        intro hs
        obtain ⟨r, hr⟩ := parts_of_startsWith hs
        rw [heq, Path.parts_ofParts (fun _ => Path.isPart_of_mem_parts),
          Path.parts_ofParts (fun _ => Path.isPart_of_mem_parts)] at hr
        have hr0 : Path.parts r ≠ [] := fun h => hqp (by simpa [h] using hr)
        have hanc : Path.ofParts (Path.parts p) ∈ Path.ancestors q :=
          Path.ofParts_mem_ancestors (hr ▸ List.prefix_append _ _) (hp0)
            (by rw [hr, List.length_append]; exact Nat.lt_add_of_pos_right (List.length_pos_of_ne_nil hr0))
        have hfound : (t.nodes.find? (·.1 == Path.ofParts (Path.parts q))).isSome := by
          rw [List.find?_isSome]; exact ⟨e, he, by simp [heq]⟩
        obtain ⟨e', he'⟩ := Option.isSome_iff_exists.1 hfound
        have hdir := hw q e'.2 (by simp [node?, h0, he']) _ hanc
        rw [node?_congr t (Path.parts_ofParts (fun _ => Path.isPart_of_mem_parts)), hp] at hdir
        cases hdir
      rw [hns]
      rw [heq] at hne ⊢
      simp [hne]
    · simp [heq]

theorem WF.remove_of_file {t : Tree} (hw : t.WF) {p : String} {d : ByteArray}
    (hp : t.node? p = some (.file d)) : (t.remove p).WF := by
  intro q m hq a ha
  rw [node?_remove_of_file hw hp] at hq ⊢
  split at hq
  · cases hq
  · have hd := hw q m hq a ha
    split
    · rename_i hap
      rw [node?_congr t hap, hp] at hd
      cases hd
    · exact hd

/-! ## Changes -/

/-- `t'` is `t` but at the paths whose parts are in `S`, and for directories added where no node
stood, at leading runs of `ps`. -/
def Changes (t t' : Tree) (S : List (List String)) (ps : List String) : Prop :=
  ∀ q, Path.parts q ∉ S → t'.node? q = t.node? q ∨
    (t.node? q = none ∧ t'.node? q = some .dir ∧ Path.parts q <+: ps)

theorem Changes.refl (t : Tree) (S : List (List String)) (ps : List String) : Changes t t S ps :=
  fun _ _ => Or.inl rfl

theorem Changes.trans {t t₁ t₂ : Tree} {S₁ S₂ : List (List String)} {ps ps₁ ps₂ : List String}
    (h₁ : Changes t t₁ S₁ ps₁) (h₂ : Changes t₁ t₂ S₂ ps₂) (hp₁ : ps₁ <+: ps) (hp₂ : ps₂ <+: ps) :
    Changes t t₂ (S₁ ++ S₂) ps := by
  intro q hq
  rw [List.mem_append, not_or] at hq
  rcases h₁ q hq.1 with e₁ | ⟨n₁, d₁, pr₁⟩ <;> rcases h₂ q hq.2 with e₂ | ⟨n₂, d₂, pr₂⟩
  · exact Or.inl (e₂.trans e₁)
  · exact Or.inr ⟨e₁ ▸ n₂, d₂, pr₂.trans hp₂⟩
  · exact Or.inr ⟨n₁, e₂ ▸ d₁, pr₁.trans hp₁⟩
  · rw [d₁] at n₂; cases n₂

/-- Outside the changed paths the files stay where they were: only directories are added. -/
theorem Changes.hasFile_eq {t t' : Tree} {S : List (List String)} {ps : List String}
    (h : Changes t t' S ps) {q : String} (hq : Path.parts q ∉ S) : t'.hasFile q = t.hasFile q := by
  unfold Tree.hasFile
  rcases h q hq with e | ⟨n, d, -⟩
  · rw [e]
  · rw [n, d]

theorem Changes.node?_eq {t t' : Tree} {S : List (List String)} {ps : List String}
    (h : Changes t t' S ps) {q : String} (hq : Path.parts q ∉ S) (hp : ¬ Path.parts q <+: ps) :
    t'.node? q = t.node? q :=
  (h q hq).resolve_right fun ⟨_, _, pr⟩ => hp pr

/-- Two well-formed trees that differ only elsewhere answer a lookup alike. -/
theorem Changes.lookup_eq {t t' : Tree} (hw : t.WF) (hw' : t'.WF) {S : List (List String)}
    {ps : List String} (h : Changes t t' S ps) {q : String} (hq : Path.parts q ∉ S)
    (hp : ¬ Path.parts q <+: ps) (ha : ∀ a ∈ Path.ancestors q, Path.parts a ∉ S) (op : String) :
    t'.lookup op q = t.lookup op q :=
  lookup_congr hw hw' (h.node?_eq hq hp) (fun a haq => h.hasFile_eq (ha a haq)) op

/-! ## Making directories -/

theorem node?_eq_none_of_lookup_error {t : Tree} (hw : t.WF) {op p : String} {e : FsError}
    (h : t.lookup op p = .error e) : t.node? p = none := by
  rw [lookup_of_wf hw] at h
  split at h
  · cases h
  · assumption

/-- Making directories keeps the tree well-formed and only adds directories, along the path. -/
theorem mkdirAll_go_spec : ∀ (fuel : Nat) {t t' : Tree} {p : String}, t.WF →
    mkdirAll.go fuel t p = .ok t' → t'.WF ∧ Changes t t' [] (Path.parts p)
  | 0, t, t', p, hw, h => by
    cases h
    exact ⟨hw, .refl _ _ _⟩
  | fuel + 1, t, t', p, hw, h => by
    unfold mkdirAll.go at h
    split at h
    · cases h
      exact ⟨hw, .refl _ _ _⟩
    · cases h
    · rename_i e hstat
      have hnone : t.node? p = none := node?_eq_none_of_lookup_error hw hstat
      have hp0 : Path.parts p ≠ [] := fun h0 => by rw [node?_root t h0] at hnone; cases hnone
      have hpar : Path.parts (Path.parent p) <+: Path.parts p := by
        rw [Path.parts_parent]; exact List.dropLast_prefix _
      -- the last step: the directory itself, once those above it stand
      have finish : ∀ t₁ : Tree, t₁.WF → Changes t t₁ [] (Path.parts (Path.parent p)) →
          t₁.lookup "mkdir" (Path.parent p) = .ok .dir → t' = t₁.put p .dir →
          t'.WF ∧ Changes t t' [] (Path.parts p) := by
        intro t₁ hw₁ hadd₁ hlk ht'
        subst ht'
        have hdir := (lookup_ok_iff hw₁).1 hlk
        refine ⟨WF.put hw₁ (ancestors_dir_of_parent hw₁ hdir) fun _ => rfl, ?_⟩
        refine hadd₁.trans (fun q _ => ?_) hpar (List.prefix_refl _)
        rw [node?_put]
        split
        · rename_i hq
          have hnp : ¬ Path.parts p <+: Path.parts (Path.parent p) := by
            rw [Path.parts_parent]
            intro hpre
            have := hpre.length_le
            rw [List.length_dropLast] at this
            have := List.length_pos_of_ne_nil hp0
            omega
          refine Or.inr ⟨?_, rfl, hq.2 ▸ List.prefix_refl _⟩
          rw [node?_congr t₁ hq.2, hadd₁.node?_eq List.not_mem_nil hnp, hnone]
        · exact Or.inl rfl
      -- the directories above are made first, when there are any
      dsimp only at h
      split at h
      · cases h₁ : mkdirAll.go fuel t (Path.parent p) with
        | error e' => rw [h₁] at h; cases h
        | ok t₁ =>
          rw [h₁] at h
          simp only [bind, Except.bind] at h
          have ih := mkdirAll_go_spec fuel hw h₁
          split at h
          · cases h
            exact finish t₁ ih.1 ih.2 (by assumption) rfl
          · cases h
          · cases h
      · simp only [bind, Except.bind, pure, Except.pure] at h
        split at h
        · cases h
          exact finish t hw (.refl _ _ _) (by assumption) rfl
        · cases h
        · cases h

/-- Where the directory stands, making it changes nothing. -/
theorem mkdirAll_of_dir {t : Tree} (hw : t.WF) {p : String} (h : t.node? p = some .dir) :
    t.mkdirAll p = .ok t := by
  unfold mkdirAll
  cases hn : (Path.parts p).length with
  | zero => rfl
  | succ n =>
    unfold mkdirAll.go
    rw [stat, (lookup_ok_iff hw).2 h]

theorem mkdirAll_spec {t t' : Tree} (hw : t.WF) {p : String} (h : t.mkdirAll p = .ok t') :
    t'.WF ∧ Changes t t' [] (Path.parts p) :=
  mkdirAll_go_spec _ hw h

/-! ## Writing files -/

/-- A write puts the file, under a directory, where no directory stands. -/
theorem writeFile_spec {t t' : Tree} (hw : t.WF) {p : String} {d : ByteArray}
    (h : t.writeFile p d = .ok t') :
    t' = t.put p (.file d) ∧ t.node? p ≠ some .dir ∧
      ∀ a ∈ Path.ancestors p, t.node? a = some .dir := by
  unfold writeFile at h
  simp only [bind, Except.bind] at h
  split at h
  · rename_i hlk
    have hdir := (lookup_ok_iff hw).1 hlk
    split at h
    · cases h
    · rename_i hnd
      cases h
      exact ⟨rfl, hnd, ancestors_dir_of_parent hw hdir⟩
  · cases h
  · cases h

theorem WF.writeFile {t t' : Tree} (hw : t.WF) {p : String} {d : ByteArray}
    (h : t.writeFile p d = .ok t') : t'.WF := by
  obtain ⟨rfl, hnd, ha⟩ := writeFile_spec hw h
  exact WF.put hw ha fun h' => absurd h' hnd

/-- A rename moves a file over a path that is not a directory, under a directory. -/
theorem rename_spec {t t' : Tree} (hw : t.WF) {src dst : String} (h : t.rename src dst = .ok t') :
    ∃ d, t.node? src = some (.file d) ∧ t.node? dst ≠ some .dir ∧
      (∀ a ∈ Path.ancestors dst, t.node? a = some .dir) ∧ t' = (t.remove src).put dst (.file d) := by
  unfold rename at h
  dsimp only at h
  split at h
  · cases h
  rename_i hnd
  split at h
  · rename_i d hsrc
    simp only [bind, Except.bind, pure, Except.pure] at h
    split at h
    · rename_i hlk
      cases h
      exact ⟨d, (lookup_ok_iff hw).1 hsrc, fun h' => hnd h',
        ancestors_dir_of_parent hw ((lookup_ok_iff hw).1 hlk), rfl⟩
    · cases h
    · cases h
  · cases h
  · cases h

/-! ## Temporary files -/

/-- A candidate temporary file sits beside the file, under the file's name with a dot before it
and the candidate's number after it. -/
theorem parts_tempName {q : String} {ps : List String} {x : String}
    (h : Path.parts q = ps ++ [x]) (n : Nat) :
    Path.parts (tempName q n) = ps ++ ["." ++ x ++ ".tmp-" ++ Nat.repr n] := by
  have hx : Path.IsPart x := Path.isPart_of_mem_parts (by rw [h]; simp)
  have hbase : Path.base q = x := by simp [Path.base, h]
  -- the digits of the number hold no slash
  have hdigits : '/' ∉ (Nat.repr n).toList := fun hm => by
    have := Nat.isDigit_of_mem_toDigits (b := 10) (by decide) (by decide) (by simpa [Nat.repr] using hm)
    simp at this
  have hname : Path.IsPart ("." ++ x ++ ".tmp-" ++ Nat.repr n) := by
    refine ⟨by simp, ?_⟩
    simp only [String.toList_append, List.mem_append, not_or]
    exact ⟨⟨⟨by decide, hx.2⟩, by decide⟩, hdigits⟩
  rw [tempName, Path.parts_join, Path.parts_parent, h, hbase, Path.parts_of_isPart hname]
  simp

/-- Distinct candidates are distinct files. -/
theorem tempName_inj {p : String} (hp : Path.parts p ≠ []) {m n : Nat}
    (h : Path.parts (tempName p m) = Path.parts (tempName p n)) : m = n := by
  obtain ⟨ps, x, hx⟩ : ∃ ps x, Path.parts p = ps ++ [x] :=
    ⟨_, _, (List.dropLast_append_getLast hp).symm⟩
  rw [parts_tempName hx, parts_tempName hx] at h
  have hname := List.singleton_inj.1 (List.append_cancel_left h)
  exact Nat.repr_inj.1 (String.append_right_inj _ |>.1 hname)

/-- The temporary file of a write is free: there are more candidates than nodes, and the keys
of distinct candidates are distinct, so one of them is no node's. -/
theorem node?_tempFor (t : Tree) {p : String} (hp : Path.parts p ≠ []) :
    t.node? (t.tempFor p) = none := by
  have hne : ∀ n, Path.parts (tempName p n) ≠ [] := fun n => by
    obtain ⟨ps, x, hx⟩ : ∃ ps x, Path.parts p = ps ++ [x] :=
      ⟨_, _, (List.dropLast_append_getLast hp).symm⟩
    simp [parts_tempName hx]
  have hfree : ∃ n ∈ List.range (t.nodes.length + 1), (t.node? (tempName p n)).isNone = true := by
    by_contra hall
    simp only [not_exists, not_and] at hall
    let keys :=
      (List.range (t.nodes.length + 1)).map fun n => Path.ofParts (Path.parts (tempName p n))
    have hnodup : keys.Nodup :=
      List.nodup_range.map fun m n h => tempName_inj hp (key_eq_iff.1 h)
    -- every candidate's key is a node's
    have hsub : keys ⊆ t.nodes.map (·.1) := by
      intro key hkey
      obtain ⟨n, hn, rfl⟩ := List.mem_map.1 hkey
      have hsome := hall n hn
      simp only [node?_of_ne_nil _ (hne n), Option.isNone_map] at hsome
      simpa using hsome
    have := hnodup.length_le_of_subset hsub
    simp [keys] at this
  obtain ⟨n, hn, hnone⟩ := hfree
  unfold tempFor
  cases hf : (List.range (t.nodes.length + 1)).find? fun n => (t.node? (tempName p n)).isNone with
  | none => exact absurd hnone (List.find?_eq_none.1 hf n hn)
  | some m => simpa using List.find?_some hf

/-! ## Atomic writes -/

/-- An atomic write that succeeded found the device working and no directory at the file. It
leaves the file written, the tree well-formed, and every other node as it was: its temporary
file was free, and is gone again. -/
theorem writeAtomic_spec {t t' : Tree} (hw : t.WF) {p : String} {d : ByteArray} {b : Bool}
    (h : t.writeAtomic p d b = .ok t') :
    b = false ∧ t.node? p ≠ some .dir ∧ t'.WF ∧ t'.node? p = some (.file d) ∧
      Changes t t' [Path.parts p] [] := by
  unfold writeAtomic at h
  simp only [bind, Except.bind] at h
  split at h
  · cases h
  rename_i t₁ ht₁
  split at h
  · cases h
  rename_i hb
  split at h
  · rename_i t₂ ht₂
    cases h
    obtain ⟨rfl, hnd, ha⟩ := writeFile_spec hw ht₁
    have hw₁ : (t.put (t.tempFor p) (.file d)).WF := WF.put hw ha fun h' => absurd h' hnd
    have htmp0 : Path.parts (t.tempFor p) ≠ [] := parts_ne_nil_of_ne_dir hnd
    have htmp : (t.put (t.tempFor p) (.file d)).node? (t.tempFor p) = some (.file d) := by
      rw [node?_put, if_pos ⟨htmp0, rfl⟩]
    obtain ⟨d', hsrc, hnd', ha', rfl⟩ := rename_spec hw₁ ht₂
    rw [htmp] at hsrc
    cases hsrc
    have hp0 : Path.parts p ≠ [] := parts_ne_nil_of_ne_dir hnd'
    have hfresh := node?_tempFor t hp0
    have hwr := WF.remove_of_file hw₁ htmp
    -- after the rename, the tree is the old one but at the file
    have hnode : ∀ q, Path.parts q ≠ Path.parts p →
        (((t.put (t.tempFor p) (.file d)).remove (t.tempFor p)).put p (.file d)).node? q =
          t.node? q := by
      intro q hqp
      rw [node?_put, if_neg (fun h' => hqp h'.2), node?_remove_of_file hw₁ htmp]
      split
      · rename_i hqt
        rw [node?_congr t hqt, hfresh]
      · rename_i hqt
        rw [node?_put, if_neg (fun h' => hqt h'.2)]
    refine ⟨by simpa using hb, ?_, WF.put hwr ?_ ?_, ?_, fun q hq => .inl (hnode q (by simpa using hq))⟩
    · intro hdir
      rw [node?_put, if_neg, hdir] at hnd'
      · exact hnd' rfl
      · rintro ⟨-, hpt⟩
        rw [node?_congr t hpt, hfresh] at hdir
        cases hdir
    · intro a ha
      rw [node?_remove_of_file hw₁ htmp, if_neg]
      · exact ha' a ha
      · intro hat
        have := ha' a ha
        rw [node?_congr _ hat, htmp] at this
        cases this
    · intro hdir
      rw [node?_remove_of_file hw₁ htmp] at hdir
      split at hdir
      · cases hdir
      · exact absurd hdir hnd'
    · rw [node?_put, if_pos ⟨hp0, rfl⟩]
  · cases h

/-! ## Writes that succeed -/

/-- In a well-formed tree a node's directory stands. -/
theorem parent_dir_of_node {t : Tree} (hw : t.WF) {p : String} {n : Node}
    (h : t.node? p = some n) (hp : Path.parts p ≠ []) : t.node? (Path.parent p) = some .dir := by
  by_cases h0 : Path.parts (Path.parent p) = []
  · exact node?_root t h0
  · have hpp := Path.parts_parent p
    rw [node?_congr t (q := Path.ofParts (Path.parts (Path.parent p)))
      (Path.parts_ofParts fun _ => Path.isPart_of_mem_parts).symm]
    refine hw p n h _ (Path.ofParts_mem_ancestors ?_ h0 ?_) <;> rw [hpp]
    · exact List.dropLast_prefix _
    · simp [List.length_dropLast]; exact List.length_pos_of_ne_nil hp

theorem readFile_of_node {t : Tree} (hw : t.WF) {p : String} {d : ByteArray}
    (h : t.node? p = some (.file d)) : t.readFile p = .ok d := by
  simp [readFile, (lookup_ok_iff hw).2 h, bind, Except.bind, pure, Except.pure]

/-- A write succeeds under a directory where no directory stands. -/
theorem writeFile_ok {t : Tree} (hw : t.WF) {p : String} (d : ByteArray)
    (hpar : t.node? (Path.parent p) = some .dir) (hp : t.node? p ≠ some .dir) :
    t.writeFile p d = .ok (t.put p (.file d)) := by
  unfold writeFile
  rw [(lookup_ok_iff hw).2 hpar]
  cases h : t.node? p with
  | none => rfl
  | some n =>
    cases n with
    | dir => exact absurd h hp
    | file _ => rfl

/-- A rename of a file succeeds over a path that is not a directory, under a directory. -/
theorem rename_ok {t : Tree} (hw : t.WF) {src dst : String} {d : ByteArray}
    (hsrc : t.node? src = some (.file d)) (hdst : t.node? dst ≠ some .dir)
    (hpar : t.node? (Path.parent dst) = some .dir) :
    t.rename src dst = .ok ((t.remove src).put dst (.file d)) := by
  unfold rename
  rw [(lookup_ok_iff hw).2 hsrc, (lookup_ok_iff hw).2 hpar]
  cases h : t.node? dst with
  | none => rfl
  | some n =>
    cases n with
    | dir => exact absurd h hdst
    | file _ => rfl

/-- An atomic write on a working device succeeds under a directory where no directory stands at
the file. -/
theorem writeAtomic_ok {t : Tree} (hw : t.WF) {p : String} (d : ByteArray)
    (hpar : t.node? (Path.parent p) = some .dir) (hp : t.node? p ≠ some .dir) :
    ∃ t', t.writeAtomic p d false = .ok t' := by
  have hp0 : Path.parts p ≠ [] := parts_ne_nil_of_ne_dir hp
  have hfresh := node?_tempFor t hp0
  obtain ⟨ps, x, hsplit⟩ : ∃ ps x, Path.parts p = ps ++ [x] :=
    ⟨_, _, (List.dropLast_append_getLast hp0).symm⟩
  obtain ⟨n, hn⟩ : ∃ n, t.tempFor p = tempName p n := ⟨_, rfl⟩
  have htmp0 : Path.parts (t.tempFor p) ≠ [] := by simp [hn, parts_tempName hsplit]
  -- the temporary file lies in the same directory, one level below it, and is not the file
  have hparent : Path.parts (Path.parent (t.tempFor p)) = Path.parts (Path.parent p) := by
    rw [Path.parts_parent, Path.parts_parent, hn, parts_tempName hsplit, List.dropLast_concat,
      hsplit, List.dropLast_concat]
  have hparlen : Path.parts (Path.parent p) ≠ Path.parts (t.tempFor p) := by
    intro h
    have := congrArg List.length h
    rw [Path.parts_parent, hn, parts_tempName hsplit, hsplit] at this
    simp at this
  have hne : Path.parts p ≠ Path.parts (t.tempFor p) := by
    rw [hn, parts_tempName hsplit, hsplit]
    intro h
    have hl := congrArg (fun s => s.toList.length) (List.singleton_inj.1 (List.append_cancel_left h))
    simp at hl
    omega
  have hw₁ : (t.put (t.tempFor p) (.file d)).WF :=
    WF.put hw (ancestors_dir_of_parent hw (by rw [node?_congr t hparent]; exact hpar))
      fun h' => by rw [hfresh] at h'; cases h'
  unfold writeAtomic
  dsimp only
  rw [writeFile_ok hw d (by rw [node?_congr t hparent]; exact hpar) (by rw [hfresh]; simp)]
  simp only [bind, Except.bind, Bool.false_eq_true, if_false]
  rw [rename_ok hw₁ (by rw [node?_put, if_pos ⟨htmp0, rfl⟩])
    (by rw [node?_put, if_neg (fun h' => hne h'.2)]; exact hp)
    (by rw [node?_put, if_neg (fun h' => hparlen h'.2)]; exact hpar)]
  exact ⟨_, rfl⟩

end Tree

end CreditExtraction.Files
