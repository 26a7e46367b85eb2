import Mathlib
import CreditExtraction.Proofs.Files.Frames
import CreditExtraction.Proofs.Text.UuidText
import CreditExtraction.Artifact.Store

/-! # The files of an artifact key

The file store keeps a key's content in `<root>/<stage dir>/<document>.<kind>` and its digest
beside it, in the same name with `.sha256` after it; each is written through a temporary file
whose name starts with a dot. This module works out which paths those are, and so which keys
a put can disturb.

* `Key.fileName_append_eq_iff`: the file name of a key, with `.sha256` after it or not, is the
  name of another key only for the same document.
* `FileStore.parts_path`, `FileStore.parts_digestPath`: the parts of a key's two files.
* `FileStore.put_keeps_other_keys`: a put leaves every other key's content and digest as they
  were, unless one key's file is the other's digest file (`Key.IsDigestOf`).
* `FileStore.put_overwrites_digest_key`: and when it is, the put writes the digest over that
  key's content.
-/

namespace CreditExtraction

namespace Uuid

theorem hexDigit_ne : ∀ d < 16, Text.Quoted.hexDigit d ≠ '/' ∧ Text.Quoted.hexDigit d ≠ '.' := by
  decide

/-- The text of an identifier holds hexadecimal digits and dashes only. -/
theorem toText_char {u : Uuid} {c : Char} (h : c ∈ u.toText.toList) : c ≠ '/' ∧ c ≠ '.' := by
  rw [toText_eq, String.toList_ofList] at h
  rcases mem_grouped h with h | rfl
  · simp only [Text.Quoted.hexFixed, List.mem_map] at h
    obtain ⟨i, -, rfl⟩ := h
    exact hexDigit_ne _ (Nat.mod_lt _ (by omega))
  · decide

theorem toText_length (u : Uuid) : u.toText.toList.length = 36 := by
  rw [toText_eq, String.toList_ofList]
  simp [grouped, Text.Quoted.hexFixed]

/-- Identifiers of 128 bits have distinct texts. -/
theorem toText_inj {u v : Uuid} (hu : u.val < 2 ^ 128) (hv : v.val < 2 ^ 128)
    (h : u.toText = v.toText) : u = v := by
  have hp := parse_toText u
  rw [h, parse_toText] at hp
  have hval : v.val % Nat.pow 2 128 = u.val % Nat.pow 2 128 := by
    simpa using hp
  have h128 : Nat.pow 2 128 = 2 ^ 128 := rfl
  rw [h128, Nat.mod_eq_of_lt hu, Nat.mod_eq_of_lt hv] at hval
  cases u; cases v
  simp_all

end Uuid

namespace Artifact

open Files

/-! ## Stage directories -/

namespace Stage

theorem mem_order_of_valid {s : Stage} (h : s.valid = true) : s.name ∈ order := by
  unfold valid index at h
  cases hi : order.idxOf? s.name with
  | none => simp [hi] at h
  | some i => exact List.isSome_idxOf?.1 (by simp [hi])

/-- A known stage's directory is one part of a path. -/
theorem dir_isPart {s : Stage} (h : s.valid = true) : Path.IsPart s.dir := by
  have hm := mem_order_of_valid h
  simp only [order, List.mem_cons, List.not_mem_nil, or_false] at hm
  rcases hm with hm | hm | hm | hm | hm <;> simp [dir, hm, Path.IsPart]

/-- Known stages have distinct directories. -/
theorem dir_inj {s s' : Stage} (h : s.valid = true) (h' : s'.valid = true) (hd : s.dir = s'.dir) :
    s = s' := by
  have hm := mem_order_of_valid h
  have hm' := mem_order_of_valid h'
  simp only [order, List.mem_cons, List.not_mem_nil, or_false] at hm hm'
  cases s; cases s'
  simp only at hm hm'
  rcases hm with rfl | rfl | rfl | rfl | rfl <;> rcases hm' with rfl | rfl | rfl | rfl | rfl <;>
    simp_all [dir]

end Stage

/-! ## File names -/

namespace Key

/-- The name of a key's file within its stage's directory: `<document>.<kind>`. -/
def fileName (k : Key) : String := k.document.toText ++ "." ++ k.kind

theorem objectName_eq (k : Key) : k.objectName = k.stage.dir ++ "/" ++ k.fileName := by
  simp [objectName, fileName, String.append_assoc]

theorem validate_ok_iff {k : Key} :
    k.validate = .ok () ↔ k.document ≠ Uuid.nil ∧ k.stage.valid = true ∧ kindOk k.kind = true := by
  unfold validate
  by_cases h1 : k.document = Uuid.nil <;> by_cases h2 : k.stage.valid = true <;>
    by_cases h3 : kindOk k.kind = true <;> simp_all [bind, Except.bind, pure, Except.pure, throw,
      throwThe, MonadExceptOf.throw]

theorem kind_char {kind : String} (h : kindOk kind = true) {c : Char} (hc : c ∈ kind.toList) :
    c ≠ '/' := by
  unfold kindOk at h
  split at h
  · rename_i d rest hkind
    rw [hkind] at hc
    simp only [Bool.and_eq_true, List.all_eq_true] at h
    rcases List.mem_cons.1 hc with rfl | hc
    · intro hd; subst hd; simp at h
    · have := h.2 c hc
      intro hd; subst hd; simp at this
  · cases h

/-- A valid key's file name is one part of a path. -/
theorem fileName_isPart {k : Key} (hk : kindOk k.kind = true) : Path.IsPart k.fileName := by
  refine ⟨fun h => ?_, fun h => ?_⟩
  · have := congrArg (fun s => s.toList.length) h
    simp [fileName, String.toList_append, Uuid.toText_length] at this
  · simp only [fileName, String.toList_append, List.mem_append] at h
    rcases h with (h | h) | h
    · exact (Uuid.toText_char h).1 rfl
    · simp at h
    · exact kind_char hk h rfl

theorem fileName_toList (k : Key) :
    k.fileName.toList = k.document.toText.toList ++ '.' :: k.kind.toList := by
  simp [fileName, String.toList_append]

/-- A key's file name is the name of another key with `x` after it only for the same
document, and the kinds differing by `x`. -/
theorem fileName_append_eq_iff {k k' : Key} (hk : k.document.val < 2 ^ 128)
    (hk' : k'.document.val < 2 ^ 128) (x : String) :
    k.fileName = k'.fileName ++ x ↔ k.document = k'.document ∧ k.kind = k'.kind ++ x := by
  constructor
  · intro h
    have h' := congrArg String.toList h
    rw [String.toList_append, fileName_toList, fileName_toList, List.append_assoc] at h'
    obtain ⟨htext, hrest⟩ := List.append_inj h' (by rw [Uuid.toText_length, Uuid.toText_length])
    refine ⟨Uuid.toText_inj hk hk' (String.toList_inj.1 htext), ?_⟩
    rw [← String.toList_inj, String.toList_append]
    simpa using hrest
  · rintro ⟨hd, hkind⟩
    simp [fileName, hd, hkind, String.append_assoc]

theorem ext {k k' : Key} (hd : k.document = k'.document) (hs : k.stage = k'.stage)
    (hk : k.kind = k'.kind) : k = k' := by
  cases k; cases k'
  simp_all

/-- Valid keys of 128-bit documents in the same directory under the same file name are the
same key. -/
theorem eq_of_dir_fileName {k k' : Key} (hs : k.stage.valid = true) (hs' : k'.stage.valid = true)
    (hk : k.document.val < 2 ^ 128) (hk' : k'.document.val < 2 ^ 128)
    (hd : k.stage.dir = k'.stage.dir) (hf : k.fileName = k'.fileName) : k = k' := by
  obtain ⟨hdoc, hkind⟩ := (fileName_append_eq_iff hk hk' "").1 (by simpa using hf)
  exact ext hdoc (Stage.dir_inj hs hs' hd) (by simpa using hkind)

/-- One key's file is the other's digest file: the same document and stage, and the kind of the
other with `.sha256` after it. -/
def IsDigestOf (k' k : Key) : Prop :=
  k'.document = k.document ∧ k'.stage = k.stage ∧ k'.kind = k.kind ++ ".sha256"

end Key

/-! ## The paths of a key -/

namespace FileStore

/-- The path of a key's digest file. -/
def digestPath (s : FileStore) (k : Key) : String := s.path k ++ ".sha256"

variable {s : FileStore} {k : Key}

theorem parts_objectName (hv : k.validate = .ok ()) :
    Path.parts k.objectName = [k.stage.dir, k.fileName] := by
  obtain ⟨-, hs, hkind⟩ := Key.validate_ok_iff.1 hv
  rw [Key.objectName_eq, Path.parts_append_slash, Path.parts_of_isPart (Stage.dir_isPart hs),
    Path.parts_of_isPart (Key.fileName_isPart hkind)]
  rfl

theorem path_eq (hv : k.validate = .ok ()) :
    s.path k = Path.ofParts ((Path.parts s.root ++ [k.stage.dir]) ++ [k.fileName]) := by
  simp [path, Path.join, parts_objectName hv]

/-- A key's file lies in its stage's directory below the root. -/
theorem parts_path (hv : k.validate = .ok ()) :
    Path.parts (s.path k) = Path.parts s.root ++ [k.stage.dir, k.fileName] := by
  rw [path, Path.parts_join, parts_objectName hv]

/-- A key's digest file lies beside its file. -/
theorem parts_digestPath (hv : k.validate = .ok ()) :
    Path.parts (s.digestPath k) = Path.parts s.root ++ [k.stage.dir, k.fileName ++ ".sha256"] := by
  obtain ⟨-, hs, hkind⟩ := Key.validate_ok_iff.1 hv
  rw [digestPath, path_eq hv, Path.parts_ofParts_append _ (by simp) (Key.fileName_isPart hkind)
    (by decide)]
  · simp
  · intro a ha
    simp only [List.mem_append, List.mem_singleton] at ha
    rcases ha with ha | rfl
    · exact Path.isPart_of_mem_parts ha
    · exact Stage.dir_isPart hs

/-! ## A put in two steps -/

/-- The first step of a put: the key checked, the directories made, the content written. -/
def writeData (s : FileStore) (k : Key) (data : ByteArray) : Except Failure FileStore := do
  k.validate
  let tree ← match s.tree.mkdirAll (Path.parent (s.path k)) with
    | .ok t => pure t
    | .error e => throw (unavailable e.message)
  let tree ← match tree.writeAtomic (s.path k) data (s.failing.contains (s.path k)) with
    | .ok t => pure t
    | .error e => throw (unavailable ("write " ++ k.text ++ ": " ++ e.message))
  pure { s with tree }

/-- The second step of a put: the digest written beside the content; its failure goes
unreported. -/
def writeDigest (s : FileStore) (k : Key) (data : ByteArray) : FileStore :=
  match s.tree.writeAtomic (s.digestPath k) (hash data).toUTF8 (s.failing.contains (s.digestPath k)) with
  | .ok t => { s with tree := t }
  | .error _ => s

/-- A put is its two steps, one after the other. -/
theorem put_eq (s : FileStore) (k : Key) (data : ByteArray) :
    s.put k data = (s.writeData k data).map fun s₁ =>
      (s₁.writeDigest k data, ⟨k, locator (s.path k), hash data, data.size⟩) := by
  unfold put writeData writeDigest digestPath
  cases hv : k.validate with
  | error e => simp [bind, Except.bind, Except.map]
  | ok u =>
    cases hm : s.tree.mkdirAll (Path.parent (s.path k)) with
    | error e => simp [hm, bind, Except.bind, Except.map, throw, throwThe, MonadExceptOf.throw]
    | ok t₁ =>
      cases ha : t₁.writeAtomic (s.path k) data (s.failing.contains (s.path k)) with
      | error e => simp only [hm, ha, bind, Except.bind, Except.map, pure, Except.pure, throw,
          throwThe, MonadExceptOf.throw]
      | ok t₂ =>
        have hpath : ({ s with tree := t₂ } : FileStore).path k = s.path k := rfl
        simp only [hm, ha, hpath, bind, Except.bind, Except.map, pure, Except.pure]
        cases t₂.writeAtomic (s.path k ++ ".sha256") (hash data).toUTF8
          (s.failing.contains (s.path k ++ ".sha256")) <;> rfl

/-- A put that succeeded made its content write, then its digest write. -/
theorem put_ok {s s' : FileStore} {k : Key} {data : ByteArray} {a : Stored}
    (h : s.put k data = .ok (s', a)) :
    ∃ s₁, s.writeData k data = .ok s₁ ∧ s' = s₁.writeDigest k data ∧
      a = ⟨k, locator (s.path k), hash data, data.size⟩ := by
  rw [put_eq] at h
  cases h₁ : s.writeData k data with
  | error e => rw [h₁] at h; cases h
  | ok s₁ =>
    rw [h₁] at h
    simp only [Except.map, Except.ok.injEq, Prod.mk.injEq] at h
    exact ⟨s₁, rfl, h.1.symm, h.2.symm⟩

theorem writeData_spec {s s₁ : FileStore} {k : Key} {data : ByteArray} (hw : s.tree.WF)
    (h : s.writeData k data = .ok s₁) :
    k.validate = .ok () ∧ s₁.root = s.root ∧ s₁.failing = s.failing ∧ s₁.tree.WF ∧
      s₁.tree.node? (s.path k) = some (.file data) ∧
      Tree.Changes s.tree s₁.tree [Path.parts (s.path k)] (Path.parts (Path.parent (s.path k))) := by
  unfold writeData at h
  cases hv : k.validate with
  | error e => rw [hv] at h; cases h
  | ok u =>
    rw [hv] at h
    simp only [bind, Except.bind] at h
    cases hm : s.tree.mkdirAll (Path.parent (s.path k)) with
    | error e => rw [hm] at h; cases h
    | ok t₁ =>
      rw [hm] at h
      simp only [pure, Except.pure] at h
      cases ha : t₁.writeAtomic (s.path k) data (s.failing.contains (s.path k)) with
      | error e => rw [ha] at h; cases h
      | ok t₂ =>
        rw [ha] at h
        cases h
        obtain ⟨hw₁, hch₁⟩ := Tree.mkdirAll_spec hw hm
        obtain ⟨-, -, hw₂, hnode, hch₂⟩ := Tree.writeAtomic_spec hw₁ ha
        exact ⟨rfl, rfl, rfl, hw₂, hnode, hch₁.trans hch₂ (List.prefix_refl _) (List.nil_prefix)⟩

theorem writeDigest_root (s : FileStore) (k : Key) (data : ByteArray) :
    (s.writeDigest k data).root = s.root := by
  unfold writeDigest
  split <;> rfl

theorem writeDigest_failing (s : FileStore) (k : Key) (data : ByteArray) :
    (s.writeDigest k data).failing = s.failing := by
  unfold writeDigest
  split <;> rfl

theorem writeDigest_spec {s : FileStore} (k : Key) (data : ByteArray) (hw : s.tree.WF) :
    (s.writeDigest k data).tree.WF ∧
      Tree.Changes s.tree (s.writeDigest k data).tree [Path.parts (s.digestPath k)] [] := by
  unfold writeDigest
  split
  · rename_i t h
    obtain ⟨-, -, hw', -, hch⟩ := Tree.writeAtomic_spec hw h
    exact ⟨hw', hch⟩
  · exact ⟨hw, .refl _ _ _⟩

theorem path_congr {s s' : FileStore} (h : s'.root = s.root) (k : Key) : s'.path k = s.path k := by
  simp [path, h]

theorem digestPath_congr {s s' : FileStore} (h : s'.root = s.root) (k : Key) :
    s'.digestPath k = s.digestPath k := by
  simp [digestPath, path_congr h]

/-- A put keeps the tree well-formed and changes it only at the key's file and digest file, and
directories added above them. -/
theorem put_spec {s s' : FileStore} {k : Key} {data : ByteArray} {a : Stored}
    (hw : s.tree.WF) (h : s.put k data = .ok (s', a)) :
    k.validate = .ok () ∧ s'.root = s.root ∧ s'.failing = s.failing ∧ s'.tree.WF ∧
      Tree.Changes s.tree s'.tree [Path.parts (s.path k), Path.parts (s.digestPath k)]
        (Path.parts (Path.parent (s.path k))) := by
  obtain ⟨s₁, h₁, hs, -⟩ := put_ok h
  rw [hs]
  obtain ⟨hv, hroot, hfail, hw₁, -, hch₁⟩ := writeData_spec hw h₁
  obtain ⟨hw₂, hch₂⟩ := writeDigest_spec k data hw₁
  rw [digestPath_congr hroot] at hch₂
  exact ⟨hv, (writeDigest_root _ _ _).trans hroot, (writeDigest_failing _ _ _).trans hfail, hw₂,
    hch₁.trans hch₂ (List.prefix_refl _) List.nil_prefix⟩
/-! ## Other keys -/

/-- The files a put at `R ++ [d, x]` may change: the file and the digest file. -/
def written (R : List String) (d x : String) : List (List String) :=
  [R ++ [d, x], R ++ [d, x ++ ".sha256"]]

theorem not_mem_written_of_length {R ps : List String} {d x : String}
    (h : ps.length ≠ R.length + 2) : ps ∉ written R d x := by
  intro hm
  simp only [written, List.mem_cons, List.not_mem_nil, or_false] at hm
  rcases hm with rfl | rfl <;> simp at h

theorem not_mem_written {R : List String} {d d' x y : String}
    (h₁ : (d', y) ≠ (d, x)) (h₂ : (d', y) ≠ (d, x ++ ".sha256")) :
    R ++ [d', y] ∉ written R d x := by
  simp only [written, List.mem_cons, List.append_cancel_left_eq, List.cons.injEq, and_true,
    List.not_mem_nil, or_false, not_or]
  exact ⟨fun h => h₁ (by simp [h.1, h.2]), fun h => h₂ (by simp [h.1, h.2])⟩

/-- The lookups of a path `R ++ [d', y]` are the same after a put at `R ++ [d, x]` that does not
write it. -/
theorem lookup_after_put {t t' : Tree} (hw : t.WF) (hw' : t'.WF) {R : List String}
    {d d' x y : String} (hch : Tree.Changes t t' (written R d x) (R ++ [d]))
    {q : String} (hq : Path.parts q = R ++ [d', y])
    (h₁ : (d', y) ≠ (d, x)) (h₂ : (d', y) ≠ (d, x ++ ".sha256")) (op : String) :
    t'.lookup op q = t.lookup op q := by
  refine hch.lookup_eq hw hw' (hq ▸ not_mem_written h₁ h₂) ?_ ?_ op
  · intro hpre
    have := hpre.length_le
    simp [hq] at this
  · intro a ha
    apply not_mem_written_of_length
    have := Path.length_lt_of_mem_ancestors ha
    rw [hq] at this
    simp at this
    omega

theorem readFile_congr {t t' : Tree} {p : String} (h : t'.lookup "open" p = t.lookup "open" p) :
    t'.readFile p = t.readFile p := by
  simp [Tree.readFile, h]

/-- A put leaves the content and the digest of every other key as they were, unless one key's
file is the other's digest file. -/
theorem put_keeps_other_keys {s s' : FileStore} {k k' : Key} {data : ByteArray} {a : Stored}
    (hw : s.tree.WF) (hk : k.document.val < 2 ^ 128) (hk' : k'.document.val < 2 ^ 128)
    (hne : k' ≠ k) (hd : ¬ k'.IsDigestOf k) (hd' : ¬ k.IsDigestOf k')
    (h : s.put k data = .ok (s', a)) :
    s'.get k' = s.get k' ∧ s'.stat k' = s.stat k' := by
  obtain ⟨hv, hroot, -, hw', hch⟩ := put_spec hw h
  cases hv' : k'.validate with
  | error e => simp [get, stat, hv', bind, Except.bind]
  | ok u =>
    obtain ⟨-, hs, -⟩ := Key.validate_ok_iff.1 hv
    obtain ⟨-, hs', -⟩ := Key.validate_ok_iff.1 hv'
    have hch' : Tree.Changes s.tree s'.tree (written (Path.parts s.root) k.stage.dir k.fileName)
        (Path.parts s.root ++ [k.stage.dir]) := by
      rw [parts_digestPath hv, Path.parts_parent, parts_path hv] at hch
      simpa [written] using hch
    -- neither file of `k'` is one that the put writes
    have hst : k'.stage.dir = k.stage.dir → k'.stage = k.stage := Stage.dir_inj hs' hs
    have hfile₁ : (k'.stage.dir, k'.fileName) ≠ (k.stage.dir, k.fileName) := by
      intro he
      simp only [Prod.mk.injEq] at he
      exact hne (Key.eq_of_dir_fileName hs' hs hk' hk he.1 he.2)
    have hfile₂ : (k'.stage.dir, k'.fileName) ≠ (k.stage.dir, k.fileName ++ ".sha256") := by
      intro he
      simp only [Prod.mk.injEq] at he
      obtain ⟨hdoc, hkind⟩ := (Key.fileName_append_eq_iff hk' hk ".sha256").1 he.2
      exact hd ⟨hdoc, hst he.1, hkind⟩
    have hdigest₁ : (k'.stage.dir, k'.fileName ++ ".sha256") ≠ (k.stage.dir, k.fileName) := by
      intro he
      simp only [Prod.mk.injEq] at he
      obtain ⟨hdoc, hkind⟩ := (Key.fileName_append_eq_iff hk hk' ".sha256").1 he.2.symm
      exact hd' ⟨hdoc, (hst he.1).symm, hkind⟩
    have hdigest₂ : (k'.stage.dir, k'.fileName ++ ".sha256") ≠
        (k.stage.dir, k.fileName ++ ".sha256") := by
      intro he
      simp only [Prod.mk.injEq, String.append_left_inj] at he
      exact hfile₁ (by rw [he.1, he.2])
    have hfile : ∀ op, s'.tree.lookup op (s.path k') = s.tree.lookup op (s.path k') :=
      lookup_after_put hw hw' hch' (parts_path hv') hfile₁ hfile₂
    have hdigest : ∀ op, s'.tree.lookup op (s.digestPath k') = s.tree.lookup op (s.digestPath k') :=
      lookup_after_put hw hw' hch' (parts_digestPath hv') hdigest₁ hdigest₂
    have hside : ∀ s₀ : FileStore, s₀.path k' ++ ".sha256" = s₀.digestPath k' := fun _ => rfl
    constructor
    · simp only [get, hv', path_congr hroot, readFile_congr (hfile "open")]
    · simp only [stat, hv', path_congr hroot, Tree.stat, hfile "stat", hside,
        readFile_congr (hdigest "open")]

/-! ## What each step writes -/

theorem parts_parent_digestPath (hv : k.validate = .ok ()) :
    Path.parts (Path.parent (s.digestPath k)) = Path.parts (Path.parent (s.path k)) := by
  rw [Path.parts_parent, Path.parts_parent, parts_digestPath hv, parts_path hv]
  simp [List.dropLast_append_of_ne_nil]

theorem ne_of_length_ne {x y : String} (h : x.toList.length ≠ y.toList.length) : x ≠ y :=
  fun hxy => h (by rw [hxy])

/-- A key's file and its digest file are distinct. -/
theorem parts_path_ne_digestPath (hv : k.validate = .ok ()) :
    Path.parts (s.path k) ≠ Path.parts (s.digestPath k) := by
  rw [parts_path hv, parts_digestPath hv]
  simpa using ne_of_length_ne (x := k.fileName) (by simp)

/-- The content write leaves the digest file as it was. -/
theorem writeData_digest_file {s₁ : FileStore} {data : ByteArray} (hw : s.tree.WF)
    (h : s.writeData k data = .ok s₁) :
    s₁.tree.node? (s.digestPath k) = s.tree.node? (s.digestPath k) := by
  obtain ⟨hv, -, -, -, -, hch⟩ := writeData_spec hw h
  refine hch.node?_eq (by simpa using (parts_path_ne_digestPath hv).symm) ?_
  intro hpre
  have := hpre.length_le
  simp [Path.parts_parent, parts_path hv, parts_digestPath hv] at this

/-- The digest write leaves the content file as it was. -/
theorem writeDigest_path (data : ByteArray) (hw : s.tree.WF) (hv : k.validate = .ok ()) :
    (s.writeDigest k data).tree.node? (s.path k) = s.tree.node? (s.path k) :=
  (writeDigest_spec k data hw).2.node?_eq (by simpa using parts_path_ne_digestPath hv)
    (by simp [parts_path hv])

/-- The digest is written when the content's directory stands, no directory is at the digest
file, and the device writes it. -/
theorem writeDigest_node? (data : ByteArray) (hw : s.tree.WF) (hv : k.validate = .ok ())
    (hpar : s.tree.node? (Path.parent (s.path k)) = some .dir)
    (hd : s.tree.node? (s.digestPath k) ≠ some .dir) (hf : s.digestPath k ∉ s.failing) :
    (s.writeDigest k data).tree.node? (s.digestPath k) = some (.file (hash data).toUTF8) := by
  have hpar' : s.tree.node? (Path.parent (s.digestPath k)) = some .dir := by
    rw [Tree.node?_congr _ (parts_parent_digestPath hv)]; exact hpar
  obtain ⟨t', ht'⟩ := Tree.writeAtomic_ok hw (hash data).toUTF8 hpar' hd
  unfold writeDigest
  rw [show s.failing.contains (s.digestPath k) = false by simpa using hf, ht']
  exact (Tree.writeAtomic_spec hw ht').2.2.2.1

/-- The content write succeeds under its directory where no directory is in the way and the
device writes it. -/
theorem writeData_ok (data : ByteArray) (hw : s.tree.WF) (hv : k.validate = .ok ())
    (hpar : s.tree.node? (Path.parent (s.path k)) = some .dir)
    (hp : s.tree.node? (s.path k) ≠ some .dir) (hf : s.path k ∉ s.failing) :
    ∃ s₁, s.writeData k data = .ok s₁ := by
  obtain ⟨t', ht'⟩ := Tree.writeAtomic_ok hw data hpar hp
  unfold writeData
  rw [hv, Tree.mkdirAll_of_dir hw hpar]
  simp only [bind, Except.bind, pure, Except.pure]
  rw [show s.failing.contains (s.path k) = false by simpa using hf, ht']
  exact ⟨_, rfl⟩

/-! ## A key whose file is another's digest file -/

theorem digestPath_eq (hv : k.validate = .ok ()) :
    s.digestPath k = Path.ofParts ((Path.parts s.root ++ [k.stage.dir]) ++ [k.fileName ++ ".sha256"]) := by
  have hne : Path.parts s.root ++ [k.stage.dir] ≠ [] := by simp
  rw [digestPath, path_eq hv, Path.ofParts_append_singleton hne, Path.ofParts_append_singleton hne,
    String.append_assoc]

/-- The file of a key that is another's digest file is that digest file. -/
theorem path_of_isDigestOf {k k' : Key} (hv : k.validate = .ok ()) (hv' : k'.validate = .ok ())
    (hd : k'.IsDigestOf k) : s.path k' = s.digestPath k := by
  obtain ⟨hdoc, hst, hkind⟩ := hd
  have hname : k'.fileName = k.fileName ++ ".sha256" := by
    simp [Key.fileName, hdoc, hkind, String.append_assoc]
  rw [path_eq hv', digestPath_eq hv, hname, hst]

/-- When one key's file is another's digest file, a put of the other writes its digest over that
key's content, whatever the content was. -/
theorem put_overwrites_digest_key {s s' : FileStore} {k k' : Key} {data : ByteArray} {a : Stored}
    (hw : s.tree.WF) (hv' : k'.validate = .ok ()) (hd : k'.IsDigestOf k)
    (hfile : s.tree.node? (s.path k') ≠ some .dir) (hf : s.path k' ∉ s.failing)
    (h : s.put k data = .ok (s', a)) :
    s'.get k' = .ok (hash data).toUTF8 := by
  obtain ⟨s₁, h₁, hs, -⟩ := put_ok h
  rw [hs]
  obtain ⟨hv, hroot, hfail, hw₁, hnode₁, -⟩ := writeData_spec hw h₁
  have hfile₁ := writeData_digest_file hw h₁
  have hdp := path_of_isDigestOf (s := s) hv hv' hd
  rw [hdp] at hfile hf
  have hpar₁ : s₁.tree.node? (Path.parent (s.path k)) = some .dir :=
    Tree.parent_dir_of_node hw₁ hnode₁ (by simp [parts_path hv])
  have hdig := writeDigest_node? (s := s₁) data hw₁ hv
    (by rw [path_congr hroot]; exact hpar₁)
    (by rw [digestPath_congr hroot, hfile₁]; exact hfile)
    (by rw [digestPath_congr hroot, hfail]; exact hf)
  have hw₂ := (writeDigest_spec k data hw₁).1
  rw [digestPath_congr hroot] at hdig
  simp only [get, hv', path_congr ((writeDigest_root _ _ _).trans hroot), hdp,
    Tree.readFile_of_node hw₂ hdig, bind, Except.bind, pure, Except.pure]

end FileStore

end Artifact

end CreditExtraction
