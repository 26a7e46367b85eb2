import Mathlib
import CreditExtraction.Proofs.Artifact.KeyFiles

/-! # Digests recorded beside the content

A stat of a key reports the digest read back from the key's digest file, and a cache trusts it:
it serves a cached entry only while that digest is empty or the digest of the stored content
(`FileStore.DigestConsistent`). A put writes the content and then the digest, each by its own
atomic rename, and a failed digest write does not fail the put.

* `put_digestConsistent`: after a put of a key the two agree, unless the device fails the
  digest's write; `put_with_failed_digest` shows what happens then: the put reports the new
  digest and leaves the old one.
* `putAll_digestConsistent`: the agreement holds after every run of puts that do not overlap,
  when no key's file is another's digest file and the key's digest write does not fail.
* `interleaved_puts_swap_digests`: two puts of one key whose renames interleave both succeed
  and leave the first content's digest beside the second content.
-/

namespace CreditExtraction.Artifact

open Files

/-! ## The text of a digest -/

theorem hexText_char {bs : ByteArray} {c : Char} (h : c ∈ (Digest.hexText bs).toList) :
    c.isWhitespace = false := by
  have hdigit : ∀ n < 16,
      (if n < 10 then Char.ofNat (48 + n) else Char.ofNat (87 + n)).isWhitespace = false := by
    decide
  simp only [Digest.hexText, String.toList_ofList, List.mem_flatMap, List.mem_cons,
    List.not_mem_nil, or_false] at h
  obtain ⟨b, -, rfl | rfl⟩ := h
  · exact hdigit _ (by have := b.toNat_lt; omega)
  · exact hdigit _ (Nat.mod_lt _ (by omega))

/-- Trimming leaves a text without white space as it is. -/
theorem trimAscii_of_no_whitespace {s : String} (h : ∀ c ∈ s.toList, c.isWhitespace = false) :
    s.trimAscii.toString = s := by
  unfold String.trimAscii String.Slice.trimAscii String.Slice.trimAsciiStart
    String.Slice.trimAsciiEnd
  rw [String.Slice.dropWhile_eq_self, String.Slice.dropEndWhile_eq_self]
  · exact String.copy_toSlice
  · rw [String.Slice.endsWith_bool_eq_getLast?, String.copy_toSlice]
    cases hl : s.toList.getLast? with
    | none => rfl
    | some c => simpa using h c (List.mem_of_getLast? hl)
  · rw [String.Slice.startsWith_bool_eq_head?, String.copy_toSlice]
    cases hl : s.toList.head? with
    | none => rfl
    | some c => simpa using h c (List.mem_of_head? hl)

theorem fromUTF8?_toUTF8 (s : String) : String.fromUTF8? s.toUTF8 = some s := by
  simp only [String.fromUTF8?, String.toUTF8_eq_toByteArray, dif_pos s.isValidUTF8]
  rfl

/-- A digest file holding a digest's text reads back as that digest. -/
theorem digest_readBack (d : ByteArray) :
    ((String.fromUTF8? (hash d).toUTF8).getD "").trimAscii.toString = hash d := by
  rw [fromUTF8?_toUTF8, Option.getD_some]
  exact trimAscii_of_no_whitespace fun _ hc => hexText_char hc

namespace FileStore

variable {s : FileStore} {k : Key}

/-- The digest a stat reports for a key is empty or the digest of the content a get returns. -/
def DigestConsistent (s : FileStore) (k : Key) : Prop :=
  ∀ a, s.stat k = .ok a → a.sha256 = "" ∨ ∃ d, s.get k = .ok d ∧ a.sha256 = hash d

/-! ## Reading a key back -/

theorem get_of_node (hw : s.tree.WF) (hv : k.validate = .ok ()) {d : ByteArray}
    (h : s.tree.node? (s.path k) = some (.file d)) : s.get k = .ok d := by
  simp [get, hv, Tree.readFile_of_node hw h, bind, Except.bind, pure, Except.pure]

/-- A stat of a key whose digest file holds a digest's text reports that digest. -/
theorem stat_of_digest (hw : s.tree.WF) (hv : k.validate = .ok ()) {d d' : ByteArray}
    (h : s.tree.node? (s.path k) = some (.file d))
    (hdig : s.tree.node? (s.digestPath k) = some (.file (hash d').toUTF8)) :
    s.stat k = .ok ⟨k, locator (s.path k), hash d', d.size⟩ := by
  have hread : s.tree.readFile (s.path k ++ ".sha256") = .ok (hash d').toUTF8 :=
    Tree.readFile_of_node hw hdig
  simp only [stat, hv, Tree.stat, (Tree.lookup_ok_iff hw).2 h, hread, digest_readBack, bind,
    Except.bind, pure, Except.pure]

/-- A stat of a key whose digest file is a directory reports no digest. -/
theorem stat_of_digest_dir (hw : s.tree.WF) (hv : k.validate = .ok ()) {d : ByteArray}
    (h : s.tree.node? (s.path k) = some (.file d)) (hdig : s.tree.node? (s.digestPath k) = some .dir) :
    s.stat k = .ok ⟨k, locator (s.path k), "", d.size⟩ := by
  have hread : s.tree.readFile (s.path k ++ ".sha256") =
      .error ⟨"read", [s.path k ++ ".sha256"], .isDir⟩ := by
    have hlk : s.tree.lookup "open" (s.path k ++ ".sha256") = .ok .dir := (Tree.lookup_ok_iff hw).2 hdig
    simp [Tree.readFile, hlk, bind, Except.bind, throw, throwThe, MonadExceptOf.throw]
  simp only [stat, hv, Tree.stat, (Tree.lookup_ok_iff hw).2 h, hread, bind, Except.bind, pure,
    Except.pure]

/-! ## A put of the key -/

/-- Where a directory stands at the digest file, no digest is written. -/
theorem writeDigest_of_digest_dir (data : ByteArray) (hw : s.tree.WF)
    (hd : s.tree.node? (s.digestPath k) = some .dir) : s.writeDigest k data = s := by
  unfold writeDigest
  split
  · rename_i t ht
    exact absurd hd (Tree.writeAtomic_spec hw ht).2.1
  · rfl

/-- After a put of a key its digest is the content's, unless the device fails the digest's
write. (Where a directory stands at the digest file no digest is reported.) -/
theorem put_digestConsistent {s s' : FileStore} {k : Key} {data : ByteArray} {a : Stored}
    (hw : s.tree.WF) (hf : s.digestPath k ∉ s.failing)
    (h : s.put k data = .ok (s', a)) : s'.DigestConsistent k := by
  obtain ⟨s₁, h₁, hs, -⟩ := put_ok h
  rw [hs]
  obtain ⟨hv, hroot, hfail, hw₁, hnode₁, -⟩ := writeData_spec hw h₁
  have hfile₁ := writeData_digest_file hw h₁
  have hroot' : (s₁.writeDigest k data).root = s.root := (writeDigest_root _ _ _).trans hroot
  have hw' := (writeDigest_spec k data hw₁).1
  -- the content is the one written
  have hpath : (s₁.writeDigest k data).tree.node? (s.path k) = some (.file data) := by
    have := writeDigest_path data hw₁ hv
    rw [path_congr hroot] at this
    rw [this, hnode₁]
  have hpath' : (s₁.writeDigest k data).tree.node? ((s₁.writeDigest k data).path k) =
      some (.file data) := by
    rw [path_congr hroot']; exact hpath
  have hnode₁' : s₁.tree.node? (s₁.path k) = some (.file data) := by
    rw [path_congr hroot]; exact hnode₁
  intro a ha
  by_cases hdir : s.tree.node? (s.digestPath k) = some .dir
  · -- a directory stands where the digest goes: no digest is written, none is reported
    left
    have hdir₁ : s₁.tree.node? (s₁.digestPath k) = some .dir := by
      rw [digestPath_congr hroot, hfile₁, hdir]
    have hsame := writeDigest_of_digest_dir data hw₁ hdir₁
    have hdir' : (s₁.writeDigest k data).tree.node? ((s₁.writeDigest k data).digestPath k) =
        some .dir := by
      rw [hsame]; exact hdir₁
    rw [stat_of_digest_dir hw' hv hpath' hdir'] at ha
    cases ha
    rfl
  · -- the digest of the content is written beside it
    right
    have hdig := writeDigest_node? (s := s₁) data hw₁ hv
      (Tree.parent_dir_of_node hw₁ hnode₁' (by simp [parts_path hv]))
      (by rw [digestPath_congr hroot, hfile₁]; exact hdir)
      (by rw [digestPath_congr hroot, hfail]; exact hf)
    have hdig' : (s₁.writeDigest k data).tree.node? ((s₁.writeDigest k data).digestPath k) =
        some (.file (hash data).toUTF8) := by
      rw [digestPath_congr (writeDigest_root _ _ _)]; exact hdig
    rw [stat_of_digest hw' hv hpath' hdig'] at ha
    cases ha
    exact ⟨data, get_of_node hw' hv hpath', rfl⟩

/-- A digest write that the device fails changes nothing. -/
theorem writeDigest_of_failing {data : ByteArray} (hw : s.tree.WF) (hf : s.digestPath k ∈ s.failing) :
    s.writeDigest k data = s := by
  unfold writeDigest
  split
  · rename_i t h
    have := (Tree.writeAtomic_spec hw h).1
    simp [hf] at this
  · rfl

/-- A put whose digest write the device fails succeeds and reports the new content's digest,
yet leaves the digest file as it was. -/
theorem put_with_failed_digest {s s' : FileStore} {k : Key} {data : ByteArray} {a : Stored}
    (hw : s.tree.WF) (hf : s.digestPath k ∈ s.failing) (h : s.put k data = .ok (s', a)) :
    a.sha256 = hash data ∧ s'.get k = .ok data ∧
      s'.tree.node? (s.digestPath k) = s.tree.node? (s.digestPath k) := by
  obtain ⟨s₁, h₁, hs, ha⟩ := put_ok h
  rw [hs, ha]
  obtain ⟨hv, hroot, hfail, hw₁, hnode₁, -⟩ := writeData_spec hw h₁
  have hsame : s₁.writeDigest k data = s₁ :=
    writeDigest_of_failing hw₁ (by rw [digestPath_congr hroot, hfail]; exact hf)
  have hnode₁' : s₁.tree.node? (s₁.path k) = some (.file data) := by
    rw [path_congr hroot]; exact hnode₁
  rw [hsame]
  exact ⟨rfl, get_of_node hw₁ hv hnode₁', writeData_digest_file hw h₁⟩

/-! ## Puts of other keys -/

/-- A put of another key keeps a key's digest agreeing with its content, unless one key's file is
the other's digest file. -/
theorem put_other_digestConsistent {s s' : FileStore} {k k' : Key} {data : ByteArray}
    {a : Stored} (hw : s.tree.WF) (hk : k.document.val < 2 ^ 128)
    (hk' : k'.document.val < 2 ^ 128) (hne : k' ≠ k) (hd : ¬ k'.IsDigestOf k)
    (hd' : ¬ k.IsDigestOf k') (h : s.put k' data = .ok (s', a)) (hc : s.DigestConsistent k) :
    s'.DigestConsistent k := by
  obtain ⟨hget, hstat⟩ := put_keeps_other_keys hw hk' hk (Ne.symm hne) hd' hd h
  intro a ha
  rw [hstat] at ha
  rcases hc a ha with h0 | ⟨d, hg, hs⟩
  · exact Or.inl h0
  · exact Or.inr ⟨d, by rw [hget]; exact hg, hs⟩

/-! ## Runs of puts -/

/-- Puts one after another, each finished before the next begins; a failure ends the run. -/
def putAll (s : FileStore) : List (Key × ByteArray) → Except Failure FileStore
  | [] => .ok s
  | (k, d) :: rest =>
    match s.put k d with
    | .ok (s', _) => s'.putAll rest
    | .error e => .error e

theorem putAll_cons_ok {s s'' : FileStore} {k : Key} {d : ByteArray}
    {rest : List (Key × ByteArray)} (h : s.putAll ((k, d) :: rest) = .ok s'') :
    ∃ s' a, s.put k d = .ok (s', a) ∧ s'.putAll rest = .ok s'' := by
  simp only [putAll] at h
  split at h
  · rename_i s' a hput
    exact ⟨s', a, hput, h⟩
  · cases h

/-- A key that cannot be stored has no stat, so nothing to disagree with. -/
theorem digestConsistent_of_invalid {e : Failure} (hv : k.validate = .error e) :
    s.DigestConsistent k := by
  intro a ha
  simp [stat, hv, bind, Except.bind] at ha

/-- A key with nothing stored has no stat either. -/
theorem digestConsistent_of_missing (hw : s.tree.WF) (h : s.tree.node? (s.path k) = none) :
    s.DigestConsistent k := by
  intro a ha
  cases hv : k.validate with
  | error e => simp [stat, hv, bind, Except.bind] at ha
  | ok u =>
    simp [stat, hv, Tree.stat, Tree.lookup_of_wf hw, h, bind, Except.bind, throw, throwThe,
      MonadExceptOf.throw] at ha

/-- After a run of puts that do not overlap, a key's digest is empty or its content's, when no
key of the run has its file at the key's digest file or its digest file at the key's file, and
the device does not fail the key's digest write. -/
theorem putAll_digestConsistent {s s' : FileStore} {k : Key} {run : List (Key × ByteArray)}
    (hw : s.tree.WF) (hk : k.document.val < 2 ^ 128)
    (hkeys : ∀ e ∈ run, e.1.document.val < 2 ^ 128 ∧ ¬ e.1.IsDigestOf k ∧ ¬ k.IsDigestOf e.1)
    (hf : s.digestPath k ∉ s.failing)
    (hc : s.DigestConsistent k) (h : s.putAll run = .ok s') : s'.DigestConsistent k := by
  cases hv : k.validate with
  | error e => exact digestConsistent_of_invalid hv
  | ok u =>
    -- the run is taken put by put; well-formedness, the working digest write and the agreement
    -- carry over each one
    induction run generalizing s with
    | nil =>
      cases h
      exact hc
    | cons e rest ih =>
      obtain ⟨kp, d⟩ := e
      obtain ⟨s₁, a, hput, hrest⟩ := putAll_cons_ok h
      obtain ⟨hkp, hd, hd'⟩ := hkeys (kp, d) List.mem_cons_self
      have hc₁ : s₁.DigestConsistent k := by
        by_cases hkk : kp = k
        · subst hkk
          exact put_digestConsistent hw hf hput
        · exact put_other_digestConsistent hw hk hkp hkk hd hd' hput hc
      obtain ⟨-, hroot, hfail, hw₁, -⟩ := put_spec hw hput
      exact ih hw₁ (fun e he => hkeys e (List.mem_cons_of_mem _ he))
        (by rw [digestPath_congr hroot, hfail]; exact hf) hc₁ hrest

/-! ## A store to run on -/

/-- A store at the root whose only directory is that of raw uploads. -/
def rawStore : FileStore := ⟨"/", Tree.empty.put "/raw" .dir, []⟩

/-- The key of an uploaded PDF. -/
def rawKey : Key := ⟨⟨1⟩, Stage.raw, "pdf"⟩

theorem rawKey_valid : rawKey.validate = .ok () := by rfl

theorem parts_raw : Path.parts "/raw" = ["raw"] := by rfl

theorem parts_rawStore_root : Path.parts rawStore.root = [] := by rfl

theorem rawStore_wf : rawStore.tree.WF := by
  have hanc : Path.ancestors "/raw" = [] := by rw [Path.ancestors, parts_raw]; rfl
  exact Tree.WF.put Tree.wf_empty (by simp [hanc]) fun _ => rfl

/-- Nothing stands at the paths of a file below the raw directory. -/
theorem rawStore_node?_file {q : String} (hq : (Path.parts q).length = 2) :
    rawStore.tree.node? q = none := by
  have hq0 : Path.parts q ≠ [] := fun h => by simp [h] at hq
  rw [rawStore, Tree.node?_put, if_neg (fun h => by rw [h.2, parts_raw] at hq; cases hq),
    Tree.node?_empty hq0]

theorem parts_rawStore_path : Path.parts (rawStore.path rawKey) = ["raw", rawKey.fileName] := by
  rw [parts_path rawKey_valid, parts_rawStore_root]
  rfl

theorem rawStore_parent : rawStore.tree.node? (Path.parent (rawStore.path rawKey)) = some .dir := by
  have hpar : Path.parts (Path.parent (rawStore.path rawKey)) = ["raw"] := by
    rw [Path.parts_parent, parts_rawStore_path]
    rfl
  show (Tree.empty.put "/raw" .dir).node? _ = _
  rw [Tree.node?_put, if_pos ⟨by simp [hpar], by rw [hpar, parts_raw]⟩]

theorem rawStore_key_files :
    rawStore.tree.node? (rawStore.path rawKey) = none ∧
      rawStore.tree.node? (rawStore.digestPath rawKey) = none := by
  refine ⟨rawStore_node?_file ?_, rawStore_node?_file ?_⟩
  · simp [parts_path rawKey_valid, parts_rawStore_root]
  · simp [parts_digestPath rawKey_valid, parts_rawStore_root]

/-- A put of a PDF into the store with the raw directory keeps its digest agreeing with its
content. -/
theorem putAll_digestConsistent_on_rawStore :
    ∃ s', rawStore.putAll [(rawKey, "x".toUTF8)] = .ok s' ∧ s'.DigestConsistent rawKey := by
  obtain ⟨hp, -⟩ := rawStore_key_files
  obtain ⟨s₁, h₁⟩ := writeData_ok "x".toUTF8 rawStore_wf rawKey_valid rawStore_parent
    (by rw [hp]; exact fun h => by cases h) (by simp [rawStore])
  have hrun : rawStore.putAll [(rawKey, "x".toUTF8)] = .ok (s₁.writeDigest rawKey "x".toUTF8) := by
    simp only [putAll, put_eq, h₁, Except.map]
  refine ⟨_, hrun, putAll_digestConsistent rawStore_wf (by decide) ?_ ?_
    (digestConsistent_of_missing rawStore_wf hp) hrun⟩
  · intro e he
    simp only [List.mem_singleton] at he
    subst he
    refine ⟨by decide, ?_, ?_⟩ <;>
      exact fun h => absurd h.2.2 (ne_of_length_ne (by simp [rawKey]))
  · simp [rawStore]

/-! ## Puts that overlap -/

/-- Two puts of one key whose renames interleave, the second put's digest rename before the
first's: both content writes succeed, and the first content's digest ends beside the second
content. -/
theorem interleaved_puts_swap_digests {s s₁ s₂ : FileStore} {k : Key} {A B : ByteArray}
    (hw : s.tree.WF) (hdig : s.tree.node? (s.digestPath k) ≠ some .dir)
    (hf : s.digestPath k ∉ s.failing) (h₁ : s.writeData k A = .ok s₁) (h₂ : s₁.writeData k B = .ok s₂) :
    ((s₂.writeDigest k B).writeDigest k A).get k = .ok B ∧
      ((s₂.writeDigest k B).writeDigest k A).stat k =
        .ok ⟨k, locator (s.path k), hash A, B.size⟩ := by
  obtain ⟨hv, hroot₁, hfail₁, hw₁, -, -⟩ := writeData_spec hw h₁
  have hfile₁ := writeData_digest_file hw h₁
  obtain ⟨-, hroot₂, hfail₂, hw₂, hnode₂, -⟩ := writeData_spec hw₁ h₂
  have hfile₂ := writeData_digest_file hw₁ h₂
  -- the four stores share the root, so the key's files are the same paths in each
  have hr₂ : s₂.root = s.root := hroot₂.trans hroot₁
  have hr₃ : (s₂.writeDigest k B).root = s.root := (writeDigest_root _ _ _).trans hr₂
  have hr₄ : ((s₂.writeDigest k B).writeDigest k A).root = s.root :=
    (writeDigest_root _ _ _).trans hr₃
  rw [path_congr hroot₁] at hnode₂
  rw [digestPath_congr hroot₁] at hfile₂
  have hw₃ := (writeDigest_spec k B hw₂).1
  have hw₄ := (writeDigest_spec k A hw₃).1
  have hp0 : Path.parts (s.path k) ≠ [] := by simp [parts_path hv]
  -- the second content stays through both digest writes
  have hp₃ : (s₂.writeDigest k B).tree.node? (s.path k) = some (.file B) := by
    have := writeDigest_path B hw₂ hv
    rw [path_congr hr₂] at this
    rw [this, hnode₂]
  have hp₄ : ((s₂.writeDigest k B).writeDigest k A).tree.node? (s.path k) = some (.file B) := by
    have := writeDigest_path A hw₃ hv
    rw [path_congr hr₃] at this
    rw [this, hp₃]
  -- the second put's digest goes first
  have hg₃ : (s₂.writeDigest k B).tree.node? (s.digestPath k) = some (.file (hash B).toUTF8) := by
    have := writeDigest_node? (s := s₂) B hw₂ hv
      (by rw [path_congr hr₂]; exact Tree.parent_dir_of_node hw₂ hnode₂ hp0)
      (by rw [digestPath_congr hr₂, hfile₂, hfile₁]; exact hdig)
      (by rw [digestPath_congr hr₂, hfail₂, hfail₁]; exact hf)
    rwa [digestPath_congr hr₂] at this
  -- then the first put's digest lands over it
  have hg₄ : ((s₂.writeDigest k B).writeDigest k A).tree.node? (s.digestPath k) =
      some (.file (hash A).toUTF8) := by
    have := writeDigest_node? (s := s₂.writeDigest k B) A hw₃ hv
      (by rw [path_congr hr₃]; exact Tree.parent_dir_of_node hw₃ hp₃ hp0)
      (by rw [digestPath_congr hr₃, hg₃]; exact fun h => by cases h)
      (by rw [digestPath_congr hr₃, writeDigest_failing, hfail₂, hfail₁]; exact hf)
    rwa [digestPath_congr hr₃] at this
  constructor
  · exact get_of_node hw₄ hv (by rw [path_congr hr₄]; exact hp₄)
  · rw [stat_of_digest hw₄ hv (by rw [path_congr hr₄]; exact hp₄)
      (by rw [digestPath_congr hr₄]; exact hg₄), path_congr hr₄]

/-- Two puts of a PDF, of `x` and then of `hello`, whose renames interleave: both content writes
succeed, and at the end the digest reported is neither empty nor that of the content. -/
theorem interleaved_puts_leave_stale_digest :
    ∃ s₁ s₂, rawStore.writeData rawKey "x".toUTF8 = .ok s₁ ∧
      s₁.writeData rawKey "hello".toUTF8 = .ok s₂ ∧
      ¬ ((s₂.writeDigest rawKey "hello".toUTF8).writeDigest rawKey "x".toUTF8).DigestConsistent
        rawKey := by
  obtain ⟨hp, hd⟩ := rawStore_key_files
  obtain ⟨s₁, h₁⟩ := writeData_ok "x".toUTF8 rawStore_wf rawKey_valid rawStore_parent
    (by rw [hp]; exact fun h => by cases h) (by simp [rawStore])
  obtain ⟨-, hroot₁, hfail₁, hw₁, hnode₁, -⟩ := writeData_spec rawStore_wf h₁
  rw [← path_congr hroot₁] at hnode₁
  obtain ⟨s₂, h₂⟩ := writeData_ok "hello".toUTF8 hw₁ rawKey_valid
    (Tree.parent_dir_of_node hw₁ hnode₁ (by simp [parts_path rawKey_valid]))
    (by rw [hnode₁]; exact fun h => by cases h) (by simp [hfail₁, rawStore])
  refine ⟨s₁, s₂, h₁, h₂, fun hc => ?_⟩
  obtain ⟨hget, hstat⟩ := interleaved_puts_swap_digests rawStore_wf
    (by rw [hd]; exact fun h => by cases h) (by simp [rawStore]) h₁ h₂
  have hx : hash "x".toUTF8 ≠ "" := by decide +kernel
  have hxy : hash "x".toUTF8 ≠ hash "hello".toUTF8 := by decide +kernel
  rcases hc _ hstat with h0 | ⟨d, hg, hs⟩
  · exact hx h0
  · rw [hget] at hg
    cases hg
    exact hxy hs

end FileStore

end CreditExtraction.Artifact
