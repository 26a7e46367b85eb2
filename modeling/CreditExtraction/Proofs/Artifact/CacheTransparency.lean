import Mathlib.Data.Set.Function
import CreditExtraction.Artifact.Cache

/-!
# A cache that hides nothing

A cache stands in front of any store (`Origin`). The store is only assumed to be honest about
digests (`Origin.Honest`): a put reports no digest or the digest of what was put, a stat
reports no digest or the digest of what the store holds, a get returns what the store holds,
and a stat changes nothing it holds. The digest need not be injective; it only has to tell
apart the contents that occur in a run (`occurs`).

Main statement, `cached_store_transparent`: in every state a run reaches from a new cache, with
other writers rewriting the store below between any two calls (`Origin.Reaches`),

* the cache is sound (`Cache.Sound`): its recency order and its key index agree
  (`Cache.Agrees`: at most `capacity` entries, one per key, and the index holds exactly the
  entries of the order, each under its key), and every entry is of a kept stage and carries
  the digest of its content;
* a get that succeeds returns what the store below holds under its key at that moment;
* a get succeeds whenever the store's stat and get would;
* puts and stats return what the store returns, and leave the store as it leaves itself.

Every property of a state follows from what one call can do (`cachedGet_cases`, one case per
path of a get) and from soundness, which each call keeps (`cachedGet_sound` and the others).
-/

namespace CreditExtraction.Artifact

/-! ## The cache's own operations -/

namespace Cache

@[simp] theorem evict_keeps (c : Cache) (k k' : Key) : (c.evict k).keeps k' = c.keeps k' := by
  unfold evict
  split <;> rfl

@[simp] theorem remember_keeps (c : Cache) (k : Key) (sha : String) (data : ByteArray)
    (k' : Key) : (c.remember k sha data).keeps k' = c.keeps k' := by
  unfold remember
  split <;> rfl

/-- The entry the index finds for a key is held under that key. -/
theorem find?_spec {c : Cache} {k : Key} {e : CacheEntry} (h : c.find? k = some e) :
    (k, e) ∈ c.entries := by
  obtain ⟨p, hp, rfl⟩ := Option.map_eq_some_iff.1 h
  have hk : p.1 = k := by simpa using List.find?_some hp
  rw [← hk]
  exact List.mem_of_find?_eq_some hp

theorem find?_eq_none {c : Cache} {k : Key} (h : c.find? k = none) :
    ∀ p ∈ c.entries, p.1 ≠ k := by
  intro p hp hk
  simp only [find?, Option.map_eq_none_iff, List.find?_eq_none] at h
  exact h p hp (by simp [hk])

theorem mem_evict {c : Cache} {k : Key} {e : CacheEntry} (h : e ∈ (c.evict k).order) :
    e ∈ c.order := by
  unfold evict at h
  split at h
  · exact h
  · exact (List.mem_filter.1 h).1

/-- After `remember` an entry of the order is the new one or an older one, so what holds of
both holds of every entry. -/
theorem forall_mem_remember {P : CacheEntry → Prop} {c : Cache} {k : Key} {sha : String}
    {data : ByteArray} (hnew : P ⟨k, sha, data⟩) (hold : ∀ e ∈ c.order, P e) :
    ∀ e ∈ (c.remember k sha data).order, P e := by
  intro e h
  unfold remember at h
  split at h
  · rcases List.mem_cons.1 h with rfl | h'
    · exact hnew
    · exact hold e (List.mem_filter.1 h').1
  · rcases List.mem_cons.1 (List.mem_of_mem_take h) with rfl | h'
    · exact hnew
    · exact hold e h'

/-- Of entries with one per key, an entry is among the first `n` iff no later one has its key. -/
theorem mem_take_iff {l : List CacheEntry} (hl : (l.map (·.key)).Nodup) {e : CacheEntry}
    (he : e ∈ l) (n : Nat) : e ∈ l.take n ↔ ∀ d ∈ l.drop n, d.key ≠ e.key := by
  rw [← List.take_append_drop n l, List.map_append, List.nodup_append] at hl
  constructor
  · intro ht d hd hde
    exact hl.2.2 _ (List.mem_map_of_mem ht) _ (List.mem_map_of_mem hd) hde.symm
  · intro hnot
    rw [← List.take_append_drop n l] at he
    rcases List.mem_append.1 he with ht | hd
    · exact ht
    · exact absurd rfl (hnot e hd)

/-- The order and the index of a cache agree: at most `capacity` entries, one per key in each,
and the index holds exactly the entries of the order, each under its own key. -/
structure Agrees (c : Cache) : Prop where
  length_le : c.order.length ≤ c.capacity
  keys_nodup : (c.order.map (·.key)).Nodup
  index_nodup : (c.entries.map (·.1)).Nodup
  index_iff : ∀ k e, (k, e) ∈ c.entries ↔ e ∈ c.order ∧ e.key = k

theorem Agrees.evict {c : Cache} (h : c.Agrees) (k : Key) : (c.evict k).Agrees := by
  unfold Cache.evict
  split
  · exact h
  · refine ⟨(List.length_filter_le _ _).trans h.length_le,
      h.keys_nodup.sublist (List.filter_sublist.map _),
      h.index_nodup.sublist (List.filter_sublist.map _), fun k' e => ?_⟩
    simp only [List.mem_filter, h.index_iff, bne_iff_ne, ne_eq]
    grind

/-- Rewriting a key's entry moves it to the front and leaves the other keys alone. -/
theorem Agrees.remember_held {c : Cache} (h : c.Agrees) {k : Key} {sha : String}
    {data : ByteArray} {e₀ : CacheEntry} (hfind : c.find? k = some e₀) :
    (c.remember k sha data).Agrees := by
  unfold Cache.remember
  rw [hfind]
  -- the key's old entry is in the order, so the order loses it when it gets the new one
  have hold : e₀ ∈ c.order ∧ e₀.key = k := (h.index_iff k e₀).1 (find?_spec hfind)
  have hkeys : (c.entries.map fun p => if p.1 == k then (k, ⟨k, sha, data⟩) else p).map (·.1) =
      c.entries.map (·.1) := by
    rw [List.map_map]
    congr 1
    funext p
    by_cases hp : p.1 = k <;> simp [hp]
  refine ⟨?_, ?_, hkeys ▸ h.index_nodup, fun k' e => ?_⟩
  · have hlt : (c.order.filter (·.key != k)).length < c.order.length :=
      List.length_filter_lt_length_iff_exists.2 ⟨e₀, hold.1, by simp [hold.2]⟩
    simp only [List.length_cons]
    exact Nat.lt_of_lt_of_le hlt h.length_le
  · refine List.nodup_cons.2 ⟨?_, h.keys_nodup.sublist (List.filter_sublist.map _)⟩
    simp [List.mem_filter]
  · simp only [List.mem_map, List.mem_cons, List.mem_filter, bne_iff_ne, ne_eq]
    constructor
    · rintro ⟨p, hp, hpe⟩
      by_cases hpk : p.1 = k
      · simp only [hpk, beq_self_eq_true, if_true, Prod.mk.injEq] at hpe
        obtain ⟨rfl, rfl⟩ := hpe
        exact ⟨.inl rfl, rfl⟩
      · simp only [hpk, beq_iff_eq, if_false] at hpe
        subst hpe
        obtain ⟨hm, hk⟩ := (h.index_iff _ _).1 hp
        exact ⟨.inr ⟨hm, hk ▸ hpk⟩, hk⟩
    · rintro ⟨rfl | ⟨hm, hne⟩, rfl⟩
      · exact ⟨(k, e₀), (h.index_iff k e₀).2 hold, by simp⟩
      · exact ⟨(e.key, e), (h.index_iff _ _).2 ⟨hm, rfl⟩, by simp [hne]⟩

/-- A new key's entry goes in front, and the entries that no longer fit leave both the order
and the index. -/
theorem Agrees.remember_new {c : Cache} (h : c.Agrees) {k : Key} {sha : String}
    {data : ByteArray} (hnone : c.find? k = none) : (c.remember k sha data).Agrees := by
  unfold Cache.remember
  rw [hnone]
  have hfresh : ∀ e ∈ c.order, e.key ≠ k := fun e he hk =>
    find?_eq_none hnone (k, e) ((h.index_iff k e).2 ⟨he, hk⟩) rfl
  have hnodup : ((⟨k, sha, data⟩ :: c.order).map (·.key)).Nodup :=
    List.nodup_cons.2 ⟨by simpa using hfresh, h.keys_nodup⟩
  have hinodup : (((k, ⟨k, sha, data⟩) :: c.entries).map (·.1)).Nodup :=
    List.nodup_cons.2 ⟨fun hk => by
      obtain ⟨p, hp, hpk⟩ := List.mem_map.1 hk
      exact find?_eq_none hnone p hp hpk, h.index_nodup⟩
  refine ⟨List.length_take_le _ _, hnodup.sublist ((List.take_sublist _ _).map _),
    hinodup.sublist (List.filter_sublist.map _), fun k' e => ?_⟩
  -- both sides say: `e` is the new entry or an old one, under its key, and was not dropped
  have hmem : (k', e) ∈ (k, ⟨k, sha, data⟩) :: c.entries ↔
      e ∈ (⟨k, sha, data⟩ : CacheEntry) :: c.order ∧ e.key = k' := by
    rw [List.mem_cons, List.mem_cons, h.index_iff]
    constructor
    · rintro (he | ⟨hm, hk⟩)
      · simp only [Prod.mk.injEq] at he
        obtain ⟨rfl, rfl⟩ := he
        exact ⟨.inl rfl, rfl⟩
      · exact ⟨.inr hm, hk⟩
    · rintro ⟨rfl | hm, hk⟩
      · exact .inl (by simp [← hk])
      · exact .inr ⟨hm, hk⟩
  rw [List.mem_filter, hmem]
  constructor
  · rintro ⟨⟨he, hk⟩, hkeep⟩
    refine ⟨(mem_take_iff hnodup he _).2 fun d hd hde => ?_, hk⟩
    simp only [Bool.not_eq_true', List.any_eq_false, beq_iff_eq] at hkeep
    exact hkeep d hd (hde.trans hk)
  · rintro ⟨he, hk⟩
    have he' := List.mem_of_mem_take he
    refine ⟨⟨he', hk⟩, ?_⟩
    simp only [Bool.not_eq_true', List.any_eq_false, beq_iff_eq]
    exact fun d hd hdk => (mem_take_iff hnodup he' _).1 he d hd (hdk.trans hk.symm)

theorem Agrees.remember {c : Cache} (h : c.Agrees) (k : Key) (sha : String) (data : ByteArray) :
    (c.remember k sha data).Agrees := by
  cases hfind : c.find? k with
  | none => exact h.remember_new hfind
  | some e₀ => exact h.remember_held hfind

/-- A sound cache for the contents `occurs`: its order and index agree, and each entry is of a
kept stage, stored with its content's digest, and with a content from `occurs`. -/
structure Sound (occurs : Set ByteArray) (c : Cache) : Prop extends c.Agrees where
  kept : ∀ e ∈ c.order, c.keeps e.key = true
  sha_eq : ∀ e ∈ c.order, e.sha = hash e.data
  occurs : ∀ e ∈ c.order, e.data ∈ occurs

variable {occurs : Set ByteArray} {c : Cache}

theorem make_sound {capacity : Int} {stages : List String} (h : Cache.make capacity stages = some c) :
    c.Sound occurs := by
  unfold Cache.make at h
  split at h
  · simp at h
  · cases h
    exact ⟨⟨Nat.zero_le _, .nil, .nil, by simp⟩, by simp, by simp, by simp⟩

theorem Sound.evict (h : c.Sound occurs) (k : Key) : (c.evict k).Sound occurs where
  toAgrees := h.toAgrees.evict k
  kept e he := by simpa using h.kept e (mem_evict he)
  sha_eq e he := h.sha_eq e (mem_evict he)
  occurs e he := h.occurs e (mem_evict he)

theorem Sound.remember (h : c.Sound occurs) {k : Key} {sha : String} {data : ByteArray}
    (hk : c.keeps k = true) (hsha : sha = hash data) (hd : data ∈ occurs) :
    (c.remember k sha data).Sound occurs where
  toAgrees := h.toAgrees.remember k sha data
  kept e he := by
    rw [remember_keeps]
    exact forall_mem_remember (P := fun e => c.keeps e.key = true) hk h.kept e he
  sha_eq := forall_mem_remember hsha h.sha_eq
  occurs := forall_mem_remember hd h.occurs

theorem Sound.rememberKept (h : c.Sound occurs) {k : Key} {sha : String} {data : ByteArray}
    (hsha : sha = hash data) (hd : data ∈ occurs) : (c.rememberKept k sha data).Sound occurs := by
  unfold Cache.rememberKept
  split
  · exact h.remember ‹_› hsha hd
  · exact h

end Cache

/-! ## Cached stores -/

namespace Cached

variable {σ : Type} {occurs : Set ByteArray}

/-- A cached store whose cache, if it has one, is sound. -/
def Sound (occurs : Set ByteArray) (s : Cached σ) : Prop :=
  ∀ c, s.cache = some c → c.Sound occurs

/-- A new cache is sound. -/
theorem sound_make (b : σ) (capacity : Int) (stages : List String) :
    (⟨b, Cache.make capacity stages⟩ : Cached σ).Sound occurs :=
  fun _ h => Cache.make_sound h

/-- Changing a sound cache by an operation that keeps soundness keeps it sound, whatever the
store below becomes. -/
theorem Sound.map {s : Cached σ} (h : s.Sound occurs) (b : σ) {f : Cache → Cache}
    (hf : ∀ c, s.cache = some c → c.Sound occurs → (f c).Sound occurs) :
    (⟨b, s.cache.map f⟩ : Cached σ).Sound occurs := by
  intro c' hc'
  obtain ⟨c, hc, rfl⟩ := Option.map_eq_some_iff.1 hc'
  exact hf c hc (h c hc)

theorem keeps_iff {s : Cached σ} {k : Key} :
    s.keeps k = true ↔ ∃ c, s.cache = some c ∧ c.keeps k = true :=
  Option.any_eq_true _ _

theorem keeps_of_cache {s : Cached σ} {k : Key} {c : Cache} (hkeep : s.keeps k = true)
    (hc : s.cache = some c) : c.keeps k = true := by
  obtain ⟨c', hc', hk⟩ := keeps_iff.1 hkeep
  rw [hc] at hc'
  cases hc'
  exact hk

@[simp] theorem keeps_map (s : Cached σ) (b : σ) (k : Key) {f : Cache → Cache}
    (hf : ∀ c, (f c).keeps k = c.keeps k) : (⟨b, s.cache.map f⟩ : Cached σ).keeps k = s.keeps k := by
  cases h : s.cache <;> simp [keeps, h, hf]

/-- The entry a sound cache finds for a key is an entry of its order under that key. -/
theorem lookup_spec {s : Cached σ} (hs : s.Sound occurs) {k : Key} {e : CacheEntry}
    (h : s.lookup k = some e) : ∃ c, s.cache = some c ∧ e ∈ c.order ∧ e.key = k := by
  obtain ⟨c, hc, hfind⟩ := Option.bind_eq_some_iff.1 h
  exact ⟨c, hc, ((hs c hc).index_iff k e).1 (Cache.find?_spec hfind)⟩

end Cached

/-! ## What the store below is assumed to do -/

/-- Everything a store holds in a state is among the contents `occurs`. -/
def ContentsIn {σ : Type} (content : σ → Key → Option ByteArray) (occurs : Set ByteArray)
    (b : σ) : Prop :=
  ∀ k x, content b k = some x → x ∈ occurs

/-- What another writer leaves in a table when it writes content that occurs. -/
theorem ContentsIn.update {t : Key → Option ByteArray} {occurs : Set ByteArray}
    (h : ContentsIn (fun t k => t k) occurs t) (k : Key) {x : ByteArray} (hx : x ∈ occurs) :
    ContentsIn (fun t k => t k) occurs (Function.update t k (some x)) := by
  intro k' y hy
  dsimp only at hy
  by_cases hk : k' = k
  · subst hk
    simp only [Function.update_self, Option.some.injEq] at hy
    exact hy ▸ hx
  · rw [Function.update_of_ne hk] at hy
    exact h k' y hy

namespace Origin

variable {σ : Type} (B : Origin σ) (content : σ → Key → Option ByteArray)

/-- The store below is honest about digests, given what it holds under each key in each state
(`content`). -/
structure Honest : Prop where
  put_sha : ∀ {k d b a b'}, B.put k d b = (.ok a, b') → a.sha256 = "" ∨ a.sha256 = hash d
  stat_sha : ∀ {k b a b'}, B.stat k b = (.ok a, b') →
    a.sha256 = "" ∨ ∃ x, content b k = some x ∧ a.sha256 = hash x
  get_content : ∀ {k b d b'}, B.get k b = (.ok d, b') → content b k = some d
  stat_keeps : ∀ k b, content (B.stat k b).2 k = content b k

/-! ## One call -/

variable {B content} {occurs : Set ByteArray}

/-- A put returns what the store returns and leaves the store as the store's put leaves it. -/
theorem cachedPut_through (k : Key) (d : ByteArray) (s : Cached σ) :
    (B.cachedPut k d s).1 = (B.put k d s.below).1 ∧
      (B.cachedPut k d s).2.below = (B.put k d s.below).2 := by
  rcases h : B.put k d s.below with ⟨_ | _, b⟩ <;> simp [cachedPut, h]

theorem cachedPut_sound (hB : B.Honest content) {s : Cached σ} (hs : s.Sound occurs) (k : Key)
    {d : ByteArray} (hd : d ∈ occurs) : (B.cachedPut k d s).2.Sound occurs := by
  rcases h : B.put k d s.below with ⟨e | a, b⟩
  · simp only [cachedPut, h]
    exact hs.map b fun c _ hc => hc.evict k
  · -- the digest remembered is the content's own, whichever the store reported
    have hsha : (if a.sha256 == "" then hash d else a.sha256) = hash d := by
      rcases hB.put_sha h with h0 | h0 <;> simp [h0]
    simp only [cachedPut, h]
    exact hs.map b fun c _ hc => hc.rememberKept hsha hd

/-- A stat is the store's own and leaves the cache alone. -/
theorem cachedStat_eq (k : Key) (s : Cached σ) :
    B.cachedStat k s = ((B.stat k s.below).1, { s with below := (B.stat k s.below).2 }) := rfl

theorem cachedStat_sound {s : Cached σ} (hs : s.Sound occurs) (k : Key) :
    (B.cachedStat k s).2.Sound occurs := hs

/-- Reading through to the store keeps the cache sound when the store holds contents that
occur and the cache keeps the key. -/
theorem fetch_sound (hB : B.Honest content) {s : Cached σ} {k : Key} (hs : s.Sound occurs)
    (hkeep : s.keeps k = true) (hin : ∀ x, content s.below k = some x → x ∈ occurs) :
    (B.fetch k s).2.Sound occurs := by
  rcases h : B.get k s.below with ⟨e | d, b⟩
  · simp only [fetch, h]
    exact hs
  · have hd := hin d (hB.get_content h)
    simp only [fetch, h]
    exact hs.map b fun c hc hcs => hcs.remember (Cached.keeps_of_cache hkeep hc) rfl hd

theorem fetch_current (hB : B.Honest content) {s s' : Cached σ} {k : Key} {d : ByteArray}
    (h : B.fetch k s = (.ok d, s')) : content s.below k = some d := by
  rcases hg : B.get k s.below with ⟨e | d', b⟩ <;> simp only [fetch, hg] at h
  · cases h
  · cases h
    exact hB.get_content hg

theorem fetch_ok {s : Cached σ} {k : Key} (hget : (B.get k s.below).1.toBool = true) :
    (B.fetch k s).1.toBool = true := by
  rcases hg : B.get k s.below with ⟨e | d, b⟩ <;> simp_all [fetch, Except.toBool]

/-- What a get can do: read through when the cache does not keep the key; read and remember
when it holds no entry; otherwise ask the store's stat, and then fail and drop the entry, serve
the entry while the stat reports its digest, or drop it and read and remember. -/
theorem cachedGet_cases (k : Key) (s : Cached σ) :
    (s.keeps k = false ∧ B.cachedGet k s = s.through (B.get k)) ∨
    (s.keeps k = true ∧ s.lookup k = none ∧ B.cachedGet k s = B.fetch k s) ∨
    (∃ e err b, s.keeps k = true ∧ s.lookup k = some e ∧ B.stat k s.below = (.error err, b) ∧
      B.cachedGet k s = (.error err, ⟨b, s.cache.map (·.evict k)⟩)) ∨
    (∃ e a b, s.keeps k = true ∧ s.lookup k = some e ∧ B.stat k s.below = (.ok a, b) ∧
      a.sha256 ≠ "" ∧ a.sha256 = e.sha ∧
      B.cachedGet k s = (.ok e.data, ⟨b, s.cache.map (·.remember k e.sha e.data)⟩)) ∨
    (∃ e a b, s.keeps k = true ∧ s.lookup k = some e ∧ B.stat k s.below = (.ok a, b) ∧
      ¬(a.sha256 ≠ "" ∧ a.sha256 = e.sha) ∧
      B.cachedGet k s = B.fetch k ⟨b, s.cache.map (·.evict k)⟩) := by
  cases hk : s.keeps k
  · exact .inl ⟨rfl, by simp [cachedGet, hk]⟩
  cases hl : s.lookup k with
  | none => exact .inr (.inl ⟨rfl, rfl, by simp [cachedGet, hk, hl]⟩)
  | some e =>
    rcases hst : B.stat k s.below with ⟨err | a, b⟩
    · exact .inr (.inr (.inl ⟨e, err, b, rfl, rfl, rfl, by simp [cachedGet, hk, hl, hst]⟩))
    by_cases hit : a.sha256 ≠ "" ∧ a.sha256 = e.sha
    · refine .inr (.inr (.inr (.inl ⟨e, a, b, rfl, rfl, rfl, hit.1, hit.2, ?_⟩)))
      have hsha : e.sha ≠ "" := hit.2 ▸ hit.1
      simp [cachedGet, hk, hl, hst, hit.2, hsha]
    · refine .inr (.inr (.inr (.inr ⟨e, a, b, rfl, rfl, rfl, hit, ?_⟩)))
      have hmiss : (a.sha256 != "" && a.sha256 == e.sha) = false := by
        simpa [Decidable.imp_iff_not_or] using hit
      simp [cachedGet, hk, hl, hst, hmiss]

theorem cachedGet_sound (hB : B.Honest content) {s : Cached σ} (hs : s.Sound occurs)
    (hin : ContentsIn content occurs s.below) (k : Key) :
    (B.cachedGet k s).2.Sound occurs := by
  rcases cachedGet_cases k s with ⟨-, h⟩ | ⟨hk, -, h⟩ | ⟨e, err, b, -, -, -, h⟩ |
    ⟨e, a, b, hk, hl, -, -, -, h⟩ | ⟨e, a, b, hk, -, hst, -, h⟩ <;> rw [h]
  · exact hs
  · exact fetch_sound hB hs hk (hin k)
  · exact hs.map b fun c _ hc => hc.evict k
  · -- a hit moves the entry to the front: it is still of a kept stage, with its digest
    obtain ⟨c, hc, he, rfl⟩ := Cached.lookup_spec hs hl
    refine hs.map b fun c' hc' hcs => ?_
    rw [hc] at hc'
    cases hc'
    exact hcs.remember (hcs.kept e he) (hcs.sha_eq e he) (hcs.occurs e he)
  · -- a miss reads from the store as the stat left it, which holds the same under the key
    have hb : b = (B.stat k s.below).2 := by rw [hst]
    refine fetch_sound hB (hs.map b fun c _ hc => hc.evict k) ?_ fun x hx => hin k x ?_
    · rw [Cached.keeps_map _ _ _ fun c => Cache.evict_keeps c k k]
      exact hk
    · rw [← hx, hb, hB.stat_keeps]

/-- A get that succeeds returns what the store holds under the key: a hit is served only when
the store reports the entry's digest, and the digest tells apart the contents that occur. -/
theorem cachedGet_current (hB : B.Honest content) (hinj : Set.InjOn hash occurs)
    {s s' : Cached σ} (hs : s.Sound occurs) (hin : ContentsIn content occurs s.below)
    {k : Key} {d : ByteArray} (hget : B.cachedGet k s = (.ok d, s')) :
    content s.below k = some d := by
  rcases cachedGet_cases k s with ⟨-, h⟩ | ⟨-, -, h⟩ | ⟨e, err, b, -, -, -, h⟩ |
    ⟨e, a, b, -, hl, hst, hne, hsha, h⟩ | ⟨e, a, b, -, -, hst, -, h⟩ <;> rw [h] at hget
  · rcases hg : B.get k s.below with ⟨_ | _, _⟩ <;>
      simp only [Cached.through, hg, Prod.mk.injEq, reduceCtorEq, false_and, Except.ok.injEq] at hget
    rw [← hget.1]
    exact hB.get_content hg
  · exact fetch_current hB hget
  · cases hget
  · obtain ⟨c, hc, he, -⟩ := Cached.lookup_spec hs hl
    obtain ⟨x, hx, hxsha⟩ := (hB.stat_sha hst).resolve_left hne
    -- the store's content and the entry have one digest, so they are one content
    have hxe : x = e.data :=
      hinj (hin k x hx) ((hs c hc).occurs e he)
        (by rw [← hxsha, hsha, (hs c hc).sha_eq e he])
    cases hget
    rw [hx, hxe]
  · have hcur := fetch_current hB hget
    rw [← hcur]
    simp only
    rw [← hB.stat_keeps k s.below, hst]

/-- A get succeeds whenever the store's stat and its get, before or after the stat, would. -/
theorem cachedGet_ok {s : Cached σ} {k : Key} (hstat : (B.stat k s.below).1.toBool = true)
    (hget : (B.get k s.below).1.toBool = true)
    (hget' : (B.get k (B.stat k s.below).2).1.toBool = true) :
    (B.cachedGet k s).1.toBool = true := by
  rcases cachedGet_cases k s with ⟨-, h⟩ | ⟨-, -, h⟩ | ⟨e, err, b, -, -, hst, h⟩ |
    ⟨e, a, b, -, -, -, -, -, h⟩ | ⟨e, a, b, -, -, hst, -, h⟩ <;> rw [h]
  · rcases hg : B.get k s.below with ⟨_ | _, _⟩ <;> simp_all [Cached.through, Except.toBool]
  · exact fetch_ok hget
  · simp [hst, Except.toBool] at hstat
  · rfl
  · rw [hst] at hget'
    exact fetch_ok hget'

/-! ## Runs -/

variable (B content occurs)

/-- The states a cached store reaches from `s₀` by its calls and by other writers changing the
store below between calls, when everything put and everything the store holds occurs. -/
inductive Reaches (s₀ : Cached σ) : Cached σ → Prop
  | start : Reaches s₀ s₀
  | put {s : Cached σ} {k : Key} {d : ByteArray} : Reaches s₀ s → d ∈ occurs →
      ContentsIn content occurs (B.cachedPut k d s).2.below → Reaches s₀ (B.cachedPut k d s).2
  | get {s : Cached σ} {k : Key} : Reaches s₀ s →
      ContentsIn content occurs (B.cachedGet k s).2.below → Reaches s₀ (B.cachedGet k s).2
  | stat {s : Cached σ} {k : Key} : Reaches s₀ s →
      ContentsIn content occurs (B.cachedStat k s).2.below → Reaches s₀ (B.cachedStat k s).2
  | write {s : Cached σ} {b : σ} : Reaches s₀ s → ContentsIn content occurs b →
      Reaches s₀ { s with below := b }

variable {B content occurs}

/-- Every state a run reaches has a sound cache. -/
theorem Reaches.sound (hB : B.Honest content) {s₀ s : Cached σ} (h₀ : s₀.Sound occurs)
    (hin₀ : ContentsIn content occurs s₀.below) (h : B.Reaches content occurs s₀ s) :
    s.Sound occurs ∧ ContentsIn content occurs s.below := by
  induction h with
  | start => exact ⟨h₀, hin₀⟩
  | put _ hd hin ih => exact ⟨cachedPut_sound hB ih.1 _ hd, hin⟩
  | get _ hin ih => exact ⟨cachedGet_sound hB ih.1 ih.2 _, hin⟩
  | stat _ hin ih => exact ⟨cachedStat_sound ih.1 _, hin⟩
  | write _ hin ih => exact ⟨ih.1, hin⟩

variable (B content occurs)

/-- What a cached store guarantees in a state (see the module comment). -/
structure TransparentAt (s : Cached σ) : Prop where
  sound : s.Sound occurs
  get_current : ∀ k d s', B.cachedGet k s = (.ok d, s') → content s.below k = some d
  get_ok : ∀ k, (B.stat k s.below).1.toBool = true → (B.get k s.below).1.toBool = true →
    (B.get k (B.stat k s.below).2).1.toBool = true → (B.cachedGet k s).1.toBool = true
  put_through : ∀ k d, (B.cachedPut k d s).1 = (B.put k d s.below).1 ∧
    (B.cachedPut k d s).2.below = (B.put k d s.below).2
  stat_through : ∀ k, B.cachedStat k s = ((B.stat k s.below).1, { s with below := (B.stat k s.below).2 })

/-- A cache in front of an honest store hides nothing: in every state reached from a new cache,
by any calls and any writes of other writers to the store below, the cache is sound, a get
that succeeds returns what the store holds, a get succeeds whenever the store's stat and get
would, and puts and stats are the store's own, as long as the digest tells apart the contents
that occur. -/
theorem cached_store_transparent (hB : B.Honest content) (hinj : Set.InjOn hash occurs)
    {b₀ : σ} (hin₀ : ContentsIn content occurs b₀) (capacity : Int) (stages : List String)
    {s : Cached σ} (h : B.Reaches content occurs ⟨b₀, Cache.make capacity stages⟩ s) :
    B.TransparentAt content occurs s := by
  obtain ⟨hs, hin⟩ := h.sound hB (Cached.sound_make b₀ capacity stages) hin₀
  exact ⟨hs, fun _ _ _ hget => cachedGet_current hB hinj hs hin hget,
    fun _ => cachedGet_ok, fun k d => cachedPut_through k d s, fun k => cachedStat_eq k s⟩

/-- A store that keeps contents in a table, reports their digests and fails on a missing key. -/
def tableOrigin : Origin (Key → Option ByteArray) where
  put k d t := (.ok ⟨k, "", hash d, d.size⟩, Function.update t k (some d))
  get k t := match t k with
    | some d => (.ok d, t)
    | none => (.error (Failure.tagged .notFound "missing"), t)
  stat k t := match t k with
    | some d => (.ok ⟨k, "", hash d, d.size⟩, t)
    | none => (.error (Failure.tagged .notFound "missing"), t)

theorem tableOrigin_honest : tableOrigin.Honest fun t k => t k where
  put_sha h := by
    simp only [tableOrigin, Prod.mk.injEq, Except.ok.injEq] at h
    exact .inr (by rw [← h.1])
  stat_sha := by
    intro k t a t' h
    cases ht : t k <;> simp only [tableOrigin, ht, Prod.mk.injEq, reduceCtorEq, false_and,
      Except.ok.injEq] at h
    exact .inr ⟨_, rfl, by rw [← h.1]⟩
  get_content := by
    intro k t d t' h
    cases ht : t k <;> simp only [tableOrigin, ht, Prod.mk.injEq, reduceCtorEq, false_and,
      Except.ok.injEq] at h
    rw [h.1]
  stat_keeps k t := by
    cases ht : t k <;> simp [tableOrigin, ht]

theorem tableOrigin_get_keeps (k : Key) (t : Key → Option ByteArray) :
    (tableOrigin.get k t).2 = t := by
  simp only [tableOrigin]
  split <;> rfl

theorem tableOrigin_stat_keeps (k : Key) (t : Key → Option ByteArray) :
    (tableOrigin.stat k t).2 = t := by
  simp only [tableOrigin]
  split <;> rfl

/-- A get of the table leaves the table as it is, whichever path it takes. -/
theorem tableOrigin_cachedGet_below (k : Key) (s : Cached (Key → Option ByteArray)) :
    (tableOrigin.cachedGet k s).2.below = s.below := by
  have hfetch : ∀ s' : Cached (Key → Option ByteArray),
      (tableOrigin.fetch k s').2.below = s'.below := fun s' => by
    rcases h : tableOrigin.get k s'.below with ⟨_ | _, b⟩ <;>
      simp only [fetch, h] <;> rw [← tableOrigin_get_keeps k s'.below, h]
  have hstat : ∀ {r b}, tableOrigin.stat k s.below = (r, b) → b = s.below := fun h => by
    rw [← tableOrigin_stat_keeps k s.below, h]
  rcases cachedGet_cases k s with ⟨-, h⟩ | ⟨-, -, h⟩ | ⟨e, err, b, -, -, hst, h⟩ |
    ⟨e, a, b, -, -, hst, -, -, h⟩ | ⟨e, a, b, -, -, hst, -, h⟩ <;> rw [h]
  · exact tableOrigin_get_keeps k s.below
  · exact hfetch s
  · exact hstat hst
  · exact hstat hst
  · exact (hfetch _).trans (hstat hst)

/-- The key of the sample runs: a text of a cached stage. -/
def sampleKey : Key := ⟨default, ⟨"OCR_CLEAN"⟩, "json"⟩

/-- A cache of one entry over an empty table, after a put of `[1]`, a get the cache serves, a
rewrite of the key to `[2]` by another writer, and a get that has to read the new content. -/
def rewrittenRun : Cached (Key → Option ByteArray) :=
  let s₁ := (tableOrigin.cachedPut sampleKey ⟨#[1]⟩ ⟨fun _ => none, Cache.make 1 []⟩).2
  let s₂ := (tableOrigin.cachedGet sampleKey s₁).2
  let s₃ := { s₂ with below := Function.update s₂.below sampleKey (some ⟨#[2]⟩) }
  (tableOrigin.cachedGet sampleKey s₃).2

/-- Over a table, the cache hides nothing after it has served a hit and seen the key rewritten
by another writer. -/
theorem table_cache_sees_rewrite :
    tableOrigin.Honest (fun t k => t k) ∧ Set.InjOn hash {⟨#[1]⟩, ⟨#[2]⟩} ∧
      ContentsIn (fun t k => t k) {⟨#[1]⟩, ⟨#[2]⟩} (fun _ => none) ∧
      tableOrigin.Reaches (fun t k => t k) {⟨#[1]⟩, ⟨#[2]⟩} ⟨fun _ => none, Cache.make 1 []⟩
        rewrittenRun ∧
      tableOrigin.TransparentAt (fun t k => t k) {⟨#[1]⟩, ⟨#[2]⟩} rewrittenRun := by
  -- the two contents have different digests
  have hinj : Set.InjOn hash ({⟨#[1]⟩, ⟨#[2]⟩} : Set ByteArray) := by
    have hne : hash ⟨#[1]⟩ ≠ hash ⟨#[2]⟩ := by decide +kernel
    rintro x (rfl | rfl) y (rfl | rfl) hxy
    · rfl
    · exact absurd hxy hne
    · exact absurd hxy.symm hne
    · rfl
  have hin₀ : ContentsIn (fun t k => t k) {⟨#[1]⟩, ⟨#[2]⟩} (fun _ => none) := by
    simp [ContentsIn]
  have h₁ : (⟨#[1]⟩ : ByteArray) ∈ ({⟨#[1]⟩, ⟨#[2]⟩} : Set ByteArray) := by simp
  have h₂ : (⟨#[2]⟩ : ByteArray) ∈ ({⟨#[1]⟩, ⟨#[2]⟩} : Set ByteArray) := by simp
  -- the table holds `[1]` after the put and the served get, and `[2]` after the rewrite
  have hin₁ := hin₀.update sampleKey h₁
  have hput : tableOrigin.Reaches (fun t k => t k) _ ⟨fun _ => none, Cache.make 1 []⟩ _ :=
    .put (k := sampleKey) .start h₁ hin₁
  have hhit := Reaches.get (k := sampleKey) hput (by rw [tableOrigin_cachedGet_below]; exact hin₁)
  have hin₂ :=
    (hhit.sound tableOrigin_honest (Cached.sound_make _ 1 []) hin₀).2.update sampleKey h₂
  have hlast := Reaches.get (k := sampleKey) (hhit.write hin₂)
    (by rw [tableOrigin_cachedGet_below]; exact hin₂)
  exact ⟨tableOrigin_honest, hinj, hin₀, hlast,
    cached_store_transparent _ _ _ tableOrigin_honest hinj hin₀ 1 [] hlast⟩

end Origin

end CreditExtraction.Artifact
