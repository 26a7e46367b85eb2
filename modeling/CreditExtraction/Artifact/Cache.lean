import CreditExtraction.Artifact.Key

/-!
# A cache in front of an artifact store

A cache keeps the content of some stages in memory, the most recently used first and at most
`capacity` entries, each with the digest it was stored under. The entries are kept twice: in
the order of their use, and in an index from keys to entries, which every operation changes
together with the order. It sits in front of any store
(an `Origin`), reached only through the store's put, get and stat:

* a put goes to the store below and, when it succeeds, is remembered under the digest the
  store reported, or the content's own digest when the store reported none. A put that fails
  drops the key, since the store below may still hold the previous content;
* a cached content is served only while the store below reports a digest, and the one it was
  cached with, so a rewrite by another writer is never hidden. Otherwise the content is read
  from below and remembered;
* a stat is the store's own.

The operations act on the state of a cached store (`Cached`): the state of the store below and
the cache. Each is a function from a state to a result and the next state, so the store below
changes only by its own operations and the cache only by the ones written here.
-/

namespace CreditExtraction.Artifact

/-- An entry of the cache. -/
structure CacheEntry where
  key : Key
  sha : String
  data : ByteArray
deriving Inhabited

/-- The cache: the stages it keeps, its capacity, its entries in the order of their use, the
most recent first, and the index from each key to its entry. -/
structure Cache where
  capacity : Nat
  stages : List String
  order : List CacheEntry
  entries : List (Key × CacheEntry)
deriving Inhabited

/-- The stages cached when none are named: those read by more than one step. -/
def defaultCachedStages : List String := ["OCR_CLEAN", "LLM_EXTRACTED"]

/-- A cache of a capacity over some stages (the default ones when none are named); no cache
when the capacity is not positive. -/
def Cache.make (capacity : Int) (stages : List String) : Option Cache :=
  if capacity ≤ 0 then none
  else some ⟨capacity.toNat, if stages.isEmpty then defaultCachedStages else stages, [], []⟩

namespace Cache

/-- Does the cache keep a key's stage? -/
def keeps (c : Cache) (k : Key) : Bool := c.stages.contains k.stage.name

/-- The entry the index holds for a key. -/
def find? (c : Cache) (k : Key) : Option CacheEntry := (c.entries.find? (·.1 == k)).map (·.2)

/-- Drops a key's entry from the order and the index, when the index holds one. -/
def evict (c : Cache) (k : Key) : Cache :=
  match c.find? k with
  | none => c
  | some _ =>
    { c with order := c.order.filter (·.key != k), entries := c.entries.filter (·.1 != k) }

/-- Puts content at the front under a key. When the index holds the key, its entry takes the
content and moves to the front. Otherwise a new entry goes in front, and the least recent
entries beyond the capacity leave the order and the index. -/
def remember (c : Cache) (k : Key) (sha : String) (data : ByteArray) : Cache :=
  let e : CacheEntry := ⟨k, sha, data⟩
  match c.find? k with
  | some _ =>
    { c with
      order := e :: c.order.filter (·.key != k)
      entries := c.entries.map fun p => if p.1 == k then (k, e) else p }
  | none =>
    -- the loop that drops the entry at the back until the capacity holds, in one step
    let dropped := (e :: c.order).drop c.capacity
    { c with
      order := (e :: c.order).take c.capacity
      entries := ((k, e) :: c.entries).filter fun p => !dropped.any (·.key == p.1) }

/-- Remembers content when the cache keeps the key's stage. -/
def rememberKept (c : Cache) (k : Key) (sha : String) (data : ByteArray) : Cache :=
  if c.keeps k then c.remember k sha data else c

end Cache

/-- The operations of a store that a cache can stand in front of, over the store's state `σ`:
each gives a result or a failure, and the store's next state. -/
structure Origin (σ : Type) where
  put : Key → ByteArray → σ → Except Failure Stored × σ
  get : Key → σ → Except Failure ByteArray × σ
  stat : Key → σ → Except Failure Stored × σ

/-- A store with a cache in front of it: the state of the store below, and the cache when
there is one. -/
structure Cached (σ : Type) where
  below : σ
  cache : Option Cache
deriving Inhabited

namespace Cached

variable {σ : Type}

/-- Does the cache keep a key's stage? There is nothing to keep without a cache. -/
def keeps (s : Cached σ) (k : Key) : Bool := s.cache.any (·.keeps k)

/-- The cached entry of a key. -/
def lookup (s : Cached σ) (k : Key) : Option CacheEntry := s.cache.bind (·.find? k)

/-- Runs an operation of the store below, leaving the cache as it is. -/
def through {α : Type} (op : σ → Except Failure α × σ) (s : Cached σ) :
    Except Failure α × Cached σ :=
  let (r, b) := op s.below
  (r, { s with below := b })

end Cached

namespace Origin

variable {σ : Type} (B : Origin σ)

/-- Stores content under a key (see the module comment). -/
def cachedPut (k : Key) (data : ByteArray) (s : Cached σ) : Except Failure Stored × Cached σ :=
  match B.put k data s.below with
  | (.error e, b) => (.error e, ⟨b, s.cache.map (·.evict k)⟩)
  | (.ok a, b) =>
    let sha := if a.sha256 == "" then hash data else a.sha256
    (.ok a, ⟨b, s.cache.map (·.rememberKept k sha data)⟩)

/-- Reads a key from the store below and remembers what it returns. -/
def fetch (k : Key) (s : Cached σ) : Except Failure ByteArray × Cached σ :=
  match B.get k s.below with
  | (.error e, b) => (.error e, ⟨b, s.cache⟩)
  | (.ok d, b) => (.ok d, ⟨b, s.cache.map (·.remember k (hash d) d)⟩)

/-- The content under a key (see the module comment). A failed stat drops the key. -/
def cachedGet (k : Key) (s : Cached σ) : Except Failure ByteArray × Cached σ :=
  if !s.keeps k then s.through (B.get k)
  else match s.lookup k with
    | none => B.fetch k s
    | some e =>
      match B.stat k s.below with
      | (.error err, b) => (.error err, ⟨b, s.cache.map (·.evict k)⟩)
      | (.ok a, b) =>
        if a.sha256 != "" && a.sha256 == e.sha then
          (.ok e.data, ⟨b, s.cache.map (·.remember k e.sha e.data)⟩)
        else B.fetch k ⟨b, s.cache.map (·.evict k)⟩

/-- What is stored under a key, as the store below reports it. -/
def cachedStat (k : Key) (s : Cached σ) : Except Failure Stored × Cached σ :=
  s.through (B.stat k)

end Origin

end CreditExtraction.Artifact
