import PropertyKeys.Cache.Store
import PropertyKeys.Metadata.Document

/-!
# The cache of catalogs

For each document the cache holds the catalog of one version, told by the digest of the content. It
is given out only for that version. Building the catalog of another version replaces it, unless the
building fails.

## Main definitions

* `Cache`: a store of snapshots, which is an ordered map if nothing else is said.
* `Cache.latest?` / `Cache.get?`: what is cached for a document, in any version or in one.
* `Cache.getOrBuild`: what is cached, or else what is built.
-/

namespace PropertyKeys

/-- Snapshots by the identity of their documents. -/
structure Cache (S : Type := OrderedMap Text Snapshot) [SnapshotStore S] where
  snapshots : S
  /-- The number of the next catalog. -/
  next : Nat := 0

namespace Cache

variable {S : Type} [SnapshotStore S]

/-- Nothing is cached yet. The cache is made for a number of documents. -/
def new (capacity : Nat) : Cache S :=
  { snapshots := SnapshotStore.empty capacity }

/-- What is cached for a document. -/
def latest? (cache : Cache S) (id : Text) : Option Snapshot :=
  SnapshotStore.get? id cache.snapshots

/-- What is cached for a version of a document. -/
def get? (cache : Cache S) (id : Text) (version : Digest) : Option Snapshot :=
  (cache.latest? id).filter fun snapshot => snapshot.version = version

/-- The snapshot of newly built contents. -/
def snapshot (cache : Cache S) (version : Digest) (contents : Metadata.Contents) : Snapshot :=
  { version
    number := cache.next
    catalog := Catalog.ofKeys cache.next contents.keys
    diagnostics := contents.diagnostics }

/-- The cache with a newly built snapshot of a document. -/
def insert (cache : Cache S) (id : Text) (snapshot : Snapshot) : Cache S :=
  { snapshots := SnapshotStore.set id snapshot cache.snapshots, next := cache.next + 1 }

/-- The snapshot of a version of a document. If it is not cached its contents are built, which may
fail and may change a state. Only what was built is stored. -/
def getOrBuild {σ ε : Type} (cache : Cache S) (id : Text) (version : Digest)
    (build : σ → Except ε Metadata.Contents × σ) (state : σ) :
    Except ε Snapshot × Cache S × σ :=
  match cache.get? id version with
  | some snapshot => (.ok snapshot, cache, state)
  | none =>
    match build state with
    | (.error failure, state) => (.error failure, cache, state)
    | (.ok contents, state) =>
      let snapshot := cache.snapshot version contents
      (.ok snapshot, cache.insert id snapshot, state)

/-- The cache without a document. -/
def invalidate (cache : Cache S) (id : Text) : Cache S :=
  { cache with snapshots := SnapshotStore.erase id cache.snapshots }

/-- The cache without any document. -/
def invalidateAll (cache : Cache S) : Cache S :=
  { cache with snapshots := SnapshotStore.clear cache.snapshots }

/-- The number of documents in the cache. -/
def count (cache : Cache S) : Nat :=
  SnapshotStore.count cache.snapshots

/-! ## What is cached after each operation -/

section Lawful

variable [LawfulSnapshotStore S]

@[simp]
theorem latest?_new (capacity : Nat) (id : Text) :
    (new capacity : Cache S).latest? id = none :=
  LawfulSnapshotStore.get?_empty capacity id

@[simp]
theorem latest?_insert_self {cache : Cache S} (hroom : SnapshotStore.HasRoom cache.snapshots)
    (id : Text) (snapshot : Snapshot) : (cache.insert id snapshot).latest? id = some snapshot :=
  LawfulSnapshotStore.get?_set_self hroom id snapshot

/-- Inserting one document leaves the others. -/
theorem latest?_insert_of_ne {cache : Cache S} (hroom : SnapshotStore.HasRoom cache.snapshots)
    {id other : Text} (hne : other ≠ id) (snapshot : Snapshot) :
    (cache.insert id snapshot).latest? other = cache.latest? other :=
  LawfulSnapshotStore.get?_set_of_ne hroom hne snapshot

@[simp]
theorem latest?_invalidate_self (cache : Cache S) (id : Text) :
    (cache.invalidate id).latest? id = none :=
  LawfulSnapshotStore.get?_erase_self id cache.snapshots

/-- Invalidating one document leaves the others. -/
theorem latest?_invalidate_of_ne {id other : Text} (hne : other ≠ id) (cache : Cache S) :
    (cache.invalidate id).latest? other = cache.latest? other :=
  LawfulSnapshotStore.get?_erase_of_ne hne cache.snapshots

@[simp]
theorem latest?_invalidateAll (cache : Cache S) (id : Text) :
    cache.invalidateAll.latest? id = none :=
  LawfulSnapshotStore.get?_clear id cache.snapshots

end Lawful

variable {σ ε : Type} {cache : Cache S} {id : Text} {version : Digest}
  {build : σ → Except ε Metadata.Contents × σ}

/-- What is cached is given out without building. -/
theorem getOrBuild_of_get? {snapshot : Snapshot} (h : cache.get? id version = some snapshot)
    (state : σ) : cache.getOrBuild id version build state = (.ok snapshot, cache, state) := by
  simp [getOrBuild, h]

/-- A failure to build leaves the cache as it is. -/
theorem getOrBuild_of_error (h : cache.get? id version = none) {state after : σ} {failure : ε}
    (hbuild : build state = (.error failure, after)) :
    cache.getOrBuild id version build state = (.error failure, cache, after) := by
  simp [getOrBuild, h, hbuild]

/-- What was built is stored and given out. -/
theorem getOrBuild_of_ok (h : cache.get? id version = none) {state after : σ}
    {contents : Metadata.Contents} (hbuild : build state = (.ok contents, after)) :
    cache.getOrBuild id version build state =
      (.ok (cache.snapshot version contents), cache.insert id (cache.snapshot version contents),
        after) := by
  simp [getOrBuild, h, hbuild]

end Cache

end PropertyKeys
