import PropertyKeys.Cache
import PropertyKeys.Loader.Reading

/-!
# The loader

The loader turns documents into catalogs, through the cache. A document that cannot be read or that
is too large yields an empty catalog, which is not cached. Only cancellation makes loading fail.

## Main definitions

* `Loader.load`: the catalog of a document.
* `Loader.loadDocuments`: the catalogs of several documents.
* `Loader.loadAll`: the catalog of several documents together.
-/

namespace PropertyKeys

/-- Settings, what is known about types, and the cache, which is made for as many documents as the
settings say. -/
structure Loader (S : Type := OrderedMap Text Snapshot) [SnapshotStore S] where
  settings : Settings := {}
  known : KnownTypes := {}
  cache : Cache S := .new settings.cacheCapacity

/-- A document that was loaded. Without a snapshot the document could not be read. -/
structure Loaded where
  id : Text
  snapshot? : Option Snapshot

namespace Loaded

/-- The version of a document, if it could be read. -/
def version? (loaded : Loaded) : Option Digest :=
  loaded.snapshot?.map Snapshot.version

/-- The keys of a document. -/
def catalog (loaded : Loaded) : Catalog :=
  (loaded.snapshot?.map Snapshot.catalog).getD []

/-- What is wrong with a document. -/
def diagnostics (loaded : Loaded) : List Diagnostic :=
  (loaded.snapshot?.map Snapshot.diagnostics).getD []

end Loaded

namespace Loader

/-- What loading leaves behind: the outcome, the loader and the token. -/
abbrev Loading (α : Type) (S : Type := OrderedMap Text Snapshot) [SnapshotStore S] :=
  Except Cancelled α × Loader S × CancelToken

variable {S : Type} [SnapshotStore S]

/-- The catalog of a document whose text is known. -/
def loadText (loader : Loader S) (token : CancelToken) (source : Source) (text : Text) :
    Loading Loaded S :=
  let build := fun token => Metadata.parse loader.known source.provenance token text
  let (outcome, cache, token) :=
    loader.cache.getOrBuild source.id (Digest.ofText text) build token
  (outcome.map fun snapshot => { id := source.id, snapshot? := some snapshot },
    { loader with cache }, token)

/-- The catalog of a document. -/
def load (loader : Loader S) (files : FileReader) (token : CancelToken) (source : Source) :
    Loading Loaded S :=
  match source.read loader.settings files token with
  | .error .cancelled => (.error .cancelled, loader, token)
  | .error _ => (.ok { id := source.id, snapshot? := none }, loader, token)
  | .ok text => loader.loadText token source text

/-- The catalogs of several documents, loaded in order. -/
def loadDocuments (loader : Loader S) (files : FileReader) (token : CancelToken) :
    List Source → Loading (List Loaded) S
  | [] => (.ok [], loader, token)
  | source :: sources =>
    match loader.load files token source with
    | (.error outcome, loader, token) => (.error outcome, loader, token)
    | (.ok loaded, loader, token) =>
      let (outcome, loader, token) := loadDocuments loader files token sources
      (outcome.map (loaded :: ·), loader, token)

/-- The catalog of several documents together. -/
def loadAll (loader : Loader S) (files : FileReader) (token : CancelToken)
    (sources : List Source) : Loading Catalog S :=
  let (outcome, loader, token) := loader.loadDocuments files token sources
  (outcome.map fun documents => Catalog.concat (documents.map Loaded.catalog), loader, token)

/-- The resolver that the settings ask for. -/
def resolver (loader : Loader S) : Resolver :=
  loader.settings.resolver

/-- The parts of a raw key against a declared key, as the settings ask for. -/
def split? (loader : Loader S) (key : Key) (raw : Text) : Option KeyParts :=
  KeyParts.split? key raw loader.settings.caseSensitiveKeys

end Loader

end PropertyKeys
