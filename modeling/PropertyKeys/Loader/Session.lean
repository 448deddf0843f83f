import PropertyKeys.Loader.Basic

/-!
# Sessions

A session is a loader at work: documents are written and removed, loaded and resolved against, and
loading is cancelled and taken up again. Each request is answered from what the earlier ones left.
Like the loader, a session works over any store below the cache.

## Main definitions

* `Session`: what the requests so far left.
* `Request` / `Reply`: what is asked and what is answered.
* `Session.perform`: the answer to a request, and the session after it.
-/

namespace PropertyKeys

/-- What the requests so far left. -/
structure Session (S : Type := OrderedMap Text Snapshot) [SnapshotStore S] where
  loader : Loader S := {}
  files : FileTree := {}
  token : CancelToken := {}
  /-- The catalog that raw keys are resolved against. -/
  catalog : Catalog := []
  /-- The numbers of the catalogs that were given out. -/
  seen : List Nat := []

/-- What is asked of a session. -/
inductive Request where
  | write (path : Text) (content : Bytes)
  | remove (path : Text)
  | settings
  | cancel
  | renewToken
  | read (source : Source)
  | load (source : Source)
  | loadDocuments (sources : List Source)
  | loadAll (sources : List Source)
  | resolve (raw : Text)
  | split (place : Nat) (raw : Text)
  | latest (id : Text)
  | get (id content : Text)
  /-- The snapshot of a document whose contents, if they are not cached, are keys of the given
  names; or building them fails. -/
  | getOrBuild (id content : Text) (names : List Text) (fails : Bool)
  | invalidate (id : Text)
  | invalidateAll
  | count

/-- What is given out together with whether its catalog was given out before. -/
structure Given (α : Type) where
  value : α
  again : Bool

/-- What a session answers. -/
inductive Reply where
  | done
  | settings (settings : Settings)
  | text (text : Text)
  | failed (failure : ReadFailure)
  | document (document : Given Loaded)
  | documents (documents : List (Given Loaded))
  | keys (keys : List Key)
  | resolution (resolution? : Option Resolution)
  | parts (parts? : Option KeyParts)
  | snapshot (snapshot? : Option (Given Snapshot))
  | count (count : Nat)

namespace Session

variable {S : Type} [SnapshotStore S]

/-- A snapshot given out. -/
def give (session : Session S) (snapshot : Snapshot) : Given Snapshot × Session S :=
  (⟨snapshot, session.seen.contains snapshot.number⟩,
    { session with seen := snapshot.number :: session.seen })

/-- A document given out. A document that could not be read has a catalog of its own. -/
def giveLoaded (session : Session S) (loaded : Loaded) : Given Loaded × Session S :=
  match loaded.snapshot? with
  | none => (⟨loaded, false⟩, session)
  | some snapshot =>
    let (given, session) := session.give snapshot
    (⟨loaded, given.again⟩, session)

/-- Documents given out in order. -/
def giveAll (session : Session S) : List Loaded → List (Given Loaded) × Session S
  | [] => ([], session)
  | loaded :: rest =>
    let (given, session) := session.giveLoaded loaded
    let (others, session) := giveAll session rest
    (given :: others, session)

/-- A snapshot that may be missing given out. -/
def giveSnapshot (session : Session S) : Option Snapshot → Reply × Session S
  | none => (.snapshot none, session)
  | some snapshot =>
    let (given, session) := session.give snapshot
    (.snapshot (some given), session)

/-- The session after loading. -/
def after {α : Type} (session : Session S) (loading : Loader.Loading α S) : Session S :=
  { session with loader := loading.2.1, token := loading.2.2 }

/-- The session with another cache. -/
def withCache (session : Session S) (cache : Cache S) : Session S :=
  { session with loader := { session.loader with cache } }

/-- The catalog of a document given out. -/
def load (session : Session S) (source : Source) : Reply × Session S :=
  let loading := session.loader.load session.files.read session.token source
  let session := session.after loading
  match loading.1 with
  | .error _ => (.failed .cancelled, session)
  | .ok loaded =>
    let (given, session) := session.giveLoaded loaded
    (.document given, session)

/-- The catalogs of documents given out. -/
def loadDocuments (session : Session S) (sources : List Source) : Reply × Session S :=
  let loading := session.loader.loadDocuments session.files.read session.token sources
  let session := session.after loading
  match loading.1 with
  | .error _ => (.failed .cancelled, session)
  | .ok documents =>
    let (given, session) := session.giveAll documents
    (.documents given, session)

/-- The catalog of documents together, which raw keys are resolved against from now on. -/
def loadAll (session : Session S) (sources : List Source) : Reply × Session S :=
  let loading := session.loader.loadAll session.files.read session.token sources
  let session := session.after loading
  match loading.1 with
  | .error _ => (.failed .cancelled, session)
  | .ok catalog => (.keys catalog.keys, { session with catalog })

/-- The contents that keys of some names make up, which nothing is wrong with. -/
def contentsOf (names : List Text) : Metadata.Contents :=
  { keys := names.map fun name => { name } }

/-- What is cached for a content of a document, or else what keys of some names make up. -/
def getOrBuild (session : Session S) (id content : Text) (names : List Text) (fails : Bool) :
    Reply × Session S :=
  let build := fun state : Unit =>
    if fails then (Except.error Cancelled.cancelled, state)
    else (Except.ok (contentsOf names), state)
  let (outcome, cache, _) :=
    session.loader.cache.getOrBuild id (Digest.ofText content) build ()
  let session := session.withCache cache
  match outcome with
  | .error _ => (.failed .cancelled, session)
  | .ok snapshot => session.giveSnapshot (some snapshot)

/-- The answer to a request, and the session after it. -/
def perform (session : Session S) : Request → Reply × Session S
  | .write path content => (.done, { session with files := session.files.write path content })
  | .remove path => (.done, { session with files := session.files.remove path })
  | .settings => (.settings session.loader.settings, session)
  | .cancel => (.done, { session with token := session.token.raise })
  | .renewToken => (.done, { session with token := session.token.renew })
  | .read source =>
    match source.read session.loader.settings session.files.read session.token with
    | .error failure => (.failed failure, session)
    | .ok text => (.text text, session)
  | .load source => session.load source
  | .loadDocuments sources => session.loadDocuments sources
  | .loadAll sources => session.loadAll sources
  | .resolve raw => (.resolution (session.loader.resolver.resolve? session.catalog raw), session)
  | .split place raw =>
    let parts? := session.catalog[place]?.bind fun entry => session.loader.split? entry.key raw
    (.parts parts?, session)
  | .latest id => session.giveSnapshot (session.loader.cache.latest? id)
  | .get id content =>
    session.giveSnapshot (session.loader.cache.get? id (Digest.ofText content))
  | .getOrBuild id content names fails => session.getOrBuild id content names fails
  | .invalidate id => (.done, session.withCache (session.loader.cache.invalidate id))
  | .invalidateAll => (.done, session.withCache session.loader.cache.invalidateAll)
  | .count => (.count session.loader.cache.count, session)

/-- The answers to some requests in order. -/
def run (session : Session S) : List Request → List Reply × Session S
  | [] => ([], session)
  | request :: requests =>
    let (reply, session) := session.perform request
    let (replies, session) := run session requests
    (reply :: replies, session)

end Session

end PropertyKeys
