import Mathlib.Data.List.Forall2
import PropertyKeys.Loader.Basic
import PropertyKeys.Proofs.Metadata.Contents
import PropertyKeys.Proofs.Text.Encoding

/-!
# Where snapshots come from

Every snapshot in the cache was built from a document with the text that it had when it was loaded.
Loading keeps it that way, whether a snapshot is found, built, or given up. What is given out for a
document is then a snapshot of a document of the same identity whose text has the same digest, which
need not be the same document. All this holds over every lawful store, as long as it has room.

## Main definitions

* `Source.text?`: the text of a document that can be read and is not too large.
* `Edition`: a document with the text that it had at some time.
* `Snapshot.IsOf`: whether a snapshot is that of an edition.
* `Cache.HoldsOnly`: whether every snapshot in the cache is that of one of some editions.
* `Loaded.IsServed`: whether what loading gives out is that of one of some editions.
* `Loader.HasRoomFor`: whether the store has room for some documents.

## Main results

* `Loader.endsWell_load`, `Loader.endsWell_loadDocuments`, `Loader.endsWell_loadAll`: what loading
  gives out and what it leaves in the cache.
-/

namespace PropertyKeys

variable {S : Type} [SnapshotStore S]

/-! ## Texts of documents -/

namespace Source

/-- The bytes of a document, if it has any. -/
def bytes? (files : FileReader) (source : Source) : Option Bytes :=
  match source.location with
  | .inline text => some (Utf8.encode text)
  | .path path => (files path).toOption

/-- The text of a document that can be read and is not too large. -/
def text? (settings : Settings) (files : FileReader) (source : Source) : Option Text :=
  (source.bytes? files).bind fun bytes =>
    if bytes.length ≤ settings.maxDocumentSize then (Utf8.decode bytes).toOption else none

variable {settings : Settings} {files : FileReader} {source : Source}

/-- A document has a text exactly if its bytes are those of the text and not too many. -/
theorem text?_eq_some_iff {text : Text} :
    source.text? settings files = some text ↔
      source.bytes? files = some (Utf8.encode text) ∧
        (Utf8.encode text).length ≤ settings.maxDocumentSize := by
  rw [text?, Option.bind_eq_some_iff]
  constructor
  · rintro ⟨bytes, hbytes, htext⟩
    split at htext
    case isFalse => cases htext
    case isTrue hsize =>
      have hdecode : Utf8.decode bytes = .ok text := by
        cases hcase : Utf8.decode bytes with
        | error fault => simp [hcase, Except.toOption] at htext
        | ok decoded =>
          rw [hcase] at htext
          exact congrArg Except.ok (Option.some.inj htext)
      obtain rfl := Utf8.decode_eq_ok_iff.mp hdecode
      exact ⟨hbytes, hsize⟩
  · rintro ⟨hbytes, hsize⟩
    refine ⟨_, hbytes, ?_⟩
    rw [if_pos hsize, Utf8.decode_encode]
    rfl

/-- Reading a document yields its text, or it is given up because the token is raised, or it fails
because there is no text. -/
theorem read_cases (settings : Settings) (files : FileReader) (token : CancelToken)
    (source : Source) :
    (∃ text, source.read settings files token = .ok text ∧
        source.text? settings files = some text) ∨
      (source.read settings files token = .error .cancelled ∧ token.raised = true) ∨
      ∃ failure, source.read settings files token = .error failure ∧ failure ≠ .cancelled ∧
        source.text? settings files = none := by
  unfold read text? bytes?
  cases source.location with
  | inline text =>
    simp only [Option.bind_some, Utf8.length_encode]
    by_cases hsize : settings.maxDocumentSize < Text.byteSize text
    · rw [if_pos hsize, if_neg (Nat.not_le.mpr hsize)]
      exact .inr (.inr ⟨_, rfl, nofun, rfl⟩)
    · rw [if_neg hsize, if_pos (Nat.not_lt.mp hsize), Utf8.decode_encode]
      exact .inl ⟨text, rfl, rfl⟩
  | path path =>
    simp only
    by_cases hraised : token.raised = true
    · rw [if_pos hraised]
      exact .inr (.inl ⟨rfl, hraised⟩)
    · rw [if_neg hraised]
      cases files path with
      | error fault => exact .inr (.inr ⟨_, rfl, nofun, rfl⟩)
      | ok content =>
        simp only [Except.toOption, Option.bind_some]
        by_cases hsize : settings.maxDocumentSize < content.length
        · rw [if_pos hsize, if_neg (Nat.not_le.mpr hsize)]
          exact .inr (.inr ⟨_, rfl, nofun, rfl⟩)
        · rw [if_neg hsize, if_pos (Nat.not_lt.mp hsize)]
          cases Utf8.decode content with
          | error fault => exact .inr (.inr ⟨_, rfl, nofun, rfl⟩)
          | ok text => exact .inl ⟨text, rfl, rfl⟩

end Source

/-! ## Snapshots and editions -/

/-- A document with the text that it had at some time. -/
structure Edition where
  source : Source
  text : Text
  deriving DecidableEq

/-- A snapshot is that of an edition: it has its version, and it holds what a reading of the text
yields that nobody cancels. -/
structure Snapshot.IsOf (known : KnownTypes) (edition : Edition) (snapshot : Snapshot) : Prop where
  version : snapshot.version = Digest.ofText edition.text
  contents : (Metadata.parse known edition.source.provenance {} edition.text).1 =
    .ok { keys := snapshot.catalog.keys, diagnostics := snapshot.diagnostics }

/-- Every snapshot in the cache is that of one of the editions, under its identity. -/
def Cache.HoldsOnly (known : KnownTypes) (editions : List Edition) (cache : Cache S) : Prop :=
  ∀ id snapshot, cache.latest? id = some snapshot →
    ∃ edition ∈ editions, edition.source.id = id ∧ snapshot.IsOf known edition

/-- What is given out for a document. Without a text it is nothing. Else the document with its text
is one of the editions, and what is given out is a snapshot of the version of the text, which was
built from one of the editions with the same identity. -/
structure Loaded.IsServed (known : KnownTypes) (editions : List Edition) (settings : Settings)
    (files : FileReader) (source : Source) (loaded : Loaded) : Prop where
  id : loaded.id = source.id
  unread : source.text? settings files = none → loaded.snapshot? = none
  mem : ∀ text, source.text? settings files = some text → ⟨source, text⟩ ∈ editions
  read : ∀ text, source.text? settings files = some text →
    ∃ snapshot, loaded.snapshot? = some snapshot ∧ snapshot.version = Digest.ofText text ∧
      ∃ edition ∈ editions, edition.source.id = source.id ∧ snapshot.IsOf known edition

namespace Cache

variable {known : KnownTypes} {editions : List Edition} {cache : Cache S}

/-- A newly built snapshot is that of the edition that was read. -/
theorem isOf_snapshot (known : KnownTypes) (cache : Cache S) (edition : Edition) :
    (cache.snapshot (Digest.ofText edition.text)
      (Metadata.contents known edition.source.provenance edition.text)).IsOf known edition := by
  refine ⟨rfl, ?_⟩
  rw [Metadata.parse_new, Cache.snapshot, Catalog.keys_ofKeys]

variable [LawfulSnapshotStore S]

theorem HoldsOnly.new (known : KnownTypes) (editions : List Edition) (capacity : Nat) :
    (new capacity : Cache S).HoldsOnly known editions := by
  intro id found hfound
  rw [latest?_new] at hfound
  cases hfound

theorem HoldsOnly.insert (h : cache.HoldsOnly known editions)
    (hroom : SnapshotStore.HasRoom cache.snapshots) {edition : Edition}
    (hmem : edition ∈ editions) {snapshot : Snapshot} (hsnapshot : snapshot.IsOf known edition) :
    (cache.insert edition.source.id snapshot).HoldsOnly known editions := by
  intro id found hfound
  by_cases hid : id = edition.source.id
  · subst hid
    rw [latest?_insert_self hroom, Option.some.injEq] at hfound
    exact ⟨edition, hmem, rfl, hfound ▸ hsnapshot⟩
  · rw [latest?_insert_of_ne hroom hid] at hfound
    exact h id found hfound

theorem HoldsOnly.invalidate (h : cache.HoldsOnly known editions) (id : Text) :
    (cache.invalidate id).HoldsOnly known editions := by
  intro other found hfound
  by_cases hid : other = id
  · rw [hid, latest?_invalidate_self] at hfound
    cases hfound
  · rw [latest?_invalidate_of_ne hid] at hfound
    exact h other found hfound

theorem HoldsOnly.invalidateAll (known : KnownTypes) (editions : List Edition) (cache : Cache S) :
    cache.invalidateAll.HoldsOnly known editions := by
  intro id found hfound
  rw [latest?_invalidateAll] at hfound
  cases hfound

/-- Getting the snapshot of an edition leaves only snapshots of editions. It gives out a snapshot of
the same version, or it is given up. It raises no token by itself. -/
theorem HoldsOnly.getOrBuild (h : cache.HoldsOnly known editions)
    (hroom : SnapshotStore.HasRoom cache.snapshots) {edition : Edition}
    (hmem : edition ∈ editions) (token : CancelToken)
    {got : Except Cancelled Snapshot × Cache S × CancelToken}
    (hgot : got = cache.getOrBuild edition.source.id (Digest.ofText edition.text)
      (fun token => Metadata.parse known edition.source.provenance token edition.text) token) :
    got.2.1.HoldsOnly known editions ∧ (token.IsQuiet → got.2.2.IsQuiet) ∧
      ((∃ snapshot, got.1 = .ok snapshot ∧ snapshot.version = Digest.ofText edition.text ∧
          ∃ other ∈ editions, other.source.id = edition.source.id ∧ snapshot.IsOf known other) ∨
        got.1 = .error .cancelled ∧ token.Cancels got.2.2) := by
  subst hgot
  cases hget : cache.get? edition.source.id (Digest.ofText edition.text) with
  | some snapshot =>
    rw [getOrBuild_of_get? hget]
    -- what is found may have been built from another edition of the same version
    obtain ⟨hlatest, hversion⟩ := Option.filter_eq_some_iff.mp hget
    exact ⟨h, id, .inl ⟨snapshot, rfl, of_decide_eq_true hversion, h _ _ hlatest⟩⟩
  | none =>
    have hparse := Metadata.endsIn_parse known edition.source.provenance token edition.text
    cases hwork : Metadata.parse known edition.source.provenance token edition.text with
    | mk outcome after =>
      rw [hwork] at hparse
      obtain hok | ⟨herror, hcancels⟩ := hparse.cases
      · obtain rfl : outcome = _ := hok
        have hsnapshot := isOf_snapshot known cache edition
        rw [getOrBuild_of_ok hget hwork]
        exact ⟨h.insert hroom hmem hsnapshot, hparse.quiet,
          .inl ⟨_, rfl, rfl, edition, hmem, rfl, hsnapshot⟩⟩
      · obtain rfl : outcome = _ := herror
        rw [getOrBuild_of_error hget hwork]
        exact ⟨h, hparse.quiet, .inr ⟨rfl, hcancels⟩⟩

end Cache

/-! ## Loading -/

namespace Loader

variable {editions : List Edition} {loader : Loader S} {token : CancelToken} {files : FileReader}

/-- The store has room for the documents: it has room for each one when that is loaded, by the
loader and with the token that the one before left. -/
def HasRoomFor (loader : Loader S) (files : FileReader) (token : CancelToken) :
    List Source → Prop
  | [] => True
  | source :: sources =>
    SnapshotStore.HasRoom loader.cache.snapshots ∧
      (loader.load files token source).2.1.HasRoomFor files (loader.load files token source).2.2
        sources

instance decidableHasRoomFor [(store : S) → Decidable (SnapshotStore.HasRoom store)]
    (loader : Loader S) (files : FileReader) (token : CancelToken) :
    (sources : List Source) → Decidable (loader.HasRoomFor files token sources)
  | [] => .isTrue trivial
  | source :: sources =>
    @instDecidableAnd _ _ _ (decidableHasRoomFor (loader.load files token source).2.1 files
      (loader.load files token source).2.2 sources)

/-- A store that always has room has room for any documents. -/
theorem hasRoomFor_of_forall (hroom : ∀ store : S, SnapshotStore.HasRoom store)
    (loader : Loader S) (files : FileReader) (token : CancelToken) (sources : List Source) :
    loader.HasRoomFor files token sources := by
  induction sources generalizing loader token with
  | nil => trivial
  | cons source sources ih => exact ⟨hroom _, ih _ _⟩

/-- Loading ends well: either it gives out a result with a property or it is given up. It raises no
token by itself, and it changes nothing about the loader but the cache, which holds only some
editions. -/
structure EndsWell {α : Type} (editions : List Edition) (loader : Loader S) (token : CancelToken)
    (P : α → Prop) (loading : Loading α S) : Prop where
  settings : loading.2.1.settings = loader.settings
  known : loading.2.1.known = loader.known
  cache : loading.2.1.cache.HoldsOnly loader.known editions
  quiet : token.IsQuiet → loading.2.2.IsQuiet
  outcome : (∃ result, loading.1 = .ok result ∧ P result) ∨
    loading.1 = .error .cancelled ∧ token.Cancels loading.2.2

theorem EndsWell.map {α β : Type} {P : α → Prop} {Q : β → Prop} {loading : Loading α S}
    (h : EndsWell editions loader token P loading) (f : α → β) (hf : ∀ a, P a → Q (f a)) :
    EndsWell editions loader token Q (loading.1.map f, loading.2) := by
  refine ⟨h.settings, h.known, h.cache, h.quiet, ?_⟩
  obtain ⟨result, hok, hresult⟩ | ⟨herror, hcancels⟩ := h.outcome
  · exact .inl ⟨f result, by rw [hok]; rfl, hf result hresult⟩
  · exact .inr ⟨by rw [herror]; rfl, hcancels⟩

/-- What ends well after something else that ended well does so for the loader and the token before
both. -/
theorem EndsWell.of_left {α β : Type} {P : α → Prop} {Q : β → Prop} {first : Loading α S}
    {loading : Loading β S} (h : EndsWell editions first.2.1 first.2.2 Q loading)
    (hfirst : EndsWell editions loader token P first) :
    EndsWell editions loader token Q loading :=
  ⟨h.settings.trans hfirst.settings, h.known.trans hfirst.known, hfirst.known ▸ h.cache,
    fun hquiet => h.quiet (hfirst.quiet hquiet),
    h.outcome.imp_right (And.imp_right (And.imp_left (mt hfirst.quiet)))⟩

variable [LawfulSnapshotStore S]

theorem endsWell_loadText (token : CancelToken)
    (hroom : SnapshotStore.HasRoom loader.cache.snapshots)
    (hcache : loader.cache.HoldsOnly loader.known editions) {source : Source} {text : Text}
    (htext : source.text? loader.settings files = some text)
    (hmem : ⟨source, text⟩ ∈ editions) :
    EndsWell editions loader token
      (Loaded.IsServed loader.known editions loader.settings files source)
      (loader.loadText token source text) := by
  have hserved {snapshot : Snapshot} (hversion : snapshot.version = Digest.ofText text)
      (hfrom : ∃ edition ∈ editions, edition.source.id = source.id ∧
        snapshot.IsOf loader.known edition) :
      Loaded.IsServed loader.known editions loader.settings files source
        { id := source.id, snapshot? := some snapshot } := by
    refine ⟨rfl, fun hnone => ?_, fun other hother => ?_, fun other hother => ?_⟩
    · rw [htext] at hnone
      cases hnone
    · obtain rfl := Option.some.inj (htext.symm.trans hother)
      exact hmem
    · obtain rfl := Option.some.inj (htext.symm.trans hother)
      exact ⟨snapshot, rfl, hversion, hfrom⟩
  obtain ⟨hnext, hquiet, hend⟩ := hcache.getOrBuild hroom hmem token rfl
  refine ⟨rfl, rfl, hnext, hquiet, ?_⟩
  obtain ⟨snapshot, hsnapshot, hversion, hfrom⟩ | ⟨herror, hcancels⟩ := hend
  · exact .inl ⟨_, congrArg (Except.map _) hsnapshot, hserved hversion hfrom⟩
  · exact .inr ⟨congrArg (Except.map _) herror, hcancels⟩

theorem endsWell_load (token : CancelToken) (hroom : SnapshotStore.HasRoom loader.cache.snapshots)
    (hcache : loader.cache.HoldsOnly loader.known editions) {source : Source}
    (hmem : ∀ text, source.text? loader.settings files = some text → ⟨source, text⟩ ∈ editions) :
    EndsWell editions loader token
      (Loaded.IsServed loader.known editions loader.settings files source)
      (loader.load files token source) := by
  unfold load
  obtain ⟨text, hread, htext⟩ | ⟨hread, hraised⟩ | ⟨failure, hread, hne, htext⟩ :=
    source.read_cases loader.settings files token
  · rw [hread]
    exact endsWell_loadText token hroom hcache htext (hmem text htext)
  · rw [hread]
    exact ⟨rfl, rfl, hcache, id, .inr ⟨rfl, .of_raised hraised⟩⟩
  · have hserved : Loaded.IsServed loader.known editions loader.settings files source
        { id := source.id, snapshot? := none } :=
      ⟨rfl, fun _ => rfl, hmem, fun text hsome => by simp [htext] at hsome⟩
    rw [hread]
    cases failure with
    | cancelled => exact absurd rfl hne
    | tooLarge | unreadable => exact ⟨rfl, rfl, hcache, id, .inl ⟨_, rfl, hserved⟩⟩

theorem endsWell_loadDocuments {sources : List Source}
    (hroom : loader.HasRoomFor files token sources)
    (hcache : loader.cache.HoldsOnly loader.known editions)
    (hmem : ∀ source ∈ sources, ∀ text,
      source.text? loader.settings files = some text → ⟨source, text⟩ ∈ editions) :
    EndsWell editions loader token
      (List.Forall₂ (Loaded.IsServed loader.known editions loader.settings files) sources)
      (loader.loadDocuments files token sources) := by
  -- each document is loaded by the loader and with the token that the one before left
  induction sources generalizing loader token with
  | nil => exact ⟨rfl, rfl, hcache, id, .inl ⟨[], rfl, .nil⟩⟩
  | cons source sources ih =>
    obtain ⟨hfirst, hothers⟩ := List.forall_mem_cons.mp hmem
    obtain ⟨hnow, hthen⟩ := hroom
    have hload := endsWell_load token hnow hcache hfirst
    unfold loadDocuments
    cases hcase : loader.load files token source with
    | mk outcome left =>
      obtain ⟨next, later⟩ := left
      rw [hcase] at hload hthen
      obtain ⟨loaded, hok, hloaded⟩ | ⟨herror, hcancels⟩ := hload.outcome
      · obtain rfl : outcome = _ := hok
        have hrest := ih hthen (hload.known ▸ hload.cache) (hload.settings ▸ hothers)
        rw [hload.known, hload.settings] at hrest
        exact (hrest.of_left hload).map (loaded :: ·) fun _ hdocuments => .cons hloaded hdocuments
      · obtain rfl : outcome = _ := herror
        exact ⟨hload.settings, hload.known, hload.cache, hload.quiet, .inr ⟨rfl, hcancels⟩⟩

theorem endsWell_loadAll {sources : List Source} (hroom : loader.HasRoomFor files token sources)
    (hcache : loader.cache.HoldsOnly loader.known editions)
    (hmem : ∀ source ∈ sources, ∀ text,
      source.text? loader.settings files = some text → ⟨source, text⟩ ∈ editions) :
    EndsWell editions loader token
      (fun catalog => ∃ documents,
        List.Forall₂ (Loaded.IsServed loader.known editions loader.settings files) sources
          documents ∧ catalog = Catalog.concat (documents.map Loaded.catalog))
      (loader.loadAll files token sources) :=
  (endsWell_loadDocuments hroom hcache hmem).map _ fun documents hdocuments =>
    ⟨documents, hdocuments, rfl⟩

end Loader

end PropertyKeys
