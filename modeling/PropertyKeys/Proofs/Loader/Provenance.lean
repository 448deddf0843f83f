import PropertyKeys.Proofs.Loader.Runs

/-!
# Provenance of loaded keys

The keys in a snapshot tell where the document came from when the snapshot was built. The cache
finds a snapshot by the identity of the document and the digest of its text alone. So a document
that is loaded again for another library, or as a document of another kind, may be given out with
keys that tell its earlier provenance.

## Main definitions

* `Loaded.CarriesEdition`: whether the keys of a document tell where one of some editions came from.

## Main results

* `Session.carriesEdition_of_run`: what the keys that a run gives out tell.
* `Session.exists_library_ne_and_trace_ne`: keys that do not tell the provenance of their source.
-/

namespace PropertyKeys

/-- What is given out for a document has the version of its text, and its keys all tell where one
edition came from: one with the same identity, whose text has the same digest. -/
structure Loaded.CarriesEdition (editions : List Edition) (settings : Settings)
    (files : FileReader) (source : Source) (loaded : Loaded) : Prop where
  id : loaded.id = source.id
  version : loaded.version? = (source.text? settings files).map Digest.ofText
  keys : loaded.catalog = [] ∨
    ∃ edition ∈ editions, edition.source.id = source.id ∧
      loaded.version? = some (Digest.ofText edition.text) ∧
      ∀ key ∈ loaded.catalog.keys, edition.source.provenance.IsCarriedBy key

/-- The keys of a snapshot tell where its edition came from. -/
theorem Snapshot.IsOf.isCarriedBy {known : KnownTypes} {edition : Edition} {snapshot : Snapshot}
    (h : snapshot.IsOf known edition) :
    ∀ key ∈ snapshot.catalog.keys, edition.source.provenance.IsCarriedBy key := by
  intro key hkey
  have hcontents := h.contents
  rw [Metadata.parse_new, Except.ok.injEq] at hcontents
  apply Metadata.isCarriedBy_contents known edition.source.provenance edition.text
  rwa [hcontents]

theorem Loaded.IsServed.carriesEdition {known : KnownTypes} {editions : List Edition}
    {settings : Settings} {files : FileReader} {source : Source} {loaded : Loaded}
    (h : loaded.IsServed known editions settings files source) :
    loaded.CarriesEdition editions settings files source := by
  cases htext : source.text? settings files with
  | none =>
    have hnone := h.unread htext
    exact ⟨h.id, by rw [version?, hnone, htext]; rfl, .inl (by rw [catalog, hnone]; rfl)⟩
  | some text =>
    obtain ⟨snapshot, hsnapshot, hversion, edition, hedition, hid, hof⟩ := h.read text htext
    have hloaded : loaded.version? = some snapshot.version := by rw [version?, hsnapshot]; rfl
    have hcatalog : loaded.catalog = snapshot.catalog := by rw [catalog, hsnapshot]; rfl
    refine ⟨h.id, ?_, .inr ⟨edition, hedition, hid, ?_, ?_⟩⟩
    · rw [hloaded, hversion, htext]
      rfl
    · rw [hloaded, hof.version]
    · rw [hcatalog]
      exact hof.isCarriedBy

/-- **What loaded keys tell.** The keys that the last request of a run gives out tell, for each
document, where one edition of the run came from: an edition with the same identity whose text has
the same digest. If a document was loaded before with another provenance, this need not be the
provenance that it is loaded with now. The store may be any lawful one, as long as it has room for
the documents. -/
theorem Session.carriesEdition_of_run {S : Type} [SnapshotStore S] [LawfulSnapshotStore S]
    (settings : Settings) (known : KnownTypes) (files : FileTree) (token : CancelToken)
    (earlier : List Request) (request : Request)
    (hroom : (start settings known files token : Session S).HasRoomFor (earlier ++ [request]))
    (hhand : ∀ asked ∈ earlier ++ [request], asked.buildsByHand = false) :
    let session : Session S := start settings known files token
    let last := (session.run earlier).2
    request.IsAnswered
      (Loaded.CarriesEdition (session.editions (earlier ++ [request])) settings last.files.read)
      last.token (last.perform request) :=
  (isAnswered_run settings known files token earlier request hroom hhand).imp fun _ _ hserved =>
    hserved.carriesEdition

/-- A document that is made by a build of one library. -/
def builtForOne : Source :=
  (Source.inline "m".toList (oneKeyDocument "a".toList)).withLibrary "one".toList

/-- The same document, written by hand for another library. -/
def handwrittenForTwo : Source :=
  (builtForOne.withLibrary "two".toList).withKind .handwritten

/-- The answer to loading the document for the other library after it was loaded for the one. -/
def secondAnswer : Reply × Session :=
  ((Session.start {} {} {} {}).run [.load builtForOne]).2.perform (.load handwrittenForTwo)

/-- The origins of the keys of a document that is given out. -/
def Reply.origins? : Reply → Option (List Origin)
  | .document given => some (given.value.catalog.keys.map Key.origin)
  | _ => none

theorem origins?_secondAnswer :
    secondAnswer.1.origins? = some [⟨"one".toList, none, .document⟩] := by
  decide +kernel

/-- The keys of the second document tell where some edition came from. -/
theorem Session.carriesEdition_of_run_secondAnswer :
    let first : Session := start {} {} {} {}
    first.HasRoomFor ([.load builtForOne] ++ [.load handwrittenForTwo]) ∧
      (∀ asked ∈ [Request.load builtForOne] ++ [.load handwrittenForTwo],
        asked.buildsByHand = false) ∧
      ∃ document, secondAnswer.1 = .document document ∧
        document.value.CarriesEdition
          (first.editions ([.load builtForOne] ++ [.load handwrittenForTwo])) {}
          (first.run [.load builtForOne]).2.files.read handwrittenForTwo := by
  intro first
  have hroom : first.HasRoomFor ([.load builtForOne] ++ [.load handwrittenForTwo]) :=
    first.hasRoomFor_of_forall (fun _ => trivial) _
  have hhand : ∀ asked ∈ [Request.load builtForOne] ++ [.load handwrittenForTwo],
      asked.buildsByHand = false := by decide
  refine ⟨hroom, hhand, ?_⟩
  obtain hcarries | ⟨hfailed, -⟩ := carriesEdition_of_run {} {} {} {} [.load builtForOne]
    (.load handwrittenForTwo) hroom hhand
  · exact hcarries
  · have horigins := origins?_secondAnswer
    rw [secondAnswer, hfailed] at horigins
    cases horigins

/-- The keys of the second document tell neither the library nor the kind that it is loaded with. -/
theorem Session.exists_library_ne_and_trace_ne :
    ∃ document, secondAnswer.1 = .document document ∧
      ∃ key ∈ document.value.catalog.keys,
        key.origin.library ≠ handwrittenForTwo.provenance.library ∧
          key.origin.sourceType? = none ∧ handwrittenForTwo.provenance.kind = .handwritten ∧
            key.origin.trace ≠ .handwritten := by
  have horigins := origins?_secondAnswer
  cases hanswer : secondAnswer.1 with
  | document document =>
    rw [hanswer, Reply.origins?, Option.some.injEq] at horigins
    have hmem : (⟨"one".toList, none, .document⟩ : Origin) ∈
        document.value.catalog.keys.map Key.origin := horigins ▸ List.mem_singleton_self _
    obtain ⟨key, hkey, horigin⟩ := List.mem_map.mp hmem
    refine ⟨document, rfl, key, hkey, ?_⟩
    rw [horigin]
    decide
  | _ => rw [hanswer] at horigins; cases horigins

end PropertyKeys
