import PropertyKeys.Proofs.Cache.History
import PropertyKeys.Proofs.Loader.Runs

/-!
# Loads that are given up

Loading a document fails only if it is given up, and then the loader is left as it was. If several
documents are loaded, what the ones before were loaded to stays. A raised token makes loading fail,
with two exceptions: a text at hand that is too large, and one whose version is cached, are given
out without a look at the token.

Nothing here depends on the store behind the cache, but for what is said about the snapshots of
other documents: these stay as long as the store has room.

## Main definitions

* `Loader.LoadsTo`: what loading a document comes to.
* `Loader.afterEach`: what loading documents one by one leaves.
* `Loader.StopsAt`: how loading several documents fails.
* `Loader.LoadsRegardless`: whether a document is loaded without a look at the token.

## Main results

* `Loader.loadsTo_load`: loading a document, case by case.
* `Loader.unchanged_of_error`: what failed loads leave.
* `Loader.givesUp_iff_of_raised`: when loading fails with a raised token.
-/

namespace PropertyKeys.Loader

variable {S : Type} [SnapshotStore S]

/-! ## One document -/

/-- What loading a document comes to. -/
inductive LoadsTo (loader : Loader S) (files : FileReader) (token : CancelToken)
    (source : Source) : Loading Loaded S → Prop
  /-- The token is raised before the document is read. -/
  | givenUp (hread : source.read loader.settings files token = .error .cancelled)
    (hraised : token.raised = true) :
    LoadsTo loader files token source (.error .cancelled, loader, token)
  /-- The document cannot be read. -/
  | unreadable {failure : ReadFailure}
    (hread : source.read loader.settings files token = .error failure)
    (hfailure : failure ≠ .cancelled) :
    LoadsTo loader files token source
      (.ok { id := source.id, snapshot? := none }, loader, token)
  /-- The version of the document is cached. -/
  | cached {text : Text} {snapshot : Snapshot}
    (hread : source.read loader.settings files token = .ok text)
    (hget : loader.cache.get? source.id (Digest.ofText text) = some snapshot) :
    LoadsTo loader files token source
      (.ok { id := source.id, snapshot? := some snapshot }, loader, token)
  /-- The token is raised before the last entry of the document is read. -/
  | interrupted {text : Text} {after : CancelToken}
    (hread : source.read loader.settings files token = .ok text)
    (hget : loader.cache.get? source.id (Digest.ofText text) = none)
    (hparse : Metadata.parse loader.known source.provenance token text =
      (.error .cancelled, after)) (hraised : after.raised = true) :
    LoadsTo loader files token source (.error .cancelled, loader, after)
  /-- A snapshot of the document is built. -/
  | built {text : Text} {contents : Metadata.Contents} {after : CancelToken}
    (hread : source.read loader.settings files token = .ok text)
    (hget : loader.cache.get? source.id (Digest.ofText text) = none)
    (hparse : Metadata.parse loader.known source.provenance token text = (.ok contents, after))
    {snapshot : Snapshot}
    (hsnapshot : snapshot = loader.cache.snapshot (Digest.ofText text) contents) :
    LoadsTo loader files token source
      (.ok { id := source.id, snapshot? := some snapshot },
        { loader with cache := loader.cache.insert source.id snapshot }, after)

theorem loadsTo_loadText (loader : Loader S) (files : FileReader) (token : CancelToken)
    {source : Source} {text : Text}
    (hread : source.read loader.settings files token = .ok text) :
    LoadsTo loader files token source (loader.loadText token source text) := by
  have hparse := Metadata.endsIn_parse loader.known source.provenance token text
  rw [loadText]
  obtain ⟨snapshot, hget, hgot⟩ | ⟨failure, hget, hfailed, hgot⟩ | ⟨contents, hget, hbuilt, hgot⟩ :=
    loader.cache.getOrBuild_cases source.id (Digest.ofText text)
      (fun token => Metadata.parse loader.known source.provenance token text) token
  · rw [hgot]
    exact .cached hread hget
  · rw [hgot]
    obtain hok | ⟨-, -, hraised⟩ := hparse.cases
    · cases hfailed.symm.trans hok
    · exact .interrupted hread hget (Prod.ext hfailed rfl) hraised
  · rw [hgot]
    exact .built hread hget (Prod.ext hbuilt rfl) rfl

/-- Loading a document, case by case. -/
theorem loadsTo_load (loader : Loader S) (files : FileReader) (token : CancelToken)
    (source : Source) : LoadsTo loader files token source (loader.load files token source) := by
  rw [load]
  obtain ⟨text, hread, -⟩ | ⟨hread, hraised⟩ | ⟨failure, hread, hne, -⟩ :=
    source.read_cases loader.settings files token
  · rw [hread]
    exact loadsTo_loadText loader files token hread
  · rw [hread]
    exact .givenUp hread hraised
  · rw [hread]
    cases failure with
    | cancelled => exact absurd rfl hne
    | tooLarge | unreadable => exact .unreadable hread hne

variable {loader : Loader S} {files : FileReader} {token : CancelToken} {source : Source}

theorem load_of_read_error {failure : ReadFailure}
    (hread : source.read loader.settings files token = .error failure)
    (hfailure : failure ≠ .cancelled) :
    loader.load files token source =
      (.ok { id := source.id, snapshot? := none }, loader, token) := by
  rw [load, hread]
  cases failure with
  | cancelled => exact absurd rfl hfailure
  | tooLarge | unreadable => rfl

/-- A failed load leaves the loader as it was. It fails only if the token was raised. -/
theorem unchanged_of_load_error {failure : Cancelled}
    (h : (loader.load files token source).1 = .error failure) :
    (loader.load files token source).2.1 = loader ∧
      (loader.load files token source).2.2.raised = true := by
  have hloads := loadsTo_load loader files token source
  generalize loader.load files token source = loading at h hloads ⊢
  cases hloads with
  | givenUp hread hraised => exact ⟨rfl, hraised⟩
  | interrupted hread hget hparse hraised => exact ⟨rfl, hraised⟩
  | unreadable | cached | built => cases h

theorem latest?_load_of_ne [LawfulSnapshotStore S]
    (hroom : SnapshotStore.HasRoom loader.cache.snapshots) {id : Text} (hne : source.id ≠ id) :
    (loader.load files token source).2.1.cache.latest? id = loader.cache.latest? id := by
  have hloads := loadsTo_load loader files token source
  generalize loader.load files token source = loading at hloads ⊢
  cases hloads with
  | built => exact Cache.latest?_insert_of_ne hroom (Ne.symm hne) _
  | givenUp | unreadable | cached | interrupted => rfl

/-! ## Several documents -/

/-- What loading documents one by one leaves, each by the loader and with the token that the one
before left. -/
def afterEach (loader : Loader S) (files : FileReader) (token : CancelToken)
    (sources : List Source) : Loader S × CancelToken :=
  sources.foldl (fun left source => (left.1.load files left.2 source).2) (loader, token)

/-- Loading documents one by one stops at the first of them for which it is given up. What is left
is what loading the ones before left. -/
structure StopsAt (loader : Loader S) (files : FileReader) (token : CancelToken)
    (earlier : List Source) (source : Source) (left : Loader S) : Prop where
  loaded : ∀ before next after, earlier = before ++ next :: after →
    ∃ document, ((loader.afterEach files token before).1.load files
      (loader.afterEach files token before).2 next).1 = .ok document
  failed : ((loader.afterEach files token earlier).1.load files
    (loader.afterEach files token earlier).2 source).1 = .error .cancelled
  left_eq : left = (loader.afterEach files token earlier).1

theorem afterEach_cons (loader : Loader S) (files : FileReader) (token : CancelToken)
    (source : Source) (sources : List Source) :
    loader.afterEach files token (source :: sources) =
      (loader.load files token source).2.1.afterEach files (loader.load files token source).2.2
        sources :=
  rfl

theorem latest?_afterEach_of_ne [LawfulSnapshotStore S] {sources : List Source}
    (hroom : loader.HasRoomFor files token sources) {id : Text}
    (hne : ∀ source ∈ sources, source.id ≠ id) :
    (loader.afterEach files token sources).1.cache.latest? id = loader.cache.latest? id := by
  induction sources generalizing loader token with
  | nil => rfl
  | cons source sources ih =>
    obtain ⟨hfirst, hothers⟩ := List.forall_mem_cons.mp hne
    obtain ⟨hnow, hthen⟩ := hroom
    rw [afterEach_cons, ih hthen hothers]
    exact latest?_load_of_ne hnow hfirst

theorem map_eq_error_iff {α β : Type} (f : α → β) {outcome : Except Cancelled α}
    {failure : Cancelled} : outcome.map f = .error failure ↔ outcome = .error failure := by
  cases outcome <;> simp [Except.map]

theorem loadDocuments_cons_of_error {failure : Cancelled}
    (h : (loader.load files token source).1 = .error failure) (sources : List Source) :
    loader.loadDocuments files token (source :: sources) =
      (.error failure, (loader.load files token source).2) := by
  rw [loadDocuments]
  cases hload : loader.load files token source with
  | mk outcome left =>
    obtain rfl : outcome = .error failure := by rw [hload] at h; exact h
    rfl

theorem loadDocuments_cons_of_ok {document : Loaded}
    (h : (loader.load files token source).1 = .ok document) (sources : List Source) :
    loader.loadDocuments files token (source :: sources) =
      let (documents, left) := (loader.load files token source).2.1.loadDocuments files
        (loader.load files token source).2.2 sources
      (documents.map (document :: ·), left) := by
  rw [loadDocuments]
  cases hload : loader.load files token source with
  | mk outcome left =>
    obtain rfl : outcome = .ok document := by rw [hload] at h; exact h
    rfl

/-- If a document is loaded, what comes of the ones after it comes of all of them. -/
theorem StopsAt.cons {document : Loaded}
    (hdocument : (loader.load files token source).1 = .ok document)
    {earlier : List Source} {stopped : Source} {left : Loader S}
    (h : StopsAt (loader.load files token source).2.1 files (loader.load files token source).2.2
      earlier stopped left) :
    StopsAt loader files token (source :: earlier) stopped left := by
  refine ⟨fun before next after hsplit => ?_, h.failed, h.left_eq⟩
  cases before with
  | nil =>
    obtain ⟨rfl, -⟩ := List.cons_eq_cons.mp hsplit
    exact ⟨document, hdocument⟩
  | cons first before =>
    obtain ⟨rfl, hrest⟩ := List.cons_eq_cons.mp hsplit
    exact h.loaded before next after hrest

/-- Loading several documents fails only if it is given up at one of them. -/
theorem exists_stopsAt_of_loadDocuments_error {sources : List Source} {failure : Cancelled}
    (h : (loader.loadDocuments files token sources).1 = .error failure) :
    ∃ earlier source later, sources = earlier ++ source :: later ∧
      StopsAt loader files token earlier source (loader.loadDocuments files token sources).2.1 := by
  -- each document is loaded from what the one before left
  induction sources generalizing loader token with
  | nil => cases h
  | cons source sources ih =>
    cases hload : (loader.load files token source).1 with
    | error failed =>
      rw [loadDocuments_cons_of_error hload]
      refine ⟨[], source, sources, rfl, ⟨fun before next after hsplit => ?_, hload, ?_⟩⟩
      · exact absurd hsplit (by simp)
      · exact (unchanged_of_load_error hload).1
    | ok document =>
      rw [loadDocuments_cons_of_ok hload] at h ⊢
      obtain ⟨earlier, stopped, later, rfl, hstops⟩ := ih ((map_eq_error_iff _).mp h)
      exact ⟨source :: earlier, stopped, later, rfl, hstops.cons hload⟩

theorem loadAll_snd (loader : Loader S) (files : FileReader) (token : CancelToken)
    (sources : List Source) :
    (loader.loadAll files token sources).2 = (loader.loadDocuments files token sources).2 :=
  rfl

theorem loadAll_eq_error_iff {sources : List Source} {failure : Cancelled} :
    (loader.loadAll files token sources).1 = .error failure ↔
      (loader.loadDocuments files token sources).1 = .error failure :=
  map_eq_error_iff _

/-- Loading several documents stops at one of them. Documents of other identities than the ones
before keep what is cached for them, as long as the store has room. -/
def StopsWithin (loader : Loader S) (files : FileReader) (token : CancelToken)
    (sources : List Source) (left : Loader S) : Prop :=
  ∃ earlier source later, sources = earlier ++ source :: later ∧
    StopsAt loader files token earlier source left ∧
    (loader.HasRoomFor files token earlier →
      ∀ id, (∀ asked ∈ earlier, asked.id ≠ id) →
        left.cache.latest? id = loader.cache.latest? id)

theorem stopsWithin_of_loadDocuments_error [LawfulSnapshotStore S] {sources : List Source}
    {failure : Cancelled} (h : (loader.loadDocuments files token sources).1 = .error failure) :
    StopsWithin loader files token sources (loader.loadDocuments files token sources).2.1 := by
  obtain ⟨earlier, source, later, hsplit, hstops⟩ := exists_stopsAt_of_loadDocuments_error h
  refine ⟨earlier, source, later, hsplit, hstops, fun hroom id hne => ?_⟩
  rw [hstops.left_eq]
  exact latest?_afterEach_of_ne hroom hne

/-- **Failed loads disturb nothing.** Loading fails only if it is given up; a document that cannot
be read is given out without keys. A load of one document that fails leaves the loader as it was,
with all that is cached. A load of several documents that fails leaves what loading the ones before
the failing one leaves, one by one; so what is cached for other documents than these stays. -/
theorem unchanged_of_error [LawfulSnapshotStore S] (loader : Loader S) (files : FileReader)
    (token : CancelToken) :
    (∀ source failure, source.read loader.settings files token = .error failure →
      failure ≠ .cancelled → loader.load files token source =
        (.ok { id := source.id, snapshot? := none }, loader, token)) ∧
    (∀ source failure, (loader.load files token source).1 = .error failure →
      failure = .cancelled ∧ (loader.load files token source).2.1 = loader) ∧
    (∀ sources failure, (loader.loadDocuments files token sources).1 = .error failure →
      failure = .cancelled ∧ loader.StopsWithin files token sources
        (loader.loadDocuments files token sources).2.1) ∧
    ∀ sources failure, (loader.loadAll files token sources).1 = .error failure →
      failure = .cancelled ∧ loader.StopsWithin files token sources
        (loader.loadAll files token sources).2.1 := by
  have honly : ∀ failure : Cancelled, failure = .cancelled := by
    rintro ⟨⟩
    rfl
  refine ⟨fun source failure => load_of_read_error, fun source failure h => ?_,
    fun sources failure h => ?_, fun sources failure h => ?_⟩
  · exact ⟨honly failure, (unchanged_of_load_error h).1⟩
  · exact ⟨honly failure, stopsWithin_of_loadDocuments_error h⟩
  · rw [loadAll_snd]
    exact ⟨honly failure, stopsWithin_of_loadDocuments_error (loadAll_eq_error_iff.mp h)⟩

def noFiles : FileReader :=
  fun _ => .error .missing

/-- A loader that has one version of a document, and two documents to load with it, the second of
them in another version. -/
def withFirstVersion : Loader :=
  (load {} noFiles {} (.inline "m".toList (oneKeyDocument "a".toList))).2.1

/-- A document of two keys, the first of them with a source type. -/
def sourcedFirst : Text :=
  ("\x7b\"properties\":[\x7b\"name\":\"a\",\"sourceType\":\"A\"\x7d," ++
    "\x7b\"name\":\"b\"\x7d]\x7d").toList

/-- Two documents, the second of which is another version of the one that is cached. -/
def newAndChanged : List Source :=
  [.inline "n".toList (oneKeyDocument "b".toList), .inline "m".toList sourcedFirst]

/-- The token is raised while the second document is read, and the first version stays cached. -/
theorem unchanged_of_error_newAndChanged :
    let token : CancelToken := { raiseAt? := some (.existence, 1) }
    (withFirstVersion.loadDocuments noFiles token newAndChanged).1 = .error .cancelled ∧
      withFirstVersion.StopsWithin noFiles token newAndChanged
        (withFirstVersion.loadDocuments noFiles token newAndChanged).2.1 := by
  intro token
  have herror : (withFirstVersion.loadDocuments noFiles token newAndChanged).1 =
      .error .cancelled := by
    have hfails : (withFirstVersion.loadDocuments noFiles token newAndChanged).1.isOk = false := by
      decide +kernel
    cases houtcome : (withFirstVersion.loadDocuments noFiles token newAndChanged).1 with
    | ok documents => simp [houtcome, Except.isOk, Except.toBool] at hfails
    | error failure => cases failure; rfl
  obtain ⟨-, -, hdocuments, -⟩ := unchanged_of_error withFirstVersion noFiles token
  exact ⟨herror, (hdocuments newAndChanged .cancelled herror).2⟩

/-! ## Raised tokens -/

/-- A document that is loaded without a look at the token: a text at hand that is too large, or
whose version is cached. -/
def LoadsRegardless (loader : Loader S) (source : Source) : Prop :=
  ∃ text, source.location = .inline text ∧
    (loader.settings.maxDocumentSize < Text.byteSize text ∨
      ∃ snapshot, loader.cache.get? source.id (Digest.ofText text) = some snapshot)

/-- With a raised token only a text at hand is read. -/
theorem eq_inline_of_read_ok {settings : Settings} {text : Text} (hraised : token.raised = true)
    (hread : source.read settings files token = .ok text) :
    source.location = .inline text ∧ ¬settings.maxDocumentSize < Text.byteSize text := by
  rw [Source.read] at hread
  cases hlocation : source.location with
  | path path =>
    simp only [hlocation, if_pos hraised] at hread
    cases hread
  | inline given =>
    simp only [hlocation] at hread
    split at hread
    · cases hread
    case isFalse hsize =>
      obtain rfl := Except.ok.inj hread
      exact ⟨rfl, hsize⟩

theorem exists_inline_of_read_error {settings : Settings} {failure : ReadFailure}
    (hraised : token.raised = true) (hread : source.read settings files token = .error failure)
    (hfailure : failure ≠ .cancelled) :
    ∃ text, source.location = .inline text ∧ settings.maxDocumentSize < Text.byteSize text := by
  rw [Source.read] at hread
  cases hlocation : source.location with
  | path path =>
    simp only [hlocation, if_pos hraised] at hread
    exact absurd (Except.error.inj hread).symm hfailure
  | inline text =>
    simp only [hlocation] at hread
    split at hread
    case isTrue hsize => exact ⟨text, rfl, hsize⟩
    · cases hread

theorem read_inline_ne_cancelled {settings : Settings} {text : Text}
    (hlocation : source.location = .inline text) :
    source.read settings files token ≠ .error .cancelled := by
  intro hread
  rw [Source.read, hlocation] at hread
  simp only at hread
  split at hread <;> cases hread

/-- Loading a document with a raised token changes nothing. It is given up unless the document is
loaded regardless. -/
theorem load_of_raised (loader : Loader S) (files : FileReader) (hraised : token.raised = true)
    (source : Source) :
    (loader.load files token source).2 = (loader, token) ∧
      ((loader.load files token source).1 = .error .cancelled ↔
        ¬loader.LoadsRegardless source) := by
  have hloads := loadsTo_load loader files token source
  generalize loader.load files token source = loading at hloads ⊢
  have hparse : ∀ text, Metadata.parse loader.known source.provenance token text =
      (.error .cancelled, token) := by
    intro text
    rw [Metadata.parse, if_pos hraised]
  cases hloads with
  | givenUp hread =>
    refine ⟨rfl, iff_of_true rfl ?_⟩
    rintro ⟨text, hlocation, -⟩
    exact read_inline_ne_cancelled hlocation hread
  | unreadable hread hfailure =>
    obtain ⟨text, hlocation, hsize⟩ := exists_inline_of_read_error hraised hread hfailure
    exact ⟨rfl, iff_of_false nofun (not_not_intro ⟨text, hlocation, .inl hsize⟩)⟩
  | cached hread hget =>
    obtain ⟨hlocation, -⟩ := eq_inline_of_read_ok hraised hread
    exact ⟨rfl, iff_of_false nofun (not_not_intro ⟨_, hlocation, .inr ⟨_, hget⟩⟩)⟩
  | interrupted hread hget hwork =>
    obtain ⟨hlocation, hsize⟩ := eq_inline_of_read_ok hraised hread
    obtain rfl : token = _ := congrArg Prod.snd ((hparse _).symm.trans hwork)
    refine ⟨rfl, iff_of_true rfl ?_⟩
    -- the text was read and is not cached, so that neither exception holds of it
    rintro ⟨other, hother, hlarge | ⟨snapshot, hsome⟩⟩
    · obtain rfl := Location.inline.inj (hlocation.symm.trans hother)
      exact hsize hlarge
    · obtain rfl := Location.inline.inj (hlocation.symm.trans hother)
      rw [hget] at hsome
      cases hsome
  | built hread hget hwork =>
    -- a reading that starts with a raised token yields nothing
    have hnever := congrArg Prod.fst ((hparse _).symm.trans hwork)
    cases hnever

theorem loadDocuments_of_raised (loader : Loader S) (files : FileReader)
    (hraised : token.raised = true) (sources : List Source) :
    (loader.loadDocuments files token sources).2 = (loader, token) ∧
      ((loader.loadDocuments files token sources).1 = .error .cancelled ↔
        ∃ source ∈ sources, ¬loader.LoadsRegardless source) := by
  induction sources with
  | nil => exact ⟨rfl, iff_of_false nofun (by simp)⟩
  | cons source sources ih =>
    obtain ⟨hrest, hothers⟩ := ih
    obtain ⟨hleft, hfails⟩ := load_of_raised loader files hraised source
    rw [List.exists_mem_cons_iff]
    cases hload : (loader.load files token source).1 with
    | error failure =>
      cases failure
      rw [loadDocuments_cons_of_error hload, hleft]
      exact ⟨rfl, iff_of_true rfl (.inl (hfails.mp hload))⟩
    | ok document =>
      have hregardless : ¬¬loader.LoadsRegardless source := by
        rw [← hfails, hload]
        nofun
      rw [loadDocuments_cons_of_ok hload, hleft, or_iff_right hregardless, ← hothers]
      exact ⟨hrest, map_eq_error_iff _⟩

/-- **What a raised token makes fail.** If the token is raised, loading changes nothing. Loading a
document is given up, unless it is a text at hand that is too large or whose version is cached; and
loading several documents is given up if this is so for one of them. -/
theorem givesUp_iff_of_raised (loader : Loader S) (files : FileReader) {token : CancelToken}
    (hraised : token.raised = true) :
    (∀ source, (loader.load files token source).2 = (loader, token) ∧
      ((loader.load files token source).1 = .error .cancelled ↔
        ¬loader.LoadsRegardless source)) ∧
    (∀ sources, (loader.loadDocuments files token sources).2 = (loader, token) ∧
      ((loader.loadDocuments files token sources).1 = .error .cancelled ↔
        ∃ source ∈ sources, ¬loader.LoadsRegardless source)) ∧
    ∀ sources, (loader.loadAll files token sources).2 = (loader, token) ∧
      ((loader.loadAll files token sources).1 = .error .cancelled ↔
        ∃ source ∈ sources, ¬loader.LoadsRegardless source) := by
  refine ⟨load_of_raised loader files hraised, loadDocuments_of_raised loader files hraised,
    fun sources => ?_⟩
  rw [loadAll_snd, loadAll_eq_error_iff]
  exact loadDocuments_of_raised loader files hraised sources

/-- With the first version of a document cached, a raised token makes loading it from a file fail,
and loading it again as a text at hand does not. -/
theorem givesUp_iff_of_raised_withFirstVersion :
    let token : CancelToken := { raised := true }
    let file : Source := { (Source.ofPath "m.json".toList) with id := "m".toList }
    let again : Source := .inline "m".toList (oneKeyDocument "a".toList)
    token.raised = true ∧
      (withFirstVersion.load noFiles token file).1 = .error .cancelled ∧
      (withFirstVersion.load noFiles token again).1 ≠ .error .cancelled ∧
      (withFirstVersion.loadAll noFiles token [again, file]).1 = .error .cancelled := by
  intro token file again
  have hraised : token.raised = true := rfl
  have hfile : ¬withFirstVersion.LoadsRegardless file := by
    rintro ⟨text, hlocation, -⟩
    cases hlocation
  have hagain : withFirstVersion.LoadsRegardless again := by
    have hcached : (withFirstVersion.cache.get? again.id
        (Digest.ofText (oneKeyDocument "a".toList))).isSome = true := by decide +kernel
    exact ⟨_, rfl, .inr (Option.isSome_iff_exists.mp hcached)⟩
  obtain ⟨hload, -, hall⟩ := givesUp_iff_of_raised withFirstVersion noFiles hraised
  refine ⟨hraised, (hload file).2.mpr hfile, fun hfails => (hload again).2.mp hfails hagain, ?_⟩
  exact (hall _).2.mpr ⟨file, by simp, hfile⟩

end PropertyKeys.Loader

namespace PropertyKeys

/-- Whether the answer is that the request was given up. -/
def Reply.isGivenUp : Reply → Bool
  | .failed .cancelled => true
  | _ => false

theorem Reply.ne_of_isGivenUp_eq_false {reply : Reply} (h : reply.isGivenUp = false) :
    reply ≠ .failed .cancelled := by
  rintro rfl
  cases h

namespace Session

/-- A text at hand is loaded, and then the token is raised. -/
def raisedAfterLoad : List Request :=
  [.load (.inline "m".toList "\x7b\x7d".toList), .cancel]

/-- With a raised token, a text at hand that is cached is given out, alone or in a list, and so is
one that is too large. -/
theorem perform_ne_failed_of_raised :
    let source : Source := .inline "m".toList "\x7b\x7d".toList
    let session : Session := ((start {} {} {} {}).run raisedAfterLoad).2
    let narrow : Session := ((start { maxDocumentSize := 1 } {} {} {}).run [.cancel]).2
    session.token.raised = true ∧ narrow.token.raised = true ∧
      (session.perform (.load source)).1 ≠ .failed .cancelled ∧
      (session.perform (.loadDocuments [source])).1 ≠ .failed .cancelled ∧
      (session.perform (.loadAll [source])).1 ≠ .failed .cancelled ∧
      (narrow.perform (.load source)).1 ≠ .failed .cancelled := by
  intro source session narrow
  have hcached : (session.perform (.load source)).1.isGivenUp = false := by decide +kernel
  have hlist : (session.perform (.loadDocuments [source])).1.isGivenUp = false := by
    decide +kernel
  have hall : (session.perform (.loadAll [source])).1.isGivenUp = false := by decide +kernel
  have hlarge : (narrow.perform (.load source)).1.isGivenUp = false := by decide +kernel
  exact ⟨by decide +kernel, by decide +kernel, Reply.ne_of_isGivenUp_eq_false hcached,
    Reply.ne_of_isGivenUp_eq_false hlist, Reply.ne_of_isGivenUp_eq_false hall,
    Reply.ne_of_isGivenUp_eq_false hlarge⟩

end Session

end PropertyKeys
