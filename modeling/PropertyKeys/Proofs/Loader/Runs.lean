import PropertyKeys.Loader.Session
import PropertyKeys.Proofs.Loader.Snapshots

/-!
# Runs of sessions

A session whose cache holds only snapshots of editions goes on that way whatever is asked of it:
files may be written and removed, snapshots dropped, and loading cancelled in between. If the
editions of a run agree on where each document comes from and if no two texts share a digest, then
what is given out for a document is never stale. The store below the cache is any lawful one that
has room for the documents of the run.

## Main definitions

* `Session.editions`: the documents that a run asks for, with their texts at the time.
* `Session.HasRoomFor`: whether the store has room for the documents of a run.
* `Session.IsSound`: what every request leaves as it is.
* `Request.IsAnswered`: how a request to load is answered.
* `Loaded.IsCurrent`: whether what is given out for a document is what it holds now.

## Main results

* `Session.perform_sound`: one request.
* `Session.run_sound`: a run.
* `Session.isCurrent_of_run`: no load of a run gives out anything stale.
-/

namespace PropertyKeys

variable {S : Type} [SnapshotStore S]

/-! ## Requests to load -/

namespace Request

/-- The documents that a request asks for. -/
def sources : Request → List Source
  | .load source => [source]
  | .loadDocuments sources => sources
  | .loadAll sources => sources
  | _ => []

/-- Whether a request may put contents into the cache that were not read from a document. -/
def buildsByHand : Request → Bool
  | .getOrBuild .. => true
  | _ => false

/-- A request to load is answered with documents that have a property, each for its source, or with
the keys of such documents in order. Or loading was given up, for which somebody has to raise the
token. Other requests are not looked at. -/
def IsAnswered (P : Source → Loaded → Prop) (request : Request) (token : CancelToken)
    (answer : Reply × Session S) : Prop :=
  let givenUp := answer.1 = .failed .cancelled ∧ token.Cancels answer.2.token
  match request with
  | .load source => (∃ document, answer.1 = .document document ∧ P source document.value) ∨ givenUp
  | .loadDocuments sources =>
    (∃ documents, answer.1 = .documents documents ∧
      List.Forall₂ P sources (documents.map Given.value)) ∨ givenUp
  | .loadAll sources =>
    (∃ documents, List.Forall₂ P sources documents ∧
      answer.1 = .keys (documents.flatMap fun document => document.catalog.keys)) ∨ givenUp
  | _ => True

end Request

namespace Session

/-- The documents that a request asks for, with the texts that they have now. -/
def editionsOf (session : Session S) (request : Request) : List Edition :=
  request.sources.filterMap fun source =>
    (source.text? session.loader.settings session.files.read).map fun text => ⟨source, text⟩

/-- The documents that the requests of a run ask for, each with the text that it has when it is
asked for. -/
def editions (session : Session S) : List Request → List Edition
  | [] => []
  | request :: requests =>
    session.editionsOf request ++ editions (session.perform request).2 requests

/-- The store has room for the documents of a run: for those of each request when it is made. -/
def HasRoomFor (session : Session S) : List Request → Prop
  | [] => True
  | request :: requests =>
    session.loader.HasRoomFor session.files.read session.token request.sources ∧
      (session.perform request).2.HasRoomFor requests

instance decidableHasRoomFor [(store : S) → Decidable (SnapshotStore.HasRoom store)]
    (session : Session S) : (requests : List Request) → Decidable (session.HasRoomFor requests)
  | [] => .isTrue trivial
  | request :: requests =>
    @instDecidableAnd _ _ _ (decidableHasRoomFor (session.perform request).2 requests)

/-- A store that always has room has room for any run. -/
theorem hasRoomFor_of_forall (hroom : ∀ store : S, SnapshotStore.HasRoom store)
    (session : Session S) (requests : List Request) : session.HasRoomFor requests := by
  induction requests generalizing session with
  | nil => trivial
  | cons request requests ih => exact ⟨Loader.hasRoomFor_of_forall hroom .., ih _⟩

theorem editions_append (session : Session S) (earlier later : List Request) :
    session.editions (earlier ++ later) =
      session.editions earlier ++ (session.run earlier).2.editions later := by
  induction earlier generalizing session with
  | nil => rfl
  | cons request earlier ih =>
    rw [List.cons_append, Session.editions, ih, Session.editions, List.append_assoc]
    rfl

theorem hasRoomFor_append {session : Session S} {earlier later : List Request}
    (h : session.HasRoomFor (earlier ++ later)) :
    session.HasRoomFor earlier ∧ (session.run earlier).2.HasRoomFor later := by
  induction earlier generalizing session with
  | nil => exact ⟨trivial, h⟩
  | cons request earlier ih =>
    obtain ⟨hearlier, hlater⟩ := ih h.2
    exact ⟨⟨h.1, hearlier⟩, hlater⟩

/-- A session works with the given settings and types, and its cache holds only snapshots of the
given editions. -/
structure IsSound (settings : Settings) (known : KnownTypes) (editions : List Edition)
    (session : Session S) : Prop where
  settings_eq : session.loader.settings = settings
  known_eq : session.loader.known = known
  holdsOnly : session.loader.cache.HoldsOnly known editions

/-! ## One request -/

theorem keys_concat (documents : List Loaded) :
    (Catalog.concat (documents.map Loaded.catalog)).keys =
      documents.flatMap fun document => document.catalog.keys := by
  simp only [Catalog.keys, Catalog.concat, List.flatMap, List.map_flatten, List.map_map,
    Function.comp_def]

theorem giveLoaded_spec (session : Session S) (loaded : Loaded) :
    (session.giveLoaded loaded).1.value = loaded ∧
      (session.giveLoaded loaded).2.loader = session.loader := by
  obtain ⟨id, _ | snapshot⟩ := loaded
  · exact ⟨rfl, rfl⟩
  · exact ⟨rfl, rfl⟩

theorem giveAll_spec (session : Session S) (documents : List Loaded) :
    (session.giveAll documents).1.map Given.value = documents ∧
      (session.giveAll documents).2.loader = session.loader := by
  induction documents generalizing session with
  | nil => exact ⟨rfl, rfl⟩
  | cons loaded documents ih =>
    obtain ⟨hvalue, hloader⟩ := session.giveLoaded_spec loaded
    obtain ⟨hvalues, hlast⟩ := ih (session.giveLoaded loaded).2
    exact ⟨congrArg₂ List.cons hvalue hvalues, hlast.trans hloader⟩

theorem loader_giveSnapshot (session : Session S) (snapshot? : Option Snapshot) :
    (session.giveSnapshot snapshot?).2.loader = session.loader := by
  cases snapshot? with
  | none => rfl
  | some snapshot => rfl

variable {settings : Settings} {known : KnownTypes} {editions : List Edition} {session : Session S}

theorem IsSound.of_loader_eq (h : session.IsSound settings known editions) {other : Session S}
    (hloader : other.loader = session.loader) : other.IsSound settings known editions :=
  ⟨hloader ▸ h.settings_eq, hloader ▸ h.known_eq, hloader ▸ h.holdsOnly⟩

theorem IsSound.after {α : Type} {P : α → Prop} (h : session.IsSound settings known editions)
    {loading : Loader.Loading α S}
    (hloading : session.loader.EndsWell editions session.token P loading) :
    (session.after loading).IsSound settings known editions :=
  ⟨hloading.settings.trans h.settings_eq, hloading.known.trans h.known_eq,
    h.known_eq ▸ hloading.cache⟩

/-- An answer that tells that loading was given up if it was, and else gives out what was loaded,
leaves the session sound. -/
theorem IsSound.answered {α : Type} {P : α → Prop} {Q : Prop} {loading : Loader.Loading α S}
    {answer : Reply × Session S} (h : session.IsSound settings known editions)
    (hloading : session.loader.EndsWell editions session.token P loading)
    (hok : ∀ result, loading.1 = .ok result → P result →
      answer.2.loader = (session.after loading).loader ∧ Q)
    (herror : loading.1 = .error .cancelled →
      answer = (.failed .cancelled, session.after loading)) :
    answer.2.IsSound settings known editions ∧
      (Q ∨ answer.1 = .failed .cancelled ∧ session.token.Cancels answer.2.token) := by
  have hafter := h.after hloading
  obtain ⟨result, hresult, hP⟩ | ⟨hfailed, hcancels⟩ := hloading.outcome
  · obtain ⟨hloader, hQ⟩ := hok result hresult hP
    exact ⟨hafter.of_loader_eq hloader, .inl hQ⟩
  · rw [herror hfailed]
    exact ⟨hafter, .inr ⟨rfl, hcancels⟩⟩

variable [LawfulSnapshotStore S]

theorem IsSound.load (h : session.IsSound settings known editions) {source : Source}
    (hroom : SnapshotStore.HasRoom session.loader.cache.snapshots)
    (hmem : ∀ text, source.text? settings session.files.read = some text →
      ⟨source, text⟩ ∈ editions) :
    (session.load source).2.IsSound settings known editions ∧
      Request.IsAnswered (Loaded.IsServed known editions settings session.files.read)
        (.load source) session.token (session.load source) := by
  obtain ⟨rfl, rfl, hcache⟩ := id h
  refine h.answered (Loader.endsWell_load session.token hroom hcache hmem)
    (fun loaded hok hloaded => ?_) fun herror => ?_
  · obtain ⟨hvalue, hloader⟩ := (session.after _).giveLoaded_spec loaded
    simp only [Session.load, hok]
    exact ⟨hloader, _, rfl, hvalue.symm ▸ hloaded⟩
  · simp only [Session.load, herror]

variable {sources : List Source}

theorem IsSound.loadDocuments (h : session.IsSound settings known editions)
    (hroom : session.loader.HasRoomFor session.files.read session.token sources)
    (hmem : ∀ source ∈ sources, ∀ text,
      source.text? settings session.files.read = some text → ⟨source, text⟩ ∈ editions) :
    (session.loadDocuments sources).2.IsSound settings known editions ∧
      Request.IsAnswered (Loaded.IsServed known editions settings session.files.read)
        (.loadDocuments sources) session.token (session.loadDocuments sources) := by
  obtain ⟨rfl, rfl, hcache⟩ := id h
  refine h.answered (Loader.endsWell_loadDocuments hroom hcache hmem)
    (fun documents hok hdocuments => ?_) fun herror => ?_
  · obtain ⟨hvalues, hloader⟩ := (session.after _).giveAll_spec documents
    simp only [Session.loadDocuments, hok]
    exact ⟨hloader, _, rfl, hvalues.symm ▸ hdocuments⟩
  · simp only [Session.loadDocuments, herror]

theorem IsSound.loadAll (h : session.IsSound settings known editions)
    (hroom : session.loader.HasRoomFor session.files.read session.token sources)
    (hmem : ∀ source ∈ sources, ∀ text,
      source.text? settings session.files.read = some text → ⟨source, text⟩ ∈ editions) :
    (session.loadAll sources).2.IsSound settings known editions ∧
      Request.IsAnswered (Loaded.IsServed known editions settings session.files.read)
        (.loadAll sources) session.token (session.loadAll sources) := by
  obtain ⟨rfl, rfl, hcache⟩ := id h
  refine h.answered (Loader.endsWell_loadAll hroom hcache hmem)
    (fun catalog hok hcatalog => ?_) fun herror => ?_
  · obtain ⟨documents, hdocuments, rfl⟩ := hcatalog
    simp only [Session.loadAll, hok]
    exact ⟨trivial, documents, hdocuments, congrArg Reply.keys (keys_concat documents)⟩
  · simp only [Session.loadAll, herror]

/-- One request keeps a session sound, and if it asks for documents it is answered with snapshots of
editions. -/
theorem perform_sound (h : session.IsSound settings known editions) {request : Request}
    (hroom : session.loader.HasRoomFor session.files.read session.token request.sources)
    (hhand : request.buildsByHand = false)
    (hmem : ∀ edition ∈ session.editionsOf request, edition ∈ editions) :
    (session.perform request).2.IsSound settings known editions ∧
      request.IsAnswered (Loaded.IsServed known editions settings session.files.read)
        session.token (session.perform request) := by
  have hread : ∀ source ∈ request.sources, ∀ text,
      source.text? settings session.files.read = some text → ⟨source, text⟩ ∈ editions := by
    intro source hsource text htext
    apply hmem
    exact List.mem_filterMap.mpr ⟨source, hsource, by rw [h.settings_eq, htext]; rfl⟩
  cases request with
  | load source => exact h.load hroom.1 (hread source (List.mem_singleton_self source))
  | loadDocuments sources => exact h.loadDocuments hroom hread
  | loadAll sources => exact h.loadAll hroom hread
  | getOrBuild => cases hhand
  | invalidate id =>
    exact ⟨⟨h.settings_eq, h.known_eq, h.holdsOnly.invalidate id⟩, trivial⟩
  | invalidateAll =>
    exact ⟨⟨h.settings_eq, h.known_eq, .invalidateAll _ _ _⟩, trivial⟩
  | latest | get => exact ⟨h.of_loader_eq (loader_giveSnapshot session _), trivial⟩
  | read source =>
    refine ⟨h.of_loader_eq ?_, trivial⟩
    rw [perform]
    cases source.read session.loader.settings session.files.read session.token <;> rfl
  | _ => exact ⟨⟨h.settings_eq, h.known_eq, h.holdsOnly⟩, trivial⟩

/-! ## A run -/

/-- A run keeps a session sound. -/
theorem run_sound (h : session.IsSound settings known editions) {requests : List Request}
    (hroom : session.HasRoomFor requests)
    (hhand : ∀ request ∈ requests, request.buildsByHand = false)
    (hmem : ∀ edition ∈ session.editions requests, edition ∈ editions) :
    (session.run requests).2.IsSound settings known editions := by
  -- the editions are those of the whole run from the start, so that they stay the same
  induction requests generalizing session with
  | nil => exact h
  | cons request requests ih =>
    rw [Session.editions] at hmem
    obtain ⟨hfirst, hothers⟩ := List.forall_mem_cons.mp hhand
    obtain ⟨hnow, hthen⟩ := hroom
    have hstep := (perform_sound h hnow hfirst fun edition hedition =>
      hmem edition (List.mem_append_left _ hedition)).1
    exact ih hstep hthen hothers fun edition hedition =>
      hmem edition (List.mem_append_right _ hedition)

/-- A session at the start: nothing is cached. -/
def start (settings : Settings) (known : KnownTypes) (files : FileTree) (token : CancelToken) :
    Session S :=
  { loader := { settings, known }, files, token }

theorem isSound_start (settings : Settings) (known : KnownTypes) (files : FileTree)
    (token : CancelToken) (editions : List Edition) :
    (start settings known files token : Session S).IsSound settings known editions :=
  ⟨rfl, rfl, .new known editions settings.cacheCapacity⟩

/-- The last request of a run is answered with snapshots of editions of the run. -/
theorem isAnswered_run (settings : Settings) (known : KnownTypes) (files : FileTree)
    (token : CancelToken) (earlier : List Request) (request : Request)
    (hroom : (start settings known files token : Session S).HasRoomFor (earlier ++ [request]))
    (hhand : ∀ asked ∈ earlier ++ [request], asked.buildsByHand = false) :
    let session : Session S := start settings known files token
    let last := (session.run earlier).2
    request.IsAnswered
      (Loaded.IsServed known (session.editions (earlier ++ [request])) settings last.files.read)
      last.token (last.perform request) := by
  intro session last
  obtain ⟨hbefore, hlast, -⟩ := hasRoomFor_append hroom
  have hsplit := session.editions_append earlier [request]
  have hearlier : last.IsSound settings known (session.editions (earlier ++ [request])) :=
    run_sound (isSound_start settings known files token _) hbefore
      (fun asked hasked => hhand asked (List.mem_append_left _ hasked))
      fun edition hedition => hsplit ▸ List.mem_append_left _ hedition
  refine (perform_sound hearlier hlast (hhand request (by simp)) fun edition hedition => ?_).2
  rw [hsplit, Session.editions]
  exact List.mem_append_right _ (List.mem_append_left _ hedition)

end Session

/-! ## What is current -/

/-- The editions agree on where each document comes from, and no two of their texts share a
digest. -/
structure Edition.Coherent (editions : List Edition) : Prop where
  provenance : ∀ a ∈ editions, ∀ b ∈ editions,
    a.source.id = b.source.id → a.source.provenance = b.source.provenance
  text : ∀ a ∈ editions, ∀ b ∈ editions,
    Digest.ofText a.text = Digest.ofText b.text → a.text = b.text

/-- What is given out for a document is what it holds now. If it cannot be read or is too large that
is nothing. Else it is the digest of its bytes, and the keys and the diagnostics that a reading of
its text yields which nobody cancels. -/
def Loaded.IsCurrent (known : KnownTypes) (settings : Settings) (files : FileReader)
    (source : Source) (loaded : Loaded) : Prop :=
  loaded.id = source.id ∧
    match source.text? settings files with
    | none => loaded.version? = none ∧ loaded.catalog = [] ∧ loaded.diagnostics = []
    | some text =>
      loaded.version? = (source.bytes? files).map Digest.ofBytes ∧
        (Metadata.parse known source.provenance {} text).1 =
          .ok { keys := loaded.catalog.keys, diagnostics := loaded.diagnostics }

/-- If the editions are coherent, a snapshot of the right version is the right one. -/
theorem Loaded.IsServed.isCurrent {known : KnownTypes} {editions : List Edition}
    {settings : Settings} {files : FileReader} {source : Source} {loaded : Loaded}
    (h : loaded.IsServed known editions settings files source)
    (hcoherent : Edition.Coherent editions) : loaded.IsCurrent known settings files source := by
  refine ⟨h.id, ?_⟩
  cases htext : source.text? settings files with
  | none =>
    have hnone := h.unread htext
    simp only [version?, catalog, diagnostics, hnone]
    exact ⟨rfl, rfl, rfl⟩
  | some text =>
    obtain ⟨snapshot, hsnapshot, hversion, edition, hedition, hid, hof⟩ := h.read text htext
    have hmem := h.mem text htext
    have hbytes := (Source.text?_eq_some_iff.mp htext).1
    have hsame : edition.text = text :=
      hcoherent.text edition hedition _ hmem (hof.version.symm.trans hversion)
    have hprovenance : edition.source.provenance = source.provenance :=
      hcoherent.provenance edition hedition _ hmem hid
    have hcontents := hof.contents
    rw [hsame, hprovenance] at hcontents
    simp only [version?, catalog, diagnostics, hsnapshot, hbytes, Option.map_some,
      Option.getD_some]
    exact ⟨congrArg some hversion, hcontents⟩

theorem Request.IsAnswered.imp {P Q : Source → Loaded → Prop} {request : Request}
    {token : CancelToken} {answer : Reply × Session S} (h : request.IsAnswered P token answer)
    (himp : ∀ source loaded, P source loaded → Q source loaded) :
    request.IsAnswered Q token answer := by
  cases request with
  | load source =>
    refine h.imp_left ?_
    rintro ⟨document, hgiven, hdocument⟩
    exact ⟨document, hgiven, himp _ _ hdocument⟩
  | loadDocuments sources =>
    refine h.imp_left ?_
    rintro ⟨documents, hgiven, hdocuments⟩
    exact ⟨documents, hgiven, hdocuments.imp himp⟩
  | loadAll sources =>
    refine h.imp_left ?_
    rintro ⟨documents, hdocuments, hgiven⟩
    exact ⟨documents, hdocuments.imp himp, hgiven⟩
  | _ => trivial

/-- **The cache is never stale.** The last request of a run that starts with nothing cached gives
out nothing stale: each document is current, and the keys of several documents together are those of
current documents in order. Loading is given up only if somebody raises the token. This is so for
every request of a run, as what comes before it is a run. The run may write and remove files, drop
snapshots, and cancel loading or take it up again, but it puts nothing into the cache by hand. The
store may be any lawful one, as long as it has room for the documents. -/
theorem Session.isCurrent_of_run [LawfulSnapshotStore S] (settings : Settings)
    (known : KnownTypes) (files : FileTree) (token : CancelToken) (earlier : List Request)
    (request : Request)
    (hroom : (start settings known files token : Session S).HasRoomFor (earlier ++ [request]))
    (hhand : ∀ asked ∈ earlier ++ [request], asked.buildsByHand = false)
    (hcoherent : Edition.Coherent
      ((start settings known files token : Session S).editions (earlier ++ [request]))) :
    let session := ((start settings known files token : Session S).run earlier).2
    request.IsAnswered (Loaded.IsCurrent known settings session.files.read) session.token
      (session.perform request) :=
  (isAnswered_run settings known files token earlier request hroom hhand).imp fun _ _ hserved =>
    hserved.isCurrent hcoherent

/-- A document that declares a key of the given name. -/
def oneKeyDocument (name : Text) : Text :=
  "\x7b\"properties\":[\x7b\"name\":\"".toList ++ name ++ "\"\x7d]\x7d".toList

/-- A file is written and loaded, and then it is written again. -/
def rewrittenFile : List Request :=
  [.write "m.json".toList (Utf8.encode (oneKeyDocument "a".toList)),
    .load (.ofPath "m.json".toList),
    .write "m.json".toList (Utf8.encode (oneKeyDocument "b".toList))]

/-- A session whose store is made for two documents. -/
def sessionForTwo : Session BoundedMap :=
  .start { cacheCapacity := 2 } {} {} {}

theorem editions_rewrittenFile :
    sessionForTwo.editions (rewrittenFile ++ [.load (.ofPath "m.json".toList)]) =
      [⟨.ofPath "m.json".toList, oneKeyDocument "a".toList⟩,
        ⟨.ofPath "m.json".toList, oneKeyDocument "b".toList⟩] := by
  decide +kernel

/-- The file is loaded as it was written last. -/
theorem Session.isCurrent_of_run_rewrittenFile :
    sessionForTwo.HasRoomFor (rewrittenFile ++ [.load (.ofPath "m.json".toList)]) ∧
      (∀ request ∈ rewrittenFile ++ [.load (.ofPath "m.json".toList)],
        request.buildsByHand = false) ∧
      Edition.Coherent
        (sessionForTwo.editions (rewrittenFile ++ [.load (.ofPath "m.json".toList)])) ∧
      let session := (sessionForTwo.run rewrittenFile).2
      ∃ document,
        (session.perform (.load (.ofPath "m.json".toList))).1 = .document document ∧
          document.value.IsCurrent {} { cacheCapacity := 2 } session.files.read
            (.ofPath "m.json".toList) := by
  have hroom : sessionForTwo.HasRoomFor (rewrittenFile ++ [.load (.ofPath "m.json".toList)]) := by
    decide +kernel
  have hhand : ∀ request ∈ rewrittenFile ++ [.load (.ofPath "m.json".toList)],
      request.buildsByHand = false := by decide
  have hcoherent : Edition.Coherent
      (sessionForTwo.editions (rewrittenFile ++ [.load (.ofPath "m.json".toList)])) := by
    rw [editions_rewrittenFile]
    exact ⟨by decide +kernel, by decide +kernel⟩
  refine ⟨hroom, hhand, hcoherent, ?_⟩
  have hquiet : (sessionForTwo.run rewrittenFile).2.token.IsQuiet := by decide +kernel
  obtain hcurrent | ⟨-, hcancels⟩ := isCurrent_of_run { cacheCapacity := 2 } {} {} {} rewrittenFile
      (.load (.ofPath "m.json".toList)) hroom hhand hcoherent
  · exact hcurrent
  · exact absurd hquiet hcancels.1

end PropertyKeys
