import Mathlib.Data.List.Induction
import Mathlib.Data.List.Infix
import PropertyKeys.Cache

/-!
# Histories of the cache

What is cached for a document after any calls is what the last call for it inserted, unless the
document was dropped since then. A call inserts something if it asks for a version that is not
cached and building succeeds. The history alone tells all answers of the cache.

## Main definitions

* `Cache.Call` / `Cache.run`: a call of the cache, and what calls leave.
* `Cache.Call.Inserts` / `Cache.Call.Drops`: what a call changes for a document.
* `Cache.IsNewest`: whether a snapshot is the last one that calls inserted for a document.
* `Cache.GetsOrBuilds`: what asking for a version has to do.

## Main results

* `Cache.latest?_perform_of_inserts`, `Cache.latest?_perform_of_drops`,
  `Cache.latest?_perform_of_not_touches`: what a call changes.
* `Cache.answers_of_run`: the answers of the cache after any calls.
-/

namespace PropertyKeys.Cache

variable {S σ ε : Type} [SnapshotStore S]

/-! ## Calls -/

/-- A call of the cache. Building may fail, and it may change a state. -/
inductive Call (σ ε : Type) where
  | getOrBuild (id : Text) (version : Digest) (build : σ → Except ε Metadata.Contents × σ)
  | get (id : Text) (version : Digest)
  | latest (id : Text)
  | invalidate (id : Text)
  | invalidateAll

/-- The cache, and the state that building changes. -/
structure World (S σ : Type) [SnapshotStore S] where
  cache : Cache S
  state : σ

/-- Nothing is cached. -/
def World.new (capacity : Nat) (state : σ) : World S σ :=
  { cache := .new capacity, state }

namespace Call

/-- What a call leaves. -/
def perform (world : World S σ) : Call σ ε → World S σ
  | .getOrBuild id version build =>
    let (_, cache, state) := world.cache.getOrBuild id version build world.state
    { cache, state }
  | .get _ _ | .latest _ => world
  | .invalidate id => { world with cache := world.cache.invalidate id }
  | .invalidateAll => { world with cache := world.cache.invalidateAll }

/-- The call asks for a version of the document that is not cached, and building it succeeds. The
snapshot is what was built. -/
def Inserts (world : World S σ) (call : Call σ ε) (id : Text) (snapshot : Snapshot) : Prop :=
  ∃ version build contents, call = .getOrBuild id version build ∧
    world.cache.get? id version = none ∧ (build world.state).1 = .ok contents ∧
    snapshot = world.cache.snapshot version contents

/-- The call drops the document. -/
def Drops (call : Call σ ε) (id : Text) : Prop :=
  call = .invalidate id ∨ call = .invalidateAll

/-- The call changes what is cached for the document. -/
def Touches (world : World S σ) (call : Call σ ε) (id : Text) : Prop :=
  (∃ snapshot, call.Inserts world id snapshot) ∨ call.Drops id

end Call

/-- What some calls leave. -/
def run (world : World S σ) : List (Call σ ε) → World S σ
  | [] => world
  | call :: calls => run (call.perform world) calls

/-- The store has room after any of the calls. -/
def HasRoomThroughout (start : World S σ) (calls : List (Call σ ε)) : Prop :=
  ∀ earlier, earlier <+: calls → SnapshotStore.HasRoom (run start earlier).cache.snapshots

/-- One of the calls inserted the snapshot. -/
def WasInserted (start : World S σ) (calls : List (Call σ ε)) (snapshot : Snapshot) : Prop :=
  ∃ earlier call later id, calls = earlier ++ call :: later ∧
    call.Inserts (run start earlier) id snapshot

/-- The snapshot is the last one that the calls inserted for the document, and the document was not
dropped since then. -/
def IsNewest (start : World S σ) (calls : List (Call σ ε)) (id : Text) (snapshot : Snapshot) :
    Prop :=
  ∃ earlier call later, calls = earlier ++ call :: later ∧
    call.Inserts (run start earlier) id snapshot ∧
    ∀ before next after, later = before ++ next :: after →
      ¬next.Touches (run start (earlier ++ call :: before)) id

/-- Asking for a version of a document gives out what is cached for it, and building is not done. If
nothing is cached then building is done, and other documents stay as they are. What was built is a
catalog of its own, which is cached from then on. If building fails nothing is inserted. -/
structure GetsOrBuilds (start : World S σ) (calls : List (Call σ ε)) (id : Text)
    (version : Digest) (build : σ → Except ε Metadata.Contents × σ)
    (got : Except ε Snapshot × Cache S × σ) : Prop where
  hit : ∀ snapshot, (run start calls).cache.get? id version = some snapshot →
    got = (.ok snapshot, (run start calls).cache, (run start calls).state)
  built : (run start calls).cache.get? id version = none →
    got.2.2 = (build (run start calls).state).2
  failed : ∀ failure, (run start calls).cache.get? id version = none →
    (build (run start calls).state).1 = .error failure →
      got.1 = .error failure ∧ got.2.1 = (run start calls).cache
  stored : ∀ contents, (run start calls).cache.get? id version = none →
    (build (run start calls).state).1 = .ok contents →
      ∃ snapshot, got.1 = .ok snapshot ∧ got.2.1.latest? id = some snapshot ∧
        snapshot.version = version ∧ snapshot.catalog.keys = contents.keys ∧
          snapshot.diagnostics = contents.diagnostics ∧
            ∀ old, WasInserted start calls old → old.number ≠ snapshot.number
  others : ∀ other, other ≠ id → got.2.1.latest? other = (run start calls).cache.latest? other

/-! ## What a call changes -/

variable {world : World S σ} {call : Call σ ε} {id : Text} {snapshot : Snapshot}

/-- Asking for a version either finds it, or fails to build it, or inserts what was built. -/
theorem getOrBuild_cases (cache : Cache S) (id : Text) (version : Digest)
    (build : σ → Except ε Metadata.Contents × σ) (state : σ) :
    (∃ snapshot, cache.get? id version = some snapshot ∧
        cache.getOrBuild id version build state = (.ok snapshot, cache, state)) ∨
      (∃ failure, cache.get? id version = none ∧ (build state).1 = .error failure ∧
        cache.getOrBuild id version build state = (.error failure, cache, (build state).2)) ∨
      ∃ contents, cache.get? id version = none ∧ (build state).1 = .ok contents ∧
        cache.getOrBuild id version build state =
          (.ok (cache.snapshot version contents), cache.insert id (cache.snapshot version contents),
            (build state).2) := by
  cases hget : cache.get? id version with
  | some snapshot => exact .inl ⟨snapshot, rfl, getOrBuild_of_get? hget state⟩
  | none =>
    cases hbuild : build state with
    | mk outcome after =>
      cases outcome with
      | error failure => exact .inr (.inl ⟨failure, rfl, rfl, getOrBuild_of_error hget hbuild⟩)
      | ok contents => exact .inr (.inr ⟨contents, rfl, rfl, getOrBuild_of_ok hget hbuild⟩)

theorem perform_of_inserts (h : call.Inserts world id snapshot) :
    (call.perform world).cache = world.cache.insert id snapshot ∧
      snapshot.number = world.cache.next := by
  obtain ⟨version, build, contents, rfl, hget, hbuild, rfl⟩ := h
  have hgot := getOrBuild_of_ok hget (Prod.ext hbuild rfl : build world.state = (.ok contents, _))
  rw [Call.perform, hgot]
  exact ⟨rfl, rfl⟩

/-- The numbers of new catalogs only grow. -/
theorem next_le_perform (world : World S σ) (call : Call σ ε) :
    world.cache.next ≤ (call.perform world).cache.next := by
  cases call with
  | getOrBuild id version build =>
    obtain ⟨found, -, hgot⟩ | ⟨failure, -, -, hgot⟩ | ⟨contents, -, -, hgot⟩ :=
      getOrBuild_cases world.cache id version build world.state
    all_goals
      have hnext := congrArg (fun got => got.2.1.next) hgot
      have hperform : (Call.perform world (.getOrBuild id version build)).cache.next =
          (world.cache.getOrBuild id version build world.state).2.1.next := rfl
    · exact Nat.le_of_eq (hperform.trans hnext).symm
    · exact Nat.le_of_eq (hperform.trans hnext).symm
    · exact Nat.le_trans (Nat.le_succ _) (Nat.le_of_eq (hperform.trans hnext).symm)
  | _ => exact Nat.le_refl _

/-! ## Runs of calls -/

theorem run_append (world : World S σ) (calls more : List (Call σ ε)) :
    run world (calls ++ more) = run (run world calls) more := by
  induction calls generalizing world with
  | nil => rfl
  | cons call calls ih => exact ih (call.perform world)

theorem run_concat (world : World S σ) (calls : List (Call σ ε)) (call : Call σ ε) :
    run world (calls ++ [call]) = call.perform (run world calls) :=
  run_append world calls [call]

theorem next_le_run (world : World S σ) (calls : List (Call σ ε)) :
    world.cache.next ≤ (run world calls).cache.next := by
  induction calls generalizing world with
  | nil => exact Nat.le_refl _
  | cons call calls ih => exact Nat.le_trans (next_le_perform world call) (ih _)

/-- The number of the next catalog is none of the numbers that were used. -/
theorem WasInserted.number_lt {start : World S σ} {calls : List (Call σ ε)}
    (h : WasInserted start calls snapshot) :
    snapshot.number < (run start calls).cache.next := by
  obtain ⟨earlier, call, later, id, rfl, hinserts⟩ := h
  obtain ⟨hcache, hnumber⟩ := perform_of_inserts hinserts
  rw [run_append, hnumber]
  refine Nat.lt_of_lt_of_le ?_ (next_le_run (call.perform (run start earlier)) later)
  rw [hcache]
  exact Nat.lt_succ_self _

/-- One more call either inserts the newest snapshot itself, or leaves the newest one. -/
theorem isNewest_concat_iff {start : World S σ} {calls : List (Call σ ε)} :
    IsNewest start (calls ++ [call]) id snapshot ↔
      call.Inserts (run start calls) id snapshot ∨
        ¬call.Touches (run start calls) id ∧ IsNewest start calls id snapshot := by
  constructor
  · rintro ⟨earlier, first, later, hsplit, hinserts, hlater⟩
    obtain rfl | ⟨later, last, rfl⟩ := List.eq_nil_or_concat later
    · obtain ⟨rfl, hlast⟩ := List.append_inj' hsplit rfl
      obtain rfl : call = first := List.singleton_inj.mp hlast
      exact .inl hinserts
    · rw [List.concat_eq_append, ← List.cons_append, ← List.append_assoc] at hsplit
      obtain ⟨rfl, hlast⟩ := List.append_inj' hsplit rfl
      obtain rfl : call = last := List.singleton_inj.mp hlast
      refine .inr ⟨hlater later call [] (List.concat_eq_append ..), earlier, first, later, rfl,
        hinserts, ?_⟩
      rintro before next after rfl
      exact hlater before next (after ++ [call]) (by simp)
  · rintro (hinserts | ⟨hleaves, earlier, first, later, rfl, hinserts, hlater⟩)
    · exact ⟨calls, call, [], rfl, hinserts, fun before next after h => by simp at h⟩
    · refine ⟨earlier, first, later ++ [call], by simp, hinserts, fun before next after h => ?_⟩
      obtain rfl | ⟨after, last, rfl⟩ := List.eq_nil_or_concat after
      · obtain ⟨rfl, hlast⟩ := List.append_inj' h rfl
        obtain rfl : call = next := List.singleton_inj.mp hlast
        exact hleaves
      · rw [List.concat_eq_append, ← List.cons_append, ← List.append_assoc] at h
        exact hlater before next after (List.append_inj' h rfl).1

theorem HasRoomThroughout.of_concat {start : World S σ} {calls : List (Call σ ε)}
    (h : HasRoomThroughout start (calls ++ [call])) : HasRoomThroughout start calls :=
  fun earlier hearlier => h earlier (hearlier.trans (List.prefix_append calls [call]))

theorem get?_eq_some_iff (cache : Cache S) (id : Text) (version : Digest) (snapshot : Snapshot) :
    cache.get? id version = some snapshot ↔
      cache.latest? id = some snapshot ∧ snapshot.version = version := by
  rw [get?, Option.filter_eq_some_iff, decide_eq_true_iff]

/-! ## What is cached -/

variable [LawfulSnapshotStore S]

/-- What a call inserts is cached afterwards. -/
theorem latest?_perform_of_inserts (hroom : SnapshotStore.HasRoom world.cache.snapshots)
    (h : call.Inserts world id snapshot) :
    (call.perform world).cache.latest? id = some snapshot := by
  rw [(perform_of_inserts h).1, latest?_insert_self hroom]

theorem latest?_perform_of_drops (h : call.Drops id) :
    (call.perform world).cache.latest? id = none := by
  obtain rfl | rfl := h
  · exact latest?_invalidate_self _ _
  · exact latest?_invalidateAll _ _

/-- A call that does not touch a document leaves what is cached for it. -/
theorem latest?_perform_of_not_touches (hroom : SnapshotStore.HasRoom world.cache.snapshots)
    (h : ¬call.Touches world id) :
    (call.perform world).cache.latest? id = world.cache.latest? id := by
  cases call with
  | getOrBuild asked version build =>
    rw [Call.perform]
    obtain ⟨found, -, hgot⟩ | ⟨failure, -, -, hgot⟩ | ⟨contents, hget, hbuild, hgot⟩ :=
      getOrBuild_cases world.cache asked version build world.state
    · rw [hgot]
    · rw [hgot]
    · rw [hgot]
      have hne : id ≠ asked := by
        rintro rfl
        exact h (.inl ⟨_, version, build, contents, rfl, hget, hbuild, rfl⟩)
      exact latest?_insert_of_ne hroom hne _
  | get | latest => rfl
  | invalidate dropped =>
    have hne : id ≠ dropped := by
      rintro rfl
      exact h (.inr (.inl rfl))
    exact latest?_invalidate_of_ne hne _
  | invalidateAll => exact absurd (.inr (.inr rfl)) h

/-- What is cached for a document is the newest snapshot. -/
theorem latest?_run_eq_some_iff (capacity : Nat) (state : σ) {calls : List (Call σ ε)}
    (hroom : HasRoomThroughout (World.new capacity state : World S σ) calls) (id : Text)
    (snapshot : Snapshot) :
    (run (World.new capacity state : World S σ) calls).cache.latest? id = some snapshot ↔
      IsNewest (World.new capacity state : World S σ) calls id snapshot := by
  -- the last call decides, or what the calls before it left
  induction calls using List.reverseRecOn with
  | nil =>
    constructor
    · intro hlatest
      rw [run, World.new, latest?_new] at hlatest
      cases hlatest
    · rintro ⟨earlier, call, later, h, -⟩
      simp at h
  | append_singleton calls call ih =>
    have hbefore := hroom calls (List.prefix_append calls [call])
    rw [run_concat, isNewest_concat_iff]
    by_cases htouches : call.Touches (run (World.new capacity state : World S σ) calls) id
    · constructor
      · intro hlatest
        obtain ⟨other, hinserts⟩ | hdrops := htouches
        · rw [latest?_perform_of_inserts hbefore hinserts] at hlatest
          exact .inl (Option.some.inj hlatest ▸ hinserts)
        · rw [latest?_perform_of_drops hdrops] at hlatest
          cases hlatest
      · rintro (hinserts | ⟨hleaves, -⟩)
        · exact latest?_perform_of_inserts hbefore hinserts
        · exact absurd htouches hleaves
    · rw [latest?_perform_of_not_touches hbefore htouches, ih hroom.of_concat]
      constructor
      · exact fun hnewest => .inr ⟨htouches, hnewest⟩
      · rintro (hinserts | ⟨-, hnewest⟩)
        · exact absurd (.inl ⟨snapshot, hinserts⟩) htouches
        · exact hnewest

theorem getsOrBuilds_getOrBuild {start : World S σ} {calls : List (Call σ ε)}
    (hroom : HasRoomThroughout start calls) (id : Text) (version : Digest)
    (build : σ → Except ε Metadata.Contents × σ) :
    GetsOrBuilds start calls id version build
      ((run start calls).cache.getOrBuild id version build (run start calls).state) := by
  obtain ⟨found, hget, hgot⟩ | ⟨failure, hget, hbuild, hgot⟩ | ⟨contents, hget, hbuild, hgot⟩ :=
    getOrBuild_cases (run start calls).cache id version build (run start calls).state
  · rw [hgot]
    constructor
    case hit =>
      intro snapshot hsnapshot
      obtain rfl : found = snapshot := Option.some.inj (hget.symm.trans hsnapshot)
      rfl
    case others => exact fun other _ => rfl
    all_goals simp [hget]
  · rw [hgot]
    constructor
    case failed =>
      intro other _ hother
      obtain rfl : failure = other := Except.error.inj (hbuild.symm.trans hother)
      exact ⟨rfl, rfl⟩
    case others => exact fun other _ => rfl
    all_goals simp [hget, hbuild]
  · have hlast := hroom calls (List.prefix_refl calls)
    rw [hgot]
    constructor
    case stored =>
      intro others _ hothers
      obtain rfl : contents = others := Except.ok.inj (hbuild.symm.trans hothers)
      exact ⟨_, rfl, latest?_insert_self hlast _ _, rfl, Catalog.keys_ofKeys _ _, rfl,
        fun old hold => Nat.ne_of_lt hold.number_lt⟩
    case others => exact fun other hne => latest?_insert_of_ne hlast hne _
    all_goals simp [hget, hbuild]

/-- **The history of the calls tells the answers of the cache.** After any calls that a store with
room for the snapshots went through, what is cached for a document is the newest snapshot, whatever
its version. It is given out for its version only. -/
theorem answers_of_run (capacity : Nat) (state : σ) {calls : List (Call σ ε)}
    (hroom : HasRoomThroughout (World.new capacity state : World S σ) calls) :
    (∀ id snapshot,
        (run (World.new capacity state : World S σ) calls).cache.latest? id = some snapshot ↔
          IsNewest (World.new capacity state : World S σ) calls id snapshot) ∧
      (∀ id version snapshot,
        (run (World.new capacity state : World S σ) calls).cache.get? id version = some snapshot ↔
          (run (World.new capacity state : World S σ) calls).cache.latest? id = some snapshot ∧
            snapshot.version = version) ∧
        ∀ id version build,
          GetsOrBuilds (World.new capacity state : World S σ) calls id version build
            ((run (World.new capacity state : World S σ) calls).cache.getOrBuild id version build
              (run (World.new capacity state : World S σ) calls).state) :=
  ⟨latest?_run_eq_some_iff capacity state hroom, get?_eq_some_iff _, getsOrBuilds_getOrBuild hroom⟩

/-- A version of a document is built twice, another version fails, and another document is
dropped. -/
def failedRebuild : List (Call Nat String) :=
  let first : Digest := ⟨Vector.replicate 8 0⟩
  let other : Digest := ⟨Vector.replicate 8 1⟩
  [.getOrBuild ['a'] first fun built => (.ok { keys := [{ name := ['k'] }] }, built + 1),
    .getOrBuild ['a'] first fun built => (.ok {}, built + 1),
    .getOrBuild ['a'] other fun built => (.error "no metadata", built + 1),
    .get ['a'] other, .invalidate ['b'], .latest ['a']]

/-- A store for two documents has room for the calls. -/
theorem answers_of_run_failedRebuild :
    HasRoomThroughout (World.new 2 0 : World BoundedMap Nat) failedRebuild ∧
      IsNewest (World.new 2 0 : World BoundedMap Nat) failedRebuild ['a']
        ⟨⟨Vector.replicate 8 0⟩, 0, Catalog.ofKeys 0 [{ name := ['k'] }], []⟩ := by
  have hroom : HasRoomThroughout (World.new 2 0 : World BoundedMap Nat) failedRebuild := by
    have hinits : ∀ earlier ∈ failedRebuild.inits, SnapshotStore.HasRoom
        (run (World.new 2 0 : World BoundedMap Nat) earlier).cache.snapshots := by
      decide +kernel
    exact fun earlier hearlier => hinits earlier ((List.mem_inits ..).mpr hearlier)
  exact ⟨hroom, ((answers_of_run 2 0 hroom).1 _ _).mp rfl⟩

end PropertyKeys.Cache
