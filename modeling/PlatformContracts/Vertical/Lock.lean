import PlatformContracts.Lib.Keyed
import PlatformContracts.Vertical.Candidate
import PlatformContracts.Vertical.Wire

/-!
# Locks (`validate_lock` of `platform-vertical-fixtures-v0/src/validation.rs`)

* `validateEntries`, `authenticateManifests`: the two loops, with their sets; `validateLock`.
* `WellFormed`: what the entries of a lock are; `Authenticates`: an entry and a stream that fit.
* `validateEntries_ok`, `authenticateManifests_ok`: what each loop accepts.
* `lock_bijection`: a lock and streams are accepted exactly when the lock is well formed and the
  streams are matched one to one with its entries. `rowsLock` is such a lock.
-/

namespace Platform
namespace Vertical

open Contracts

/-- The code outside the crate that a lock needs. -/
structure LockExternals extends Externals where
  /-- `serde_json::from_slice` of a manifest, with the text of its error. -/
  manifestFromSlice : List UInt8 → Except String VerticalFixtureManifestV0

/-- The loop over the entries, with the rows (`present`) and the digests so far. -/
def validateEntries (present : Finset VerticalIdV0) (manifestDigests : Finset String) :
    List VerticalFixtureLockEntryV0 → Except ValidationError (Finset VerticalIdV0)
  | [] => .ok present
  | entry :: entries => do
    check (entry.fixtureClass = entry.verticalId.fixtureClass) (.inconsistent "entries.class")
    validateArtifact "entries.manifest" entry.manifest
    check (entry.manifest.digest.hex ∉ manifestDigests) (.duplicate "entries.manifest.digest")
    check (entry.verticalId ∉ present) (.duplicate "entries.vertical_id")
    validateEntries (insert entry.verticalId present)
      (insert entry.manifest.digest.hex manifestDigests) entries

/-- The rows that are not in the set. -/
def missingVerticals (present : Finset VerticalIdV0) : List VerticalIdV0 :=
  allVerticalIds.filter (· ∉ present)

section Lock

variable (externals : LockExternals) (lock : VerticalFixtureLockV0)

/-- The loop over the byte streams, with the rows so far. -/
def authenticateManifests (authenticated : Finset VerticalIdV0) :
    List (List UInt8) → Except ValidationError (Finset VerticalIdV0)
  | [] => .ok authenticated
  | bytes :: manifestBytes => do
    let manifest ← mapErr .invalidManifestJson (externals.manifestFromSlice bytes)
    validateManifest manifest
    check (manifest.verticalId ∉ authenticated) (.duplicate "manifests.vertical_id")
    let entry ← Exec.okOr (lock.entries.find? (·.verticalId = manifest.verticalId))
      (.invalid "manifests.vertical_id")
    check (¬(entry.fixtureClass ≠ manifest.fixtureClass ∨
      lock.contractRevision ≠ manifest.contractRevision)) (.inconsistent "entries.manifest")
    verifyArtifactBytes externals.toExternals "entries.manifest" entry.manifest bytes
    authenticateManifests (insert manifest.verticalId authenticated) manifestBytes

def validateLock (manifestBytes : List (List UInt8)) : Validated := do
  check (lock.schema = verticalFixtureLockSchemaV0) (.invalid "schema")
  validateGitCommit "protocol_commit" lock.protocolCommit
  validateGitCommit "contract_revision" lock.contractRevision
  check (lock.contractRevision = w1ContractRevision) (.invalid "contract_revision")
  let present ← validateEntries ∅ ∅ lock.entries
  check (missingVerticals present = []) (.missingVerticals (missingVerticals present))
  check (lock.entries.length = allVerticalIds.length) (.invalid "entries")
  let authenticated ← authenticateManifests externals lock ∅ manifestBytes
  check (missingVerticals authenticated = []) (.missingVerticals (missingVerticals authenticated))

end Lock

/-! ## What a lock says -/

/-- The schema and the revisions are valid; the entries name the rows, each once and with its
class, and their manifests are valid artifacts with distinct digests. -/
structure VerticalFixtureLockV0.WellFormed (lock : VerticalFixtureLockV0) : Prop where
  schema : lock.schema = verticalFixtureLockSchemaV0
  protocolCommit : validateGitCommit "protocol_commit" lock.protocolCommit = .ok ()
  contractRevision : lock.contractRevision = w1ContractRevision
  rows : (lock.entries.map (·.verticalId)).Perm allVerticalIds
  classes : ∀ entry ∈ lock.entries, entry.fixtureClass = entry.verticalId.fixtureClass
  artifacts : ∀ entry ∈ lock.entries, validateArtifact "entries.manifest" entry.manifest = .ok ()
  digests : (lock.entries.map (·.manifest.digest.hex)).Nodup

/-- The stream is an accepted manifest of the entry's row, with the length and the SHA-256 of the
entry's identity. -/
structure Authenticates (externals : LockExternals) (entry : VerticalFixtureLockEntryV0)
    (stream : List UInt8) : Prop where
  manifest : ∃ manifest, externals.manifestFromSlice stream = .ok manifest ∧
    validateManifest manifest = .ok () ∧ manifest.verticalId = entry.verticalId
  length : entry.manifest.length.toNat = stream.length
  digest : entry.manifest.digest.hex = externals.sha256.digest stream

theorem missingVerticals_eq_nil {present : Finset VerticalIdV0} :
    missingVerticals present = [] ↔ ∀ verticalId, verticalId ∈ present := by
  simp [missingVerticals, List.filter_eq_nil_iff, mem_allVerticalIds]

/-- The rows of a list without repetitions, when none is missing. -/
theorem rows_perm {rows : List VerticalIdV0} (hn : rows.Nodup)
    (hall : ∀ verticalId, verticalId ∈ rows) : rows.Perm allVerticalIds := by
  refine (List.perm_ext_iff_of_nodup hn allVerticalIds_nodup).mpr fun verticalId => ?_
  exact ⟨fun _ => mem_allVerticalIds _, fun _ => hall _⟩

/-! ## The loop over the entries -/

theorem validateEntries_ok {present s : Finset VerticalIdV0} {manifestDigests : Finset String}
    {entries : List VerticalFixtureLockEntryV0} :
    validateEntries present manifestDigests entries = .ok s ↔
      (∀ entry ∈ entries, entry.fixtureClass = entry.verticalId.fixtureClass ∧
        validateArtifact "entries.manifest" entry.manifest = .ok () ∧
        entry.manifest.digest.hex ∉ manifestDigests ∧ entry.verticalId ∉ present) ∧
      (entries.map (·.manifest.digest.hex)).Nodup ∧ (entries.map (·.verticalId)).Nodup ∧
      s = present ∪ (entries.map (·.verticalId)).toFinset := by
  induction entries generalizing present manifestDigests with
  | nil => simp [validateEntries, eq_comm]
  | cons entry entries ih =>
    simp only [validateEntries, unit_bind_eq_ok, check_eq_ok, ih, List.forall_mem_cons,
      List.map_cons, List.nodup_cons, List.toFinset_cons, Finset.mem_insert, not_or]
    constructor
    · rintro ⟨hc, ha, hd, hv, hl, hdn, hvn, rfl⟩
      refine ⟨⟨⟨hc, ha, hd, hv⟩, fun e he => ?_⟩, ⟨fun hm => ?_, hdn⟩, ⟨fun hm => ?_, hvn⟩, ?_⟩
      · obtain ⟨hce, hae, ⟨-, hde⟩, -, hve⟩ := hl e he
        exact ⟨hce, hae, hde, hve⟩
      · obtain ⟨e, he, hed⟩ := List.mem_map.mp hm
        exact (hl e he).2.2.1.1 hed
      · obtain ⟨e, he, hev⟩ := List.mem_map.mp hm
        exact (hl e he).2.2.2.1 hev
      · rw [Finset.insert_union, Finset.union_insert]
    · rintro ⟨⟨⟨hc, ha, hd, hv⟩, hl⟩, ⟨hdm, hdn⟩, ⟨hvm, hvn⟩, rfl⟩
      refine ⟨hc, ha, hd, hv, fun e he => ?_, hdn, hvn, ?_⟩
      · obtain ⟨hce, hae, hde, hve⟩ := hl e he
        exact ⟨hce, hae, ⟨fun h => hdm (List.mem_map.mpr ⟨e, he, h⟩), hde⟩,
          fun h => hvm (List.mem_map.mpr ⟨e, he, h⟩), hve⟩
      · rw [Finset.insert_union, Finset.union_insert]

/-- After the loop no row is missing and there are as many entries as rows. -/
theorem wellFormed_iff {lock : VerticalFixtureLockV0} :
    lock.WellFormed ↔ lock.schema = verticalFixtureLockSchemaV0 ∧
      validateGitCommit "protocol_commit" lock.protocolCommit = .ok () ∧
      validateGitCommit "contract_revision" lock.contractRevision = .ok () ∧
      lock.contractRevision = w1ContractRevision ∧
      ∃ present, validateEntries ∅ ∅ lock.entries = .ok present ∧
        missingVerticals present = [] ∧ lock.entries.length = allVerticalIds.length := by
  constructor
  · intro h
    have hn : (lock.entries.map (·.verticalId)).Nodup := h.rows.nodup_iff.mpr allVerticalIds_nodup
    refine ⟨h.schema, h.protocolCommit, ?_, h.contractRevision, _,
      validateEntries_ok.mpr ⟨fun e he => ⟨h.classes e he, h.artifacts e he, by simp, by simp⟩,
        h.digests, hn, rfl⟩, missingVerticals_eq_nil.mpr fun verticalId => ?_, ?_⟩
    · rw [h.contractRevision]
      decide
    · simpa using h.rows.mem_iff.mpr (mem_allVerticalIds verticalId)
    · simpa only [List.length_map] using h.rows.length_eq
  · rintro ⟨hs, hp, -, hc, present, he, hm, -⟩
    obtain ⟨hl, hd, hn, rfl⟩ := validateEntries_ok.mp he
    refine ⟨hs, hp, hc, rows_perm hn fun verticalId => ?_, fun e he => (hl e he).1,
      fun e he => (hl e he).2.1, hd⟩
    simpa using missingVerticals_eq_nil.mp hm verticalId

/-! ## The loop over the streams -/

section Streams

variable {externals : LockExternals} {lock : VerticalFixtureLockV0}

/-- One stream is accepted when it is the manifest of an entry. -/
theorem authenticate_cons (hw : lock.WellFormed) {authenticated s : Finset VerticalIdV0}
    {stream : List UInt8} {streams : List (List UInt8)} :
    authenticateManifests externals lock authenticated (stream :: streams) = .ok s ↔
      ∃ entry ∈ lock.entries, Authenticates externals entry stream ∧
        entry.verticalId ∉ authenticated ∧
        authenticateManifests externals lock (insert entry.verticalId authenticated) streams =
          .ok s := by
  have hn : (lock.entries.map (·.verticalId)).Nodup := hw.rows.nodup_iff.mpr allVerticalIds_nodup
  rw [authenticateManifests, bind_eq_ok]
  simp only [mapErr_eq_ok, unit_bind_eq_ok, check_eq_ok]
  constructor
  · rintro ⟨manifest, hparse, hm, hnew, hrest⟩
    obtain ⟨entry, hfind, hrest⟩ := bind_eq_ok.mp hrest
    obtain ⟨he, hid⟩ := (Keyed.find_key hn).mp (Exec.okOr_eq_ok.mp hfind)
    simp only [unit_bind_eq_ok, verifyArtifactBytes_ok] at hrest
    obtain ⟨-, ⟨-, hlen, hdigest⟩, hrest⟩ := hrest
    refine ⟨entry, he, ⟨⟨manifest, hparse, hm, hid.symm⟩, hlen, hdigest⟩, ?_, ?_⟩
    · rwa [hid]
    · rwa [hid]
  · rintro ⟨entry, he, ⟨⟨manifest, hparse, hm, hid⟩, hlen, hdigest⟩, hnew, hrest⟩
    have hmanifest := validateManifest_eq_ok.mp hm
    rw [← hid] at hnew hrest
    refine ⟨manifest, hparse, hm, hnew, bind_eq_ok.mpr ⟨entry, ?_, ?_⟩⟩
    · exact Exec.okOr_eq_ok.mpr ((Keyed.find_key hn).mpr ⟨he, hid.symm⟩)
    · simp only [unit_bind_eq_ok, check_eq_ok, verifyArtifactBytes_ok, not_or, not_not]
      refine ⟨⟨?_, ?_⟩, ⟨hw.artifacts entry he, hlen, hdigest⟩, hrest⟩
      · rw [hw.classes entry he, hmanifest.row, hid]
      · rw [hw.contractRevision, hmanifest.revision]

/-- The streams that the loop accepts, and the entries that it finds for them. -/
theorem authenticateManifests_ok (hw : lock.WellFormed) {authenticated s : Finset VerticalIdV0}
    {streams : List (List UInt8)} :
    authenticateManifests externals lock authenticated streams = .ok s ↔
      ∃ matched, List.Forall₂ (Authenticates externals) matched streams ∧
        (∀ entry ∈ matched, entry ∈ lock.entries ∧ entry.verticalId ∉ authenticated) ∧
        (matched.map (·.verticalId)).Nodup ∧
        s = authenticated ∪ (matched.map (·.verticalId)).toFinset := by
  induction streams generalizing authenticated with
  | nil => simp [authenticateManifests, eq_comm]
  | cons stream streams ih =>
    rw [authenticate_cons hw]
    simp only [ih, Finset.mem_insert, not_or]
    constructor
    · rintro ⟨entry, he, ha, hnew, matched, hf, hmem, hn, rfl⟩
      refine ⟨entry :: matched, .cons ha hf, ?_, List.nodup_cons.mpr ⟨fun h => ?_, hn⟩, ?_⟩
      · exact List.forall_mem_cons.mpr ⟨⟨he, hnew⟩, fun e h => ⟨(hmem e h).1, (hmem e h).2.2⟩⟩
      · obtain ⟨e, h, hid⟩ := List.mem_map.mp h
        exact (hmem e h).2.1 hid
      · rw [List.map_cons, List.toFinset_cons, Finset.insert_union, Finset.union_insert]
    · rintro ⟨_, hf, hmem, hn, rfl⟩
      obtain ⟨entry, matched, ha, htail, rfl⟩ := List.forall₂_cons_right_iff.mp hf
      obtain ⟨⟨he, hnew⟩, hmem⟩ := List.forall_mem_cons.mp hmem
      obtain ⟨hnot, hn⟩ := List.nodup_cons.mp hn
      refine ⟨entry, he, ha, hnew, matched, htail, fun e h => ?_, hn, ?_⟩
      · obtain ⟨hl, hea⟩ := hmem e h
        exact ⟨hl, fun hid => hnot (List.mem_map.mpr ⟨e, h, hid⟩), hea⟩
      · rw [List.map_cons, List.toFinset_cons, Finset.insert_union, Finset.union_insert]

/-- The streams are matched one to one with the entries of the lock. -/
def Matched (externals : LockExternals) (lock : VerticalFixtureLockV0)
    (streams : List (List UInt8)) : Prop :=
  ∃ matched, matched.Perm lock.entries ∧ List.Forall₂ (Authenticates externals) matched streams

theorem matched_iff (hw : lock.WellFormed) {streams : List (List UInt8)} :
    Matched externals lock streams ↔ ∃ authenticated,
      authenticateManifests externals lock ∅ streams = .ok authenticated ∧
        missingVerticals authenticated = [] := by
  simp only [authenticateManifests_ok hw, missingVerticals_eq_nil]
  constructor
  · rintro ⟨matched, hp, hf⟩
    have hrows := (hp.map (·.verticalId)).trans hw.rows
    refine ⟨_, ⟨matched, hf, fun e he => ⟨hp.mem_iff.mp he, Finset.notMem_empty _⟩,
      hrows.nodup_iff.mpr allVerticalIds_nodup, rfl⟩, fun verticalId => ?_⟩
    simpa using hrows.mem_iff.mpr (mem_allVerticalIds verticalId)
  · rintro ⟨_, ⟨matched, hf, hmem, hn, rfl⟩, hall⟩
    refine ⟨matched, ?_, hf⟩
    refine Keyed.perm_of_keys (hw.rows.nodup_iff.mpr allVerticalIds_nodup)
      (fun e he => (hmem e he).1) ((rows_perm hn fun verticalId => ?_).trans hw.rows.symm)
    simpa using hall verticalId

theorem validateLock_ok {streams : List (List UInt8)} :
    validateLock externals lock streams = .ok () ↔
      lock.WellFormed ∧ Matched externals lock streams := by
  constructor
  · intro h
    simp only [validateLock, unit_bind_eq_ok, check_eq_ok] at h
    obtain ⟨hs, hp, hr, hc, h⟩ := h
    obtain ⟨present, he, h⟩ := bind_eq_ok.mp h
    simp only [unit_bind_eq_ok, check_eq_ok] at h
    obtain ⟨hm, hl, h⟩ := h
    obtain ⟨authenticated, ha, h⟩ := bind_eq_ok.mp h
    have hw := wellFormed_iff.mpr ⟨hs, hp, hr, hc, present, he, hm, hl⟩
    exact ⟨hw, (matched_iff hw).mpr ⟨authenticated, ha, check_eq_ok.mp h⟩⟩
  · rintro ⟨hw, h⟩
    obtain ⟨hs, hp, hr, hc, present, he, hm, hl⟩ := wellFormed_iff.mp hw
    obtain ⟨authenticated, ha, hmiss⟩ := (matched_iff hw).mp h
    simp only [validateLock, unit_bind_eq_ok, check_eq_ok]
    refine ⟨hs, hp, hr, hc, bind_eq_ok.mpr ⟨present, he, ?_⟩⟩
    simp only [unit_bind_eq_ok, check_eq_ok]
    exact ⟨hm, hl, bind_eq_ok.mpr ⟨authenticated, ha, check_eq_ok.mpr hmiss⟩⟩

/-! ## What the matching gives -/

section Matching

variable {streams streams' : List (List UInt8)}

/-- A stream has one row. -/
theorem Authenticates.row {entry entry' : VerticalFixtureLockEntryV0} {stream : List UInt8}
    (h : Authenticates externals entry stream) (h' : Authenticates externals entry' stream) :
    entry.verticalId = entry'.verticalId := by
  obtain ⟨manifest, hparse, -, hid⟩ := h.manifest
  obtain ⟨manifest', hparse', -, hid'⟩ := h'.manifest
  rw [hparse] at hparse'
  obtain rfl := Except.ok.inj hparse'
  rw [← hid, hid']

/-- A stream for each entry, so for each row. -/
theorem Matched.length (hw : lock.WellFormed) (h : Matched externals lock streams) :
    streams.length = allVerticalIds.length := by
  obtain ⟨matched, hp, hf⟩ := h
  rw [← hf.length_eq, hp.length_eq, ← hw.rows.length_eq, List.length_map]

theorem Matched.nodup (hw : lock.WellFormed) (h : Matched externals lock streams) :
    streams.Nodup := by
  obtain ⟨matched, hp, hf⟩ := h
  refine Keyed.forall₂_nodup hf (fun _ _ _ => Authenticates.row) ?_
  exact ((hp.map _).trans hw.rows).nodup_iff.mpr allVerticalIds_nodup

theorem Matched.perm {entries : List VerticalFixtureLockEntryV0}
    (he : lock.entries.Perm entries) (hs : streams.Perm streams')
    (h : Matched externals lock streams) :
    Matched externals { lock with entries } streams' := by
  obtain ⟨matched, hp, hf⟩ := h
  obtain ⟨matched', hp', hf'⟩ := Keyed.forall₂_perm_right hf hs
  exact ⟨matched', hp'.symm.trans (hp.trans he), hf'⟩

theorem VerticalFixtureLockV0.WellFormed.perm {entries : List VerticalFixtureLockEntryV0}
    (hw : lock.WellFormed) (he : lock.entries.Perm entries) :
    VerticalFixtureLockV0.WellFormed { lock with entries } where
  schema := hw.schema
  protocolCommit := hw.protocolCommit
  contractRevision := hw.contractRevision
  rows := (he.map _).symm.trans hw.rows
  classes e h := hw.classes e (he.mem_iff.mpr h)
  artifacts e h := hw.artifacts e (he.mem_iff.mpr h)
  digests := (he.map _).nodup_iff.mp hw.digests

/-- Each stream of one family is in the other, when equal digests are those of equal streams. -/
theorem Matched.mem (h : Matched externals lock streams) (h' : Matched externals lock streams')
    (hcollide : ∀ a ∈ streams, ∀ b ∈ streams',
      externals.sha256.digest a = externals.sha256.digest b → a = b) :
    ∀ a ∈ streams, a ∈ streams' := by
  obtain ⟨matched, hp, hf⟩ := h
  obtain ⟨matched', hp', hf'⟩ := h'
  intro a ha
  obtain ⟨entry, he, hea⟩ := Keyed.exists_left hf ha
  obtain ⟨b, hb, heb⟩ := Keyed.exists_right hf' (hp'.mem_iff.mpr (hp.mem_iff.mp he))
  rwa [hcollide a ha b hb (hea.digest.symm.trans heb.digest)]

theorem validateLock_perm {entries : List VerticalFixtureLockEntryV0}
    (h : validateLock externals lock streams = .ok ())
    (he : lock.entries.Perm entries) (hs : streams.Perm streams') :
    validateLock externals { lock with entries } streams' = .ok () := by
  obtain ⟨hw, hm⟩ := validateLock_ok.mp h
  exact validateLock_ok.mpr ⟨hw.perm he, hm.perm he hs⟩

end Matching

end Streams

/-- A lock and a sequence of byte streams are accepted exactly when the lock is well formed and
the streams are matched one to one with its entries, each stream with the entry that
authenticates it. So there are eighteen different streams, the order of the entries and of the
streams does not matter, and without a collision of SHA-256 on the streams of two accepted
families one is the other reordered. -/
theorem lock_bijection (externals : LockExternals) (lock : VerticalFixtureLockV0)
    (streams : List (List UInt8)) :
    (validateLock externals lock streams = .ok () ↔ lock.WellFormed ∧
      ∃ matched, matched.Perm lock.entries ∧
        List.Forall₂ (Authenticates externals) matched streams) ∧
    (validateLock externals lock streams = .ok () → streams.length = 18 ∧ streams.Nodup) ∧
    (∀ entries streams', lock.entries.Perm entries → streams.Perm streams' →
      (validateLock externals lock streams = .ok () ↔
        validateLock externals { lock with entries } streams' = .ok ())) ∧
    (∀ streams', validateLock externals lock streams = .ok () →
      validateLock externals lock streams' = .ok () →
      (∀ a ∈ streams, ∀ b ∈ streams',
        externals.sha256.digest a = externals.sha256.digest b → a = b) →
      streams.Perm streams') := by
  refine ⟨validateLock_ok, fun h => ?_, fun entries streams' he hs => ⟨fun h =>
    validateLock_perm h he hs, fun h => ?_⟩, fun streams' h h' hcollide => ?_⟩
  · obtain ⟨hw, hm⟩ := validateLock_ok.mp h
    exact ⟨hm.length hw, hm.nodup hw⟩
  · have hback := validateLock_perm h he.symm hs.symm
    exact hback
  · obtain ⟨hw, hm⟩ := validateLock_ok.mp h
    obtain ⟨-, hm'⟩ := validateLock_ok.mp h'
    refine (Keyed.perm_iff_mem (hm.nodup hw)).mpr ⟨?_, hm.mem hm' hcollide⟩
    rw [hm.length hw, hm'.length hw]

/-! ## A lock

Every row with the case of the owner, the streams the JSON of the manifests. -/

/-- What the row requires, each with the same bytes. -/
def rowPrerequisites (verticalId : VerticalIdV0) : List PrerequisiteV0 :=
  (requiredPrerequisites verticalId).map fun required => {
    prerequisiteId := required.1
    kind := required.2
    identity := relaunchArtifact required.1 (bytes "model") }

def rowManifest (verticalId : VerticalIdV0) : VerticalFixtureManifestV0 :=
  { relaunchManifest verticalId [queueState] with
    cases := [{ relaunchCase [queueState] with prerequisites := rowPrerequisites verticalId }] }

def prerequisiteText (prerequisite : PrerequisiteV0) : List String :=
  ["\x7b\"prerequisite_id\":\"", prerequisite.prerequisiteId, "\",\"kind\":\"",
    prerequisite.kind.name, "\",\"identity\":\x7b\"id\":\"", prerequisite.identity.id,
    "\",\"digest\":\x7b\"algorithm\":\"sha256\",\"hex\":\"", prerequisite.identity.digest.hex,
    "\"\x7d,\"length\":5\x7d\x7d"]

/-- The text before the row. -/
def schemaText : String :=
  "\x7b\"schema\":\"delysis.vertical_fixture_manifest.v0\",\"vertical_id\":\""

/-- The text between the class and the prerequisites. -/
def sourceText : List String :=
  ["\",\"contract_revision\":\"cbab33555ab9355a6ac453d659c55ec9e0666821\",\"cases\":[\x7b\"cas",
    "e_id\":\"owner.quit_relaunch\",\"source\":\x7b\"repository_id\":\"delysis/product\",\"comm",
    "it\":\"aaaaaaaaaaaaaaaaaaaaaaaaaaaaaaaaaaaaaaaa\",\"production_tree\":\x7b\"id\":\"product",
    "ion.tree\",\"digest\":\x7b\"algorithm\":\"sha256\",\"hex\":\"d398170455894f86d187ea7c660d3",
    "15fbca29d9deaafb68ae38821398edbb309\"\x7d,\"length\":15\x7d\x7d,\"inputs\":[\x7b\"identity",
    "\":\x7b\"id\":\"relaunch.input\",\"digest\":\x7b\"algorithm\":\"sha256\",\"hex\":\"d398170",
    "455894f86d187ea7c660d315fbca29d9deaafb68ae38821398edbb309\"\x7d,\"length\":15\x7d,\"availa",
    "bility\":\"generated_fixture\",\"relative_path\":null\x7d],\"state_identities\":[\x7b\"sta",
    "te_id\":\"owner.queue\",\"schema_id\":\"owner.queue.v1\",\"baseline\":\x7b\"identity\":",
    "\x7b\"id\":\"owner.queue.empty\",\"digest\":\x7b\"algorithm\":\"sha256\",\"hex\":\"e3b0c44",
    "298fc1c149afbf4c8996fb92427ae41e4649b934ca495991b7852b855\"\x7d,\"length\":0\x7d,\"availab",
    "ility\":\"generated_fixture\",\"relative_path\":null\x7d\x7d],\"prerequisites\":["]

/-- The text after the prerequisites. -/
def replayText : List String :=
  ["],\"replay\":[\x7b\"program\":\x7b\"kind\":\"cargo\"\x7d,\"argv\":[\"test\"],\"required_en",
    "vironment\":[],\"network\":\"denied\"\x7d],\"expected_projection\":\x7b\"id\":\"expected.p",
    "rojection\",\"digest\":\x7b\"algorithm\":\"sha256\",\"hex\":\"6f08f7239ef1ee220f552555b903",
    "e8f89e40998f488b97abf4b21a13e4249d43\"\x7d,\"length\":864\x7d\x7d],\"omitted_claims\":[\"l",
    "ive hosted-provider behavior\"],\"negative_evidence\":[]\x7d"]

/-- `rowManifest` as JSON. -/
def rowBytes (verticalId : VerticalIdV0) : List UInt8 :=
  ([schemaText, verticalId.name, "\",\"class\":\"", verticalId.fixtureClass.name] ++ sourceText ++
    [","].intercalate ((rowPrerequisites verticalId).map prerequisiteText) ++ replayText).flatMap
    bytes

/-- The SHA-256 of `rowBytes`. -/
def rowDigest : VerticalIdV0 → String
  | .momChatCancelRetry =>
    "15b10a408475a2868de6c26716944581de60b8fc6ed7666180eff5033fab2c5e"
  | .momAttachment =>
    "b00b20d764f621ee4734edb476f7b4d7841373c155f78e017e83b1e8830ce164"
  | .fteHostedFixtureLoopback =>
    "16af2f087552cc3f151d5f2655a5150aeb5fff68f607253a7c62ff1fa0fab497"
  | .speechPeerCancellation =>
    "e9ce070fa58c8b73b06e416da10595f62bfb32aff251e6d3d8768fde2fb72dfd"
  | .informationInstallQuery =>
    "04329b86655d957144c74b19e3c9b96525e4a93739af3a07111beace6a82bafd"
  | .loomSuggestionPromotion =>
    "b590814a34f64837f3bac50fc60b1339b4def446b1ae0f969d535b04a85e5bcb"
  | .loomResearchDiagnosticAdmittedDistinction =>
    "0e87c42c7cf319c95f3681381eb095e3375dfa8f9039177ea4efe3a5a04272f8"
  | .quitRelaunchFakeOwners =>
    "0b6c8023d107148ef2761bee451de7a44df5111fdba4f67724e2fdb6a803be19"
  | .currentExactQwen =>
    "3bc5ab7f84732c13d2fd87b9ad3750de1249afbfac4e200b259a0fa0974b0c1e"
  | .currentExactGemma =>
    "1cc37cafc7c8df69dd907722ab7fcf3a63c2190799a97405929ebe9c362f77ff"
  | .currentParakeetModelAudio =>
    "bec901a9509623d936584858016c2df17cb3321dceb6a2df48fe57385150d501"
  | .appleInstalledVoice =>
    "c335709dcf9b037af903e7747859ec747b8556b9391aa0a35ce25cccc5733d96"
  | .momPriorReleaseStore =>
    "141562da532ba1d638568432c245fe23c47dd0e827017a19a458a2713e5df0c1"
  | .loomPriorProjectStore =>
    "f67fb54364a9b1150152bf587485537714a1b161bff3ef1bc271bba30229b73c"
  | .fteLegacyDatabase =>
    "3c8040fc3897d491c8169d037ee1f8db08db0acea9e16b6585fea29e79014df1"
  | .informationResourceStore =>
    "2c9a7f3c8e31ae87077118aa2f63883e691495800b6697b265644fcb4d6c343f"
  | .corruptedDisposableCaches =>
    "8fa8a36c95483ddae0a52625b43a30dee1ca4faf4a2fc549489c08b54f825fd9"
  | .partialPublicationStates =>
    "478c357131e5f5c2da3c236e96165d949eb20b190f0931d48088ddda32211135"

/-- The JSON reader and the SHA-256 of the streams of the rows. -/
def rowExternals : LockExternals where
  sha256 := {
    Hasher := List UInt8
    new := []
    update := fun hasher chunk => hasher ++ chunk
    finalize := fun stream => ((allVerticalIds.find? (rowBytes · = stream)).map rowDigest).getD ""
    digest := fun stream => ((allVerticalIds.find? (rowBytes · = stream)).map rowDigest).getD "" }
  projectionFromSlice := relaunchExternals.projectionFromSlice
  manifestFromSlice stream :=
    match allVerticalIds.find? (rowBytes · = stream) with
    | some verticalId => .ok (rowManifest verticalId)
    | none => .error "expected value at line 1 column 1"

theorem rowBytes_nodup : (allVerticalIds.map rowBytes).Nodup := by decide +kernel

/-- The row of a stream. -/
theorem find_rowBytes (verticalId : VerticalIdV0) :
    allVerticalIds.find? (rowBytes · = rowBytes verticalId) = some verticalId :=
  (Keyed.find_key rowBytes_nodup).mpr ⟨mem_allVerticalIds verticalId, rfl⟩

theorem rowBytes_length (verticalId : VerticalIdV0) : (rowBytes verticalId).length < 2 ^ 64 := by
  have hsource : (sourceText.flatMap bytes).length ≤ 1000 := by decide +kernel
  have hreplay : (replayText.flatMap bytes).length ≤ 1000 := by decide +kernel
  have hnames : (bytes verticalId.name).length ≤ 100 ∧
      (bytes verticalId.fixtureClass.name).length ≤ 100 ∧
      (([","].intercalate ((rowPrerequisites verticalId).map prerequisiteText)).flatMap
        bytes).length ≤ 1000 := by
    cases verticalId <;> decide +kernel
  have hschema : (bytes schemaText).length ≤ 100 ∧ (bytes "\",\"class\":\"").length ≤ 100 := by
    decide +kernel
  simp only [rowBytes, List.flatMap_append, List.flatMap_cons, List.flatMap_nil,
    List.length_append, List.length_nil]
  omega

theorem rowManifest_ok (verticalId : VerticalIdV0) :
    validateManifest (rowManifest verticalId) = .ok () := by
  have h : (relaunchManifest .quitRelaunchFakeOwners [queueState]).Valid :=
    validateManifest_eq_ok.mp (by decide +kernel)
  have hcase := h.cases _ (List.mem_singleton_self _)
  refine validateManifest_eq_ok.mpr { h with
    row := rfl
    cases_ne_nil := List.cons_ne_nil _ _
    cases := fun case hc => ?_
    cases_nodup := List.nodup_singleton _
    hosted_omission := fun hosted => hosted.2 (List.mem_singleton_self _)
    hosted_prerequisites := by cases verticalId <;> decide }
  obtain rfl := List.mem_singleton.mp hc
  exact { hcase with
    row := by cases verticalId <;> decide +kernel
    prerequisites := by cases verticalId <;> decide +kernel
    prerequisites_nodup := by cases verticalId <;> decide +kernel }

def rowEntry (verticalId : VerticalIdV0) : VerticalFixtureLockEntryV0 where
  verticalId := verticalId
  fixtureClass := verticalId.fixtureClass
  manifest := ⟨verticalId.name, ⟨.sha256, rowDigest verticalId⟩,
    UInt64.ofNat (rowBytes verticalId).length⟩

def rowsLock : VerticalFixtureLockV0 where
  schema := verticalFixtureLockSchemaV0
  protocolCommit := "aaaaaaaaaaaaaaaaaaaaaaaaaaaaaaaaaaaaaaaa"
  contractRevision := w1ContractRevision
  entries := allVerticalIds.map rowEntry

theorem rowsLock_wellFormed : rowsLock.WellFormed where
  schema := rfl
  protocolCommit := by decide +kernel
  contractRevision := rfl
  rows := .of_eq rfl
  classes entry he := by
    obtain ⟨verticalId, -, rfl⟩ := List.mem_map.mp he
    rfl
  artifacts entry he := by
    obtain ⟨verticalId, -, rfl⟩ := List.mem_map.mp he
    cases verticalId <;> decide +kernel
  digests := by
    show (allVerticalIds.map rowDigest).Nodup
    decide +kernel

theorem rowEntry_authenticates (verticalId : VerticalIdV0) :
    Authenticates rowExternals (rowEntry verticalId) (rowBytes verticalId) where
  manifest := ⟨rowManifest verticalId, by simp [rowExternals, find_rowBytes],
    rowManifest_ok verticalId, rfl⟩
  length := UInt64.toNat_ofNat_of_lt' (rowBytes_length verticalId)
  digest := by simp [rowEntry, rowExternals, find_rowBytes]

theorem rowsLock_matched : Matched rowExternals rowsLock (allVerticalIds.map rowBytes) := by
  refine ⟨_, .refl _, ?_⟩
  show List.Forall₂ _ (allVerticalIds.map rowEntry) (allVerticalIds.map rowBytes)
  rw [List.forall₂_map_left_iff, List.forall₂_map_right_iff, List.forall₂_same]
  exact fun verticalId _ => rowEntry_authenticates verticalId

/-- The lock is accepted, with the streams also in the other order. -/
theorem lock_bijection_rows :
    validateLock rowExternals rowsLock (allVerticalIds.map rowBytes) = .ok () ∧
      validateLock rowExternals rowsLock (allVerticalIds.map rowBytes).reverse = .ok () := by
  obtain ⟨hiff, -, horder, -⟩ :=
    lock_bijection rowExternals rowsLock (allVerticalIds.map rowBytes)
  have haccepted := hiff.mpr ⟨rowsLock_wellFormed, rowsLock_matched⟩
  exact ⟨haccepted, (horder _ _ (.refl _) (List.reverse_perm _).symm).mp haccepted⟩

end Vertical
end Platform
