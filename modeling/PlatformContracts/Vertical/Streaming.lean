import PlatformContracts.Vertical.Binding

/-!
# Streams and whole buffers (`platform-vertical-fixtures-v0/src/validation.rs`)

* `sha256Identity`: the identity of a byte string.
* `authenticateStream`: what `verify_prerequisite_chunks` checks of the concatenation of its
  chunks. `hashChunks_eq`: the partial sums overflow exactly when the sum does;
  `authenticateChunks_eq`: the loop checks the concatenation.
* `streaming_exact`: the verification of chunks against that of the whole buffer.
-/

namespace Platform
namespace Vertical

open Contracts

/-- `{:x}` of a SHA-256 is 64 lower-case hexadecimal digits. -/
def Sha256.PrintsHex (sha256 : Sha256) : Prop :=
  ∀ stream, validateSha256 (sha256.digest stream) = .ok ()

/-- `sha256_identity`, with the text of its panic. -/
def sha256Identity (sha256 : Sha256) (id : String) (stream : List UInt8) :
    Except String ArtifactIdentityV0 := do
  let digest ← mapErr
    (fun _ => "SHA-256 implementation always emits 64 lowercase hexadecimal digits")
    (ContentDigest.sha256 (sha256.digest stream))
  check (stream.length < 2 ^ 64) "artifact length must fit in u64"
  pure { id, digest, length := UInt64.ofNat stream.length }

/-- An error without the field that it names. -/
def ValidationError.kind : ValidationError → ValidationError
  | .empty _ => .empty ""
  | .invalid _ => .invalid ""
  | .duplicate _ => .duplicate ""
  | .inconsistent _ => .inconsistent ""
  | .digestMismatch _ => .digestMismatch ""
  | .lengthMismatch _ => .lengthMismatch ""
  | error => error

section Streams

variable {sha256 : Sha256}

/-- The checks of `verify_prerequisite_chunks` on the concatenation of the chunks. -/
def authenticateStream (sha256 : Sha256) (prerequisiteId : String) (identity : ArtifactIdentityV0)
    (stream : List UInt8) : Validated := do
  validateSafeId "prerequisite_id" prerequisiteId
  validateArtifact "prerequisite.identity" identity
  check (stream.length < 2 ^ 64) (.invalid "prerequisite_chunks")
  check (identity.length.toNat = stream.length) (.lengthMismatch "prerequisite_chunks")
  check (identity.digest.hex = sha256.digest stream) (.digestMismatch "prerequisite_chunks")

/-- The loop fails exactly when the length of all chunks is no word: the splits do not matter. -/
theorem hashChunks_eq {length : UInt64} {digest : sha256.Hasher} {chunks : List (List UInt8)} :
    hashChunks sha256 length digest chunks =
      if length.toNat + chunks.flatten.length < 2 ^ 64 then
        .ok (UInt64.ofNat (length.toNat + chunks.flatten.length),
          chunks.foldl sha256.update digest)
      else .error (.invalid "prerequisite_chunks") := by
  induction chunks generalizing length digest with
  | nil =>
    have hlength := length.toNat_lt
    simp [hashChunks, hlength]
  | cons chunk chunks ih =>
    have hcons : (chunk :: chunks).flatten.length = chunk.length + chunks.flatten.length := by
      rw [List.flatten_cons, List.length_append]
    rw [hashChunks, hcons]
    by_cases hchunk : chunk.length < 2 ^ 64
    · have hword : (UInt64.ofNat chunk.length).toNat = chunk.length :=
        UInt64.toNat_ofNat_of_lt' hchunk
      cases hadd : checkedAdd length (UInt64.ofNat chunk.length) with
      | none =>
        rw [checkedAdd_eq_none, hword] at hadd
        rw [if_neg (by omega), check, if_pos hchunk]
        rfl
      | some next =>
        rw [checkedAdd_eq_some, hword] at hadd
        rw [check, if_pos hchunk, ok_bind, Exec.okOr, ok_bind, ih, hadd, Nat.add_assoc]
        rfl
    · rw [check, if_neg hchunk, if_neg (by omega)]
      rfl

/-- The loop over the chunks checks their concatenation. -/
theorem authenticateChunks_eq (hs : sha256.Streams) {prerequisiteId : String}
    {identity : ArtifactIdentityV0} {chunks : List (List UInt8)} :
    authenticateChunks sha256 prerequisiteId identity chunks =
      authenticateStream sha256 prerequisiteId identity chunks.flatten := by
  unfold authenticateChunks authenticateStream
  congr 1
  funext _
  congr 1
  funext _
  rw [hashChunks_eq, UInt64.toNat_zero, Nat.zero_add]
  by_cases hlength : chunks.flatten.length < 2 ^ 64
  · have hword : (UInt64.ofNat chunks.flatten.length).toNat = chunks.flatten.length :=
      UInt64.toNat_ofNat_of_lt' hlength
    rw [if_pos hlength, check, if_pos hlength, ok_bind, ok_bind]
    simp only [hs chunks, ← UInt64.toNat_inj, hword]
  · rw [if_neg hlength, check, if_neg hlength]
    rfl

theorem verifyPrerequisiteChunks_eq_ok {prerequisiteId : String} {identity : ArtifactIdentityV0}
    {chunks : List (List UInt8)} {token : VerifiedPrerequisiteV0 sha256} :
    verifyPrerequisiteChunks sha256 prerequisiteId identity chunks = .ok token ↔
      authenticateChunks sha256 prerequisiteId identity chunks = .ok () ∧
        token.prerequisiteId = prerequisiteId ∧ token.identity = identity := by
  unfold verifyPrerequisiteChunks
  split
  · rename_i h
    rcases token with ⟨id, artifact, hv⟩
    simp [h, eq_comm]
  · rename_i e h
    simp [h]

theorem verifyPrerequisiteChunks_eq_error {prerequisiteId : String}
    {identity : ArtifactIdentityV0} {chunks : List (List UInt8)} {e : ValidationError} :
    verifyPrerequisiteChunks sha256 prerequisiteId identity chunks = .error e ↔
      authenticateChunks sha256 prerequisiteId identity chunks = .error e := by
  unfold verifyPrerequisiteChunks
  split <;> rename_i h <;> simp [h]

/-- A token is made exactly when the stream passes its checks. -/
theorem exists_verified_iff (hs : sha256.Streams) {prerequisiteId : String}
    {identity : ArtifactIdentityV0} {chunks : List (List UInt8)} :
    (∃ token, verifyPrerequisiteChunks sha256 prerequisiteId identity chunks = .ok token) ↔
      authenticateStream sha256 prerequisiteId identity chunks.flatten = .ok () := by
  rw [← authenticateChunks_eq hs]
  constructor
  · rintro ⟨token, h⟩
    exact (verifyPrerequisiteChunks_eq_ok.mp h).1
  · intro h
    exact ⟨⟨prerequisiteId, identity, chunks, h⟩,
      verifyPrerequisiteChunks_eq_ok.mpr ⟨h, rfl, rfl⟩⟩

/-- The token does not show the chunks that it was verified with. -/
theorem verifyPrerequisiteChunks_congr {prerequisiteId : String} {identity : ArtifactIdentityV0}
    {chunks chunks' : List (List UInt8)}
    (h : authenticateChunks sha256 prerequisiteId identity chunks =
      authenticateChunks sha256 prerequisiteId identity chunks') :
    verifyPrerequisiteChunks sha256 prerequisiteId identity chunks =
      verifyPrerequisiteChunks sha256 prerequisiteId identity chunks' := by
  cases hv : verifyPrerequisiteChunks sha256 prerequisiteId identity chunks' with
  | ok token =>
    rw [verifyPrerequisiteChunks_eq_ok] at hv ⊢
    rwa [h]
  | error e =>
    rw [verifyPrerequisiteChunks_eq_error] at hv ⊢
    rwa [h]

end Streams

section Exact

variable (externals : Externals)

/-- The checks of a stream and those of a buffer fail at the same step. -/
theorem authenticateStream_kind {prerequisiteId : String} (field : String)
    (identity : ArtifactIdentityV0) {stream : List UInt8}
    (hsafe : validateSafeId "prerequisite_id" prerequisiteId = .ok ())
    (hlength : stream.length < 2 ^ 64) :
    mapErr ValidationError.kind
        (authenticateStream externals.sha256 prerequisiteId identity stream) =
      mapErr ValidationError.kind (verifyArtifactBytes externals field identity stream) := by
  unfold authenticateStream verifyArtifactBytes validateArtifact
  rw [hsafe, ok_bind]
  cases validateSafeId "artifact.id" identity.id with
  | error e => rfl
  | ok _ =>
    cases identity.validate with
    | error e => rfl
    | ok _ =>
      simp only [ok_bind, mapErr, check, if_pos hlength]
      by_cases hl : identity.length.toNat = stream.length
      · by_cases hd : identity.digest.hex = externals.sha256.digest stream
        · simp only [if_pos hl, if_pos hd, ok_bind]
        · simp only [if_pos hl, if_neg hd, ok_bind, ValidationError.kind]
      · rw [if_neg hl, if_neg hl]
        rfl

theorem sha256Identity_ok {sha256 : Sha256} (hx : sha256.PrintsHex) {id : String}
    {stream : List UInt8} (hlength : stream.length < 2 ^ 64) :
    sha256Identity sha256 id stream =
      .ok ⟨id, ⟨.sha256, sha256.digest stream⟩, UInt64.ofNat stream.length⟩ := by
  unfold sha256Identity ContentDigest.sha256
  rw [hx stream, ok_bind, check, if_pos hlength]
  rfl

/-- The identity of a byte string is an artifact with a safe ID. -/
theorem validateArtifact_of_safe {field id hex : String} {length : UInt64}
    (hid : validateSafeId "artifact.id" id = .ok ()) (hhex : validateSha256 hex = .ok ()) :
    validateArtifact field ⟨id, ⟨.sha256, hex⟩, length⟩ = .ok () := by
  have hbounded : validateNonemptyBounded "artifact.id" id 256 = .ok () := by
    simp only [validateSafeId, validateNonemptyBounded, unit_bind_eq_ok, check_eq_ok] at hid ⊢
    exact ⟨hid.1, hid.2.1⟩
  simp only [validateArtifact, ArtifactIdentityV0.validate, ContentDigest.validate, hid, hhex,
    hbounded, mapErr, ok_bind]

/-- **Streams.** The verification of chunks depends on their concatenation only. For a safe ID and
a length that is a word it accepts exactly what the verification of the whole buffer accepts, and
else fails at the same check; a longer stream is rejected. The identity of a byte string is
accepted with each of its chunkings, and a token has the ID and the identity that it was made
for. -/
theorem streaming_exact (hs : externals.sha256.Streams) :
    (∀ (prerequisiteId : String) (identity : ArtifactIdentityV0)
      (chunks chunks' : List (List UInt8)), chunks.flatten = chunks'.flatten →
      verifyPrerequisiteChunks externals.sha256 prerequisiteId identity chunks =
        verifyPrerequisiteChunks externals.sha256 prerequisiteId identity chunks') ∧
    (∀ (prerequisiteId field : String) (identity : ArtifactIdentityV0)
      (chunks : List (List UInt8)), validateSafeId "prerequisite_id" prerequisiteId = .ok () →
      chunks.flatten.length < 2 ^ 64 →
      ((∃ token, verifyPrerequisiteChunks externals.sha256 prerequisiteId identity chunks =
          .ok token) ↔
        verifyArtifactBytes externals field identity chunks.flatten = .ok ()) ∧
      ∀ e, verifyPrerequisiteChunks externals.sha256 prerequisiteId identity chunks = .error e →
        ∃ e', verifyArtifactBytes externals field identity chunks.flatten = .error e' ∧
          e'.kind = e.kind) ∧
    (∀ (prerequisiteId : String) (identity : ArtifactIdentityV0) (chunks : List (List UInt8)),
      2 ^ 64 ≤ chunks.flatten.length →
      ∃ e, verifyPrerequisiteChunks externals.sha256 prerequisiteId identity chunks = .error e) ∧
    (externals.sha256.PrintsHex → ∀ (prerequisiteId id : String) (stream : List UInt8),
      validateSafeId "prerequisite_id" prerequisiteId = .ok () →
      validateSafeId "artifact.id" id = .ok () → stream.length < 2 ^ 64 →
      ∃ identity, sha256Identity externals.sha256 id stream = .ok identity ∧
        ∀ chunks : List (List UInt8), chunks.flatten = stream → ∃ token,
          verifyPrerequisiteChunks externals.sha256 prerequisiteId identity chunks = .ok token) ∧
    ∀ (prerequisiteId : String) (identity : ArtifactIdentityV0) (chunks : List (List UInt8))
      (token : VerifiedPrerequisiteV0 externals.sha256),
      verifyPrerequisiteChunks externals.sha256 prerequisiteId identity chunks = .ok token →
      token.prerequisiteId = prerequisiteId ∧ token.identity = identity := by
  refine ⟨fun prerequisiteId identity chunks chunks' h => ?_,
    fun prerequisiteId field identity chunks hsafe hlength => ⟨?_, fun e he => ?_⟩,
    fun prerequisiteId identity chunks hlength => ?_,
    fun hx prerequisiteId id stream hsafe hid hlength => ?_,
    fun prerequisiteId identity chunks token h => (verifyPrerequisiteChunks_eq_ok.mp h).2⟩
  · apply verifyPrerequisiteChunks_congr
    rw [authenticateChunks_eq hs, authenticateChunks_eq hs, h]
  · rw [exists_verified_iff hs]
    have hkind := authenticateStream_kind externals field identity hsafe hlength
    rw [← mapErr_eq_ok (f := ValidationError.kind), hkind, mapErr_eq_ok]
  · rw [verifyPrerequisiteChunks_eq_error, authenticateChunks_eq hs] at he
    have hkind := authenticateStream_kind externals field identity hsafe hlength
    rw [he] at hkind
    cases hwhole : verifyArtifactBytes externals field identity chunks.flatten with
    | ok _ => rw [hwhole] at hkind; cases hkind
    | error e' =>
      rw [hwhole] at hkind
      exact ⟨e', rfl, (Except.error.inj hkind).symm⟩
  · cases hv : verifyPrerequisiteChunks externals.sha256 prerequisiteId identity chunks with
    | error e => exact ⟨e, rfl⟩
    | ok token =>
      have h := (exists_verified_iff hs).mp ⟨token, hv⟩
      simp only [authenticateStream, unit_bind_eq_ok, check_eq_ok] at h
      exact absurd h.2.2.1 (Nat.not_lt.mpr hlength)
  · refine ⟨_, sha256Identity_ok hx hlength, fun chunks h =>
      (exists_verified_iff hs).mpr ?_⟩
    subst h
    simp only [authenticateStream, unit_bind_eq_ok, check_eq_ok]
    exact ⟨hsafe, validateArtifact_of_safe hid (hx _), hlength,
      UInt64.toNat_ofNat_of_lt' hlength, trivial⟩

/-- A hash that collects the stream, with the SHA-256 of `model` and that of the empty stream. -/
def modelExternals : Externals where
  sha256 := {
    Hasher := List UInt8
    new := []
    update := fun hasher chunk => hasher ++ chunk
    finalize := modelDigest
    digest := modelDigest }
  projectionFromSlice _ := .error "expected value at line 1 column 1"
where
  modelDigest (stream : List UInt8) : String :=
    if stream = bytes "model" then
      "9372c470eeadd5ecd9c3c74c2b3cb633f8e2f2fad799250a0f70d652b6b825e4"
    else "e3b0c44298fc1c149afbf4c8996fb92427ae41e4649b934ca495991b7852b855"

end Exact

theorem modelExternals_streams : modelExternals.sha256.Streams := by
  intro chunks
  have hfold : ∀ (l : List (List UInt8)) (hasher : List UInt8),
      l.foldl (fun hasher chunk => hasher ++ chunk) hasher = hasher ++ l.flatten := by
    intro l
    induction l with
    | nil => intro hasher; exact (List.append_nil hasher).symm
    | cons chunk l ih =>
      intro hasher
      rw [List.foldl_cons, ih, List.flatten_cons, List.append_assoc]
  exact congrArg modelExternals.modelDigest (hfold chunks [])

theorem modelExternals_printsHex : modelExternals.sha256.PrintsHex := by
  intro stream
  show validateSha256 (modelExternals.modelDigest stream) = .ok ()
  unfold modelExternals.modelDigest
  split
  · decide +kernel
  · decide +kernel

/-- `model` in three chunks, one of them empty. -/
theorem streaming_exact_model :
    ∃ identity, sha256Identity modelExternals.sha256 "model.fake.v1" (bytes "model") =
        .ok identity ∧
      ∃ token, verifyPrerequisiteChunks modelExternals.sha256 "model.fake" identity
        [bytes "mod", [], bytes "el"] = .ok token := by
  obtain ⟨-, -, -, hidentity, -⟩ := streaming_exact modelExternals modelExternals_streams
  obtain ⟨identity, hid, hverified⟩ := hidentity modelExternals_printsHex "model.fake"
    "model.fake.v1" (bytes "model") (by decide +kernel) (by decide +kernel) (by decide +kernel)
  exact ⟨identity, hid, hverified _ (by decide +kernel)⟩

end Vertical
end Platform
