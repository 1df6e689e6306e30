import PlatformContracts.Lib.FinMap
import PlatformContracts.Testkit.Publication

/-!
# The reference publication adapter

`FaultScript` of `platform-contract-testkit/src/fault.rs` and `ReferencePublicationAdapter` of
`publication_suite.rs`. A method that returns a `Result` is a section with its error
(`?` returns early); as a callback it answers the `Result` (`Exec.result`).
-/

namespace Platform
namespace Testkit

open Std Contracts

/-! ## Faults -/

inductive FaultPoint where
  | beforeAdmission
  | afterAdmission
  | beforeTerminal
  | afterTerminal
  | beforeRelease
  | corruptStagedBeforeVerification
  | beforeFileSync
  | beforeVisibility
  | afterNoClobberVisibility
  | beforeVisibleFileSync
  | beforeParentSync
  | afterVisibilityBeforeParentSync
  deriving DecidableEq, Repr

structure InjectedFault where
  point : FaultPoint
  deriving DecidableEq, Repr

structure FaultScript where
  points : List FaultPoint
  deriving DecidableEq, Repr

/-- `FaultScript::hit`: the answer, and the script after it. -/
def FaultScript.hit (script : FaultScript) (point : FaultPoint) :
    Except InjectedFault Unit × FaultScript :=
  if script.points.head? = some point then (.error ⟨point⟩, ⟨script.points.tail⟩)
  else (.ok (), script)

/-! ## The adapter -/

inductive PublicationStep where
  | inspectDestination
  | createPrivateSiblingStage
  | verifyExactDigestAndLength
  | syncStagedFile
  | publishNoClobber
  | syncVisibleFile
  | syncParentDirectory
  | cleanupOwnedStage
  deriving DecidableEq, Repr

abbrev ReferenceStage := UInt64

inductive ReferencePublicationError where
  | injected (point : FaultPoint)
  | verificationMismatch
  | destinationConflict
  | fileNotSynced
  | unknownStage
  deriving DecidableEq, Repr

structure StagedArtifact where
  artifact : ArtifactIdentityV0
  facts : StagingFacts
  fileSynced : Bool
  deriving DecidableEq, Repr

structure ReferencePublicationAdapter where
  faults : FaultScript := ⟨[]⟩
  nextStage : UInt64 := 0
  stages : ExtTreeMap ReferenceStage StagedArtifact := ∅
  visible : Option ArtifactIdentityV0 := none
  trace : List PublicationStep := []
  deriving DecidableEq

/-- `ServiceId::new("publication-testkit")`. -/
def testkitService : ServiceId := ⟨"publication-testkit", by decide⟩

namespace ReferencePublicationAdapter

/-- A method that returns a `Result`. -/
abbrev Method := Exec ReferencePublicationAdapter ReferencePublicationError

/-- `self.trace.push(step)`. -/
def pushTrace {ε : Type} (step : PublicationStep) : Exec ReferencePublicationAdapter ε Unit :=
  modify fun self => { self with trace := self.trace ++ [step] }

def hit (point : FaultPoint) : Method Unit := do
  let self ← get
  let (answer, faults) := self.faults.hit point
  set { self with faults := faults }
  Exec.ofResult (mapErr (fun fault => .injected fault.point) answer)

def injectFault (point : FaultPoint) : Callback ReferencePublicationAdapter Unit :=
  modify fun self => { self with faults := ⟨[point]⟩ }

def seedVisible (artifact : ArtifactIdentityV0) : Callback ReferencePublicationAdapter Unit := do
  let self ← get
  Exec.assert (self.visible = none) "destination already seeded"
  modify fun self => { self with visible := some artifact }

def inspectVisible (_destination : DestinationIdentityV0) :
    Callback ReferencePublicationAdapter (Option ArtifactIdentityV0) := do
  pushTrace .inspectDestination
  let self ← get
  pure self.visible

def createPrivateSiblingStage (request : PublicationRequest) : Method ReferenceStage := do
  pushTrace .createPrivateSiblingStage
  let self ← get
  let stage ← Exec.expect (checkedAdd self.nextStage 1) "stage ID overflow"
  let previous := self.stages[stage]?
  modify fun self => { self with
    nextStage := stage
    stages := self.stages.insert stage {
      artifact := request.artifact
      facts :=
        { filesystemId := request.destination.filesystemId, isPrivate := true, owned := true }
      fileSynced := false } }
  Exec.assert (previous = none) "stage ID must be unique"
  pure stage

def stagingFacts (stage : ReferenceStage) : Callback ReferencePublicationAdapter StagingFacts := do
  let self ← get
  let staged ← Exec.expect self.stages[stage]? "known stage"
  pure staged.facts

/-- `"e".repeat(64)`. -/
def corruptHex : String := String.ofList (List.replicate 64 'e')

/-- The body of the `if` of `verify_exact`. -/
def corruptStaged (stage : ReferenceStage) : Method Unit := do
  let self ← get
  let staged ← Exec.ofResult (Exec.okOr self.stages[stage]? .unknownStage)
  let digest ← Exec.expectOk (ContentDigest.sha256 corruptHex) "static digest"
  let artifact := { staged.artifact with
    digest := digest
    length := saturatingAdd staged.artifact.length 1 }
  set { self with stages := self.stages.insert stage { staged with artifact } }

/-- The `if` of `verify_exact`. -/
def corruptIfHit (stage : ReferenceStage) : Method Unit := do
  match ← Exec.result (hit .corruptStagedBeforeVerification) with
  | .error _ => corruptStaged stage
  | .ok () => pure ()

def verifyExact (stage : ReferenceStage) (expected : ArtifactIdentityV0) : Method Unit := do
  pushTrace .verifyExactDigestAndLength
  corruptIfHit stage
  let self ← get
  let staged ← Exec.ofResult (Exec.okOr self.stages[stage]? .unknownStage)
  Exec.ensure (sameContent staged.artifact expected) .verificationMismatch

def syncStagedFile (stage : ReferenceStage) : Method Unit := do
  pushTrace .syncStagedFile
  hit .beforeFileSync
  let self ← get
  let staged ← Exec.ofResult (Exec.okOr self.stages[stage]? .unknownStage)
  set { self with stages := self.stages.insert stage { staged with fileSynced := true } }

def publishNoClobber (stage : ReferenceStage) (_destination : DestinationIdentityV0) :
    Method Unit := do
  pushTrace .publishNoClobber
  let self ← get
  let staged ← Exec.ofResult (Exec.okOr self.stages[stage]? .unknownStage)
  Exec.ensure (staged.fileSynced = true) .fileNotSynced
  Exec.ensure (self.visible = none) .destinationConflict
  hit .beforeVisibility
  modify fun self => { self with visible := some staged.artifact }
  hit .afterNoClobberVisibility

def syncVisibleFile (_destination : DestinationIdentityV0) : Method Unit := do
  pushTrace .syncVisibleFile
  let self ← get
  Exec.assert (self.visible ≠ none) "visible file must exist"
  hit .beforeVisibleFileSync

def syncParentDirectory (_destination : DestinationIdentityV0) : Method Unit := do
  pushTrace .syncParentDirectory
  hit .beforeParentSync
  hit .afterVisibilityBeforeParentSync

def cleanupOwnedStage (stage : ReferenceStage) : Method Unit := do
  pushTrace .cleanupOwnedStage
  let self ← get
  set { self with stages := self.stages.erase stage }
  let _ ← Exec.ofResult (Exec.okOr self.stages[stage]? .unknownStage)
  pure ()

/-- An error of this adapter, with `ServiceId::new("publication-testkit")`. -/
def testkitError (code : String) (errorClass : ErrorClass) (retry : RetryAdvice)
    (detail : String) : Callback ReferencePublicationAdapter ServiceErrorV0 := do
  let service ← Exec.expectOk (Identifier.new "publication-testkit") "static service ID"
  pure {
    schema := serviceErrorSchemaV0
    code := code
    errorClass := errorClass
    retry := retry
    operationId := none
    service := service
    safeDetail := detail }

def serviceError (error : ReferencePublicationError) (context : PublicationErrorContext) :
    Callback ReferencePublicationAdapter ServiceErrorV0 :=
  match context, error with
  | .visibleDurabilityUnknown, _ =>
    testkitError "publication.durability_unknown" .publication .afterRestart
      "the exact artifact is visible but file or parent durability is unknown"
  | .notPublished, .verificationMismatch =>
    testkitError "publication.verification_mismatch" .integrity .never
      "staged digest or length did not match the requested artifact"
  | .notPublished, _ =>
    testkitError "publication.not_visible" .storage .immediate
      "the requested artifact did not become visible"

def conflictError : Callback ReferencePublicationAdapter ServiceErrorV0 :=
  testkitError "publication.destination_conflict" .publication .never
    "a different artifact already occupies the destination"

end ReferencePublicationAdapter

open ReferencePublicationAdapter in
/-- `impl PublicationModelAdapter for ReferencePublicationAdapter`. -/
def referencePublication :
    PublicationModelAdapter ReferencePublicationAdapter ReferencePublicationError
      ReferenceStage where
  inspectVisible := inspectVisible
  createPrivateSiblingStage request := Exec.result (createPrivateSiblingStage request)
  stagingFacts := stagingFacts
  verifyExact stage expected := Exec.result (verifyExact stage expected)
  syncStagedFile stage := Exec.result (syncStagedFile stage)
  publishNoClobber stage destination := Exec.result (publishNoClobber stage destination)
  syncVisibleFile destination := Exec.result (syncVisibleFile destination)
  syncParentDirectory destination := Exec.result (syncParentDirectory destination)
  cleanupOwnedStage stage := Exec.result (cleanupOwnedStage stage)
  serviceError := serviceError
  conflictError := conflictError

/-- The request of the tests of `publication_suite.rs`. -/
def testRequest : PublicationRequest where
  artifact := ⟨"artifact-1", ⟨.sha256, String.ofList (List.replicate 64 'a')⟩, 17⟩
  destination := ⟨"filesystem-1", "manuscript.md"⟩

example : ((runPublicationModel referencePublication testRequest).on {}).2.trace =
    [.inspectDestination, .createPrivateSiblingStage, .verifyExactDigestAndLength,
      .syncStagedFile, .publishNoClobber, .inspectDestination, .syncParentDirectory,
      .cleanupOwnedStage] := by decide

end Testkit
end Platform
