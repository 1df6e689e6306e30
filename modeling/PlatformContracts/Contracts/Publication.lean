import PlatformContracts.Contracts.Basic

/-!
# Publication envelopes (`platform-contracts-v0/src/publication.rs`)

* `ArtifactIdentityV0`, `DestinationIdentityV0`, `PublicationReceiptV0`, `PublicationOutcomeV0`
  and their `validate`.
* `PublicationReceiptV0.validate_eq_ok`, `PublicationOutcomeV0.validate_published`,
  `PublicationOutcomeV0.validate_durabilityUnknown`: what a valid receipt and a valid outcome are.
-/

namespace Platform
namespace Contracts

def publicationReceiptSchemaV0 : String := "delysis.publication_receipt.v0"

structure ArtifactIdentityV0 where
  id : String
  digest : ContentDigest
  length : UInt64
  deriving DecidableEq, Repr

def ArtifactIdentityV0.validate (artifact : ArtifactIdentityV0) : Except ContractError Unit := do
  validateNonemptyBounded "artifact.id" artifact.id 256
  mapErr (fun _ => .invalid "artifact.digest") artifact.digest.validate

structure DestinationIdentityV0 where
  filesystemId : String
  pathId : String
  deriving DecidableEq, Repr

def DestinationIdentityV0.validate (destination : DestinationIdentityV0) :
    Except ContractError Unit := do
  validateNonemptyBounded "destination.filesystem_id" destination.filesystemId 512
  validateNonemptyBounded "destination.path_id" destination.pathId 1024

structure PublicationReceiptV0 where
  schema : String
  artifact : ArtifactIdentityV0
  destination : DestinationIdentityV0
  visible : Bool
  fileSynced : Bool
  directorySynced : Bool
  idempotentRecovery : Bool
  deriving DecidableEq, Repr

def PublicationReceiptV0.validate (receipt : PublicationReceiptV0) :
    Except ContractError Unit := do
  check (receipt.schema = publicationReceiptSchemaV0) (.invalid "schema")
  receipt.artifact.validate
  receipt.destination.validate
  check (receipt.visible = true) (.invalid "visible")
  check (¬(receipt.directorySynced = true ∧ receipt.fileSynced = false))
    (.inconsistent "directory_synced")

inductive PublicationOutcomeV0 where
  | notPublished (error : ServiceErrorV0)
  | published (receipt : PublicationReceiptV0)
  | publishedDurabilityUnknown (receipt : PublicationReceiptV0) (error : ServiceErrorV0)
  deriving DecidableEq

namespace PublicationOutcomeV0

def validate : PublicationOutcomeV0 → Except ContractError Unit
  | notPublished error => error.validate
  | published receipt => do
    receipt.validate
    check (receipt.fileSynced = true ∧ receipt.directorySynced = true)
      (.inconsistent "published.receipt")
  | publishedDurabilityUnknown receipt error => do
    receipt.validate
    error.validate
    check (receipt.directorySynced = false) (.inconsistent "published_durability_unknown.receipt")
    check (error.errorClass = .publication) (.inconsistent "published_durability_unknown.error")

/-- The tag of the serialized outcome. -/
inductive Kind where
  | notPublished
  | published
  | publishedDurabilityUnknown
  deriving DecidableEq, Repr

def kind : PublicationOutcomeV0 → Kind
  | notPublished _ => .notPublished
  | published _ => .published
  | publishedDurabilityUnknown _ _ => .publishedDurabilityUnknown

/-- The receipt of the outcome, if it has one. -/
def receipt? : PublicationOutcomeV0 → Option PublicationReceiptV0
  | notPublished _ => none
  | published receipt | publishedDurabilityUnknown receipt _ => some receipt

end PublicationOutcomeV0

/-! ## What is valid -/

theorem PublicationReceiptV0.validate_eq_ok {receipt : PublicationReceiptV0} :
    receipt.validate = .ok () ↔ receipt.schema = publicationReceiptSchemaV0 ∧
      receipt.artifact.validate = .ok () ∧ receipt.destination.validate = .ok () ∧
      receipt.visible = true ∧ (receipt.directorySynced = true → receipt.fileSynced = true) := by
  unfold validate
  simp only [unit_bind_eq_ok, check_eq_ok, not_and, Bool.not_eq_false]

theorem PublicationOutcomeV0.validate_published {receipt : PublicationReceiptV0} :
    (published receipt).validate = .ok () ↔ receipt.validate = .ok () ∧
      receipt.fileSynced = true ∧ receipt.directorySynced = true := by
  simp only [validate, unit_bind_eq_ok, check_eq_ok]

theorem PublicationOutcomeV0.validate_durabilityUnknown {receipt : PublicationReceiptV0}
    {error : ServiceErrorV0} :
    (publishedDurabilityUnknown receipt error).validate = .ok () ↔ receipt.validate = .ok () ∧
      error.validate = .ok () ∧ receipt.directorySynced = false ∧
      error.errorClass = .publication := by
  simp only [validate, unit_bind_eq_ok, check_eq_ok]

end Contracts
end Platform
