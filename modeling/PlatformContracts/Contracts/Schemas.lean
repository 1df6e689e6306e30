import PlatformContracts.Contracts.Grammar
import PlatformContracts.Lib.Schema

/-!
# The published schemas of the envelopes (`schemas/v0`)

One definition for each schema, and one for each of its `$defs`, in the order of the file.
`boundedString` is the schema `type: string` with both lengths, and `nullOr` the `oneOf` with
`type: null`. The `$defs` for identifiers and digests are the same in all files.
-/

namespace Platform
namespace Schemas

open Contracts Schema

/-! ## Parts of several schemas -/

def boundedString (min max : Nat) : Schema := allOf [type .string, minLength min, maxLength max]

def nullOr (s : Schema) : Schema := oneOf [s, type .null]

def constString (s : String) : Schema := const (.str s)

def enumStrings (names : List String) : Schema := enum (names.map .str)

def natural : Schema := allOf [type .integer, minimum 0]

def array (s : Schema) : Schema := allOf [type .array, items s]

def arrayOf (min : Nat) (s : Schema) : Schema := allOf [type .array, minItems min, items s]

def uniqueArray (s : Schema) : Schema := allOf [type .array, uniqueItems, items s]

def identifier : Schema := allOf [boundedString 1 256, pattern identifierPattern]

def digest : Schema :=
  closed [("algorithm", constString "sha256"),
    ("hex", allOf [type .string, pattern sha256Pattern])]

/-! ## `service-error.schema.json` -/

def serviceError : Schema :=
  closed [("schema", constString "delysis.service_error.v0"),
    ("code", allOf [boundedString 1 128, pattern codePattern]),
    ("class", enumStrings ["invalid_request", "unsupported", "unavailable", "permission", "privacy",
      "cancelled", "timeout", "resource_exhausted", "integrity", "publication", "storage",
      "worker", "internal"]),
    ("retry", enumStrings ["immediate", "after_user_action", "after_restart", "different_route",
      "never"]),
    ("operation_id", nullOr identifier),
    ("service", identifier),
    ("safe_detail", boundedString 1 2048)]

/-! ## `terminal.schema.json` -/

/-- The error of a terminal record of this class. -/
def terminalError (errorClass : Schema) : Schema :=
  properties [("error", allOf [serviceError,
    properties [("class", errorClass), ("operation_id", identifier)]])]

def terminal : Schema :=
  allOf [closed [("schema", constString "delysis.operation_terminal.v0"),
      ("operation_id", identifier),
      ("attempt_id", nullOr identifier),
      ("class", enumStrings ["completed", "cancelled", "failed"]),
      ("error", nullOr serviceError)],
    ifThen (properties [("class", constString "completed")])
      (properties [("error", type .null)]),
    ifThen (properties [("class", constString "cancelled")])
      (terminalError (constString "cancelled")),
    ifThen (properties [("class", constString "failed")])
      (terminalError (not (constString "cancelled")))]

/-! ## `publication.schema.json` -/

namespace Publication

def artifact : Schema :=
  closed [("id", boundedString 1 256), ("digest", digest), ("length", natural)]

def destination : Schema :=
  closed [("filesystem_id", boundedString 1 512), ("path_id", boundedString 1 1024)]

def receipt : Schema :=
  allOf [closed [("schema", constString "delysis.publication_receipt.v0"),
      ("artifact", artifact),
      ("destination", destination),
      ("visible", const (.bool true)),
      ("file_synced", type .boolean),
      ("directory_synced", type .boolean),
      ("idempotent_recovery", type .boolean)],
    ifThen (properties [("directory_synced", const (.bool true))])
      (properties [("file_synced", const (.bool true))])]

def notPublished : Schema :=
  closed [("kind", constString "not_published"), ("error", serviceError)]

def published : Schema :=
  closed [("kind", constString "published"),
    ("receipt", allOf [receipt,
      properties [("file_synced", const (.bool true)), ("directory_synced", const (.bool true))]])]

def publishedDurabilityUnknown : Schema :=
  closed [("kind", constString "published_durability_unknown"),
    ("receipt", allOf [receipt, properties [("directory_synced", const (.bool false))]]),
    ("error", allOf [serviceError, properties [("class", constString "publication")]])]

end Publication

def publication : Schema :=
  oneOf [Publication.notPublished, Publication.published, Publication.publishedDurabilityUnknown]

/-! ## `shutdown.schema.json` -/

namespace Shutdown

def opaqueId : Schema := allOf [boundedString 1 256, pattern opaquePattern]

def resource : Schema :=
  closed [("resource_id", opaqueId),
    ("service", identifier),
    ("kind", enumStrings ["operation_registry", "task_supervisor", "backend", "worker_pool",
      "runtime"]),
    ("state", enumStrings ["stopped", "failed"]),
    ("expected_workers", natural),
    ("joined_workers", natural)]

def failure : Schema :=
  closed [("failure_id", opaqueId), ("resource_id", opaqueId), ("service", identifier),
    ("error", serviceError)]

end Shutdown

def shutdown : Schema :=
  closed [("schema", constString "delysis.closed_summary.v0"),
    ("phase", constString "closed"),
    ("active_operations", const (.num (.int 0))),
    ("retained_tasks", const (.num (.int 0))),
    ("expected_workers", natural),
    ("joined_workers", natural),
    ("resources", arrayOf 1 Shutdown.resource),
    ("failures", array Shutdown.failure)]

/-! ## `capability.schema.json` -/

namespace Capability

def limitKey : Schema := allOf [boundedString 1 128, pattern limitPattern]

def entry : Schema :=
  allOf [closed [("operation", boundedString 1 128),
      ("backend_or_resource_id", boundedString 1 256),
      ("readiness", enumStrings ["ready", "unavailable", "unknown"]),
      ("limits", allOf [type .object, propertyNames limitKey, additionalProperties [] natural]),
      ("network", enumStrings ["yes", "no", "unknown"]),
      ("privacy_eligible", enumStrings ["yes", "no", "unknown"]),
      ("evidence_source", boundedString 1 512),
      ("evidence_outcome", boundedString 1 512),
      ("observed_at_unix_ms", nullOr natural),
      ("remediation", nullOr (boundedString 1 1024))],
    ifThen (properties [("readiness", enumStrings ["unavailable", "unknown"])])
      (properties [("remediation", allOf [type .string, minLength 1])])]

def report : Schema :=
  closed [("source_id", boundedString 1 256), ("outcome", boundedString 1 128),
    ("safe_detail", nullOr (boundedString 1 2048))]

end Capability

def capability : Schema :=
  closed [("schema", constString "delysis.capability_snapshot.v0"),
    ("snapshot_id", digest),
    ("target", boundedString 1 256),
    ("services", allOf [type .object, minProperties 1, propertyNames identifier,
      additionalProperties [] (arrayOf 1 Capability.entry)]),
    ("reports", array Capability.report)]

/-! ## `evidence.schema.json` -/

namespace Evidence

def claims : Schema := uniqueArray (boundedString 1 2048)

end Evidence

def evidence : Schema :=
  closed [("schema", constString "delysis.evidence_claim.v0"),
    ("tier", enumStrings ["operational", "reproducible"]),
    ("threat_model", boundedString 1 4096),
    ("exact_source", digest),
    ("exact_runtime_or_artifact", digest),
    ("execution_kind", enumStrings ["fixture", "local_runtime", "hosted_network"]),
    ("omitted_claims", Evidence.claims),
    ("negative_evidence", Evidence.claims)]

/-! ## `privacy-policy.schema.json` -/

def privacyPolicy : Schema :=
  allOf [closed [("schema", constString "delysis.privacy_policy.v0"),
      ("network", enumStrings ["deny", "allow_listed", "allow_hosted"]),
      ("data_handling", enumStrings ["local_only", "hosted_allowed"]),
      ("allowed_provider_ids", uniqueArray identifier),
      ("allowed_hosted_data_tiers", uniqueArray (enumStrings ["public", "private", "restricted"])),
      ("payload_redaction", enumStrings ["local_only", "required_before_egress"]),
      ("logging", enumStrings ["disabled", "redacted_metadata_only"])],
    ifThen (properties [("data_handling", constString "local_only")])
      (properties [("network", constString "deny"),
        ("allowed_provider_ids", maxItems 0),
        ("allowed_hosted_data_tiers", maxItems 0),
        ("payload_redaction", constString "local_only")]),
    ifThen (properties [("data_handling", constString "hosted_allowed")])
      (properties [("network", enumStrings ["allow_listed", "allow_hosted"]),
        ("allowed_hosted_data_tiers", minItems 1),
        ("payload_redaction", constString "required_before_egress")]),
    ifThen (properties [("network", constString "allow_listed")])
      (properties [("allowed_provider_ids", minItems 1)]),
    ifThen (properties [("network", constString "allow_hosted")])
      (properties [("allowed_provider_ids", maxItems 0)])]

end Schemas
end Platform
