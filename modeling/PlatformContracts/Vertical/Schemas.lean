import PlatformContracts.Contracts.Schemas
import PlatformContracts.Vertical.Grammar

/-!
# The published schemas of the vertical fixtures (`schemas/v0`)

The `$defs` that the three files share come first (`vertical_id`, `git_commit`, `safe_id`, `digest`,
`artifact`, `prerequisite`), then each file. `safe_id` and `digest` are `identifier` and `digest`
of the envelopes.
-/

namespace Platform
namespace Schemas

open Schema Vertical

namespace Fixtures

/-! ## What the files share -/

def verticalId : Schema :=
  enumStrings ["mom_chat_cancel_retry", "mom_attachment", "fte_hosted_fixture_loopback",
    "speech_peer_cancellation", "information_install_query", "loom_suggestion_promotion",
    "loom_research_diagnostic_admitted_distinction", "quit_relaunch_fake_owners",
    "current_exact_qwen", "current_exact_gemma", "current_parakeet_model_audio",
    "apple_installed_voice", "mom_prior_release_store", "loom_prior_project_store",
    "fte_legacy_database", "information_resource_store", "corrupted_disposable_caches",
    "partial_publication_states"]

def fixtureClass : Schema := enumStrings ["model_free", "real", "state"]

def contractRevision : Schema := constString "cbab33555ab9355a6ac453d659c55ec9e0666821"

def gitCommit : Schema := allOf [type .string, pattern gitCommitPattern]

def artifact : Schema := closed [("id", identifier), ("digest", digest), ("length", natural)]

def prerequisite : Schema :=
  closed [("prerequisite_id", identifier),
    ("kind", enumStrings ["exact_external_artifact", "platform_inventory", "local_runtime"]),
    ("identity", artifact)]

/-- `text_set`, and the items of `fail_closed_facts`. -/
def text : Schema := boundedString 1 4096

/-! ## `vertical-fixture-manifest.schema.json` -/

def relativePath : Schema := allOf [boundedString 1 1024, pattern relativePathPattern]

def fixtureArtifact : Schema :=
  allOf [closed [("identity", artifact),
      ("availability",
        enumStrings ["checked_in", "external_exact", "runtime_inventory", "generated_fixture"]),
      ("relative_path", nullOr relativePath)],
    ifThenElse (properties [("availability", constString "checked_in")])
      (properties [("relative_path", relativePath)])
      (properties [("relative_path", type .null)])]

def source : Schema :=
  closed [("repository_id", allOf [boundedString 3 256, pattern repositoryPattern]),
    ("commit", gitCommit), ("production_tree", artifact)]

def stateIdentity : Schema :=
  closed [("state_id", identifier), ("schema_id", identifier), ("baseline", fixtureArtifact)]

/-- `requires_prerequisite_qwen` and its siblings: each case has such a prerequisite. -/
def requiresPrerequisite (prerequisiteId kind : String) : Schema :=
  properties [("cases", items (properties [("prerequisites", contains (allOf
    [properties [("prerequisite_id", constString prerequisiteId), ("kind", constString kind),
      ("identity", properties [("length", minimum 1)])],
    required ["prerequisite_id", "kind", "identity"]]))]))]

def requiresQwenModel : Schema := requiresPrerequisite "model.qwen.gguf" "exact_external_artifact"

def requiresGemmaModel : Schema :=
  requiresPrerequisite "model.gemma.gguf" "exact_external_artifact"

def requiresParakeetModel : Schema :=
  requiresPrerequisite "model.parakeet" "exact_external_artifact"

def requiresParakeetAudio : Schema := requiresPrerequisite "audio.input" "exact_external_artifact"

def requiresAppleVoice : Schema :=
  requiresPrerequisite "voice.apple.installed" "platform_inventory"

def programRecord (kind : String) (members : List (String × Schema)) : Schema :=
  closed (("kind", constString kind) :: members)

def program : Schema :=
  oneOf [programRecord "cargo" [], programRecord "npm" [],
    programRecord "repository_script" [("relative_path", relativePath)]]

def replay : Schema :=
  closed [("program", program), ("argv", arrayOf 1 text),
    ("required_environment", uniqueArray (allOf [type .string, pattern environmentPattern])),
    ("network", enumStrings ["denied", "loopback_only"])]

def negativeEvidence : Schema :=
  closed [("evidence_id", identifier),
    ("disposition", enumStrings ["rejected", "unavailable", "superseded"]),
    ("artifact", artifact), ("reason", text)]

def fixtureCase : Schema :=
  closed [("case_id", identifier), ("source", source), ("inputs", arrayOf 1 fixtureArtifact),
    ("state_identities", array stateIdentity), ("prerequisites", array prerequisite),
    ("replay", arrayOf 1 replay), ("expected_projection", artifact)]

/-- A row of the list. -/
def rowIn (rows : List String) : Schema := properties [("vertical_id", enumStrings rows)]

/-- The row. -/
def rowIs (row : String) : Schema := properties [("vertical_id", constString row)]

def classIs (name : String) : Schema := properties [("class", constString name)]

def modelFreeRows : List String :=
  ["mom_chat_cancel_retry", "mom_attachment", "fte_hosted_fixture_loopback",
    "speech_peer_cancellation", "information_install_query", "loom_suggestion_promotion",
    "loom_research_diagnostic_admitted_distinction", "quit_relaunch_fake_owners"]

def realRows : List String :=
  ["current_exact_qwen", "current_exact_gemma", "current_parakeet_model_audio",
    "apple_installed_voice"]

def stateRows : List String :=
  ["mom_prior_release_store", "loom_prior_project_store", "fte_legacy_database",
    "information_resource_store", "corrupted_disposable_caches", "partial_publication_states"]

/-- Each case has a state. -/
def requiresState : Schema :=
  properties [("cases", items (properties [("state_identities", minItems 1)]))]

def manifestRecord : Schema :=
  closed [("schema", constString "delysis.vertical_fixture_manifest.v0"),
    ("vertical_id", verticalId), ("class", fixtureClass),
    ("contract_revision", contractRevision), ("cases", arrayOf 1 fixtureCase),
    ("omitted_claims", uniqueArray text), ("negative_evidence", array negativeEvidence)]

end Fixtures

open Fixtures

def verticalFixtureManifest : Schema :=
  allOf [manifestRecord,
    ifThen (rowIn modelFreeRows) (classIs "model_free"),
    ifThen (rowIn realRows) (classIs "real"),
    ifThen (rowIn stateRows) (classIs "state"),
    ifThen (rowIn stateRows) requiresState,
    ifThen (rowIs "current_exact_qwen") requiresQwenModel,
    ifThen (rowIs "current_exact_gemma") requiresGemmaModel,
    ifThen (rowIs "current_parakeet_model_audio")
      (allOf [requiresParakeetModel, requiresParakeetAudio]),
    ifThen (rowIs "apple_installed_voice") requiresAppleVoice]

/-! ## `vertical-observation.schema.json` -/

namespace Fixtures

def event : Schema :=
  closed [("sequence", natural), ("operation_id", identifier), ("attempt_id", nullOr identifier),
    ("correlation_id", nullOr identifier), ("kind", identifier), ("payload", nullOr artifact)]

def durableState : Schema :=
  closed [("state_id", identifier), ("schema_id", identifier), ("before", nullOr artifact),
    ("after", nullOr artifact),
    ("disposition",
      enumStrings ["unchanged", "created", "updated", "removed", "quarantined", "recovered"])]

def lifecycle : Schema :=
  closed [("operation_id", identifier), ("attempt_id", nullOr identifier),
    ("correlation_id", nullOr identifier),
    ("terminal", enumStrings ["completed", "cancelled", "failed"]),
    ("released", const (.bool true))]

def ownership : Schema :=
  closed [("active_operations", const (.num (.int 0))), ("retained_tasks", const (.num (.int 0))),
    ("expected_workers", natural), ("joined_workers", natural)]

def factRecord (kind : String) (value : Schema) : Schema :=
  closed [("kind", constString kind), ("value", value)]

def fact : Schema :=
  oneOf [factRecord "boolean" (type .boolean), factRecord "integer" (type .integer),
    factRecord "text" text, factRecord "digest" digest]

def projection : Schema :=
  closed [("ordered_events", arrayOf 1 event), ("durable_state", arrayOf 1 durableState),
    ("lifecycle", arrayOf 1 lifecycle), ("ownership", ownership),
    ("output_facts", allOf [type .object, minProperties 1, propertyNames identifier,
      additionalProperties [] fact]),
    ("fail_closed_facts", allOf [minItems 1, uniqueArray text])]

end Fixtures

def verticalObservation : Schema :=
  closed [("schema", constString "delysis.vertical_observation.v0"),
    ("vertical_id", verticalId), ("case_id", identifier),
    ("implementation_revision", gitCommit), ("observed_prerequisites", uniqueArray prerequisite),
    ("evidence", evidence), ("projection", projection)]

/-! ## `vertical-lock.schema.json` -/

namespace Fixtures

def lockEntry : Schema :=
  closed [("vertical_id", verticalId), ("class", fixtureClass), ("manifest", artifact)]

end Fixtures

def verticalLock : Schema :=
  closed [("schema", constString "delysis.vertical_fixture_lock.v0"),
    ("protocol_commit", gitCommit), ("contract_revision", contractRevision),
    ("entries", allOf [minItems 18, maxItems 18, uniqueArray lockEntry])]

end Schemas
end Platform
