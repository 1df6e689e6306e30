import PlatformContracts.Contracts.Basic

/-!
# Privacy policies (`platform-contracts-v0/src/privacy.rs`)

* `PrivacyPolicyV0`, its `validate`, and `decide` on a proposed route.
* `PrivacyPolicyV0.validate_eq_ok`: a valid policy is local and empty, or hosted with a list of
  tiers and, exactly when the network is a list, a list of providers.
* `decide_exact`: what is allowed; the order of the lists is not seen; the denial for the network
  is never given, because a valid hosted policy has one.
-/

namespace Platform
namespace Contracts

def privacyPolicySchemaV0 : String := "delysis.privacy_policy.v0"

abbrev ProviderId := Identifier

inductive NetworkPolicyV0 where
  | deny
  | allowListed
  | allowHosted
  deriving DecidableEq, Repr

inductive DataHandlingV0 where
  | localOnly
  | hostedAllowed
  deriving DecidableEq, Repr

inductive DataTierV0 where
  | «public»
  | «private»
  | restricted
  | unknown
  deriving DecidableEq, Repr

inductive PayloadRedactionV0 where
  | localOnly
  | requiredBeforeEgress
  deriving DecidableEq, Repr

inductive LoggingPolicyV0 where
  | disabled
  | redactedMetadataOnly
  deriving DecidableEq, Repr

structure PrivacyPolicyV0 where
  schema : String
  network : NetworkPolicyV0
  dataHandling : DataHandlingV0
  allowedProviderIds : List ProviderId
  allowedHostedDataTiers : List DataTierV0
  payloadRedaction : PayloadRedactionV0
  logging : LoggingPolicyV0
  deriving DecidableEq

inductive RouteTargetV0 where
  | «local»
  | hosted (providerId : ProviderId)
  | unknown
  deriving DecidableEq

inductive RedactionStateV0 where
  | applied
  | notApplied
  | unknown
  deriving DecidableEq, Repr

structure RoutePrivacyContextV0 where
  target : RouteTargetV0
  dataTier : DataTierV0
  redaction : RedactionStateV0
  deriving DecidableEq

inductive PrivacyDenialV0 where
  | invalidPolicy
  | unknownRoute
  | unknownDataTier
  | unknownRedactionState
  | localOnlyBoundary
  | networkDenied
  | providerNotAllowed
  | dataTierNotAllowed
  | redactionRequired
  deriving DecidableEq, Repr

inductive PrivacyDecisionV0 where
  | allowed
  | denied (denial : PrivacyDenialV0)
  deriving DecidableEq, Repr

namespace PrivacyPolicyV0

def validate (policy : PrivacyPolicyV0) : Except ContractError Unit := do
  check (policy.schema = privacyPolicySchemaV0) (.invalid "schema")
  checkUnique (fun _ => .ok ()) id (.duplicate "allowed_provider_ids") policy.allowedProviderIds
  checkUnique (fun tier => check (tier ≠ .unknown) (.invalid "allowed_hosted_data_tiers")) id
    (.duplicate "allowed_hosted_data_tiers") policy.allowedHostedDataTiers
  match policy.dataHandling with
  | .localOnly =>
    check (¬(policy.network ≠ .deny ∨ policy.allowedProviderIds ≠ [] ∨
      policy.allowedHostedDataTiers ≠ [] ∨ policy.payloadRedaction ≠ .localOnly))
      (.inconsistent "data_handling")
  | .hostedAllowed => do
    check (¬(policy.network = .deny ∨ policy.allowedHostedDataTiers = [] ∨
      policy.payloadRedaction ≠ .requiredBeforeEgress)) (.inconsistent "data_handling")
    match policy.network with
    | .allowListed => check (policy.allowedProviderIds ≠ []) (.empty "allowed_provider_ids")
    | .allowHosted => check (policy.allowedProviderIds = []) (.inconsistent "allowed_provider_ids")
    | .deny => pure ()

/-- The rest of `decide` for a hosted route to the provider. -/
def decideHosted (policy : PrivacyPolicyV0) (route : RoutePrivacyContextV0)
    (providerId : ProviderId) : PrivacyDecisionV0 :=
  if policy.dataHandling = .localOnly then .denied .localOnlyBoundary
  else if policy.network = .deny then .denied .networkDenied
  else if policy.network = .allowListed ∧ providerId ∉ policy.allowedProviderIds then
    .denied .providerNotAllowed
  else if route.dataTier ∉ policy.allowedHostedDataTiers then .denied .dataTierNotAllowed
  else match route.redaction with
    | .applied => .allowed
    | .notApplied => .denied .redactionRequired
    | .unknown => .denied .unknownRedactionState

def decide (policy : PrivacyPolicyV0) (route : RoutePrivacyContextV0) : PrivacyDecisionV0 :=
  if policy.validate ≠ .ok () then .denied .invalidPolicy
  else if route.dataTier = .unknown then .denied .unknownDataTier
  else match route.target with
    | .hosted providerId => policy.decideHosted route providerId
    | .«local» => .allowed
    | .unknown => .denied .unknownRoute

/-! ## What is valid -/

/-- The part of a valid policy about hosted routes: none with `localOnly`, else one kind of
network with its providers. -/
def Bounded (policy : PrivacyPolicyV0) : Prop :=
  match policy.dataHandling with
  | .localOnly => policy.network = .deny ∧ policy.allowedProviderIds = [] ∧
      policy.allowedHostedDataTiers = [] ∧ policy.payloadRedaction = .localOnly
  | .hostedAllowed => policy.allowedHostedDataTiers ≠ [] ∧
      policy.payloadRedaction = .requiredBeforeEgress ∧
      (policy.network = .allowListed ∧ policy.allowedProviderIds ≠ [] ∨
        policy.network = .allowHosted ∧ policy.allowedProviderIds = [])

theorem validate_eq_ok {policy : PrivacyPolicyV0} :
    policy.validate = .ok () ↔ policy.schema = privacyPolicySchemaV0 ∧
      policy.allowedProviderIds.Nodup ∧ policy.allowedHostedDataTiers.Nodup ∧
      .unknown ∉ policy.allowedHostedDataTiers ∧ policy.Bounded := by
  unfold validate Bounded
  simp only [unit_bind_eq_ok, check_eq_ok, checkUnique_eq_ok, List.map_id, implies_true,
    true_and]
  have htiers : (∀ tier ∈ policy.allowedHostedDataTiers, tier ≠ .unknown) ↔
      .unknown ∉ policy.allowedHostedDataTiers :=
    ⟨fun h hm => h _ hm rfl, fun h tier ht e => h (e ▸ ht)⟩
  rw [htiers, and_comm (b := policy.allowedHostedDataTiers.Nodup), and_assoc]
  refine and_congr_right fun _ => and_congr_right fun _ => and_congr_right fun _ =>
    and_congr_right fun _ => ?_
  cases policy.dataHandling with
  | localOnly => simp only [check_eq_ok, not_or, not_not]
  | hostedAllowed =>
    simp only [unit_bind_eq_ok, check_eq_ok, not_or, not_not]
    cases policy.network <;> simp [check_eq_ok, and_assoc]

/-- A valid policy stays valid when its lists are put in another order. -/
theorem validate_perm {policy : PrivacyPolicyV0} {providerIds : List ProviderId}
    {tiers : List DataTierV0} (hp : providerIds.Perm policy.allowedProviderIds)
    (ht : tiers.Perm policy.allowedHostedDataTiers) :
    { policy with
      allowedProviderIds := providerIds
      allowedHostedDataTiers := tiers }.validate = .ok () ↔ policy.validate = .ok () := by
  simp only [validate_eq_ok, Bounded, hp.nodup_iff, ht.nodup_iff, ht.mem_iff, ne_eq,
    ← List.length_eq_zero_iff, hp.length_eq, ht.length_eq]

/-- A valid policy whose network is denied is local. -/
theorem localOnly_of_deny {policy : PrivacyPolicyV0} (hv : policy.validate = .ok ())
    (hd : policy.network = .deny) : policy.dataHandling = .localOnly := by
  have hb := (validate_eq_ok.mp hv).2.2.2.2
  unfold Bounded at hb
  split at hb
  · assumption
  · simp [hd] at hb

/-! ## Decisions -/

theorem decideHosted_allowed {policy : PrivacyPolicyV0} {route : RoutePrivacyContextV0}
    {providerId : ProviderId} :
    policy.decideHosted route providerId = .allowed ↔ policy.dataHandling = .hostedAllowed ∧
      (policy.network = .allowHosted ∨
        policy.network = .allowListed ∧ providerId ∈ policy.allowedProviderIds) ∧
      route.dataTier ∈ policy.allowedHostedDataTiers ∧ route.redaction = .applied := by
  unfold decideHosted
  cases policy.dataHandling <;> cases policy.network <;> cases route.redaction <;> simp <;> grind

theorem decide_allowed {policy : PrivacyPolicyV0} {route : RoutePrivacyContextV0} :
    policy.decide route = .allowed ↔ policy.validate = .ok () ∧ route.dataTier ≠ .unknown ∧
      (route.target = .«local» ∨ ∃ providerId, route.target = .hosted providerId ∧
        policy.decideHosted route providerId = .allowed) := by
  unfold decide
  by_cases hv : policy.validate = .ok ()
  · by_cases ht : route.dataTier = .unknown
    · simp [hv, ht]
    · cases route.target <;> simp [hv, ht]
  · simp [hv]

/-- The decision sees of the lists only what is in them, and whether the policy is valid. -/
theorem decide_perm {policy : PrivacyPolicyV0} {providerIds : List ProviderId}
    {tiers : List DataTierV0} (hp : providerIds.Perm policy.allowedProviderIds)
    (ht : tiers.Perm policy.allowedHostedDataTiers) (route : RoutePrivacyContextV0) :
    { policy with
      allowedProviderIds := providerIds
      allowedHostedDataTiers := tiers }.decide route = policy.decide route := by
  have hhosted : ∀ providerId, { policy with
      allowedProviderIds := providerIds
      allowedHostedDataTiers := tiers }.decideHosted route providerId =
        policy.decideHosted route providerId := by
    intro providerId
    simp only [decideHosted, hp.mem_iff, ht.mem_iff]
  simp only [decide, ne_eq, validate_perm hp ht, hhosted]

theorem decideHosted_ne_networkDenied {policy : PrivacyPolicyV0} {route : RoutePrivacyContextV0}
    {providerId : ProviderId} (hv : policy.validate = .ok ()) :
    policy.decideHosted route providerId ≠ .denied .networkDenied := by
  unfold decideHosted
  by_cases hl : policy.dataHandling = .localOnly
  · simp [hl]
  · have hd : policy.network ≠ .deny := fun hd => hl (localOnly_of_deny hv hd)
    cases route.redaction <;> simp only [hl, hd] <;> grind

end PrivacyPolicyV0

/-- `decide` allows exactly the local routes and the declared hosted ones, for a valid policy and
a known tier. It does not depend on the order of the lists, and never denies for the network. -/
theorem decide_exact (policy : PrivacyPolicyV0) (route : RoutePrivacyContextV0) :
    (policy.decide route = .allowed ↔ policy.validate = .ok () ∧ route.dataTier ≠ .unknown ∧
      (route.target = .«local» ∨ ∃ providerId, route.target = .hosted providerId ∧
        policy.dataHandling = .hostedAllowed ∧
        (policy.network = .allowHosted ∨
          policy.network = .allowListed ∧ providerId ∈ policy.allowedProviderIds) ∧
        route.dataTier ∈ policy.allowedHostedDataTiers ∧ route.redaction = .applied)) ∧
    (∀ (providerIds : List ProviderId) (tiers : List DataTierV0),
      providerIds.Perm policy.allowedProviderIds → tiers.Perm policy.allowedHostedDataTiers →
      { policy with
        allowedProviderIds := providerIds
        allowedHostedDataTiers := tiers }.decide route = policy.decide route) ∧
    policy.decide route ≠ .denied .networkDenied := by
  refine ⟨?_, fun _ _ hp ht => PrivacyPolicyV0.decide_perm hp ht route, ?_⟩
  · simp only [PrivacyPolicyV0.decide_allowed, PrivacyPolicyV0.decideHosted_allowed]
  · unfold PrivacyPolicyV0.decide
    by_cases hv : policy.validate = .ok ()
    · rw [if_neg (not_not.mpr hv)]
      cases route.target with
      | hosted providerId =>
        have h : policy.decideHosted route providerId ≠ .denied .networkDenied :=
          PrivacyPolicyV0.decideHosted_ne_networkDenied hv
        split <;> simp [h]
      | «local» => split <;> simp
      | unknown => split <;> simp
    · simp [hv]

end Contracts
end Platform
