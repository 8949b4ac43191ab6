import BigQmt.RuntimeBundle
set_option autoImplicit false

/-!
How a process comes by its services: `service/deployment.py` and
`bootstrap_runtime_services`.
-/

namespace BigQmt.Risk

open Checklist

/-- The arguments of `ReleaseManifest`. -/
structure ReleaseFields where
  applicationBuild : String
  gitCommit : String
  schemaVersion : Int
  terminalInstanceId : String
  qmtBridgeBuild : String
  configDigest : String
  deriving DecidableEq

/-- `[0-9a-f]{n}`, and nothing else. -/
def lowerHex (n : Nat) (text : List Char) : Bool :=
  text.length = n && text.all fun c => "0123456789abcdef".toList.contains c

def ReleaseFields.postInit (f : ReleaseFields) : Except RiskError Unit := do
  require (nonblank f.applicationBuild) "application_build must be non-empty"
  require (nonblank f.terminalInstanceId) "terminal_instance_id must be non-empty"
  require (nonblank f.qmtBridgeBuild) "qmt_bridge_build must be non-empty"
  require (lowerHex 40 f.gitCommit.toList) "git_commit must be a full lowercase 40-character SHA"
  require (0 < f.schemaVersion) "schema_version must be > 0"
  require ("sha256:".toList.isPrefixOf f.configDigest.toList &&
    lowerHex 64 (f.configDigest.toList.drop 7)) "config_digest must be sha256:<64 lowercase hex>"

structure ReleaseManifest extends ReleaseFields where
  checked : toReleaseFields.postInit = .ok ()

structure ObservedDeployment where
  applicationBuild : String
  gitCommit : String
  binarySupportedSchemaVersion : Int
  databaseSchemaVersion : Int
  terminalInstanceId : String
  qmtBridgeBuild : String
  configDigest : String
  deriving DecidableEq

/-- The comparisons of `DeploymentGuard.validate`; the last two are one `if` and its `elif`. -/
def DeploymentGuard.checks (expected : ReleaseFields) (observed : ObservedDeployment) :
    List (Check String) :=
  [⟨observed.applicationBuild ≠ expected.applicationBuild,"APPLICATION_BUILD_MISMATCH"⟩,
    ⟨observed.gitCommit ≠ expected.gitCommit,"GIT_COMMIT_MISMATCH"⟩,
    ⟨observed.terminalInstanceId ≠ expected.terminalInstanceId,"TERMINAL_INSTANCE_MISMATCH"⟩,
    ⟨observed.qmtBridgeBuild ≠ expected.qmtBridgeBuild,"QMT_BRIDGE_BUILD_MISMATCH"⟩,
    ⟨observed.configDigest ≠ expected.configDigest,"CONFIG_DIGEST_MISMATCH"⟩,
    ⟨observed.binarySupportedSchemaVersion ≠ expected.schemaVersion,
      "BINARY_SCHEMA_CONTRACT_MISMATCH"⟩,
    ⟨observed.binarySupportedSchemaVersion < observed.databaseSchemaVersion,
      "DATABASE_SCHEMA_NEWER_THAN_BINARY"⟩,
    ⟨observed.databaseSchemaVersion ≤ observed.binarySupportedSchemaVersion &&
      observed.databaseSchemaVersion < expected.schemaVersion,"DATABASE_SCHEMA_NOT_MIGRATED"⟩]

def supportedSchemaVersion : Int := 11

/-- What `_deployment_preflight` looks at before the guard. -/
def schemaChecks (schemaVersion : Int) (expected : ReleaseFields) (observed : ObservedDeployment) :
    List (Check String) :=
  [⟨expected.schemaVersion ≠ supportedSchemaVersion,
      "RELEASE_SCHEMA_DOES_NOT_MATCH_BINARY_CONSTANT"⟩,
    ⟨schemaVersion ≠ observed.databaseSchemaVersion,"OBSERVED_DATABASE_SCHEMA_MISMATCH"⟩,
    ⟨schemaVersion ≠ supportedSchemaVersion,"DATABASE_SCHEMA_DOES_NOT_MATCH_BINARY_CONSTANT"⟩]

inductive BootstrapError where
  | valueError (message : String)
  | deploymentMismatch (errors : List String)
  | operations (e : OperationsError)
  deriving DecidableEq

/-- `_deployment_preflight` of a database of this schema version. -/
def deploymentPreflight (schemaVersion : Int) (expected : ReleaseFields)
    (observed : ObservedDeployment) : Except BootstrapError Unit :=
  if findings (schemaChecks schemaVersion expected observed) ≠ [] then
    .error (.deploymentMismatch (findings (schemaChecks schemaVersion expected observed)))
  else if findings (DeploymentGuard.checks expected observed) ≠ [] then
    .error (.deploymentMismatch (findings (DeploymentGuard.checks expected observed)))
  else .ok ()

/-- The arguments of `bootstrap_runtime_services`, with the schema version of its database. -/
structure BootstrapRequest where
  schemaVersion : Int
  expected : ReleaseManifest
  observed : ObservedDeployment
  runtimeSessionId : String
  startedAt : AwareTime
  accountFingerprint : String
  policy : RiskPolicy
  requiredSymbols : List String
  requiredStrategies : List StrategyHealthRequirement
  healthMaxAgeSeconds : Int

namespace BootstrapRequest

def check (p : Bool) (message : String) : Except BootstrapError Unit :=
  if p then .ok () else .error (.valueError message)

/-- The strategy of the policy is among the required ones. -/
def coversStrategy (r : BootstrapRequest) : Bool :=
  r.requiredStrategies.any fun item => item.strategyId = r.policy.strategy.strategyId &&
    item.strategyVersion ∈ r.policy.strategy.allowedVersions

/-- What is checked before anything is constructed. -/
def validate (r : BootstrapRequest) : Except BootstrapError Unit := do
  check (r.accountFingerprint ≠ "") "account_fingerprint must be non-empty"
  check (r.policy.expectedAccountFingerprint = r.accountFingerprint)
    "policy account fingerprint does not match runtime account"
  check (r.requiredSymbols ≠ []) "required_symbols must be a non-empty tuple"
  check (r.policy.strategy.allowedSymbols ⊆ r.requiredSymbols.toFinset)
    "required_symbols must cover the complete strategy symbol allow-list"
  check (r.requiredStrategies ≠ []) "required_strategies must be non-empty"
  check r.coversStrategy "required_strategies must cover the configured strategy identity"
  check (0 < r.healthMaxAgeSeconds) "health_max_age_seconds must be a positive integer"
  deploymentPreflight r.schemaVersion r.expected.toReleaseFields r.observed

/-- What `RuntimeHealthSynchronizer` checks, after the first row is written. -/
def validateSymbols (r : BootstrapRequest) : Except BootstrapError Unit := do
  check ("" ∉ r.requiredSymbols) "required_symbols must contain non-empty strings"
  check r.requiredSymbols.Nodup "required_symbols must be unique"

def config (r : BootstrapRequest) : BundleConfig :=
  ⟨r.policy,r.requiredSymbols,r.requiredStrategies⟩

/-- The services, or the exception, and what is left of the database either way. -/
def bootstrap (r : BootstrapRequest) (disk : Disk) (dailyRisk : DailyRiskLedger)
    (db : OperationsDb) : Except BootstrapError RuntimeBundle × OperationsDb :=
  match r.validate with
  | .error e => (.error e,db)
  | .ok () =>
    match RuntimeServices.start disk r.runtimeSessionId r.startedAt.micros true
        r.healthMaxAgeSeconds db with
    | (.error e,db') => (.error (.operations e),db')
    | (.ok services,db') =>
      match r.validateSymbols with
      | .error e => (.error e,db')
      | .ok () => (.ok ⟨services,[],[],dailyRisk⟩,db')

end BootstrapRequest
end BigQmt.Risk
