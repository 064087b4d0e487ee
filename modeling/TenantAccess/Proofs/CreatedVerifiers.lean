import TenantAccess.Verifier.Setup

/-! What the factory can return. Every property of the configured verifier starts
from these cases, so no later proof runs the factory again. -/

namespace TenantAccess.Proofs

def heldKey? (config : ProviderConfig) : Option LocalKey :=
  (ProviderConfig.nonempty? config.publicKeyPem).bind fun pem =>
    (SigningAlgorithm.ofText? config.algorithm).bind fun algorithm =>
      LocalKey.ofPem? pem algorithm config.issuer

inductive Created (config : ProviderConfig) : Verifier → Prop where
  | disabled (unset : config.provider = .none) : Created config .disabled
  | remote {algorithm : SigningAlgorithm} {url : String} (set : config.provider ≠ .none)
      (named : SigningAlgorithm.ofText? config.algorithm = some algorithm)
      (given : ProviderConfig.nonempty? config.url = some url)
      (keyless : ProviderConfig.nonempty? config.publicKeyPem = none) :
      Created config (((config.remote? algorithm (ProviderConfig.baseUrl url) false).map
        Verifier.remote).getD .disabled)
  | localFirst {algorithm : SigningAlgorithm} {url : String} {key : LocalKey}
      (set : config.provider ≠ .none)
      (named : SigningAlgorithm.ofText? config.algorithm = some algorithm)
      (given : ProviderConfig.nonempty? config.url = some url) (held : heldKey? config = some key) :
      Created config (.localFirst key (config.remote? algorithm (ProviderConfig.baseUrl url) true))

/-- Setting up asks nothing whose reply matters, so what was built depends on the
configuration alone. -/
theorem created {config : ProviderConfig} {verifier : Verifier} (world : World σ) (state : σ)
    (built : (config.createVerifier.run world state).1 = .ok verifier) : Created config verifier := by
  unfold ProviderConfig.createVerifier at built
  cases named : SigningAlgorithm.ofText? config.algorithm with
  | none => simp [named, Flow.run, pure] at built
  | some algorithm =>
    simp only [named] at built
    split at built
    · next unset =>
      cases built
      exact .disabled unset
    · next set =>
      cases given : ProviderConfig.nonempty? config.url with
      | none => simp [given, Flow.run, pure] at built
      | some url =>
        simp only [given, ProviderConfig.verifierAt] at built
        cases keyed : ProviderConfig.nonempty? config.publicKeyPem with
        | none =>
          simp only [keyed] at built
          cases built
          exact .remote set named given keyed
        | some pem =>
          simp only [keyed] at built
          cases read : LocalKey.ofPem? pem algorithm config.issuer with
          | none => simp [read, Flow.run, pure] at built
          | some key =>
            simp only [read] at built
            cases built
            exact .localFirst set named given (by simp [heldKey?, keyed, named, read])

inductive Refused (config : ProviderConfig) : SetupFailure → Prop where
  | algorithm (unnamed : SigningAlgorithm.ofText? config.algorithm = none) :
      Refused config (.refusedAlgorithm config.algorithm)
  | address (set : config.provider ≠ .none) (missing : ProviderConfig.nonempty? config.url = none) :
      Refused config (.missingUrl config.provider)
  | key {algorithm : SigningAlgorithm} {pem : String} (set : config.provider ≠ .none)
      (named : SigningAlgorithm.ofText? config.algorithm = some algorithm)
      (given : ProviderConfig.nonempty? config.publicKeyPem = some pem)
      (unread : LocalKey.ofPem? pem algorithm config.issuer = none) :
      Refused config (.unreadableKey algorithm)

theorem refused {config : ProviderConfig} {failure : SetupFailure} (world : World σ) (state : σ)
    (failed : (config.createVerifier.run world state).1 = .error failure) : Refused config failure := by
  unfold ProviderConfig.createVerifier at failed
  cases named : SigningAlgorithm.ofText? config.algorithm with
  | none =>
    simp only [named] at failed
    cases failed
    exact .algorithm named
  | some algorithm =>
    simp only [named] at failed
    split at failed
    · cases failed
    next set =>
      cases given : ProviderConfig.nonempty? config.url with
      | none =>
        simp only [given] at failed
        cases failed
        exact .address set given
      | some url =>
        simp only [given, ProviderConfig.verifierAt] at failed
        cases keyed : ProviderConfig.nonempty? config.publicKeyPem with
        | none =>
          simp only [keyed] at failed
          cases failed
        | some pem =>
          simp only [keyed] at failed
          cases read : LocalKey.ofPem? pem algorithm config.issuer with
          | none =>
            simp only [read] at failed
            cases failed
            exact .key set named keyed read
          | some key =>
            simp only [read] at failed
            cases failed

end TenantAccess.Proofs
