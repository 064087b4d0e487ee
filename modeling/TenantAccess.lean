import TenantAccess.Json.Printer
import TenantAccess.Log.Line
import TenantAccess.Proofs.CreatedVerifiers
import TenantAccess.Proofs.FlowSafety
import TenantAccess.Rehearsal.Script
import TenantAccess.Rehearsal.Transcript
import TenantAccess.Service.Server
import TenantAccess.Proofs.VerifierBounds
import TenantAccess.Proofs.KeyLookups
import TenantAccess.Proofs.RestoredTargets
import TenantAccess.Proofs.MountedPaths
import TenantAccess.Proofs.TenantGrants
import TenantAccess.Proofs.VerifierFootprint
import TenantAccess.Proofs.IdentityStages
import TenantAccess.Proofs.SessionWork
import TenantAccess.Proofs.GuardedStages
import TenantAccess.Proofs.TenantRoutes
import TenantAccess.Proofs.ServiceWalk
import TenantAccess.Proofs.TenantIsolation
import TenantAccess.Proofs.DatabaseFailures
import TenantAccess.Proofs.WholeNumbers
import TenantAccess.Proofs.TokenAcceptance
import TenantAccess.Proofs.FlowCourses
import TenantAccess.Proofs.StageCourses
import TenantAccess.Proofs.MountCourses
import TenantAccess.Proofs.ServiceCourses
import TenantAccess.Proofs.ClosedStages
import TenantAccess.Proofs.MemberLimits
import TenantAccess.Proofs.StatementTexts
import TenantAccess.Proofs.ClientMistakes
import TenantAccess.Proofs.KeptKeys
import TenantAccess.Proofs.LoadedSettings
import TenantAccess.Proofs.FlowRuns
import TenantAccess.Proofs.StageWalks
import TenantAccess.Proofs.ServiceRuns
import TenantAccess.Proofs.PoolSessions
import TenantAccess.Proofs.UniformRefusals
import TenantAccess.Proofs.GoneCallers
import TenantAccess.Proofs.AnsweredCallers
import TenantAccess.Proofs.RequestIds
import TenantAccess.Proofs.RepeatedSignals
import TenantAccess.Proofs.MirroredRuns
import TenantAccess.Proofs.MirroredVerifiers
import TenantAccess.Proofs.MirroredStages
import TenantAccess.Proofs.PrivateClaims
import TenantAccess.Proofs.FailedLookups
import TenantAccess.Proofs.KeySelection
import TenantAccess.Proofs.KeyKinds
import TenantAccess.Proofs.ClauseReading
import TenantAccess.Proofs.RestrictedRows
import TenantAccess.Proofs.CanonicalIdentifiers
import TenantAccess.Proofs.IdentifierTexts
import TenantAccess.Proofs.OrganizationChoice
import TenantAccess.Proofs.AuditTrails
import TenantAccess.Proofs.UnfitKeys
import TenantAccess.Proofs.ComposedVerifiers
import TenantAccess.Proofs.MappedClaims
import TenantAccess.Proofs.AgreeingIdentities
import TenantAccess.Proofs.CanonicalTenants
import TenantAccess.Proofs.HandlerOutcomes
import TenantAccess.Proofs.DelimitedNames
import TenantAccess.Proofs.NumberedPlaces
import TenantAccess.Proofs.ToldIssues
import TenantAccess.Proofs.ReloadedSettings
import TenantAccess.Proofs.SharedSessions
import TenantAccess.Proofs.PresentedTokens
import TenantAccess.Proofs.ProviderEndpoints
