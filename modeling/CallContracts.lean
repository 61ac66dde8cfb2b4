import CallContracts.Contract
import CallContracts.Main
import CallContracts.Role
import CallContracts.Settings.Json
import CallContracts.Signature.Cache
import CallContracts.Store.Inspect
import CallContracts.Value.Equality
import CallContracts.Proofs.Guards
import CallContracts.Proofs.Stages
import CallContracts.Proofs.RoundTrip
import CallContracts.Proofs.Shapes
import CallContracts.Proofs.NearestSettings
import CallContracts.Proofs.Conformance
import CallContracts.Proofs.Gathering
import CallContracts.Proofs.CompiledAlike
import CallContracts.Proofs.Upholding
import CallContracts.Proofs.GuardedCalls
import CallContracts.Proofs.AsyncCalls
import CallContracts.Proofs.RepeatedGuards
import CallContracts.Proofs.DuckContracts
import CallContracts.Proofs.BlindRuns
import CallContracts.Proofs.AnnotationHistory
import CallContracts.Proofs.Enforcement
import CallContracts.Proofs.ContractDecisions
import CallContracts.Proofs.NominalRoles
import CallContracts.Proofs.Depth
import CallContracts.Proofs.SettlingWalk
import CallContracts.Proofs.ArgumentLists
import CallContracts.Proofs.Offenders
import CallContracts.Proofs.SharedPromises
import CallContracts.Proofs.ViablePrefixes
import CallContracts.Proofs.Numbers
import CallContracts.Proofs.Doubles
import CallContracts.Proofs.Rounding
import CallContracts.Proofs.KeyOrder
import CallContracts.Proofs.ValueEquality
import CallContracts.Proofs.LayeredObjects
import CallContracts.Proofs.JsonData
import CallContracts.Proofs.ParameterOrder
import CallContracts.Proofs.DuckDeclarations
import CallContracts.Contract.Remembered
import CallContracts.Proofs.RememberedSignatures
import CallContracts.Proofs.JsonForm
import CallContracts.Proofs.JsonTexts
import CallContracts.Proofs.PlaceTexts
import CallContracts.Proofs.Descents
import CallContracts.Proofs.Progress
import CallContracts.Proofs.FailureReports
