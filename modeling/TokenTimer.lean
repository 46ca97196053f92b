import TokenTimer.Lib.Bits
import TokenTimer.Lib.Runs
import TokenTimer.Lib.Faulty
import TokenTimer.Lib.Table
import TokenTimer.Lib.Binary64
import TokenTimer.Lib.Numeral
import TokenTimer.Lib.Delimited
import TokenTimer.Lib.Scripts
import TokenTimer.Basic
import TokenTimer.Signing.Rotation
import TokenTimer.Signing.RotationSafety
import TokenTimer.Json.Text
import TokenTimer.Json.Canonical
import TokenTimer.Json.CanonicalInjective
import TokenTimer.Json.Grammar
import TokenTimer.Signing.StrictJson
import TokenTimer.Signing.CanonicalGate
import TokenTimer.CertOps.LeaseTiming
import TokenTimer.CertOps.Schema
import TokenTimer.CertOps.Jobs
import TokenTimer.CertOps.TrustAnchors
import TokenTimer.CertOps.TrustLifecycle
import TokenTimer.CertOps.CsrWorkflow
import TokenTimer.CertOps.CsrFrame
import TokenTimer.CertOps.CsrStory
import TokenTimer.CertOps.CsrPromotion
import TokenTimer.CertOps.CsrLeftovers
import TokenTimer.CertOps.Dispatch
import TokenTimer.CertOps.Results
import TokenTimer.CertOps.Reaper
import TokenTimer.CertOps.System
import TokenTimer.CertOps.Moves
import TokenTimer.CertOps.Refinement
import TokenTimer.CertOps.TrustCreation
import TokenTimer.CertOps.DispatchRefinement
import TokenTimer.CertOps.SystemRefinement
import TokenTimer.CertOps.JobSafety
import TokenTimer.CertOps.NonceWindow
import TokenTimer.CertOps.TrustReferences
import TokenTimer.CertOps.TrustUnwind
import TokenTimer.CertOps.TrustReplay
import TokenTimer.CertOps.TrustRelease
import TokenTimer.Console.Resolver
import TokenTimer.Console.ResolverInvariant
import TokenTimer.Console.Redelivery
import TokenTimer.Console.SessionStream
import TokenTimer.Agent.Outbox
import TokenTimer.Agent.OutboxSafety
import TokenTimer.Agent.OutboxRetries
import TokenTimer.Agent.OutboxRetention
import TokenTimer.Agent.OutboxBound
import TokenTimer.Agent.OutboxDrain
import TokenTimer.Agent.Host
import TokenTimer.Agent.Journal
import TokenTimer.Agent.Deploy
import TokenTimer.Agent.DeployTail
import TokenTimer.Agent.Renew
import TokenTimer.Agent.Execution
import TokenTimer.Agent.Effects
import TokenTimer.Agent.DeployRollback
import TokenTimer.Agent.CrashSafety
import TokenTimer.Agent.Markers
import TokenTimer.Agent.Replay
import TokenTimer.Agent.ReplaySafety
import TokenTimer.Agent.TrustOwnership
import TokenTimer.Agent.TrustRemoval
import TokenTimer.Agent.JobLog
import TokenTimer.Agent.JobLogStream
import TokenTimer.Agent.JobLogSafety
import TokenTimer.CertOps.EnrollmentChanges
import TokenTimer.CertOps.EnrollmentLiveness
import TokenTimer.CertOps.ResultRecorded
import TokenTimer.CertOps.ResultRedelivery
import TokenTimer.Recipients.Consent
import TokenTimer.Recipients.ConsentSafety
import TokenTimer.Worker.Digest
import TokenTimer.Worker.DigestSafety
import TokenTimer.CertOps.ApprovalFrame
import TokenTimer.CertOps.ApprovalSafety
import TokenTimer.CertOps.DispatchProgress
import TokenTimer.CertOps.Adoption
import TokenTimer.CertOps.AdoptionFrame
import TokenTimer.CertOps.AdoptionSafety
import TokenTimer.Delivery.AddedGroups
import TokenTimer.Delivery.Remembered
import TokenTimer.Delivery.AlertState
import TokenTimer.Delivery.Endpoint
import TokenTimer.Delivery.EndpointSafety
import TokenTimer.Delivery.QueueSafety
import TokenTimer.Distribution.Convergence
import TokenTimer.Distribution.Stranding
import TokenTimer.Agent.PinnedDeployment
import TokenTimer.Agent.PinnedSafety
import TokenTimer.Agent.Retention
import TokenTimer.Agent.RetentionSafety
import TokenTimer.Distribution.Publication
import TokenTimer.Distribution.PublicationSafety
import TokenTimer.Agent.DnsLock
import TokenTimer.CertOps.Registration
import TokenTimer.CertOps.RegistrationSafety
import TokenTimer.Evidence.Items
import TokenTimer.Evidence.Store
import TokenTimer.Evidence.Records
import TokenTimer.Evidence.Delivery
import TokenTimer.CertOps.KillSwitch
import TokenTimer.CertOps.KillSwitchSafety
import TokenTimer.Lib.IpText
import TokenTimer.Agent.VerifyHost
import TokenTimer.Agent.VerifySpelling
import TokenTimer.Lib.Der
import TokenTimer.Lib.Armor
import TokenTimer.Json.Encodings
import TokenTimer.Agent.CsrEncode
import TokenTimer.Agent.CsrNames
import TokenTimer.Agent.DerOid
import TokenTimer.Agent.Reconcile
import TokenTimer.Agent.RetentionSweep
import TokenTimer.Agent.SequenceAllocator
import TokenTimer.Evidence.SecretMaterial
import TokenTimer.Evidence.KeyCustody
import TokenTimer.Evidence.KeyRedaction
