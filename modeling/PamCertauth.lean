import PamCertauth.FallibleComputations
import PamCertauth.ConsumingReaders
import PamCertauth.TracedPrograms
import PamCertauth.KeyedTimers
import PamCertauth.LexicalPaths
import PamCertauth.LineFraming
import PamCertauth.GreedySearch
import PamCertauth.DirectoryTrees
import PamCertauth.BigEndianDigits
import PamCertauth.DerEncoding
import PamCertauth.DerReading
import PamCertauth.Certificates
import PamCertauth.Authorization
import PamCertauth.PathBuilding
import PamCertauth.PathChecks
import PamCertauth.RecordCertificates
import PamCertauth.DerRoundTrips
import PamCertauth.BindingDecisions
import PamCertauth.KeyUsageBits
import PamCertauth.SignatureNames
import PamCertauth.Revocation
import PamCertauth.TrustVerifier
import PamCertauth.PathSearch
import PamCertauth.KeyMaterial
import PamCertauth.AuthContexts
import PamCertauth.LabelEncoding
import PamCertauth.Hooks
import PamCertauth.HookValidation
import PamCertauth.HookProcesses
import PamCertauth.Protocol
import PamCertauth.MonitorClient
import PamCertauth.WireRoundTrips
import PamCertauth.Configuration
import PamCertauth.Wiring
import PamCertauth.TrustOverrides
import PamCertauth.FlowCollaborators
import PamCertauth.MountGuards
import PamCertauth.AuthenticationFlow
import PamCertauth.CredentialPaths
import PamCertauth.CandidateLoop
import PamCertauth.FlowGates
import PamCertauth.TokenGates
import PamCertauth.UserAuthorization
import PamCertauth.SessionReporting
import PamCertauth.SessionRegistry
import PamCertauth.StateManager
import PamCertauth.ConnectionServing
import PamCertauth.StreamedConnections
import PamCertauth.GraceTimers
import PamCertauth.UsbRemovals
import PamCertauth.SessionClosing
import PamCertauth.DispatchTargets
import PamCertauth.SuspendedRemovals
import PamCertauth.UidIndex
import PamCertauth.RegistryStore
import PamCertauth.RegistryDurability
import PamCertauth.IntegrityPolicy
import PamCertauth.SessionEntries
import PamCertauth.IntegrityOfLogins
import PamCertauth.SessionLifetimes
import PamCertauth.HostIdentity
import PamCertauth.HostIdReports
import PamCertauth.PinPrompts
import PamCertauth.CandidateProbes
import PamCertauth.AccountManagement
import PamCertauth.HookTemplates
import PamCertauth.RadixNumerals
import PamCertauth.LabelText
import PamCertauth.HookEnvironments
import PamCertauth.OutputCapture
import PamCertauth.RetryLoops
import PamCertauth.PinBudgets
import PamCertauth.HookHostIds
import PamCertauth.TokenCertificates
import PamCertauth.UsbEnumeration
import PamCertauth.UsbWaiting
import PamCertauth.HookResources
import PamCertauth.AdmissionWindows
import PamCertauth.ParseFailureAudits
import PamCertauth.GregorianCalendar
import PamCertauth.UtcStamps
import PamCertauth.PresenceWatch
import PamCertauth.RemovalRaces
import PamCertauth.PipedConnections
import PamCertauth.ReportedSessions
import PamCertauth.DurableFiles
import PamCertauth.RegistryCrashes
import PamCertauth.ActionRunner
import PamCertauth.ProtocolRuns
import PamCertauth.LockedCalls
import PamCertauth.TokenBackend
import PamCertauth.TokenSessions
import PamCertauth.TokenLocks
import PamCertauth.SerialServers
import PamCertauth.SharedManager
import PamCertauth.VisibleSessions
import PamCertauth.ConnectionAdmission
import PamCertauth.FaultFinding
import PamCertauth.ConfigurationFile
import PamCertauth.ConfigurationFaults
