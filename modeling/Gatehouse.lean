import Gatehouse.ConnectionUrl
import Gatehouse.Core
import Gatehouse.Data.ValueText
import Gatehouse.Rehearsal.RunnerTrial
import Gatehouse.Rehearsal.Stage
import Gatehouse.Rehearsal.SweepTrial
import Gatehouse.Settings.Load
import Gatehouse.Settings.Writing
import Gatehouse.Proofs.Course
import Gatehouse.Proofs.AuditEntries
import Gatehouse.Proofs.CallOrder
import Gatehouse.Proofs.Issuance
import Gatehouse.Proofs.Assembly
import Gatehouse.Proofs.Replies
import Gatehouse.Proofs.Decision
import Gatehouse.Proofs.Internal
import Gatehouse.Proofs.StoreAccess
import Gatehouse.Proofs.Recollection
import Gatehouse.Proofs.Retention
import Gatehouse.Proofs.Lifetime
import Gatehouse.Proofs.Noninterference
import Gatehouse.Proofs.Membership
import Gatehouse.Proofs.Backlog
import Gatehouse.Proofs.Reporting
import Gatehouse.Proofs.StaleFlags
import Gatehouse.Proofs.RoundTrip
import Gatehouse.Proofs.StampText
import Gatehouse.Proofs.DirectoryRows
import Gatehouse.Proofs.Concourse
import Gatehouse.Proofs.KeptApart
import Gatehouse.Proofs.Evaluations
import Gatehouse.Proofs.WriteLog
import Gatehouse.Proofs.StableIdentity
import Gatehouse.Proofs.MadeHashes
import Gatehouse.Proofs.AccountSecrecy
import Gatehouse.Proofs.IdleMapper
import Gatehouse.Proofs.UserMessages
import Gatehouse.Proofs.Whereabouts
import Gatehouse.Proofs.Construction
import Gatehouse.Proofs.Startup
import Gatehouse.Proofs.Flattening
import Gatehouse.Proofs.Eviction
import Gatehouse.Proofs.Presentation
import Gatehouse.Proofs.VerifiedUser
import Gatehouse.Proofs.Registration
import Gatehouse.Proofs.AnswerForms
import Gatehouse.Proofs.TrailNames
import Gatehouse.Proofs.ZoneForms
import Gatehouse.Proofs.Masking
import Gatehouse.Proofs.RecordLifetime
