import DroidAudit.Archive.Writer
import DroidAudit.Main
import DroidAudit.Proofs.DeepSource
import DroidAudit.Proofs.EscapedLine
import DroidAudit.Proofs.ExemptLines
import DroidAudit.Proofs.FailedReport
import DroidAudit.Proofs.FindingRecords
import DroidAudit.Proofs.LevelOrder
import DroidAudit.Proofs.LevelSearch
import DroidAudit.Proofs.PageTree
import DroidAudit.Proofs.PendingIntents
import DroidAudit.Proofs.PlainAddresses
import DroidAudit.Proofs.PropertyHistory
import DroidAudit.Proofs.ReportPlace
import DroidAudit.Proofs.ReportTable
import DroidAudit.Proofs.SearchOrder
import DroidAudit.Proofs.Starts
import DroidAudit.Proofs.TextStore
import DroidAudit.Proofs.UniversalAccess
import DroidAudit.Proofs.UnpackerCall
import DroidAudit.Proofs.VersionGate
