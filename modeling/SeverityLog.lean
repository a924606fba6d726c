import SeverityLog.Json
import SeverityLog.Main
import SeverityLog.Window
import SeverityLog.Proofs.BarHistory
import SeverityLog.Proofs.Delivery
import SeverityLog.Proofs.Dispatch
import SeverityLog.Proofs.Program
import SeverityLog.Proofs.Replay
import SeverityLog.Proofs.SentMessage
import SeverityLog.Proofs.Threshold
import SeverityLog.Host.Sharing
import SeverityLog.Proofs.Sharing
import SeverityLog.Proofs.Diagnostics
import SeverityLog.Host.Operation
import SeverityLog.Proofs.Interleaving
import SeverityLog.Proofs.PanelHistory
import SeverityLog.Proofs.FilterHint
import SeverityLog.Proofs.Outcome
import SeverityLog.Proofs.NextExpiry
import SeverityLog.Proofs.FullWriter
import SeverityLog.Proofs.LargestThreshold
import SeverityLog.Proofs.Transcript
import SeverityLog.Proofs.Polling
import SeverityLog.Proofs.LatestMessage
import SeverityLog.Proofs.Countdown
import SeverityLog.Proofs.Submission
import SeverityLog.Proofs.Resubmission
import SeverityLog.Proofs.Validation
import SeverityLog.Proofs.Settings
import SeverityLog.Proofs.Loading
import SeverityLog.Proofs.UnknownKeys
import SeverityLog.Proofs.Spelling
import SeverityLog.Proofs.Categories
import SeverityLog.Proofs.Decoding
