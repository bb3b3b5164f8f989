import SettingsCheck.CancelSignal
import SettingsCheck.Main
import SettingsCheck.Proofs.Cut
import SettingsCheck.Proofs.Places
import SettingsCheck.Proofs.Judgement
import SettingsCheck.Proofs.Location
import SettingsCheck.Proofs.View
import SettingsCheck.Proofs.Asking
import SettingsCheck.Proofs.Halting
import SettingsCheck.Proofs.Boundary
import SettingsCheck.Proofs.Accounting
import SettingsCheck.Proofs.Settlement
import SettingsCheck.Proofs.Silence
import SettingsCheck.Proofs.Canonical
import SettingsCheck.Proofs.Limits
import SettingsCheck.Proofs.Passing
import SettingsCheck.Proofs.ExitCode
import SettingsCheck.Proofs.Documents
import SettingsCheck.Proofs.Queue
import SettingsCheck.Proofs.Lookup
import SettingsCheck.Proofs.Seats
import SettingsCheck.Proofs.Independence
import SettingsCheck.Proofs.Tries
import SettingsCheck.Proofs.ZoneAcceptance
import SettingsCheck.Proofs.LoginAcceptance
import SettingsCheck.Proofs.MaskedTexts
import SettingsCheck.Proofs.MaskedTrees
import SettingsCheck.Proofs.JsonText
import SettingsCheck.Proofs.RuleText
import SettingsCheck.Proofs.Reread
import SettingsCheck.Proofs.Shapes
import SettingsCheck.Proofs.Loosening
import SettingsCheck.Proofs.Entries
import SettingsCheck.Proofs.PlainIntegers
import SettingsCheck.Proofs.Fallbacks
import SettingsCheck.Proofs.FirstFault
import SettingsCheck.Proofs.Interruption
import SettingsCheck.Proofs.MachineOutput
import SettingsCheck.Proofs.Decoding
import SettingsCheck.Proofs.Waits
import SettingsCheck.Proofs.WrittenParameters
import SettingsCheck.Proofs.ChallengeText
import SettingsCheck.Proofs.Assignments
import SettingsCheck.Proofs.QuotedPasswords
import SettingsCheck.Proofs.RepeatedMasking
import SettingsCheck.Proofs.QuietReport
import SettingsCheck.Proofs.BuiltinMessages
import SettingsCheck.Proofs.OneLineFindings
import SettingsCheck.Proofs.ZoneCandidates
import SettingsCheck.Proofs.TimeZones
import SettingsCheck.Proofs.KeyLines
import SettingsCheck.Proofs.Subtrees
import SettingsCheck.Proofs.PathText
import SettingsCheck.Proofs.RemoteSetup
import SettingsCheck.Proofs.IntegerTexts
