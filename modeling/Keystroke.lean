import Keystroke.Main
import Keystroke.Session
import Keystroke.Settings.Change
import Keystroke.Json.Compact
import Keystroke.Proofs.Backend.Deeds
import Keystroke.Proofs.CommandLine.Acceptance
import Keystroke.Proofs.CommandLine.Consistency
import Keystroke.Proofs.Request.Documents
import Keystroke.Proofs.CommandLine.Answers
import Keystroke.Proofs.CommandLine.Naming
import Keystroke.Proofs.Session.Steps
import Keystroke.Proofs.Session.History
import Keystroke.Proofs.Session.Characters
import Keystroke.Proofs.Json.Extension
import Keystroke.Proofs.Json.Prefixes
import Keystroke.Proofs.Numeral.Writing
import Keystroke.Proofs.Request.Prefixes
import Keystroke.Proofs.Json.Spacing
import Keystroke.Proofs.Program.Status
import Keystroke.Proofs.RoundTrip
import Keystroke.Proofs.CommandLine.Character
import Keystroke.Proofs.Settings.Names
import Keystroke.Proofs.Settings.Documents
import Keystroke.Proofs.Settings.Runs
import Keystroke.Proofs.Backend.Reordering
import Keystroke.Proofs.Session.Presses
import Keystroke.Proofs.CommandLine.Finality
import Keystroke.Proofs.CommandLine.Swallowing
import Keystroke.Proofs.PostError
import Keystroke.Proofs.CommandLine.Refusals
