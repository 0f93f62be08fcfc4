import Rehearsal.Main
import Rehearsal.Scenario.Writer
import Rehearsal.Script
import Rehearsal.Session.Scripted
import Rehearsal.Proofs.Effects
import Rehearsal.Proofs.Failures
import Rehearsal.Proofs.Session.Failures
import Rehearsal.Proofs.Config.Reading
import Rehearsal.Proofs.Run.Login
import Rehearsal.Proofs.Session.Handles
import Rehearsal.Proofs.Session.Ledger
import Rehearsal.Proofs.Session.Moves
import Rehearsal.Proofs.Session.Acquisition
import Rehearsal.Proofs.Run.Moves
import Rehearsal.Proofs.Session.Nesting
import Rehearsal.Proofs.Run.Cases
import Rehearsal.Proofs.Run.FailFast
import Rehearsal.Proofs.Scenario.Problems
import Rehearsal.Proofs.Run.Validation
import Rehearsal.Proofs.Run.Isolation
import Rehearsal.Proofs.Run.Tally
import Rehearsal.Proofs.Agreement
import Rehearsal.Proofs.Session.Agreement
import Rehearsal.Proofs.Session.Ascent
import Rehearsal.Proofs.Session.Attempts
import Rehearsal.Proofs.Run.Agreement
import Rehearsal.Proofs.Run.Indifference
import Rehearsal.Proofs.Text.Splitting
import Rehearsal.Proofs.XPath.Expression
import Rehearsal.Proofs.XPath.Literals
import Rehearsal.Proofs.XPath.Titles
import Rehearsal.Proofs.XPath.Scripts
import Rehearsal.Proofs.Run.Pruning
import Rehearsal.Proofs.Run.Discretion
import Rehearsal.Proofs.Json.Spelling
import Rehearsal.Proofs.Json.Decoding
import Rehearsal.Proofs.Json.Writing
import Rehearsal.Proofs.Scenario.Roundtrip
import Rehearsal.Proofs.Run.Tandem
import Rehearsal.Proofs.Session.Contexts
import Rehearsal.Proofs.Run.Independence
import Rehearsal.Proofs.Config.Snapshots
import Rehearsal.Proofs.Disk.Paths
import Rehearsal.Proofs.Disk.Files
import Rehearsal.Proofs.Disk.Shapes
import Rehearsal.Proofs.Run.Elements
import Rehearsal.Proofs.Run.Story
import Rehearsal.Proofs.Run.Stamps
import Rehearsal.Proofs.Json.Numbers
import Rehearsal.Proofs.Run.Results
import Rehearsal.Proofs.Program.Reports
import Rehearsal.Proofs.Program.Exit
import Rehearsal.Proofs.Run.Resumption
import Rehearsal.Proofs.Run.Guarding
import Rehearsal.Proofs.Ini.Lines
import Rehearsal.Proofs.Ini.Sections
import Rehearsal.Proofs.Session.Refusals
import Rehearsal.Proofs.Run.Unstarted
import Rehearsal.Proofs.Run.Inputs
import Rehearsal.Proofs.Scenario.References
import Rehearsal.Proofs.Run.Shown
import Rehearsal.Proofs.Run.Titles
import Rehearsal.Proofs.Run.Tags
import Rehearsal.Proofs.Scenario.Fields
import Rehearsal.Proofs.Text.Collapsing
import Rehearsal.Proofs.Disk.Entries
import Rehearsal.Proofs.Scenario.Loading
import Rehearsal.Proofs.Json.Trees
import Rehearsal.Proofs.Json.Records
import Rehearsal.Proofs.Json.Respelling
import Rehearsal.Proofs.Scenario.Respelling
