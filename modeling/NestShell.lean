import NestShell.Code.Module
import NestShell.Main
import NestShell.Shell.Completion
import NestShell.Proofs.Command.Aliases
import NestShell.Proofs.Code.Block
import NestShell.Proofs.Command.Change
import NestShell.Proofs.Command.Matching
import NestShell.Proofs.Command.Naming
import NestShell.Proofs.Commands.Aliased
import NestShell.Proofs.Commands.FileLines
import NestShell.Proofs.Commands.System
import NestShell.Proofs.History.Reopening
import NestShell.Proofs.Options.Advertised
import NestShell.Proofs.Options.Index
import NestShell.Proofs.Program.Script
import NestShell.Proofs.Program.SingleLine
import NestShell.Proofs.Shell.Accepting
import NestShell.Proofs.Shell.Conservation
import NestShell.Proofs.Shell.Containment
import NestShell.Proofs.Shell.EndOfInput
import NestShell.Proofs.Shell.Handles
import NestShell.Proofs.Shell.Listing
import NestShell.Proofs.Shell.Pending
import NestShell.Proofs.Shell.Remainder
import NestShell.Proofs.Shell.Replay
import NestShell.Proofs.Shell.Results
import NestShell.Proofs.Shell.Run
import NestShell.Proofs.Text.Columns
import NestShell.Options.Index
import NestShell.Proofs.Commands.Levels
