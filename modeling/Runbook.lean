import Runbook.Main
import Runbook.CommandLine.Perform
import Runbook.Host.Running
import Runbook.Launch.Script
import Runbook.Proofs.Line.Breaks
import Runbook.Proofs.Line.Trimming
import Runbook.Proofs.Run.Planning
import Runbook.Proofs.Word.Comments
import Runbook.Proofs.Word.RoundTrip
import Runbook.Proofs.Run.ShellMode
import Runbook.Proofs.Run.Concatenation
import Runbook.Proofs.Run.Pulling
import Runbook.Proofs.Run.Errors
import Runbook.Proofs.Run.Policies
import Runbook.Proofs.Run.Outcomes
import Runbook.Proofs.CommandLine.Environment
import Runbook.Proofs.Run.Remarks
import Runbook.Proofs.Config.Reloading
import Runbook.Proofs.Run.Skipping
import Runbook.Proofs.CommandLine.Splitting
import Runbook.Proofs.Text.Lines
import Runbook.Proofs.CommandLine.Records
import Runbook.Proofs.CommandLine.DryRun
import Runbook.Proofs.Host.Deadline
import Runbook.Proofs.Config.Members
