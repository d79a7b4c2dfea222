import StepLab.CommandLine.Run
import StepLab.Main
import StepLab.Workbench.Event
import StepLab.Proofs.Engine.Orbit
import StepLab.Proofs.Engine.Script
import StepLab.Proofs.Engine.Headless
import StepLab.Proofs.Engine.Stopping
import StepLab.Proofs.Engine.Tempo
import StepLab.Proofs.Language.Invariant
import StepLab.Proofs.Language.TapeMachines
import StepLab.Proofs.Language.TorusMachines
import StepLab.Proofs.Language.TorusRuns
import StepLab.Proofs.Language.Safety
import StepLab.Proofs.Grid.Editor
import StepLab.Proofs.Workbench.Changes
import StepLab.Proofs.Workbench.Agreement
import StepLab.Proofs.Pane.HitTest
import StepLab.Proofs.Pane.Focus
import StepLab.Proofs.CommandLine.Floor
import StepLab.Proofs.Workbench.Effects
import StepLab.Proofs.Workbench.Isolation
import StepLab.Proofs.Workbench.ResetQuestion
import StepLab.Proofs.Grid.Rows
import StepLab.Proofs.Grid.Layout
import StepLab.Proofs.Grid.Reflow
import StepLab.Proofs.Grid.Writing
import StepLab.Proofs.Grid.Resize
import StepLab.Proofs.Grid.Loading
import StepLab.Proofs.Text.Lines
import StepLab.Proofs.Grid.RoundTrip
import StepLab.Proofs.Workbench.Refit
import StepLab.Proofs.Grid.Torus
import StepLab.Proofs.Grid.Marks
import StepLab.Proofs.Language.InertCells
import StepLab.Proofs.Language.RandomTurns
import StepLab.Proofs.Language.Opcodes
import StepLab.Proofs.Language.Skip
import StepLab.Proofs.Language.Warp
import StepLab.Proofs.Language.Laps
import StepLab.Proofs.Language.Input
import StepLab.Proofs.Language.Overflow
import StepLab.Proofs.Grid.Symmetry
import StepLab.Proofs.Language.Seam
import StepLab.Proofs.Engine.Retrace
import StepLab.Proofs.Engine.Ticking
import StepLab.Proofs.Text.Numeral
import StepLab.Proofs.Grid.WrittenSize
import StepLab.Proofs.Workbench.Typing
import StepLab.Proofs.Screen.Wrap
import StepLab.Proofs.Pane.TapeRow
import StepLab.Proofs.Pane.Paging
