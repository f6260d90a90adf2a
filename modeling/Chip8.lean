import Chip8.Assembly.Listing
import Chip8.Clock.Host
import Chip8.CommandLine.Session
import Chip8.Machine.Report
import Chip8.Machine.Table
import Chip8.Main
import Chip8.Playground.Examples
import Chip8.Playground.Run
import Chip8.Proofs.BlockWrites
import Chip8.Proofs.BoundedRuns
import Chip8.Proofs.CallStack
import Chip8.Proofs.Clipping
import Chip8.Proofs.ClockLedger
import Chip8.Proofs.ClockTermination
import Chip8.Proofs.ConfigPersistence
import Chip8.Proofs.DrawSequences
import Chip8.Proofs.FaultLocation
import Chip8.Proofs.FrameViews
import Chip8.Proofs.Granularity
import Chip8.Proofs.KeypadActions
import Chip8.Proofs.LoadedImage
import Chip8.Proofs.PlaygroundRun
import Chip8.Proofs.RateFidelity
import Chip8.Proofs.Redraws
import Chip8.Proofs.Refinement
import Chip8.Proofs.RegisterBlocks
import Chip8.Proofs.Rendering
import Chip8.Proofs.StepCap
import Chip8.Proofs.Tracing
import Chip8.Proofs.Transfers
import Chip8.Random.Twister
