import Chip8Console.HostLoop
import Chip8Console.Input.Keyboard
import Chip8Console.Machine.Puppet
import Chip8Console.Proofs.Scheduling.Grid
import Chip8Console.Proofs.Scheduling.Phase
import Chip8Console.Proofs.Deeds
import Chip8Console.Proofs.Loading.Run
import Chip8Console.Proofs.Loading.Exclusive
import Chip8Console.Proofs.Console.Run
import Chip8Console.Proofs.Console.Vacancy
import Chip8Console.Proofs.Input.HeldKeys
import Chip8Console.Proofs.Keypad.Table
import Chip8Console.Proofs.Console.History
import Chip8Console.Proofs.Console.Panel
import Chip8Console.Proofs.Console.Lines
import Chip8Console.Proofs.Console.Pacing
import Chip8Console.Proofs.Console.Tone
import Chip8Console.Proofs.HostLoop
import Chip8Console.Proofs.Console.ToneProtocol
import Chip8Console.Proofs.Console.Frames
import Chip8Console.Proofs.Console.Halting
import Chip8Console.Proofs.Console.Screen
import Chip8Console.Proofs.Catalog.RoundTrip
import Chip8Console.Proofs.Effects
import Chip8Console.Proofs.Console.Faults
import Chip8Console.Proofs.Console.Paired
import Chip8Console.Proofs.Console.Registers
import Chip8Console.Proofs.Console.Undisturbed
import Chip8Console.Proofs.Console.Reports
import Chip8Console.Proofs.Console.Images
import Chip8Console.Proofs.Json.Widening
import Chip8Console.Proofs.Catalog.Lines
import Chip8Console.Proofs.Console.KeypadLines
import Chip8Console.Proofs.Display.Squares
import Chip8Console.Proofs.Display.Sampling
import Chip8Console.Proofs.Display.Painting
import Chip8Console.Proofs.Console.Selections
import Chip8Console.Proofs.Console.Recovery
import Chip8Console.Proofs.Keypad.Installing
import Chip8Console.Proofs.Scheduling.Bunching
import Chip8Console.Proofs.Console.Navigation
import Chip8Console.Proofs.Settings.Overlay
import Chip8Console.Proofs.HostLoop.Batches
import Chip8Console.Proofs.Terminal.Canvas
import Chip8Console.Proofs.Settings.Admission
