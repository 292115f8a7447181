import Chip8.Host.Overlay
import Chip8.Main
import Chip8.Proofs.Access
import Chip8.Proofs.Arithmetic
import Chip8.Proofs.Assembly
import Chip8.Proofs.Blocks
import Chip8.Proofs.Calls
import Chip8.Proofs.Captions
import Chip8.Proofs.Decoding
import Chip8.Proofs.Dialects
import Chip8.Proofs.Effects
import Chip8.Proofs.Execution
import Chip8.Proofs.Faults
import Chip8.Proofs.Flow
import Chip8.Proofs.Frame
import Chip8.Proofs.Grammar
import Chip8.Proofs.Halting
import Chip8.Proofs.Happenings
import Chip8.Proofs.HostRun
import Chip8.Proofs.Invariant
import Chip8.Proofs.KeyBook
import Chip8.Proofs.KeyWait
import Chip8.Proofs.Keyboard
import Chip8.Proofs.Loading
import Chip8.Proofs.Masks
import Chip8.Proofs.Parity
import Chip8.Proofs.Pausing
import Chip8.Proofs.Peers
import Chip8.Proofs.Performing
import Chip8.Proofs.Preview
import Chip8.Proofs.Reloading
import Chip8.Proofs.Reporting
import Chip8.Proofs.Resume
import Chip8.Proofs.Showing
import Chip8.Proofs.SoundCalls
import Chip8.Proofs.Sounding
import Chip8.Proofs.Sprites
import Chip8.Proofs.Step
import Chip8.Proofs.Timers
import Chip8.Proofs.Trail
import Chip8.Proofs.Wrapping
import Chip8.Render.Layers
import Chip8.Tone
