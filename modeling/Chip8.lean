import Chip8.Instruction.Basic
import Chip8.Machine.Journal
import Chip8.Session.Journal
import Chip8.Proofs.MemoryAccess
import Chip8.Proofs.StepFault
import Chip8.Proofs.Latch
import Chip8.Proofs.KeyWait
import Chip8.Proofs.DecimalText
import Chip8.Proofs.Rank
import Chip8.Proofs.SingleText
import Chip8.Proofs.SettingsStorage
import Chip8.Proofs.SessionConfig
import Chip8.Proofs.Restart
import Chip8.Proofs.Cycle
import Chip8.Proofs.Halting
import Chip8.Proofs.Signals
import Chip8.Proofs.Tone
import Chip8.Proofs.Picture
import Chip8.Proofs.Guard.Access
import Chip8.Proofs.Guard.Memory
import Chip8.Proofs.Guard.Operand
import Chip8.Proofs.Guard.Execute
import Chip8.Proofs.Guard.Keypad
import Chip8.Proofs.Guard.Command
import Chip8.Proofs.Bounds
import Chip8.Proofs.CrashFree
import Chip8.Proofs.Subroutine
import Chip8.Proofs.Requests
import Chip8.Proofs.LastError
import Chip8.Proofs.Debugging
import Chip8.Proofs.Footprint
import Chip8.Proofs.Frozen
import Chip8.Proofs.Tracing
import Chip8.Proofs.FreshStart
import Chip8.Proofs.Notices
import Chip8.Proofs.Periphery
import Chip8.Proofs.Twins
import Chip8.Proofs.DialectFree
import Chip8.Proofs.RandomBits
import Chip8.Proofs.Pacing
import Chip8.Proofs.Pausing
import Chip8.Proofs.Refusals
import Chip8.Proofs.Vacant
import Chip8.Proofs.Sprite
import Chip8.Proofs.RegisterArithmetic
import Chip8.Proofs.BlockTransfer
import Chip8.Proofs.KeyChanges
import Chip8.Proofs.SavedSettings
import Chip8.Proofs.PartialSave
import Chip8.Proofs.LoadedSettings
import Chip8.Proofs.PixelOrder
import Chip8.Proofs.Decoding
import Chip8.Proofs.AssemblyText
import Chip8.Proofs.LastWrites
import Chip8.Proofs.BoundedStack
import Chip8.Proofs.KeypadHistory
