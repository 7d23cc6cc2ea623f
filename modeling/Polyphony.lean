import Polyphony.Engine.Command
import Polyphony.Engine.MonoNotes
import Polyphony.Keyboard
import Polyphony.Output.Stream
import Polyphony.Proofs.Interleaving
import Polyphony.Proofs.BankTable
import Polyphony.Proofs.Matching
import Polyphony.Proofs.Bindings
import Polyphony.Proofs.EnvelopeStages
import Polyphony.Proofs.VoiceLife
import Polyphony.Proofs.Layers
import Polyphony.Proofs.Blocks
import Polyphony.Proofs.VoiceStates
import Polyphony.Proofs.References
import Polyphony.Proofs.QueueRoom
import Polyphony.Proofs.Ledger
import Polyphony.Proofs.Conservation
import Polyphony.Proofs.ReleasedNotes
import Polyphony.Proofs.Resolution
import Polyphony.Proofs.Number.Order
import Polyphony.Proofs.Number.Zeros
import Polyphony.Proofs.Number.Ranges
import Polyphony.Proofs.Number.Operands
import Polyphony.Proofs.UnloadedBanks
import Polyphony.Proofs.Splitting
import Polyphony.Proofs.SplitRendering
import Polyphony.Proofs.ChannelCourse
import Polyphony.Proofs.FailedCalls
import Polyphony.Proofs.Independence
import Polyphony.Proofs.BankSelects
import Polyphony.Proofs.SingleNotes
import Polyphony.Proofs.BankHistory
import Polyphony.Proofs.StealOrder
import Polyphony.Proofs.NotePlaces
import Polyphony.Proofs.DeviceBuffers
import Polyphony.Proofs.BankDrafts
import Polyphony.Proofs.NewestMatches
import Polyphony.Proofs.FontNotes
import Polyphony.Proofs.CursorCourse
import Polyphony.Proofs.FontSetting
import Polyphony.Proofs.EnvelopeTimeline
import Polyphony.Proofs.EnvelopeCalls
import Polyphony.Proofs.UnrolledLoops
import Polyphony.Proofs.LoopNeighbours
import Polyphony.Proofs.FontBanks
import Polyphony.Proofs.SettingCalls
import Polyphony.Proofs.OrderedChecks
import Polyphony.Proofs.Configurations
import Polyphony.Proofs.Messages
import Polyphony.Proofs.Allocations
