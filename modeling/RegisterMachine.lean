import RegisterMachine.Main
import RegisterMachine.Message
import RegisterMachine.Proofs.Assembler.Expressions
import RegisterMachine.Proofs.Assembler.Listing
import RegisterMachine.Proofs.StackDiscipline
import RegisterMachine.Proofs.Strict.Safety
import RegisterMachine.Proofs.Assembler.FirstPass
import RegisterMachine.Proofs.Assembler.Layout
import RegisterMachine.Proofs.Assembler.Outcome
import RegisterMachine.Proofs.Bookkeeping
import RegisterMachine.Proofs.Emulator.Ticks
import RegisterMachine.Proofs.Emulator.Refinement
import RegisterMachine.Proofs.Emulator.FaultLines
import RegisterMachine.Proofs.Growth
import RegisterMachine.Proofs.Failure
import RegisterMachine.Proofs.EffectFrame
import RegisterMachine.Proofs.StackPointers
import RegisterMachine.Proofs.ControlFlow
import RegisterMachine.Proofs.Device.ConsoleLines
import RegisterMachine.Proofs.Device.Segments
import RegisterMachine.Proofs.Expression.Names
import RegisterMachine.Proofs.LabelTargets
import RegisterMachine.Proofs.Assembler.Constants
import RegisterMachine.Proofs.PauseLength
import RegisterMachine.Proofs.Pacing
import RegisterMachine.Proofs.Addresses
import RegisterMachine.Proofs.Assembler.Environment
import RegisterMachine.Proofs.Resolution
import RegisterMachine.Proofs.PauseTrace
import RegisterMachine.Proofs.FloorDivision
import RegisterMachine.Proofs.Repetition
import RegisterMachine.Proofs.Assembler.Reformatting
import RegisterMachine.Proofs.Snapshot
import RegisterMachine.Proofs.Assembler.QuotedOperands
import RegisterMachine.Proofs.CharacterOutput
import RegisterMachine.Proofs.Numerals
import RegisterMachine.Proofs.Assembler.EntryLabels
import RegisterMachine.Proofs.Emulator.Attachment
