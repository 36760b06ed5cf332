import TactilePad.Bench.Chip
import TactilePad.Bench.Entry
import TactilePad.Bench.Firmware
import TactilePad.Bench.Haptic
import TactilePad.Bench.Sensor
import TactilePad.Bench.Session
import TactilePad.Bench.Trackpad
import TactilePad.Bench.Turn
import TactilePad.Bus.I2c
import TactilePad.Bus.Spi
import TactilePad.Bus.Transaction
import TactilePad.Check.MotionWorker
import TactilePad.Check.Verdict
import TactilePad.Check.WaveformSequence
import TactilePad.Config.Axes
import TactilePad.Config.Board
import TactilePad.Config.Haptic
import TactilePad.ControlLine
import TactilePad.Decimal.Shortest
import TactilePad.Fault
import TactilePad.Firmware.Feedback
import TactilePad.Firmware.Interrupt
import TactilePad.Firmware.Notice
import TactilePad.Firmware.Pins
import TactilePad.Firmware.Travel
import TactilePad.Firmware.Worker
import TactilePad.Haptic.Chip
import TactilePad.Haptic.Driver
import TactilePad.Haptic.Waveform
import TactilePad.Input.Channel
import TactilePad.Input.Event
import TactilePad.Input.Shared
import TactilePad.Interleaving
import TactilePad.Json.Config
import TactilePad.Json.Document
import TactilePad.Json.Numeral
import TactilePad.Json.Reader
import TactilePad.Json.Token
import TactilePad.Json.Tree
import TactilePad.Json.Writer
import TactilePad.Log
import TactilePad.Motion.Waiters
import TactilePad.Motion.Work
import TactilePad.Packed.Codec
import TactilePad.Packed.Config
import TactilePad.Packed.Lawful
import TactilePad.Program
import TactilePad.Proofs.Bench.CommandTransport
import TactilePad.Proofs.Bench.Delivery
import TactilePad.Proofs.Bench.RegisterTransport
import TactilePad.Proofs.Bench.Scenes
import TactilePad.Proofs.Bench.Trackpad
import TactilePad.Proofs.Check.MotionWorker
import TactilePad.Proofs.Check.WaveformSequence
import TactilePad.Proofs.Config.Axes
import TactilePad.Proofs.Configurations
import TactilePad.Proofs.Duties
import TactilePad.Proofs.Firmware.BringUpFailure
import TactilePad.Proofs.Firmware.Feedback
import TactilePad.Proofs.Firmware.Notification
import TactilePad.Proofs.Haptic.Accesses
import TactilePad.Proofs.Haptic.Answers
import TactilePad.Proofs.Haptic.BringUp
import TactilePad.Proofs.Haptic.Calibration
import TactilePad.Proofs.Haptic.CalibrationAccount
import TactilePad.Proofs.Haptic.DriveParameters
import TactilePad.Proofs.Haptic.EnableLine
import TactilePad.Proofs.Haptic.Faults
import TactilePad.Proofs.Haptic.Polling
import TactilePad.Proofs.Haptic.PowerState
import TactilePad.Proofs.Haptic.Release
import TactilePad.Proofs.Haptic.Runs
import TactilePad.Proofs.Haptic.Sequencer
import TactilePad.Proofs.Histories
import TactilePad.Proofs.Input.Accounts
import TactilePad.Proofs.Input.Arrivals
import TactilePad.Proofs.Json.Configurations
import TactilePad.Proofs.Json.Document
import TactilePad.Proofs.Json.MemberOrder
import TactilePad.Proofs.Json.ObjectText
import TactilePad.Proofs.Json.Reader
import TactilePad.Proofs.Json.Rearrangement
import TactilePad.Proofs.Json.Scanning
import TactilePad.Proofs.Json.Text
import TactilePad.Proofs.Motion.Conservation
import TactilePad.Proofs.Motion.Signal
import TactilePad.Proofs.Motion.WakeUp
import TactilePad.Proofs.Packed.Configurations
import TactilePad.Proofs.Steps
import TactilePad.Proofs.Threads
import TactilePad.Proofs.Trackpad.BringUp
import TactilePad.Proofs.Trackpad.Calls
import TactilePad.Proofs.Trackpad.Coalescing
import TactilePad.Proofs.Trackpad.Delivery
import TactilePad.Proofs.Trackpad.Edges
import TactilePad.Proofs.Trackpad.PowerSequence
import TactilePad.Proofs.Trackpad.Questions
import TactilePad.Proofs.Trackpad.Reports
import TactilePad.Proofs.Trackpad.Runs
import TactilePad.Proofs.Turns
import TactilePad.Text.Digits
import TactilePad.Text.Form
import TactilePad.Text.Quoted
import TactilePad.Text.Unprintable
import TactilePad.Trackpad.Delivery
import TactilePad.Trackpad.Driver
import TactilePad.Trackpad.Handoff
