import RadioInterrupt.Bench
import RadioInterrupt.Channel
import RadioInterrupt.Chip
import RadioInterrupt.Counters
import RadioInterrupt.Demo
import RadioInterrupt.Dispatcher
import RadioInterrupt.Drain
import RadioInterrupt.Driver
import RadioInterrupt.Event
import RadioInterrupt.FrameInfo
import RadioInterrupt.Handler
import RadioInterrupt.Inbox
import RadioInterrupt.LogFilter
import RadioInterrupt.Main
import RadioInterrupt.Message
import RadioInterrupt.Note
import RadioInterrupt.Outcome
import RadioInterrupt.Pattern.Basic
import RadioInterrupt.Pattern.CharSet
import RadioInterrupt.Pattern.ClassReader
import RadioInterrupt.Pattern.Compile
import RadioInterrupt.Pattern.Cursor
import RadioInterrupt.Pattern.Encoding
import RadioInterrupt.Pattern.Escape
import RadioInterrupt.Pattern.Fault
import RadioInterrupt.Pattern.Machine
import RadioInterrupt.Pattern.Meaning
import RadioInterrupt.Pattern.Nesting
import RadioInterrupt.Pattern.Openings
import RadioInterrupt.Pattern.Phrase
import RadioInterrupt.Pattern.Reader
import RadioInterrupt.Pattern.Room
import RadioInterrupt.Pattern.StateTable
import RadioInterrupt.Pattern.WordTree
import RadioInterrupt.PostQueue
import RadioInterrupt.Proofs.Applied
import RadioInterrupt.Proofs.Calls
import RadioInterrupt.Proofs.Causes
import RadioInterrupt.Proofs.Configuration
import RadioInterrupt.Proofs.Course
import RadioInterrupt.Proofs.DeadSlot
import RadioInterrupt.Proofs.Delivery
import RadioInterrupt.Proofs.Dependence
import RadioInterrupt.Proofs.Dispatch
import RadioInterrupt.Proofs.Draining
import RadioInterrupt.Proofs.Failing
import RadioInterrupt.Proofs.FirstReport
import RadioInterrupt.Proofs.FrameBuffer
import RadioInterrupt.Proofs.Front
import RadioInterrupt.Proofs.Installation
import RadioInterrupt.Proofs.Interference
import RadioInterrupt.Proofs.LastFrame
import RadioInterrupt.Proofs.Latching
import RadioInterrupt.Proofs.Lifetimes
import RadioInterrupt.Proofs.Listening
import RadioInterrupt.Proofs.Occupancy
import RadioInterrupt.Proofs.OperationInFlight
import RadioInterrupt.Proofs.Parallel
import RadioInterrupt.Proofs.Posting
import RadioInterrupt.Proofs.Received
import RadioInterrupt.Proofs.Registers
import RadioInterrupt.Proofs.Renaming
import RadioInterrupt.Proofs.Reports
import RadioInterrupt.Proofs.Sending
import RadioInterrupt.Proofs.Reposting
import RadioInterrupt.Proofs.Servicing
import RadioInterrupt.Proofs.SettingUp
import RadioInterrupt.Proofs.SharedSlot
import RadioInterrupt.Proofs.Stored
import RadioInterrupt.Proofs.Tally
import RadioInterrupt.Proofs.Traffic
import RadioInterrupt.Proofs.Turns
import RadioInterrupt.Proofs.Twins
import RadioInterrupt.Proofs.Usage
import RadioInterrupt.Proofs.Variation
import RadioInterrupt.Proofs.Watching
import RadioInterrupt.Proofs.Windows
import RadioInterrupt.Recorder
import RadioInterrupt.Registration
import RadioInterrupt.Registry
import RadioInterrupt.Routine
import RadioInterrupt.Script
import RadioInterrupt.Session.Dispatch
import RadioInterrupt.Session.Radio
import RadioInterrupt.Session.Storage
import RadioInterrupt.Session.Table
import RadioInterrupt.Settings
import RadioInterrupt.SimulatedRadio
import RadioInterrupt.SlotTable
import RadioInterrupt.Text.Blank
import RadioInterrupt.Text.Letter
import RadioInterrupt.Text.Quoted
import RadioInterrupt.Transceiver
import RadioInterrupt.Proofs.Failing
