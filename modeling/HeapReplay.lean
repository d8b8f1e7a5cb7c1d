import HeapReplay.CommandLine.Execution
import HeapReplay.CommandLine.Machine
import HeapReplay.Heap.Call
import HeapReplay.Heap.FirstFit
import HeapReplay.Heap.Script
import HeapReplay.Log
import HeapReplay.Main
import HeapReplay.Replay.Scheduler
import HeapReplay.Simulation
import HeapReplay.Trace.Histogram
import HeapReplay.Trace.Reader
import HeapReplay.Trace.Samples
import HeapReplay.Proofs.Heap.Addresses
import HeapReplay.Proofs.Heap.Canonical
import HeapReplay.Proofs.Word.Rounding
import HeapReplay.Proofs.Heap.Take
import HeapReplay.Proofs.Heap.Give
import HeapReplay.Proofs.Heap.Session
import HeapReplay.Proofs.Heap.Sound
import HeapReplay.Proofs.Heap.Checked
import HeapReplay.Proofs.Heap.Conservation
import HeapReplay.Proofs.Heap.Grants
import HeapReplay.Proofs.Heap.Ledger
import HeapReplay.Proofs.Heap.Accounts
import HeapReplay.Proofs.Heap.Logged
import HeapReplay.Proofs.Replay.LiveTable
import HeapReplay.Proofs.Replay.Order
import HeapReplay.Proofs.Replay.Phase
import HeapReplay.Proofs.Replay.Alike
import HeapReplay.Proofs.Replay.Keyed
import HeapReplay.Proofs.Replay.Walk
import HeapReplay.Proofs.Replay.Counts
import HeapReplay.Proofs.Replay.Protocol
import HeapReplay.Proofs.Replay.Restore
import HeapReplay.Proofs.Replay.Cadence
import HeapReplay.Proofs.Replay.Totals
import HeapReplay.Proofs.Replay.Conversation
import HeapReplay.Proofs.Replay.Usage
import HeapReplay.Proofs.Replay.Abort
import HeapReplay.Proofs.Replay.Independence
import HeapReplay.Proofs.Heap.Room
import HeapReplay.Proofs.Replay.Lockstep
import HeapReplay.Proofs.Replay.Mirror
import HeapReplay.Proofs.Replay.Ample
import HeapReplay.Proofs.Replay.Account
import HeapReplay.Proofs.Workload.Requests
import HeapReplay.Proofs.CommandLine.Running
import HeapReplay.Proofs.Simulation.Run
import HeapReplay.Proofs.Simulation.Statistics
import HeapReplay.Proofs.Simulation.Uses
import HeapReplay.Proofs.Except
import HeapReplay.Proofs.Trace.Reading
import HeapReplay.Proofs.CommandLine.Tree
import HeapReplay.Proofs.CommandLine.Lookup
import HeapReplay.Proofs.CommandLine.Writing
import HeapReplay.Proofs.CommandLine.Fault
import HeapReplay.Proofs.Replay.Faultless
import HeapReplay.Proofs.CommandLine.Verdict
import HeapReplay.Proofs.Heap.Holes
import HeapReplay.Proofs.Heap.InUse
import HeapReplay.Proofs.Heap.Frees
import HeapReplay.Proofs.Replay.BinaryHeap
import HeapReplay.Proofs.Replay.Key
import HeapReplay.Proofs.Replay.QueueForm
import HeapReplay.Proofs.Replay.EventHeap
import HeapReplay.Proofs.Replay.Drain
import HeapReplay.Proofs.Binary64.Truncation
import HeapReplay.Proofs.Replay.Course
import HeapReplay.Proofs.Workload.Timeline
import HeapReplay.Proofs.Text.Numerals
import HeapReplay.Proofs.Text.Words
import HeapReplay.Proofs.Trace.Lifetimes
import HeapReplay.Proofs.Trace.Grammar
import HeapReplay.Proofs.Text.Lines
import HeapReplay.Proofs.Text.Encoding
import HeapReplay.Proofs.Trace.Pieces
import HeapReplay.Proofs.Replay.Crowd
import HeapReplay.Proofs.Replay.Peak
import HeapReplay.Proofs.Replay.Generous
import HeapReplay.Proofs.Replay.Regular
import HeapReplay.Proofs.Workload.Constant
import HeapReplay.Proofs.Simulation.Constant
import HeapReplay.Proofs.Trace.Histogram
import HeapReplay.Proofs.Trace.Intervals
import HeapReplay.Proofs.Simulation.Times
import HeapReplay.Proofs.Workload.Faults
import HeapReplay.Proofs.Replay.TableSession
import HeapReplay.Proofs.Word.Overstep
import HeapReplay.Proofs.Heap.Refusal
