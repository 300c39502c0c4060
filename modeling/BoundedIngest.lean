import BoundedIngest.Bench.Command
import BoundedIngest.Config.Document
import BoundedIngest.Failure.Slot
import BoundedIngest.Interrupt.Registry
import BoundedIngest.Main
import BoundedIngest.Observability.Address
import BoundedIngest.Observability.LogFilter
import BoundedIngest.Producer.Rehearsal
import BoundedIngest.Queue.Script
import BoundedIngest.Scenario.Play
import BoundedIngest.Proofs.Executor.Snapshot
import BoundedIngest.Proofs.Executor.Moves
import BoundedIngest.Proofs.Executor.Chronicle
import BoundedIngest.Proofs.Executor.Agreement
import BoundedIngest.Proofs.Executor.Completion
import BoundedIngest.Proofs.Executor.Consumption
import BoundedIngest.Proofs.Executor.Order
import BoundedIngest.Proofs.Executor.Ledger
import BoundedIngest.Proofs.Executor.Signals
import BoundedIngest.Proofs.Executor.Outcome
import BoundedIngest.Proofs.Executor.Interruption
import BoundedIngest.Proofs.Queue.Waiting
import BoundedIngest.Proofs.Queue.Work
import BoundedIngest.Proofs.Executor.Usage
import BoundedIngest.Proofs.Executor.Calm
import BoundedIngest.Proofs.Executor.Account
import BoundedIngest.Proofs.Executor.Crew
import BoundedIngest.Proofs.Executor.Effort
import BoundedIngest.Proofs.Executor.Headway
import BoundedIngest.Proofs.Executor.Delivery
import BoundedIngest.Proofs.Queue.Traffic
import BoundedIngest.Proofs.Queue.Ending
import BoundedIngest.Proofs.Executor.Office
import BoundedIngest.Proofs.Executor.Lifetimes
import BoundedIngest.Proofs.Executor.Producing
import BoundedIngest.Proofs.Executor.Swallowing
import BoundedIngest.Proofs.Executor.Opening
import BoundedIngest.Proofs.Executor.Manning
import BoundedIngest.Proofs.Executor.Handles
import BoundedIngest.Proofs.Executor.Announcing
import BoundedIngest.Proofs.Executor.Joining
import BoundedIngest.Proofs.Queue.Waking
import BoundedIngest.Proofs.Queue.Turns
import BoundedIngest.Proofs.Queue.Conservation
import BoundedIngest.Proofs.Executor.Staffing
import BoundedIngest.Proofs.Executor.Sealing
import BoundedIngest.Proofs.Executor.Standstill
import BoundedIngest.Proofs.Executor.Blame
import BoundedIngest.Proofs.Executor.Senders
import BoundedIngest.Proofs.Executor.Calls
import BoundedIngest.Proofs.Executor.Cause
import BoundedIngest.Proofs.Executor.Succession
import BoundedIngest.Proofs.Executor.Retreating
import BoundedIngest.Proofs.Executor.Listening
import BoundedIngest.Proofs.Executor.Recording
import BoundedIngest.Proofs.Queue.Release
import BoundedIngest.Proofs.Executor.Promptness
import BoundedIngest.Proofs.Number.Nearest
import BoundedIngest.Proofs.Sizing.Capacity
import BoundedIngest.Proofs.Queue.Budget
import BoundedIngest.Proofs.Queue.Admission
import BoundedIngest.Proofs.Executor.Figures
import BoundedIngest.Proofs.Executor.Counting
import BoundedIngest.Proofs.Queue.Closing
import BoundedIngest.Proofs.Executor.Leaving
import BoundedIngest.Proofs.Executor.Containing
import BoundedIngest.Proofs.Bench.Partition
import BoundedIngest.Proofs.Executor.Following
import BoundedIngest.Proofs.Executor.Fulfilment
import BoundedIngest.Proofs.Bench.Totals
import BoundedIngest.Proofs.Toml.Numeral
import BoundedIngest.Proofs.Toml.Quoted
import BoundedIngest.Proofs.Toml.Document
import BoundedIngest.Proofs.Config.RoundTrip
import BoundedIngest.Proofs.Interrupt.Waking
import BoundedIngest.Proofs.Interrupt.Answering
import BoundedIngest.Proofs.Queue.Weighing
import BoundedIngest.Proofs.Queue.Scripting
import BoundedIngest.Proofs.Sizing.Hull
import BoundedIngest.Proofs.Sizing.Sampler
import BoundedIngest.Proofs.Queue.Sampling
import BoundedIngest.Proofs.Producer.Offering
import BoundedIngest.Proofs.Producer.Resuming
import BoundedIngest.Proofs.Sizing.Comparison
import BoundedIngest.Proofs.Queue.Averages
import BoundedIngest.Proofs.Queue.Standing
import BoundedIngest.Proofs.Queue.Blocking
import BoundedIngest.Proofs.Queue.Depth
import BoundedIngest.Proofs.Queue.Soundness
import BoundedIngest.Proofs.Executor.Marking
import BoundedIngest.Proofs.Interrupt.Sharing
import BoundedIngest.Proofs.Config.Partial
import BoundedIngest.Proofs.Number.Permutation
import BoundedIngest.Proofs.Bench.Mixing
