import ClusterReady.Access.Basic
import ClusterReady.Access.Kubeconfig
import ClusterReady.Api.Address
import ClusterReady.Api.Apps
import ClusterReady.Api.Client
import ClusterReady.Api.Core
import ClusterReady.Api.Meta
import ClusterReady.Api.Request
import ClusterReady.Api.Resource
import ClusterReady.Api.Status
import ClusterReady.Api.Target
import ClusterReady.Check.Listing
import ClusterReady.Check.Object
import ClusterReady.CommandLine
import ClusterReady.Config.Basic
import ClusterReady.Config.Decode
import ClusterReady.Config.Validate
import ClusterReady.Decimal
import ClusterReady.DecodeFault
import ClusterReady.Duration
import ClusterReady.Environment
import ClusterReady.Json.Basic
import ClusterReady.Json.Decode
import ClusterReady.Json.Parser
import ClusterReady.Json.Printer
import ClusterReady.Json.Token
import ClusterReady.Log.Event
import ClusterReady.Log.Output
import ClusterReady.Main
import ClusterReady.Metrics.Exposition
import ClusterReady.Metrics.Measurement
import ClusterReady.Program.Basic
import ClusterReady.Program.Process
import ClusterReady.Proofs.Accepted
import ClusterReady.Proofs.Atomicity
import ClusterReady.Proofs.AttemptBound
import ClusterReady.Proofs.Blindness
import ClusterReady.Proofs.Budget
import ClusterReady.Proofs.Cancellation
import ClusterReady.Proofs.CheckNames
import ClusterReady.Proofs.CheckRun
import ClusterReady.Proofs.Cleanup
import ClusterReady.Proofs.Clock
import ClusterReady.Proofs.Completeness
import ClusterReady.Proofs.ConditionLookup
import ClusterReady.Proofs.ConfigRoundTrip
import ClusterReady.Proofs.ConfigRules
import ClusterReady.Proofs.Diary
import ClusterReady.Proofs.Digits
import ClusterReady.Proofs.FailureKinds
import ClusterReady.Proofs.Frame
import ClusterReady.Proofs.FreshReads
import ClusterReady.Proofs.Interruption
import ClusterReady.Proofs.Ledger
import ClusterReady.Proofs.LedgerRun
import ClusterReady.Proofs.Leftovers
import ClusterReady.Proofs.Lockstep
import ClusterReady.Proofs.Mutations
import ClusterReady.Proofs.NestedStreak
import ClusterReady.Proofs.NodeReaders
import ClusterReady.Proofs.NodeVerdict
import ClusterReady.Proofs.OwnEvents
import ClusterReady.Proofs.Pace
import ClusterReady.Proofs.Patience
import ClusterReady.Proofs.PodVerdict
import ClusterReady.Proofs.PollEnd
import ClusterReady.Proofs.PollLog
import ClusterReady.Proofs.PollRun
import ClusterReady.Proofs.PollSchedule
import ClusterReady.Proofs.ProgramOutcome
import ClusterReady.Proofs.ReadsInTime
import ClusterReady.Proofs.RecordFields
import ClusterReady.Proofs.ReplyVerdicts
import ClusterReady.Proofs.ScratchLabel
import ClusterReady.Proofs.ScratchPath
import ClusterReady.Proofs.ScratchUnique
import ClusterReady.Proofs.SingleRead
import ClusterReady.Proofs.StableWindow
import ClusterReady.Proofs.Streak
import ClusterReady.Proofs.StreakCourse
import ClusterReady.Proofs.Success
import ClusterReady.Proofs.Tally
import ClusterReady.Proofs.TimeLimit
import ClusterReady.Proofs.Trail
import ClusterReady.Proofs.UnnamedObjects
import ClusterReady.Proofs.WorkloadVerdict
import ClusterReady.Rehearsal
import ClusterReady.Run.Basic
import ClusterReady.Run.Clock
import ClusterReady.Run.Session
import ClusterReady.Suite.Action
import ClusterReady.Suite.Battery
import ClusterReady.Suite.Check
import ClusterReady.Suite.Run
import ClusterReady.Text.Characters
import ClusterReady.Text.Quoted
import ClusterReady.Text.Utf8
import ClusterReady.Wait.CountRange
import ClusterReady.Wait.Failure
import ClusterReady.Wait.Poll
import ClusterReady.Wait.Predicate
import ClusterReady.Wait.Timing
import ClusterReady.Yaml.Basic
import ClusterReady.Yaml.Decode
import ClusterReady.Yaml.Node
import ClusterReady.Yaml.Scalar
import ClusterReady.Yaml.ScalarText
import ClusterReady.Yaml.Token
