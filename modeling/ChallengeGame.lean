import ChallengeGame.Bytes.Hex
import ChallengeGame.Bytes.Utf8
import ChallengeGame.Keccak
import ChallengeGame.Program
import ChallengeGame.Failure
import ChallengeGame.Block
import ChallengeGame.Commitment
import ChallengeGame.Challenge
import ChallengeGame.Challenge.Notation
import ChallengeGame.Decimal
import ChallengeGame.Document.Json
import ChallengeGame.FollowUps
import ChallengeGame.BondLedger
import ChallengeGame.Metrics.Exposition
import ChallengeGame.Document.Toml
import ChallengeGame.Config.Notation
import ChallengeGame.Config.Endpoint
import ChallengeGame.Contract.Binding
import ChallengeGame.Contract.Registry
import ChallengeGame.Scripted.Contract
import ChallengeGame.Scripted.Connection
import ChallengeGame.Node.Call
import ChallengeGame.Node.Blocks
import ChallengeGame.Scripted.Node
import ChallengeGame.Executor
import ChallengeGame.Batch
import ChallengeGame.Coordinator
import ChallengeGame.Scheduler.Pump
import ChallengeGame.Rehearsal.Mailbox
import ChallengeGame.Scripted.Scene
import ChallengeGame.Script.Mailbox
import ChallengeGame.Script.Scene
import ChallengeGame.Desk
import ChallengeGame.Challenger
import ChallengeGame.HeadWatch
import ChallengeGame.Service
import ChallengeGame.Rehearsal.Settling
import ChallengeGame.Rehearsal.Trial
import ChallengeGame.Rehearsal.Shift
import ChallengeGame.Script.Trial
import ChallengeGame.Script.Shift
import ChallengeGame.Proofs.Program
import ChallengeGame.Proofs.Coordinator.Course
import ChallengeGame.Proofs.Coordinator.Look
import ChallengeGame.Proofs.Coordinator.Rounds
import ChallengeGame.Proofs.Coordinator.History
import ChallengeGame.Proofs.FollowUps
import ChallengeGame.Proofs.Coordinator.Balance
import ChallengeGame.Proofs.Coordinator.Turns
import ChallengeGame.Proofs.Coordinator.Separation
import ChallengeGame.Proofs.Coordinator.Decisions
import ChallengeGame.Proofs.Coordinator.Deliveries
import ChallengeGame.Proofs.Coordinator.Persistence
import ChallengeGame.Proofs.Coordinator.Timeline
import ChallengeGame.Proofs.Coordinator.Windows
import ChallengeGame.Proofs.BondLedger
import ChallengeGame.Proofs.Challenge
import ChallengeGame.Proofs.Coordinator.Bonds
import ChallengeGame.Proofs.Scheduler.Moves
import ChallengeGame.Proofs.Scheduler.Flow
import ChallengeGame.Proofs.Scheduler.Closing
import ChallengeGame.Proofs.Scheduler.Mailbox
import ChallengeGame.Proofs.Coordinator.Unlocking
import ChallengeGame.Proofs.Alike
import ChallengeGame.Proofs.Coordinator.Attendance
import ChallengeGame.Proofs.Coordinator.Parallel
import ChallengeGame.Proofs.Coordinator.Isolation
import ChallengeGame.Proofs.Batch
import ChallengeGame.Proofs.Coordinator.Outsiders
import ChallengeGame.Proofs.HeadWatch
import ChallengeGame.Proofs.Desk.Moves
import ChallengeGame.Proofs.Scheduler.Account
import ChallengeGame.Proofs.Coordinator.Obstacles
import ChallengeGame.Proofs.Challenger.Moves
import ChallengeGame.Proofs.Desk.Loop
import ChallengeGame.Proofs.Challenger.Calls
import ChallengeGame.Proofs.Service.Moves
import ChallengeGame.Proofs.Service.Attachment
import ChallengeGame.Proofs.Service.Stages
import ChallengeGame.Bonding
import ChallengeGame.Proofs.Service.Shutdown
import ChallengeGame.Proofs.Bonding.Care
import ChallengeGame.Proofs.Bonding.Moves
import ChallengeGame.Proofs.Bonding.Funds
import ChallengeGame.Proofs.Keccak
import ChallengeGame.Proofs.Identity
import ChallengeGame.Proofs.Reader
import ChallengeGame.Proofs.Requests
import ChallengeGame.Proofs.Blobs
import ChallengeGame.Proofs.Closing
import ChallengeGame.Proofs.Loading
import ChallengeGame.Proofs.CommitmentStream
import ChallengeGame.Proofs.Coordinator.Retries
import ChallengeGame.Proofs.Coordinator.Deadlines
import ChallengeGame.Proofs.TimedQueue
import ChallengeGame.Proofs.Answers
import ChallengeGame.Proofs.Unlocking
import ChallengeGame.Proofs.Executor
import ChallengeGame.Proofs.Submission
import ChallengeGame.Proofs.TopUp
import ChallengeGame.Proofs.Bonding.Deposits
import ChallengeGame.Proofs.HeadWatch.Forwarding
import ChallengeGame.Proofs.Registry
import ChallengeGame.Proofs.Service.Setup
import ChallengeGame.Proofs.Desk.Highest
import ChallengeGame.Proofs.HeadWatch.Replies
import ChallengeGame.Proofs.Coordinator.Restarts
import ChallengeGame.Proofs.Retracking
import ChallengeGame.Proofs.Challenge.Notation
