import FleetRollout.Main
import FleetRollout.Proofs.Canary
import FleetRollout.Proofs.Concurrency
import FleetRollout.Proofs.Directory
import FleetRollout.Proofs.Faults
import FleetRollout.Proofs.Handout
import FleetRollout.Proofs.History
import FleetRollout.Proofs.Idempotence
import FleetRollout.Proofs.Integrity
import FleetRollout.Proofs.Isolation
import FleetRollout.Proofs.Lifecycle
import FleetRollout.Proofs.Origin
import FleetRollout.Proofs.Quota
import FleetRollout.Proofs.Records
import FleetRollout.Proofs.Redelivery
import FleetRollout.Proofs.RolloutFlag
import FleetRollout.Proofs.Transparency
import FleetRollout.Proofs.Walk
import FleetRollout.Proofs.Addressing
import FleetRollout.Proofs.Spelling
import FleetRollout.Proofs.Service
import FleetRollout.Proofs.UpdateSwitch
import FleetRollout.Proofs.Refusal
import FleetRollout.Proofs.Batch
import FleetRollout.Proofs.Closing
import FleetRollout.Proofs.Convergence
import FleetRollout.Proofs.PlanShape
import FleetRollout.Proofs.CloseOut
import FleetRollout.Proofs.GroupMove
import FleetRollout.Proofs.CanaryLift
import FleetRollout.Proofs.PolicyOrder
import FleetRollout.Proofs.Milestones
import FleetRollout.Proofs.Resaving
import FleetRollout.Proofs.CreationTimes
import FleetRollout.Proofs.RequiredFloors
import FleetRollout.Proofs.Tracks
import FleetRollout.Proofs.Figures
import FleetRollout.Proofs.Timeline
import FleetRollout.Proofs.VersionTimeline
import FleetRollout.Proofs.VersionText
import FleetRollout.Proofs.FloorTable
import FleetRollout.Proofs.Overflow
