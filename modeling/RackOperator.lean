import RackOperator.Admission
import RackOperator.Advance
import RackOperator.Audit
import RackOperator.Config
import RackOperator.Decision
import RackOperator.Digest.Sha1
import RackOperator.Error
import RackOperator.Fixture
import RackOperator.Http.Message
import RackOperator.Http.Status
import RackOperator.Http.Url
import RackOperator.Json.Basic
import RackOperator.Json.Fields
import RackOperator.Json.MergePatch
import RackOperator.Json.Reader
import RackOperator.Json.Record
import RackOperator.Json.Writer
import RackOperator.Layout
import RackOperator.LogFilter
import RackOperator.Main
import RackOperator.Manifest
import RackOperator.Naming
import RackOperator.Observation
import RackOperator.Order
import RackOperator.Pass
import RackOperator.Pem
import RackOperator.Poll
import RackOperator.Program
import RackOperator.Proofs.Answers
import RackOperator.Proofs.Decisions
import RackOperator.Proofs.Histories
import RackOperator.Proofs.Maps
import RackOperator.Proofs.Names
import RackOperator.Proofs.Pass.Forward
import RackOperator.Proofs.Pass.Rollout
import RackOperator.Proofs.Pass.Runs
import RackOperator.Proofs.Pass.ScaleDown
import RackOperator.Proofs.Pass.Stages
import RackOperator.Proofs.Pass.Survey
import RackOperator.Proofs.StoreFrame
import RackOperator.Proofs.Task.AtMostOnce
import RackOperator.Proofs.Task.Forward
import RackOperator.Proofs.Task.Lifetimes
import RackOperator.Proofs.Task.Runs
import RackOperator.Proofs.Task.Stages
import RackOperator.Proofs.Underway
import RackOperator.Reconcile
import RackOperator.Rehearsal.Basic
import RackOperator.Rehearsal.Exchange
import RackOperator.Rehearsal.Input
import RackOperator.Rehearsal.Step
import RackOperator.Report
import RackOperator.Resource.DataCenter
import RackOperator.Resource.Definition
import RackOperator.Resource.Metadata
import RackOperator.Resource.PodShape
import RackOperator.Resource.Shape
import RackOperator.Resource.StatefulSet
import RackOperator.Resource.Task
import RackOperator.Retry
import RackOperator.Sidecar.Client
import RackOperator.Sidecar.Http
import RackOperator.Sidecar.Request
import RackOperator.Sidecar.Script
import RackOperator.SortedMap
import RackOperator.Startup
import RackOperator.StatusCache
import RackOperator.StatusRecord
import RackOperator.Store.Api
import RackOperator.Store.Call
import RackOperator.Store.Memory
import RackOperator.Store.Patch
import RackOperator.TaskKind
import RackOperator.Text.Blank
import RackOperator.Text.Decimal
import RackOperator.Text.Invisible
import RackOperator.Text.Quoted
import RackOperator.Text.Rfc3339
import RackOperator.Text.Utf8
import RackOperator.Webhook
import RackOperator.WorkQueue.Job
import RackOperator.WorkQueue.Protocol
import RackOperator.WorkQueue.Schedule
import RackOperator.World
import RackOperator.Proofs.Queue.Drainers
import RackOperator.Proofs.Queue.Turns
import RackOperator.Proofs.Queue.Runs
import RackOperator.Proofs.Queue.Weights
import RackOperator.Proofs.Queue.Progress
import RackOperator.Proofs.Queue.Service
import RackOperator.Proofs.Memory
import RackOperator.Proofs.Pass.Ways
import RackOperator.Proofs.Pass.Ends
import RackOperator.Proofs.Pass.Records
import RackOperator.Proofs.Layouts
import RackOperator.Proofs.Pass.Layouts
import RackOperator.Proofs.Generations
import RackOperator.Proofs.Pass.Scaling
import RackOperator.Proofs.Pass.Cleanup
import RackOperator.Proofs.Policy
import RackOperator.Proofs.Pass.Plans
import RackOperator.Proofs.Pass.Convergence
import RackOperator.Proofs.Task.Calls
import RackOperator.Proofs.Task.Endings
import RackOperator.Proofs.Task.FailFast
import RackOperator.Proofs.Pass.Polls
import RackOperator.Proofs.Pass.Decommission
import RackOperator.Proofs.Pass.Freshness
import RackOperator.Proofs.Pass.Deletion
import RackOperator.Proofs.Aims
import RackOperator.Proofs.Queue.Overlap
import RackOperator.Proofs.Merge
import RackOperator.Proofs.Task.Patches
import RackOperator.Proofs.Task.Covers
import RackOperator.Proofs.Task.Stores
import RackOperator.Proofs.Pass.Departure
import RackOperator.Proofs.Isolation.Versions
import RackOperator.Proofs.Isolation.Programs
import RackOperator.Proofs.Isolation.Stores
import RackOperator.Proofs.Isolation.Runs
import RackOperator.Proofs.Pass.Patches
import RackOperator.Proofs.Pass.Quiet
import RackOperator.Proofs.Polling
import RackOperator.Proofs.Deeds
import RackOperator.Proofs.Pass.Deeds
import RackOperator.Proofs.Task.Deeds
import RackOperator.Proofs.Sessions
import RackOperator.Proofs.Retries
import RackOperator.Proofs.Planning
import RackOperator.Proofs.Task.Retention
import RackOperator.Proofs.Pass.Statuses
import RackOperator.Proofs.Pass.Reports
import RackOperator.Proofs.Clients
import RackOperator.Proofs.SharedNames
import RackOperator.Proofs.Encodings
import RackOperator.Proofs.Journal
import RackOperator.Proofs.Views
import RackOperator.Proofs.Snapshots
import RackOperator.Proofs.Numerals
import RackOperator.Proofs.Fingerprints
import RackOperator.Proofs.Settings
