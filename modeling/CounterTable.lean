import CounterTable.Allocation.Script
import CounterTable.Main
import CounterTable.Session.Session
import CounterTable.Proofs.Store.Tables
import CounterTable.Proofs.Store.Turns
import CounterTable.Proofs.Store.Histories
import CounterTable.Proofs.Store.Locks
import CounterTable.Proofs.Store.Replay
import CounterTable.Proofs.Store.Chronicle
import CounterTable.Proofs.Store.Serial
import CounterTable.Proofs.Store.Rollback
import CounterTable.Proofs.Store.Isolation
import CounterTable.Proofs.Store.Exclusion
import CounterTable.Proofs.Store.Publishing
import CounterTable.Proofs.Store.Pinning
import CounterTable.Proofs.Allocation.Contest
import CounterTable.Proofs.Allocation.Steps
import CounterTable.Proofs.Allocation.Race
import CounterTable.Proofs.Allocation.Locking
import CounterTable.Proofs.Allocation.Overtaking
import CounterTable.Proofs.Sql.Reading
import CounterTable.Proofs.Sql.Tokens
import CounterTable.Proofs.Sql.Clauses
import CounterTable.Proofs.Sql.Counters
import CounterTable.Proofs.Blocks.Outcomes
import CounterTable.Proofs.Blocks.Reservation
import CounterTable.Proofs.Sequence.Allotment
import CounterTable.Proofs.Sequence.Configured
import CounterTable.Proofs.Allocation.Answers
import CounterTable.Proofs.Blocks.Supply
import CounterTable.Proofs.Sequence.Gapless
import CounterTable.Proofs.Json.Scanning
import CounterTable.Proofs.Json.RoundTrip
import CounterTable.Proofs.Number.Finite
import CounterTable.Proofs.Sequence.SettingsText
import CounterTable.Proofs.Sql.Parameters
import CounterTable.Proofs.Store.Accesses
import CounterTable.Proofs.Allocation.Exchanges
import CounterTable.Proofs.Name.ReadBack
import CounterTable.Proofs.Sequence.Validated
import CounterTable.Proofs.Export.Registry
import CounterTable.Proofs.Export.Apart
import CounterTable.Proofs.Store.Scripts
import CounterTable.Proofs.Export.Scripts
import CounterTable.Proofs.Blocks.Calls
import CounterTable.Proofs.Blocks.Multiples
import CounterTable.Proofs.Blocks.Pools
import CounterTable.Proofs.Blocks.Headroom
import CounterTable.Proofs.Allocation.Failures
import CounterTable.Proofs.Sequence.Overflow
import CounterTable.Proofs.Blocks.Separation
import CounterTable.Proofs.Store.Failures
import CounterTable.Proofs.Store.Updates
import CounterTable.Proofs.Success
import CounterTable.Proofs.Name.Segments
import CounterTable.Proofs.Name.Dots
import CounterTable.Proofs.Name.Spelling
import CounterTable.Proofs.Name.Faithful
import CounterTable.Proofs.Sequence.Qualifiers
import CounterTable.Proofs.Allocation.Delegation
import CounterTable.Proofs.Number.Exactness
import CounterTable.Proofs.Sequence.Seeding
import CounterTable.Proofs.Export.Registration
import CounterTable.Proofs.Number.Denotation
import CounterTable.Proofs.Export.Rendering
import CounterTable.Proofs.Sequence.Properties
import CounterTable.Proofs.Store.Substitution
import CounterTable.Proofs.Sql.Fronts
import CounterTable.Proofs.Sql.Respelling
import CounterTable.Proofs.Sql.Equations
import CounterTable.Proofs.Sql.Texts
import CounterTable.Proofs.Sql.Commands
import CounterTable.Proofs.Sql.AnyName
import CounterTable.Proofs.Sql.Verbs
import CounterTable.Proofs.Store.OneCell
import CounterTable.Proofs.Store.Absence
import CounterTable.Proofs.Allocation.Alone
import CounterTable.Proofs.Sequence.Solitary
import CounterTable.Proofs.Sequence.Schedules
import CounterTable.Proofs.Sequence.Created
import CounterTable.Proofs.Command.Orders
import CounterTable.Proofs.Session.Durations
import CounterTable.Proofs.Store.Placement
import CounterTable.Proofs.Allocation.Counting
import CounterTable.Proofs.Allocation.Retries
import CounterTable.Proofs.Sql.Passing
import CounterTable.Proofs.Sql.Places
import CounterTable.Proofs.Sql.QueryPlaces
import CounterTable.Proofs.Sql.Positions
