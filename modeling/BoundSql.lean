import BoundSql.Execution.Executor
import BoundSql.Execution.Logging
import BoundSql.Observe.Log
import BoundSql.Proofs.BareSites
import BoundSql.Proofs.CanonicalLines
import BoundSql.Proofs.Closing
import BoundSql.Proofs.Composition
import BoundSql.Proofs.Connections
import BoundSql.Proofs.Cutting
import BoundSql.Proofs.Escaping
import BoundSql.Proofs.EventLogs
import BoundSql.Proofs.Filling
import BoundSql.Proofs.Grouping
import BoundSql.Proofs.HiddenQuotes
import BoundSql.Proofs.Identifiers
import BoundSql.Proofs.Independence
import BoundSql.Proofs.Inlining
import BoundSql.Proofs.Itemising
import BoundSql.Proofs.Joining
import BoundSql.Proofs.Lexing
import BoundSql.Proofs.Locality
import BoundSql.Proofs.LogKeys
import BoundSql.Proofs.LogReading
import BoundSql.Proofs.Loggable
import BoundSql.Proofs.Meanings
import BoundSql.Proofs.Numerals
import BoundSql.Proofs.Parenthesised
import BoundSql.Proofs.PercentText
import BoundSql.Proofs.Progress
import BoundSql.Proofs.QuoteClosed
import BoundSql.Proofs.QuotedNeighbours
import BoundSql.Proofs.Refusals
import BoundSql.Proofs.Repeating
import BoundSql.Proofs.Rooms
import BoundSql.Proofs.Separators
import BoundSql.Proofs.Sharing
import BoundSql.Proofs.SideBySide
import BoundSql.Proofs.Signs
import BoundSql.Proofs.SinglePass
import BoundSql.Proofs.Sorting
import BoundSql.Proofs.Splats
import BoundSql.Proofs.Stepping
import BoundSql.Proofs.Strictness
import BoundSql.Proofs.Surroundings
import BoundSql.Proofs.Telling
import BoundSql.Proofs.Threading
import BoundSql.Proofs.Transparency
import BoundSql.Proofs.Unobserved
import BoundSql.Template.Build
import BoundSql.Template.Room
import BoundSql.Template.Watching
