import HotFix.Requests
import HotFix.Counting
import HotFix.Raises
import HotFix.Completion
import HotFix.Replay
import HotFix.Delivery
import HotFix.Recovery
import HotFix.Resend
import HotFix.Numbering
import HotFix.Expected
import HotFix.Declared
import HotFix.Accounting
import HotFix.Integrity
import HotFix.Totality
import HotFix.RoundTrip
import HotFix.Boundaries
import HotFix.Lengths
import HotFix.Copies
import HotFix.Persistence
import HotFix.Failures
import HotFix.Torn
import HotFix.Changes
import HotFix.Errors
import HotFix.Decisions
import HotFix.Connections
import HotFix.Periods
import HotFix.Handshake
import HotFix.Callbacks
import HotFix.QuickFix
import HotFix.References
import HotFix.Language
import HotFix.Delimiters
import HotFix.Headers
import HotFix.Spelling
import HotFix.Lossy
import HotFix.Clocks
import HotFix.Acceptance
import HotFix.Preparation
import HotFix.Ranges
import HotFix.Zones
import HotFix.OffsetTimes
import HotFix.Recurring
import HotFix.Schedule
import HotFix.Required
import HotFix.BothEnds
import HotFix.MultipleChars
import HotFix.MonthYear
import HotFix.SequenceRuns
import HotFix.Systems
import HotFix.Transport
import HotFix.Parallel
import HotFix.Queries
import HotFix.Interleavings
import HotFix.Streams
import HotFix.Lifecycle
import HotFix.Waking
import HotFix.Writers
import HotFix.Watchdog
import HotFix.Backing
