import RequestLog.Demo
import RequestLog.Script
import RequestLog.Proofs.Registry.Soundness
import RequestLog.Proofs.Middleware.Completion
import RequestLog.Proofs.Middleware.Transparency
import RequestLog.Proofs.Middleware.Agreement
import RequestLog.Proofs.Registry.Containment
import RequestLog.Proofs.Registry.Evaluation
import RequestLog.Proofs.Registry.Permanence
import RequestLog.Proofs.Registry.Texts
import RequestLog.Proofs.Middleware.Sharing
import RequestLog.Proofs.Logging.Configuration
import RequestLog.Proofs.Logging.Routing
import RequestLog.Proofs.Logging.FirstConfiguration
import RequestLog.Proofs.Logging.Leftovers
import RequestLog.Proofs.Middleware.ReservedNames
import RequestLog.Proofs.Middleware.FailedSetup
import RequestLog.Proofs.Middleware.FirstFreeName
import RequestLog.Proofs.Exchange.Scope
import RequestLog.Proofs.Middleware.Rejection
import RequestLog.Proofs.Registry.Builtins
import RequestLog.Proofs.Middleware.FirstHead
import RequestLog.Proofs.Text.Plain
import RequestLog.Proofs.Exchange.OneLine
import RequestLog.Proofs.Logging.TextLine
import RequestLog.Proofs.Entries
import RequestLog.Proofs.Json.RoundTrip
import RequestLog.Proofs.Logging.JsonLine
import RequestLog.Proofs.Logging.OwnFields
import RequestLog.Proofs.Settings.Fields
import RequestLog.Proofs.Settings.Options
import RequestLog.Proofs.Settings.Precedence
import RequestLog.Proofs.Settings.Validation
import RequestLog.Proofs.Json.QuotedText
import RequestLog.Proofs.Settings.Variables
import RequestLog.Proofs.Disk
import RequestLog.Proofs.Logging.LogFile
import RequestLog.Proofs.Logging.HeldFiles
import RequestLog.Proofs.Logging.OneLinePerFile
import RequestLog.Proofs.Text.Trimmed
import RequestLog.Proofs.Token.Grammar
import RequestLog.Proofs.Token.Rendering
import RequestLog.Proofs.Registry.Answers
import RequestLog.Proofs.Registry.DistinctFields
import RequestLog.Proofs.Text.Lowered
import RequestLog.Proofs.Registry.AnyCase
import RequestLog.Proofs.Exchange.HeadStamps
import RequestLog.Proofs.Interpolation
import RequestLog.Proofs.Middleware.FailureReport
import RequestLog.Proofs.Base64
import RequestLog.Proofs.Headers
import RequestLog.Proofs.Credentials
import RequestLog.Proofs.Headers.Pairs
import RequestLog.Proofs.Credentials.BeyondAscii
import RequestLog.Proofs.Exchange.Address
import RequestLog.Proofs.Registry.HeaderTokens
import RequestLog.Proofs.Exchange.SentHeaders
import RequestLog.Proofs.Exchange.Url
import RequestLog.Proofs.Demo.Greeting
import RequestLog.Proofs.Text.Columns
import RequestLog.Proofs.Calendar.Days
import RequestLog.Proofs.Calendar.Dates
