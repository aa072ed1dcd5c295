import RuleOverlay.Text.Utf8
import RuleOverlay.Text.Blank
import RuleOverlay.Unicode.Table
import RuleOverlay.Unicode.Category
import RuleOverlay.Unicode.Normal
import RuleOverlay.Unicode.Bidi
import RuleOverlay.Unicode.Joining
import RuleOverlay.Decimal.Shortest
import RuleOverlay.Decimal.Nearest
import RuleOverlay.Json.Value
import RuleOverlay.Json.Print
import RuleOverlay.Json.Error
import RuleOverlay.Json.Shape
import RuleOverlay.Json.Read
import RuleOverlay.Path.Delimited
import RuleOverlay.Json.KeyPath
import RuleOverlay.Time.Timestamp
import RuleOverlay.Yaml.Token
import RuleOverlay.Yaml.Chars
import RuleOverlay.Yaml.Input
import RuleOverlay.Yaml.Scanner
import RuleOverlay.Yaml.Event
import RuleOverlay.Yaml.Scalar
import RuleOverlay.Yaml.Read
import RuleOverlay.Yaml.Emit
import RuleOverlay.Http.Domain.Mapping
import RuleOverlay.Http.Domain.Punycode
import RuleOverlay.Http.Domain
import RuleOverlay.Http.Url
import RuleOverlay.Http.Request
import RuleOverlay.Processor.Basic
import RuleOverlay.Processor.Load
import RuleOverlay.Processor.Run
import RuleOverlay.Modem
import RuleOverlay.Driver
import RuleOverlay.Rule
import RuleOverlay.Tree.Grove
import RuleOverlay.Tree.Realize
import RuleOverlay.Tree.Shape
import RuleOverlay.Config
import RuleOverlay.Forest.Basic
import RuleOverlay.Forest.Refresh
import RuleOverlay.Loader
import RuleOverlay.Inspect
import RuleOverlay.Main
import RuleOverlay.Tree.Stand
import RuleOverlay.Forest.Workshop
import RuleOverlay.Proofs.Segments
import RuleOverlay.Proofs.Grow
import RuleOverlay.Proofs.Change
import RuleOverlay.Proofs.Session
import RuleOverlay.Proofs.Route
import RuleOverlay.Proofs.Instant
import RuleOverlay.Proofs.Eager
import RuleOverlay.Proofs.Addresses
import RuleOverlay.Proofs.Fresh
import RuleOverlay.Proofs.Built
import RuleOverlay.Proofs.Failure
import RuleOverlay.Proofs.Walk
import RuleOverlay.Proofs.Frames
import RuleOverlay.Proofs.Memo
import RuleOverlay.Proofs.Atomic
import RuleOverlay.Proofs.Handles
import RuleOverlay.Proofs.Depth
import RuleOverlay.Proofs.Prune
import RuleOverlay.Proofs.Forest
import RuleOverlay.Proofs.Overwrite
import RuleOverlay.Proofs.Places
import RuleOverlay.Proofs.Lens
import RuleOverlay.Proofs.Removal
import RuleOverlay.Proofs.Padding
import RuleOverlay.Proofs.Graft
import RuleOverlay.Proofs.Rebuild
import RuleOverlay.Proofs.Rejoin
import RuleOverlay.Proofs.Cursor
import RuleOverlay.Proofs.Utf8
import RuleOverlay.Proofs.Lexemes
import RuleOverlay.Proofs.Reread
import RuleOverlay.Proofs.Parsed
import RuleOverlay.Proofs.DepthLimit
import RuleOverlay.Proofs.Chain
import RuleOverlay.Proofs.DurationText
import RuleOverlay.Proofs.ConfigText
import RuleOverlay.Proofs.FailedWrite
import RuleOverlay.Proofs.ShapeFit
import RuleOverlay.Proofs.RuleFile
import RuleOverlay.Proofs.Lookup
import RuleOverlay.Proofs.Schedule
import RuleOverlay.Proofs.Calendar
import RuleOverlay.Proofs.SavedForm
