import Parley.Binary.Format
import Parley.Binary.Arith
import Parley.Binary.Value
import Parley.Binary.ArcCosine
import Parley.Decimal.Basic
import Parley.Decimal.Shortest
import Parley.Decimal.Layout
import Parley.Decimal.Reading
import Parley.Json.Value
import Parley.Json.Cursor
import Parley.Json.Reader
import Parley.Text.Quoted
import Parley.Schema.Basic
import Parley.Record.Basic
import Parley.Record.Json
import Parley.Component.Schedule
import Parley.Component.Direction
import Parley.Component.Motion
import Parley.Component.Position
import Parley.Component.Mind
import Parley.Text.Blank
import Parley.Action.Kind
import Parley.Action.Reach
import Parley.Orientation
import Parley.World.Event
import Parley.Stage
import Parley.World.Bus
import Parley.World.Entity
import Parley.Config.Interaction
import Parley.World.Basic
import Parley.World.Session
import Parley.World.Delivery
import Parley.Participant
import Parley.Json.Decode
import Parley.Cast.Basic
import Parley.Cast.Json
import Parley.Config.Json
import Parley.Text.Numeral
import Parley.Text.Alphanumeric
import Parley.Yaml.Token
import Parley.Yaml.Scanner
import Parley.Yaml.Parser
import Parley.Yaml.Document
import Parley.Yaml.Decode
import Parley.Config.Environment
import Parley.Config.Basic
import Parley.Config.Yaml
import Parley.Config.Files
import Parley.Config.Load
import Parley.Config.Dotenv
import Parley.Command.Similarity
import Parley.Command.Arguments
import Parley.Run
import Parley.Main
import Parley.Proofs.World.Frame
import Parley.Proofs.World.Start
import Parley.Proofs.World.Run
import Parley.Proofs.World.Delivery
import Parley.Proofs.World.Suspension
import Parley.Proofs.World.Agreement
import Parley.Proofs.World.Rollback
import Parley.Proofs.World.History
import Parley.Proofs.World.Endings
import Parley.Proofs.World.Lifecycle
import Parley.Proofs.World.Firing
import Parley.Proofs.World.Listeners
import Parley.Proofs.Stage.Dialogs
import Parley.Proofs.Stage.Life
import Parley.Proofs.Stage.Presenting
import Parley.Proofs.Stage.Trimming
import Parley.Proofs.Action.Reading
import Parley.Proofs.World.Timeout
import Parley.Proofs.World.Race
import Parley.Proofs.Binary.Widening
import Parley.Proofs.Record.Cells
import Parley.Proofs.Component.RoundTrip
import Parley.Proofs.Component.Codecs
import Parley.Proofs.World.Saving
import Parley.Proofs.World.Admission
import Parley.Proofs.World.Engagement
import Parley.Proofs.World.Restoring
import Parley.Proofs.World.Publication
import Parley.Proofs.Record.JsonValue
import Parley.Proofs.Record.JsonFormat
