import UaFlow.Text.Blank
import UaFlow.Text.Printable
import UaFlow.Text.Quoted
import UaFlow.Json.Value
import UaFlow.Json.Error
import UaFlow.Json.Shape
import UaFlow.Json.Reader
import UaFlow.Json.Decode
import UaFlow.Json.Number
import UaFlow.Float.Binary
import UaFlow.Float.Shortest
import UaFlow.Float.Text
import UaFlow.Codec.Base64
import UaFlow.Codec.Uuid
import UaFlow.Time.Civil
import UaFlow.Time.Instant
import UaFlow.Time.Rfc3339
import UaFlow.Ua.DataType
import UaFlow.Ua.NodeId
import UaFlow.Ua.QualifiedName
import UaFlow.Ua.Variant
import UaFlow.Ua.Coerce
import UaFlow.Ua.Security
import UaFlow.Ua.EventFilter
import UaFlow.Flow.Registry
import UaFlow.Flow.Message
import UaFlow.Flow.Config
import UaFlow.Flow.Node
import UaFlow.Flow.Engine
import UaFlow.Flow.Command
import UaFlow.Main
import UaFlow.Proofs.Flow.BreadthFirst
import UaFlow.Proofs.Flow.Run
import UaFlow.Proofs.Codec.Base64
import UaFlow.Proofs.Text.Digits
import UaFlow.Proofs.Codec.Uuid
import UaFlow.Proofs.Time.Calendar
import UaFlow.Proofs.Time.Stamp
import UaFlow.Proofs.Ua.NodeIdText
import UaFlow.Proofs.Ua.Recoerce
import UaFlow.Proofs.Flow.Session
import UaFlow.Proofs.Flow.Frame
import UaFlow.Proofs.Flow.Shaping
import UaFlow.Proofs.Ua.DecimalLiteral
import UaFlow.Proofs.Json.Members
import UaFlow.Proofs.Json.Tokens
import UaFlow.Proofs.Json.ValueText
import UaFlow.Proofs.Json.RecordText
import UaFlow.Proofs.Flow.MessageText
import UaFlow.Proofs.Text.Split
import UaFlow.Proofs.Ua.TypeNames
import UaFlow.Proofs.Ua.ArrayItems
import UaFlow.Proofs.Flow.MethodCall
import UaFlow.Proofs.Ua.FieldPaths
import UaFlow.Proofs.Flow.Palette
