import FlatJson.Command
import FlatJson.Message
import FlatJson.Pattern.Printer
import FlatJson.Value.Sameness
import FlatJson.Zone.Posix
import FlatJson.Proofs.ReadBack
import FlatJson.Proofs.Extraction
import FlatJson.Proofs.Json.Written
import FlatJson.Proofs.WallClock
import FlatJson.Proofs.Appending
import FlatJson.Proofs.ScalarLayout
import FlatJson.Proofs.Omitted
import FlatJson.Proofs.History
import FlatJson.Proofs.Position
import FlatJson.Proofs.Nesting
import FlatJson.Proofs.FieldPlaces
import FlatJson.Proofs.TwoScans
import FlatJson.Proofs.Acceptance
import FlatJson.Proofs.ArrayPlaces
import FlatJson.Proofs.ClockOrder
import FlatJson.Proofs.WrittenForm
import FlatJson.Proofs.NumberFields
import FlatJson.Proofs.Growth
import FlatJson.Proofs.Inference
import FlatJson.Zone.Table
import FlatJson.Proofs.Weekday
