import RecordCheck.Callables
import RecordCheck.Config.Document
import RecordCheck.Json.Value
import RecordCheck.Proofs.Checker.Blame
import RecordCheck.Proofs.Checker.Chain
import RecordCheck.Proofs.Checker.Congruence
import RecordCheck.Proofs.Checker.Loosening
import RecordCheck.Proofs.Checker.Order
import RecordCheck.Proofs.Component
import RecordCheck.Proofs.Schema.Shape
import RecordCheck.Session
import RecordCheck.Value.Description
import RecordCheck.Proofs.Checker.Equivariance
import RecordCheck.Proofs.Schema.Dependence
import RecordCheck.Proofs.Value.NaNFree
import RecordCheck.Proofs.Session.Program
import RecordCheck.Proofs.Session.WriteOnce
import RecordCheck.Proofs.Schema.Declaration
import RecordCheck.Proofs.Props
import RecordCheck.Proofs.Json.Image
import RecordCheck.Proofs.Checker.Presence
import RecordCheck.Proofs.Class.Registry
import RecordCheck.Proofs.Value.NumberText
import RecordCheck.Proofs.Checker.Labels
import RecordCheck.Proofs.Json.Reader
import RecordCheck.Proofs.Text
import RecordCheck.Proofs.Config
import RecordCheck.Proofs.Config.Document
import RecordCheck.Proofs.Double.Integer
import RecordCheck.Proofs.Json.Integer
import RecordCheck.Proofs.Value.Integer
import RecordCheck.Proofs.Json.Number
