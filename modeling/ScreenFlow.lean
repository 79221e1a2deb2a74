import ScreenFlow.Main
import ScreenFlow.Proofs.Data.Loading
import ScreenFlow.Proofs.Document.Extraction
import ScreenFlow.Proofs.Document.FileName
import ScreenFlow.Proofs.Entry.Delta
import ScreenFlow.Proofs.Generator.ActionName
import ScreenFlow.Proofs.Generator.Inspection
import ScreenFlow.Proofs.Generator.Writing
import ScreenFlow.Proofs.Graph.Index
import ScreenFlow.Proofs.Graph.Placeholder
import ScreenFlow.Proofs.Graph.Target
import ScreenFlow.Proofs.Lowering.Availability
import ScreenFlow.Proofs.Lowering.Binding
import ScreenFlow.Proofs.Lowering.Call
import ScreenFlow.Proofs.Lowering.Comment
import ScreenFlow.Proofs.Lowering.CustomCode
import ScreenFlow.Proofs.Lowering.Disabled
import ScreenFlow.Proofs.Lowering.Fields
import ScreenFlow.Proofs.Lowering.InOrder
import ScreenFlow.Proofs.Lowering.Index
import ScreenFlow.Proofs.Lowering.Item
import ScreenFlow.Proofs.Lowering.Kind
import ScreenFlow.Proofs.Lowering.OlderForm
import ScreenFlow.Proofs.Lowering.Operator
import ScreenFlow.Proofs.Lowering.Platform
import ScreenFlow.Proofs.Lowering.Registration
import ScreenFlow.Proofs.Lowering.Reported
import ScreenFlow.Proofs.Lowering.Respelled
import ScreenFlow.Proofs.Lowering.StepTarget
import ScreenFlow.Proofs.Lowering.Structured
import ScreenFlow.Proofs.Naming.EntityPrefix
import ScreenFlow.Proofs.Project.Dependency
import ScreenFlow.Proofs.Project.Locating
import ScreenFlow.Proofs.Project.Noted
import ScreenFlow.Proofs.Project.ReadBack
import ScreenFlow.Proofs.Project.Reference
import ScreenFlow.Proofs.Scope.Literal
import ScreenFlow.Proofs.Script.Constant
import ScreenFlow.Proofs.Script.Literal
import ScreenFlow.Proofs.Script.Property
import ScreenFlow.Proofs.UnitText.Visit
