import DecisionFlow.Graph.Export
import DecisionFlow.Main
import DecisionFlow.Proofs.Batch.Columns
import DecisionFlow.Proofs.Batch.Objects
import DecisionFlow.Proofs.Compilation.Circularity
import DecisionFlow.Proofs.Compilation.Delivery
import DecisionFlow.Proofs.Compilation.Independence
import DecisionFlow.Proofs.Compilation.Nesting
import DecisionFlow.Proofs.Compilation.NodeRoundTrip
import DecisionFlow.Proofs.Compilation.Order
import DecisionFlow.Proofs.Compilation.Sharing
import DecisionFlow.Proofs.Compilation.Termination
import DecisionFlow.Proofs.Document.RoundTrip
import DecisionFlow.Proofs.Evaluation.Connective
import DecisionFlow.Proofs.Evaluation.DecisionList
import DecisionFlow.Proofs.Evaluation.Fields
import DecisionFlow.Proofs.Evaluation.Lookup
import DecisionFlow.Proofs.Evaluation.References
import DecisionFlow.Proofs.Expression.Display
import DecisionFlow.Proofs.Graph.Reach
import DecisionFlow.Proofs.Graph.Reference
import DecisionFlow.Proofs.Graph.Tables
import DecisionFlow.Proofs.Image.Loading
import DecisionFlow.Proofs.Image.Truncation
import DecisionFlow.Proofs.Library.History
import DecisionFlow.Proofs.Table.Acceptance
