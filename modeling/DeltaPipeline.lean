import DeltaPipeline.Proofs.Cancellation
import DeltaPipeline.Proofs.Correspondence
import DeltaPipeline.Proofs.Depth
import DeltaPipeline.Proofs.Drafting
import DeltaPipeline.Proofs.Equivalence
import DeltaPipeline.Proofs.Invisibility
import DeltaPipeline.Proofs.Isolation
import DeltaPipeline.Proofs.Pairing
import DeltaPipeline.Proofs.Positions
import DeltaPipeline.Proofs.PullOrder
import DeltaPipeline.Proofs.Representation
import DeltaPipeline.Proofs.SingleTable
import DeltaPipeline.Session.Perform
import DeltaPipeline.Table.Text
import DeltaPipeline.Value.Text
import DeltaPipeline.Workbench.Parts
import DeltaPipeline.Workbench.Tables
