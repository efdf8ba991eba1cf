import EntityCatalog.CommandLine.Run
import EntityCatalog.Config.Encoding
import EntityCatalog.Diagnostic.Encoding
import EntityCatalog.Files.Tree
import EntityCatalog.Main
import EntityCatalog.Proofs.Catalog.Addressing
import EntityCatalog.Proofs.Catalog.Isolation
import EntityCatalog.Proofs.Catalog.JoinAccounting
import EntityCatalog.Proofs.Catalog.JoinClosure
import EntityCatalog.Proofs.Catalog.Order
import EntityCatalog.Proofs.Catalog.WriteBack
import EntityCatalog.Proofs.Column.DepthLimit
import EntityCatalog.Proofs.Column.ElementGetters
import EntityCatalog.Proofs.Column.Findings
import EntityCatalog.Proofs.Column.KeyLiterals
import EntityCatalog.Proofs.Column.Malformed
import EntityCatalog.Proofs.Column.Normalization
import EntityCatalog.Proofs.Column.Overrides
import EntityCatalog.Proofs.Column.Places
import EntityCatalog.Proofs.Config.Written
import EntityCatalog.Proofs.Diagnostic.WorkflowCommand
import EntityCatalog.Proofs.EntityType.ResourceName
import EntityCatalog.Proofs.Join.ForceMode
import EntityCatalog.Proofs.Label.Reconciliation
import EntityCatalog.Proofs.Naming.Canonical
import EntityCatalog.Proofs.Resource.Failure
import EntityCatalog.Proofs.Resource.IdColumns
import EntityCatalog.Proofs.Resource.Ignoring
import EntityCatalog.Proofs.Resource.IndexStyle
import EntityCatalog.Proofs.Resource.MalformedMarks
import EntityCatalog.Proofs.Resource.Names
import EntityCatalog.Proofs.Resource.NormalForm
import EntityCatalog.Proofs.Resource.Provenance
import EntityCatalog.Proofs.Source.Renaming
import EntityCatalog.Proofs.Source.ViewNames
