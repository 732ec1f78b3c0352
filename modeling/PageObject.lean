import PageObject.Catalog
import PageObject.Page
import PageObject.Proofs.Page.AccessorNames
import PageObject.Proofs.Page.Isolation
import PageObject.Proofs.Page.Signatures
import PageObject.Proofs.Accessor.Parameters
import PageObject.Proofs.Accessor.Statements
import PageObject.Proofs.Page.Origin
import PageObject.Proofs.Page.Calls
import PageObject.Proofs.Page.Declarations
import PageObject.Proofs.Page.Identifiers
import PageObject.Proofs.Page.LocalNames
import PageObject.Proofs.Page.Imports
import PageObject.Proofs.Page.TypeNames
import PageObject.Proofs.Page.Simulation
import PageObject.Proofs.Element.Change
import PageObject.Proofs.Page.Reading
import PageObject.Proofs.Selector.Root
import PageObject.Proofs.Page.NullProperties
import PageObject.Proofs.Page.Rearrangement
import PageObject.Proofs.Page.Apart
import PageObject.Proofs.Page.Reordering
import PageObject.Proofs.Catalog.Rendering
import PageObject.Proofs.Page.Skeleton
import PageObject.Proofs.Accessor.Settings
import PageObject.Proofs.Page.Settings
import PageObject.Proofs.Page.Log
import PageObject.Proofs.Selector.Grammar
import PageObject.Proofs.Element.Grammar
import PageObject.Proofs.Selector.Format
import PageObject.Proofs.Filter.Grammar
import PageObject.Proofs.Argument.Constants
import PageObject.Proofs.Config.Paths
import PageObject.Proofs.Signature.Batches
import PageObject.Proofs.Registry.Dependencies
import PageObject.Proofs.Reference.SameType
import PageObject.Proofs.Catalog.Interpolation
import PageObject.Proofs.Page.PathText
