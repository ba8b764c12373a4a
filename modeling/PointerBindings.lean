import PointerBindings.Main
import PointerBindings.Proofs.CType.ArgumentNames
import PointerBindings.Proofs.CType.Callbacks
import PointerBindings.Proofs.Catalog.Erasure
import PointerBindings.Proofs.Catalog.Gaps
import PointerBindings.Proofs.Catalog.Order
import PointerBindings.Proofs.Catalog.Reading
import PointerBindings.Proofs.ClassWriter.Arguments
import PointerBindings.Proofs.CommandLine.Endings
import PointerBindings.Proofs.CommandLine.RoundTrip
import PointerBindings.Proofs.Header.Tails
import PointerBindings.Proofs.Header.FirstOfName
import PointerBindings.Proofs.Session.Iteration
import PointerBindings.Proofs.Session.Sinks
import PointerBindings.Proofs.Source.ListRoundTrip
import PointerBindings.Proofs.Signature.NameWords
import PointerBindings.Proofs.Catalog.Lookup
import PointerBindings.Proofs.Catalog.References
import PointerBindings.Proofs.Catalog.NestedNames
import PointerBindings.Proofs.Catalog.Directions
import PointerBindings.Proofs.CType.Stars
import PointerBindings.Proofs.CType.Qualifiers
import PointerBindings.Proofs.Unmanaged.Idempotence
import PointerBindings.Proofs.Unmanaged.WordSize
import PointerBindings.Proofs.Catalog.Rules
import PointerBindings.Proofs.Catalog.SearchPaths
import PointerBindings.Proofs.Header.Parameters
import PointerBindings.Proofs.ClassWriter.Lines
import PointerBindings.Proofs.ClassWriter.Nesting
import PointerBindings.Proofs.ClassWriter.Sections
import PointerBindings.Proofs.Catalog.Translation
import PointerBindings.Proofs.ClassWriter.Conventions
import PointerBindings.Proofs.TypeName.Readings
import PointerBindings.Proofs.Unmanaged.FullNames
import PointerBindings.Proofs.ClassWriter.Layout
