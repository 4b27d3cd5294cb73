import SchemaBinding.Binding.Build
import SchemaBinding.Binding.Compilation
import SchemaBinding.Binding.Constraints
import SchemaBinding.Binding.Content
import SchemaBinding.Binding.Failure
import SchemaBinding.Binding.Field
import SchemaBinding.Binding.Loading
import SchemaBinding.Binding.Naming
import SchemaBinding.CommandLine.Arguments
import SchemaBinding.CommandLine.Run
import SchemaBinding.CommandLine.Summary
import SchemaBinding.Dump.Basic
import SchemaBinding.Dump.Reading
import SchemaBinding.Dump.Writing
import SchemaBinding.Error
import SchemaBinding.FileSystem
import SchemaBinding.FileTree
import SchemaBinding.Json.Printer
import SchemaBinding.Json.Reader
import SchemaBinding.Json.Value
import SchemaBinding.Limits
import SchemaBinding.Location
import SchemaBinding.Log
import SchemaBinding.Main
import SchemaBinding.OrderedMap
import SchemaBinding.Path
import SchemaBinding.Proofs.AdjacentSwaps
import SchemaBinding.Proofs.Binding.Accounting
import SchemaBinding.Proofs.Binding.Accounts
import SchemaBinding.Proofs.Binding.Agreement
import SchemaBinding.Proofs.Binding.Anonymous
import SchemaBinding.Proofs.Binding.Asking
import SchemaBinding.Proofs.Binding.BuiltinTypes
import SchemaBinding.Proofs.Binding.Cardinality
import SchemaBinding.Proofs.Binding.Collision
import SchemaBinding.Proofs.Binding.Compilation
import SchemaBinding.Proofs.Binding.Constraints
import SchemaBinding.Proofs.Binding.Content
import SchemaBinding.Proofs.Binding.DefinitionOrder
import SchemaBinding.Proofs.Binding.Diagnostics
import SchemaBinding.Proofs.Binding.Entries
import SchemaBinding.Proofs.Binding.Identity
import SchemaBinding.Proofs.Binding.InheritedAttributes
import SchemaBinding.Proofs.Binding.InheritedElements
import SchemaBinding.Proofs.Binding.Isolation
import SchemaBinding.Proofs.Binding.Lineage
import SchemaBinding.Proofs.Binding.Loading
import SchemaBinding.Proofs.Binding.Making
import SchemaBinding.Proofs.Binding.Mentions
import SchemaBinding.Proofs.Binding.Naming
import SchemaBinding.Proofs.Binding.Origins
import SchemaBinding.Proofs.Binding.Places
import SchemaBinding.Proofs.Binding.Promotion
import SchemaBinding.Proofs.Binding.Provenance
import SchemaBinding.Proofs.Binding.Reached
import SchemaBinding.Proofs.Binding.Remarks
import SchemaBinding.Proofs.Binding.Replay
import SchemaBinding.Proofs.Binding.Rerun
import SchemaBinding.Proofs.Binding.Soundness
import SchemaBinding.Proofs.Binding.Steps
import SchemaBinding.Proofs.Binding.Succession
import SchemaBinding.Proofs.Binding.SupportedContent
import SchemaBinding.Proofs.Binding.SynthesizedNames
import SchemaBinding.Proofs.Binding.Tabulation
import SchemaBinding.Proofs.Binding.Termination
import SchemaBinding.Proofs.Dump.RoundTrip
import SchemaBinding.Proofs.FileTree
import SchemaBinding.Proofs.Location
import SchemaBinding.Proofs.Path
import SchemaBinding.Proofs.Json.RoundTrip
import SchemaBinding.Proofs.Outcome
import SchemaBinding.Proofs.Repository.Closure
import SchemaBinding.Proofs.Repository.Commuting
import SchemaBinding.Proofs.Repository.Frame
import SchemaBinding.Proofs.Repository.Growth
import SchemaBinding.Proofs.Repository.Publication
import SchemaBinding.Proofs.Repository.Rebuilding
import SchemaBinding.Proofs.Repository.Renaming
import SchemaBinding.Proofs.Text.Unsigned
import SchemaBinding.Proofs.Text.Utf8
import SchemaBinding.Proofs.Xml.Escape
import SchemaBinding.Proofs.Xml.Nesting
import SchemaBinding.Proofs.Xml.RoundTrip
import SchemaBinding.Proofs.Xml.Written
import SchemaBinding.Proofs.Xml.WrittenTags
import SchemaBinding.Proofs.Xsd.Accepted
import SchemaBinding.Proofs.Xsd.Additions
import SchemaBinding.Proofs.Xsd.Advance
import SchemaBinding.Proofs.Xsd.AttributeUses
import SchemaBinding.Proofs.Xsd.Bases
import SchemaBinding.Proofs.Xsd.BuiltinNames
import SchemaBinding.Proofs.Xsd.Chameleons
import SchemaBinding.Proofs.Xsd.CircularGroups
import SchemaBinding.Proofs.Xsd.Completion
import SchemaBinding.Proofs.Xsd.Declaration
import SchemaBinding.Proofs.Xsd.DeclaringOrder
import SchemaBinding.Proofs.Xsd.Derivation
import SchemaBinding.Proofs.Xsd.Documents
import SchemaBinding.Proofs.Xsd.Editions
import SchemaBinding.Proofs.Xsd.Exchange
import SchemaBinding.Proofs.Xsd.Expansion
import SchemaBinding.Proofs.Xsd.Finished
import SchemaBinding.Proofs.Xsd.Globals
import SchemaBinding.Proofs.Xsd.GroupCycles
import SchemaBinding.Proofs.Xsd.GroupUses
import SchemaBinding.Proofs.Xsd.Inclusion
import SchemaBinding.Proofs.Xsd.InheritedContent
import SchemaBinding.Proofs.Xsd.Inlining
import SchemaBinding.Proofs.Xsd.MergedAttributes
import SchemaBinding.Proofs.Xsd.Merging
import SchemaBinding.Proofs.Xsd.Occurs
import SchemaBinding.Proofs.Xsd.PlainNames
import SchemaBinding.Proofs.Xsd.Readers
import SchemaBinding.Proofs.Xsd.ReadingOrder
import SchemaBinding.Proofs.Xsd.Rearrangement
import SchemaBinding.Proofs.Xsd.References
import SchemaBinding.Proofs.Xsd.Renumbered
import SchemaBinding.Proofs.Xsd.RenumberedCompletion
import SchemaBinding.Proofs.Xsd.Renumbering
import SchemaBinding.Proofs.Xsd.RereadContent
import SchemaBinding.Proofs.Xsd.RereadSimpleTypes
import SchemaBinding.Proofs.Xsd.Rereading
import SchemaBinding.Proofs.Xsd.RespelledReading
import SchemaBinding.Proofs.Xsd.Respelling
import SchemaBinding.Proofs.Xsd.Stable
import SchemaBinding.Proofs.Xsd.Traversal
import SchemaBinding.Proofs.Xsd.WellFormed
import SchemaBinding.Repository.Basic
import SchemaBinding.Repository.Constraint
import SchemaBinding.Repository.FieldFlags
import SchemaBinding.Repository.Namespace
import SchemaBinding.Repository.Primitive
import SchemaBinding.Repository.Registry
import SchemaBinding.Repository.Scope
import SchemaBinding.Repository.Store
import SchemaBinding.Repository.Type
import SchemaBinding.Resource
import SchemaBinding.Source
import SchemaBinding.Text.Blank
import SchemaBinding.Text.Digit
import SchemaBinding.Text.Split
import SchemaBinding.Text.Unsigned
import SchemaBinding.Text.Utf8
import SchemaBinding.Unicode.CombiningClass
import SchemaBinding.Unicode.Composition
import SchemaBinding.Unicode.Decomposition
import SchemaBinding.Unicode.Direction
import SchemaBinding.Unicode.Joining
import SchemaBinding.Unicode.Mark
import SchemaBinding.Unicode.Table
import SchemaBinding.Url.Basic
import SchemaBinding.Url.Domain
import SchemaBinding.Url.DomainMapping
import SchemaBinding.Url.Fault
import SchemaBinding.Url.Host
import SchemaBinding.Url.Percent
import SchemaBinding.Url.Punycode
import SchemaBinding.Url.Reading
import SchemaBinding.Xml.Document
import SchemaBinding.Xml.Element
import SchemaBinding.Xml.Fault
import SchemaBinding.Xml.Markup
import SchemaBinding.Xml.NCName
import SchemaBinding.Xml.NamespaceContext
import SchemaBinding.Xml.Octet
import SchemaBinding.Xml.QName
import SchemaBinding.Xml.Reference
import SchemaBinding.Xml.Tag
import SchemaBinding.Xsd.Builtin
import SchemaBinding.Xsd.Component
import SchemaBinding.Xsd.Context
import SchemaBinding.Xsd.Document
import SchemaBinding.Xsd.Draft
import SchemaBinding.Xsd.Facet
import SchemaBinding.Xsd.Fault
import SchemaBinding.Xsd.Global
import SchemaBinding.Xsd.Inheritance
import SchemaBinding.Xsd.Occurs
import SchemaBinding.Xsd.Parse
import SchemaBinding.Xsd.Reading
import SchemaBinding.Xsd.SchemaSet
