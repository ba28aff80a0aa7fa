import ApiResolution.Command
import ApiResolution.Command.Arguments
import ApiResolution.Context
import ApiResolution.Conventions
import ApiResolution.Diagnostic
import ApiResolution.Document
import ApiResolution.Document.Reader
import ApiResolution.Document.Renaming
import ApiResolution.Document.Writer
import ApiResolution.Entries
import ApiResolution.Failure
import ApiResolution.Identifier
import ApiResolution.Json
import ApiResolution.Json.Member
import ApiResolution.Json.Parser
import ApiResolution.Json.Printer
import ApiResolution.Main
import ApiResolution.Model
import ApiResolution.Model.Enum
import ApiResolution.Model.Hierarchy
import ApiResolution.Model.Members
import ApiResolution.Model.OfDocument
import ApiResolution.Model.OfSchema
import ApiResolution.Model.Union
import ApiResolution.Model.Writer
import ApiResolution.Number
import ApiResolution.Number.Binary64
import ApiResolution.Number.Scaled
import ApiResolution.Number.Shortest
import ApiResolution.Operation
import ApiResolution.Operation.Body
import ApiResolution.Operation.Buckets
import ApiResolution.Operation.OfDeclaration
import ApiResolution.Operation.Responses
import ApiResolution.Operation.TestPath
import ApiResolution.Operation.Writer
import ApiResolution.Options
import ApiResolution.Parameter.DeepObject
import ApiResolution.Parameter.Names
import ApiResolution.Parameter.OfDeclaration
import ApiResolution.Proofs.Components
import ApiResolution.Proofs.Context
import ApiResolution.Proofs.Context.Chains
import ApiResolution.Proofs.Conventions
import ApiResolution.Proofs.Diagnostic
import ApiResolution.Proofs.Document.DistinctNames
import ApiResolution.Proofs.Document.Operations
import ApiResolution.Proofs.Document.Places
import ApiResolution.Proofs.Document.Renaming
import ApiResolution.Proofs.Entries
import ApiResolution.Proofs.Identifier.Crowding
import ApiResolution.Proofs.Identifier.NextName
import ApiResolution.Proofs.Identifier.Searches
import ApiResolution.Proofs.Marks
import ApiResolution.Proofs.Model.Children
import ApiResolution.Proofs.Model.Combination
import ApiResolution.Proofs.Model.Composites
import ApiResolution.Proofs.Model.Construction
import ApiResolution.Proofs.Model.Enums
import ApiResolution.Proofs.Model.Finished
import ApiResolution.Proofs.Model.FlatMembers
import ApiResolution.Proofs.Model.Hierarchy
import ApiResolution.Proofs.Model.InheritedEnums
import ApiResolution.Proofs.Model.Linking
import ApiResolution.Proofs.Model.Links
import ApiResolution.Proofs.Model.Members
import ApiResolution.Proofs.Model.Modes
import ApiResolution.Proofs.Model.Notes
import ApiResolution.Proofs.Model.Options
import ApiResolution.Proofs.Model.Origins
import ApiResolution.Proofs.Model.Shown
import ApiResolution.Proofs.Model.Stages
import ApiResolution.Proofs.Model.Tour
import ApiResolution.Proofs.Model.Views
import ApiResolution.Proofs.Number.Text
import ApiResolution.Proofs.Number.Value
import ApiResolution.Proofs.Operation.Classification
import ApiResolution.Proofs.Operation.Contents
import ApiResolution.Proofs.Operation.Filing
import ApiResolution.Proofs.Operation.Imports
import ApiResolution.Proofs.Operation.Media
import ApiResolution.Proofs.Operation.Modes
import ApiResolution.Proofs.Operation.Naming
import ApiResolution.Proofs.Operation.Order
import ApiResolution.Proofs.Operation.Parts
import ApiResolution.Proofs.Operation.Payloads
import ApiResolution.Proofs.Operation.Reports
import ApiResolution.Proofs.Operation.Returns
import ApiResolution.Proofs.Operation.Selection
import ApiResolution.Proofs.Operation.TestPath
import ApiResolution.Proofs.Options
import ApiResolution.Proofs.Parameter.DeepObject
import ApiResolution.Proofs.Parameter.Defaults
import ApiResolution.Proofs.Parameter.Names
import ApiResolution.Proofs.Parameter.ObjectPaths
import ApiResolution.Proofs.Parameter.Uses
import ApiResolution.Proofs.Pointwise
import ApiResolution.Proofs.Property.Aliases
import ApiResolution.Proofs.Property.Bounds
import ApiResolution.Proofs.Property.Containers
import ApiResolution.Proofs.Property.Contents
import ApiResolution.Proofs.Property.EnumNames
import ApiResolution.Proofs.Property.Enums
import ApiResolution.Proofs.Property.Literals
import ApiResolution.Proofs.Property.MemberNames
import ApiResolution.Proofs.Property.Settled
import ApiResolution.Proofs.Property.Stem
import ApiResolution.Proofs.Property.Types
import ApiResolution.Proofs.Reference
import ApiResolution.Proofs.Reference.Segments
import ApiResolution.Proofs.Resolution
import ApiResolution.Proofs.Resolution.Buckets
import ApiResolution.Proofs.Resolution.Enums
import ApiResolution.Proofs.Resolution.Failure
import ApiResolution.Proofs.Resolution.Marks
import ApiResolution.Proofs.Resolution.Modes
import ApiResolution.Proofs.Resolution.Reports
import ApiResolution.Proofs.Resolution.TypeNames
import ApiResolution.Proofs.Schema.Bounds
import ApiResolution.Proofs.Schema.Equality
import ApiResolution.Proofs.Schema.Equivalence
import ApiResolution.Proofs.Schema.Object
import ApiResolution.Proofs.Schema.Places
import ApiResolution.Proofs.Schema.Reading
import ApiResolution.Proofs.Schema.Rearranged
import ApiResolution.Proofs.Schema.RoundTrip
import ApiResolution.Proofs.Schema.Writing
import ApiResolution.Proofs.Security
import ApiResolution.Proofs.Security.Listing
import ApiResolution.Proofs.Security.References
import ApiResolution.Proofs.Source
import ApiResolution.Proofs.Text.Percent
import ApiResolution.Proofs.Yaml.Records
import ApiResolution.Property
import ApiResolution.Property.Enum
import ApiResolution.Property.OfSchema
import ApiResolution.Property.Writer
import ApiResolution.Reference
import ApiResolution.Resolution
import ApiResolution.Resolution.Writer
import ApiResolution.Schema
import ApiResolution.Schema.Equality
import ApiResolution.Schema.Object
import ApiResolution.Schema.Reader
import ApiResolution.Schema.References
import ApiResolution.Schema.Writer
import ApiResolution.Security
import ApiResolution.Security.OfDocument
import ApiResolution.Security.Writer
import ApiResolution.Source
import ApiResolution.Text.Bytes
import ApiResolution.Text.Case
import ApiResolution.Text.Composition
import ApiResolution.Text.Letter
import ApiResolution.Text.Percent
import ApiResolution.Text.Table
import ApiResolution.TypeTag
import ApiResolution.Uri
import ApiResolution.Uri.DomainCharacter
import ApiResolution.Uri.DomainLabel
import ApiResolution.Uri.DomainName
import ApiResolution.Uri.Host
import ApiResolution.Uri.Path
import ApiResolution.Uri.Punycode
import ApiResolution.Yaml.Cursor
import ApiResolution.Yaml.PlainValue
import ApiResolution.Yaml.Printer
import ApiResolution.Yaml.Scalar
import ApiResolution.Yaml.ScalarText
import ApiResolution.Yaml.Slot
import ApiResolution.Yaml.Token
import ApiResolution.Yaml.Tree
