import DocumentRepository.Contract.Argument
import DocumentRepository.Contract.Basic
import DocumentRepository.Contract.Parameter
import DocumentRepository.Contract.Result
import DocumentRepository.Declaration.Attribute
import DocumentRepository.Declaration.Contract
import DocumentRepository.Declaration.Entity
import DocumentRepository.Declaration.Expression
import DocumentRepository.Declaration.Function
import DocumentRepository.Declaration.Generics
import DocumentRepository.Declaration.Grammar
import DocumentRepository.Declaration.Item
import DocumentRepository.Declaration.Lexer
import DocumentRepository.Declaration.Literal
import DocumentRepository.Declaration.Option
import DocumentRepository.Declaration.Path
import DocumentRepository.Declaration.Pattern
import DocumentRepository.Declaration.Reader
import DocumentRepository.Declaration.Rule
import DocumentRepository.Declaration.Statement
import DocumentRepository.Declaration.Structure
import DocumentRepository.Declaration.Token
import DocumentRepository.Declaration.Trait
import DocumentRepository.Declaration.Type
import DocumentRepository.Directive
import DocumentRepository.Document
import DocumentRepository.Filter
import DocumentRepository.Json.Basic
import DocumentRepository.Json.Reader
import DocumentRepository.Json.Writer
import DocumentRepository.MethodName.Chain
import DocumentRepository.MethodName.Operator
import DocumentRepository.Number.Double
import DocumentRepository.Number.Layout
import DocumentRepository.Number.Rounding
import DocumentRepository.Number.Shortest
import DocumentRepository.Pattern.Basic
import DocumentRepository.Pattern.Bracket
import DocumentRepository.Pattern.CharSet
import DocumentRepository.Pattern.Escape
import DocumentRepository.Pattern.Node
import DocumentRepository.Pattern.Reader
import DocumentRepository.Pattern.Room
import DocumentRepository.Query.Compile
import DocumentRepository.Query.Spec
import DocumentRepository.Repository.Basic
import DocumentRepository.Repository.Call
import DocumentRepository.Repository.Config
import DocumentRepository.Repository.Entities
import DocumentRepository.Repository.Error
import DocumentRepository.Repository.Predefined
import DocumentRepository.Repository.Registry
import DocumentRepository.Repository.Request
import DocumentRepository.Schema.Basic
import DocumentRepository.Schema.Field
import DocumentRepository.Schema.Index
import DocumentRepository.StableSort
import DocumentRepository.Store.Access
import DocumentRepository.Store.Basic
import DocumentRepository.Store.Error
import DocumentRepository.Store.Watched
import DocumentRepository.Table
import DocumentRepository.Task.Delivery
import DocumentRepository.Task.Handle
import DocumentRepository.Task.Pool
import DocumentRepository.Text.Age
import DocumentRepository.Text.Blank
import DocumentRepository.Text.Breaks
import DocumentRepository.Text.CaseMap
import DocumentRepository.Text.CaseTable
import DocumentRepository.Text.Category
import DocumentRepository.Text.Property
import DocumentRepository.Text.Quoted
import DocumentRepository.Text.Ranges
import DocumentRepository.Text.Script
import DocumentRepository.Text.Split
import DocumentRepository.Text.Uuid
import DocumentRepository.Text.Words
import DocumentRepository.Value.Basic
import DocumentRepository.Value.Json
import DocumentRepository.Value.Type
import DocumentRepository.Proofs.Store.Operations
import DocumentRepository.Proofs.Store.UniqueIndex
import DocumentRepository.Proofs.Store.BatchUpdate
import DocumentRepository.Proofs.Store.Search
import DocumentRepository.Proofs.Store.Addressing
import DocumentRepository.Proofs.Store.IndexCreation
import DocumentRepository.Proofs.Query.Meaning
import DocumentRepository.Proofs.Query.Membership
import DocumentRepository.Proofs.Query.KeyPresence
import DocumentRepository.Proofs.Query.CaselessText
import DocumentRepository.Proofs.Query.IgnoreCase
import DocumentRepository.Proofs.Query.EqualFilters
import DocumentRepository.Proofs.Query.Accepted
import DocumentRepository.Proofs.Query.Fault
import DocumentRepository.Proofs.Repository.Soundness
import DocumentRepository.Proofs.Repository.Operation
import DocumentRepository.Proofs.Repository.Registration
import DocumentRepository.Proofs.Repository.Run
import DocumentRepository.Proofs.Repository.FieldUpdates
import DocumentRepository.Proofs.MethodName.Cut
import DocumentRepository.Proofs.MethodName.Spelling
import DocumentRepository.Proofs.MethodName.Grammar
import DocumentRepository.Proofs.MethodName.RoundTrip
import DocumentRepository.Proofs.Repository.EntityMap
import DocumentRepository.Proofs.Repository.IndexesInForce
import DocumentRepository.Proofs.Repository.FailedCall
import DocumentRepository.Proofs.Repository.Routing
import DocumentRepository.Proofs.Repository.Preparation
import DocumentRepository.Proofs.Repository.Obtaining
import DocumentRepository.Proofs.Query.FilterPart
import DocumentRepository.Proofs.Query.WellFormed
import DocumentRepository.Proofs.Repository.Prefixes
import DocumentRepository.Proofs.Repository.Pages
import DocumentRepository.Proofs.Repository.Gate
import DocumentRepository.Proofs.Repository.OneBuild
import DocumentRepository.Proofs.Repository.SaveOrder
import DocumentRepository.Proofs.Repository.IdlessSaves
import DocumentRepository.Proofs.Repository.FirstMatch
import DocumentRepository.Proofs.Coherent
import DocumentRepository.Proofs.StableSort
import DocumentRepository.Proofs.Number.Order
import DocumentRepository.Proofs.Path
import DocumentRepository.Proofs.Pattern.Search
import DocumentRepository.Proofs.Pattern.Literal
import DocumentRepository.Proofs.Pattern.Room
import DocumentRepository.Proofs.Value.SortOrder
import DocumentRepository.Proofs.Value.Within
import DocumentRepository.Proofs.Store.Origin
import DocumentRepository.Proofs.Repository.FieldTypes
import DocumentRepository.Proofs.Text.Ascii
import DocumentRepository.Proofs.Text.Words
import DocumentRepository.Proofs.Text.Rename
import DocumentRepository.Proofs.Declaration.Options
import DocumentRepository.Proofs.Declaration.SerdeOption
import DocumentRepository.Proofs.Declaration.SerdeKeys
import DocumentRepository.Proofs.Task.Conservation
import DocumentRepository.Proofs.Task.Delivery
import DocumentRepository.Proofs.Schema.IndexText
import DocumentRepository.Proofs.Schema.Resolution
import DocumentRepository.Proofs.Value.ThroughJson
import DocumentRepository.Proofs.Repository.Signature
