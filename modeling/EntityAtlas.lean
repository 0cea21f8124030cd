import EntityAtlas.ColumnName
import EntityAtlas.DataType
import EntityAtlas.Json
import EntityAtlas.Json.Layout
import EntityAtlas.Mapping
import EntityAtlas.Override
import EntityAtlas.BuildError
import EntityAtlas.Document
import EntityAtlas.Document.Wire
import EntityAtlas.Catalogue
import EntityAtlas.DataMember
import EntityAtlas.Embedding
import EntityAtlas.Navigation
import EntityAtlas.Build
import EntityAtlas.Mapper.Registry
import EntityAtlas.Plural
import EntityAtlas.Service
import EntityAtlas.Service.Http
import EntityAtlas.Settings
import EntityAtlas.Sample
import EntityAtlas.Proofs.Steps
import EntityAtlas.Proofs.ItemByItem
import EntityAtlas.Proofs.NestedTypes
import EntityAtlas.Proofs.Growth
import EntityAtlas.Proofs.EmbeddedTypes
import EntityAtlas.Proofs.Resolution
import EntityAtlas.Proofs.Profile
import EntityAtlas.Proofs.Publication
import EntityAtlas.Proofs.Members
import EntityAtlas.Proofs.Hierarchy
import EntityAtlas.Proofs.AlikeScopes
import EntityAtlas.Proofs.Coherence
import EntityAtlas.Proofs.Reordering
import EntityAtlas.Proofs.Selection
import EntityAtlas.Proofs.BaseTypes
import EntityAtlas.Proofs.Inheritance
import EntityAtlas.Proofs.ForeignKeyNames
import EntityAtlas.Proofs.DocumentShape
import EntityAtlas.Proofs.ForeignKeyIndex
import EntityAtlas.Proofs.ServiceRuns
import EntityAtlas.Proofs.ColumnReadings
import EntityAtlas.Proofs.WellFormedCatalogues
import EntityAtlas.Proofs.Walks
import EntityAtlas.Proofs.SurrogateMembers
import EntityAtlas.Proofs.SurrogateInheritance
import EntityAtlas.Proofs.OneToOne
import EntityAtlas.Proofs.SurrogateNames
import EntityAtlas.Proofs.AssociationNames
import EntityAtlas.Proofs.OneToMany
import EntityAtlas.Proofs.MappedColumns
import EntityAtlas.Proofs.ChangedColumns
import EntityAtlas.Proofs.QuotedColumns
import EntityAtlas.Proofs.Relabelling
import EntityAtlas.Proofs.RelabelledRuns
import EntityAtlas.Proofs.SerializedNames
import EntityAtlas.Proofs.SearchAnswers
import EntityAtlas.Proofs.PropertyOrigins
import EntityAtlas.Proofs.ComplexReferences
import EntityAtlas.Proofs.ComplexTypeOrder
import EntityAtlas.Proofs.IgnoredMembers
import EntityAtlas.Proofs.SameColumns
import EntityAtlas.Proofs.AssociationEffects
import EntityAtlas.Proofs.EmbeddingVisits
import EntityAtlas.Proofs.PascalCase
import EntityAtlas.Proofs.SharedSurrogates
import EntityAtlas.Proofs.RememberedWalks
import EntityAtlas.Proofs.MemberOrder
import EntityAtlas.Proofs.KeyFlags
import EntityAtlas.Proofs.SurrogateUnion
import EntityAtlas.Proofs.AssociationWords
import EntityAtlas.Proofs.MapperDescriptions
import EntityAtlas.Proofs.ListedEnumerations
