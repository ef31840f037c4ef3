import QueryByName.Config.EditorSchema
import QueryByName.Log.Effective
import QueryByName.Method.Plan
import QueryByName.Query.Listing
import QueryByName.Proofs.Query.ListedFinders
import QueryByName.Proofs.Query.PhraseQuery
import QueryByName.Proofs.Text.NamesAfter
import QueryByName.Workspace.Discovery
import QueryByName.Proofs.Query.Placeholders
import QueryByName.Proofs.Finder.FieldsRead
import QueryByName.Proofs.Query.Alignment
import QueryByName.Proofs.Finder.NameList
import QueryByName.Proofs.Finder.Growth
import QueryByName.Proofs.Finder.PluralForms
import QueryByName.Proofs.Query.PlainPhrase
import QueryByName.Proofs.Method.BoundQuery
import QueryByName.Proofs.Query.Exclusions
import QueryByName.Proofs.Query.ParameterNames
import QueryByName.Proofs.Query.Dependencies
import QueryByName.Proofs.Query.DeclarationOrder
import QueryByName.Proofs.Query.Connectives
import QueryByName.Proofs.Method.QueryLiteral
import QueryByName.Proofs.Method.Clauses
import QueryByName.Proofs.Method.CountMethods
import QueryByName.Proofs.Method.Requests
import QueryByName.Proofs.Query.LocalParameters
import QueryByName.Proofs.Java.BeanFields
import QueryByName.Proofs.Finder.ScanProgress
import QueryByName.Proofs.Log.FilterTable
import QueryByName.Proofs.Java.DisplayedTypes
import QueryByName.Proofs.Config.Replacements
import QueryByName.Proofs.Config.StrayKeys
import QueryByName.Proofs.Method.Scopes
import QueryByName.Proofs.Text.ByteOrder
import QueryByName.Proofs.Finder.WordOrder
import QueryByName.Proofs.Finder.FieldLexicon
import QueryByName.Proofs.Text.LastWord
