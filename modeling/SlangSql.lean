import SlangSql.Connection
import SlangSql.Connection.Address
import SlangSql.Connection.Direction
import SlangSql.Connection.DirectionTables
import SlangSql.Connection.Domain
import SlangSql.Connection.DomainTables
import SlangSql.Connection.Failure
import SlangSql.Connection.FileName
import SlangSql.Connection.Host
import SlangSql.Connection.Punycode
import SlangSql.Connection.Target
import SlangSql.Error
import SlangSql.Json
import SlangSql.Main
import SlangSql.Number.Binary
import SlangSql.Number.Decimal
import SlangSql.Number.Scaling
import SlangSql.Number.Shortest
import SlangSql.Number.Significant
import SlangSql.Operation
import SlangSql.Proofs.Grammar
import SlangSql.Proofs.ReaderRun
import SlangSql.Proofs.VocabularyReach
import SlangSql.Query
import SlangSql.Query.Sql
import SlangSql.Reader
import SlangSql.Reader.State
import SlangSql.Reader.Step
import SlangSql.RowSet
import SlangSql.Session
import SlangSql.Settings
import SlangSql.Store.Access
import SlangSql.Store.Aspect
import SlangSql.Store.Change
import SlangSql.Store.Definition
import SlangSql.Store.Estimate
import SlangSql.Store.Failure
import SlangSql.Store.Filter
import SlangSql.Store.Plan
import SlangSql.Store.Select
import SlangSql.Store.Table
import SlangSql.Store.Term
import SlangSql.Store.Value
import SlangSql.Store.Way
import SlangSql.Terminal.Arguments
import SlangSql.Terminal.Demo
import SlangSql.Terminal.Directory
import SlangSql.Terminal.Display
import SlangSql.Terminal.Grid
import SlangSql.Terminal.History
import SlangSql.Terminal.Place
import SlangSql.Terminal.Program
import SlangSql.Terminal.Repl
import SlangSql.Terminal.Style
import SlangSql.Text.Ascii
import SlangSql.Text.Blank
import SlangSql.Text.CaseTables
import SlangSql.Text.Cluster
import SlangSql.Text.ClusterTables
import SlangSql.Text.Extending
import SlangSql.Text.Hidden
import SlangSql.Text.LowerCase
import SlangSql.Text.Percent
import SlangSql.Text.Ranges
import SlangSql.Text.Utf8
import SlangSql.Token
import SlangSql.Toml.Document
import SlangSql.Toml.Scalar
import SlangSql.Toml.Text
import SlangSql.Toml.Tree
import SlangSql.Toml.Value
import SlangSql.Vocabulary
import SlangSql.Vocabulary.Standard
import SlangSql.Proofs.ReaderClauses
import SlangSql.Proofs.ReaderGrammar
import SlangSql.Proofs.TokenLayout
import SlangSql.Proofs.WellFormed
import SlangSql.Proofs.SqlTokens
import SlangSql.Proofs.RoundTrip
import SlangSql.Proofs.VocabularyHistory
import SlangSql.Proofs.TokenUse
import SlangSql.Proofs.Synonyms
import SlangSql.Proofs.ReaderStates
import SlangSql.Proofs.Doubling
import SlangSql.Proofs.Completion
import SlangSql.Proofs.HandingOn
import SlangSql.Proofs.TwoVocabularies
import SlangSql.Proofs.SessionSteps
import SlangSql.Proofs.Transactions
import SlangSql.Proofs.Durability
import SlangSql.Proofs.GroupOrder
import SlangSql.Proofs.AliasTokens
import SlangSql.Proofs.SettingsAliases
import SlangSql.Proofs.InsertLayouts
import SlangSql.Proofs.StoredTokens
import SlangSql.Proofs.Punctuation
import SlangSql.Proofs.LetterCase
import SlangSql.Proofs.RowSetViews
import SlangSql.Proofs.GridLayout
import SlangSql.Proofs.TableShape
import SlangSql.Proofs.PlainSelect
import SlangSql.Proofs.IntegerCells
