import ODataToSql.Main
import ODataToSql.Proofs.Emission
import ODataToSql.Proofs.Outcomes
import ODataToSql.Proofs.Subterms
import ODataToSql.Proofs.TermOf
import ODataToSql.Proofs.CommandClauses
import ODataToSql.Proofs.BoundPlaces
import ODataToSql.Proofs.Columns
import ODataToSql.Proofs.Legible
import ODataToSql.Proofs.Placeholders
import ODataToSql.Proofs.ConstantReplacement
import ODataToSql.Proofs.PolicyCheck
import ODataToSql.Proofs.FirstViolation
import ODataToSql.Proofs.PolicySoundness
import ODataToSql.Proofs.Connectives
import ODataToSql.Proofs.Conversions
import ODataToSql.Proofs.Stateless
import ODataToSql.Proofs.CountedRows
import ODataToSql.Proofs.PreparedExchange
import ODataToSql.Proofs.PreparedRuns
import ODataToSql.Proofs.RowLimits
import ODataToSql.Proofs.Renaming
import ODataToSql.Proofs.Identifiers
import ODataToSql.Proofs.Templates
import ODataToSql.Proofs.ConfinedNames
import ODataToSql.Proofs.CommandStructure
import ODataToSql.Proofs.NamingIndependence
import ODataToSql.Proofs.Dictionaries
import ODataToSql.Proofs.Arrangements
import ODataToSql.Proofs.RestatedRecords
import ODataToSql.Proofs.QueryDocuments
import ODataToSql.Proofs.JsonScalars
import ODataToSql.Proofs.JsonTexts
import ODataToSql.Proofs.ConfigurationDocuments
import ODataToSql.Proofs.WrittenFiles
import ODataToSql.Proofs.MadeDirectories
import ODataToSql.Proofs.StoredConfigurations
import ODataToSql.Proofs.KeptConfigurations
import ODataToSql.Proofs.TranslatedRequests
import ODataToSql.Proofs.CommandWords
import ODataToSql.Proofs.CommandGrammar
import ODataToSql.Proofs.QuotedSegments
import ODataToSql.Proofs.FilteredCommands
import ODataToSql.Proofs.ColumnLists
import ODataToSql.Proofs.JoinedClauses
import ODataToSql.Proofs.ComparedMatches
import ODataToSql.Proofs.Outlines
import ODataToSql.Proofs.EnclosedOperators
import ODataToSql.Proofs.Symbols
import ODataToSql.Proofs.ReadPredicates
import ODataToSql.Proofs.NullComparisons
import ODataToSql.Proofs.BlankColumns
import ODataToSql.Proofs.TranslationSteps
import ODataToSql.Proofs.NamingCalls
import ODataToSql.Proofs.Precedence
import ODataToSql.Proofs.Projections
import ODataToSql.Proofs.SuppliedOptions
