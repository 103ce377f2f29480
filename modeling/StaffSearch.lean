import StaffSearch.Document.ExtendedJson
import StaffSearch.Document.Record
import StaffSearch.Document.Selection
import StaffSearch.Http.Router
import StaffSearch.Main
import StaffSearch.Store.Sample
import StaffSearch.Proofs.Letters
import StaffSearch.Proofs.Tokens
import StaffSearch.Proofs.Binding
import StaffSearch.Proofs.Capture
import StaffSearch.Proofs.Search
import StaffSearch.Proofs.Compilation
import StaffSearch.Proofs.CapturedCity
import StaffSearch.Proofs.Assembly
import StaffSearch.Proofs.BlockedForms
import StaffSearch.Proofs.Operands
import StaffSearch.Proofs.DayNumbers
import StaffSearch.Proofs.Patterns
import StaffSearch.Proofs.StoredSelection
import StaffSearch.Proofs.Digits
import StaffSearch.Proofs.Moments
import StaffSearch.Proofs.JsonText
import StaffSearch.Proofs.FilterText
import StaffSearch.Proofs.SpacedWords
import StaffSearch.Proofs.Clauses
import StaffSearch.Proofs.NumberQueries
import StaffSearch.Proofs.AsciiCase
import StaffSearch.Proofs.AlikeTexts
import StaffSearch.Proofs.QueryCase
import StaffSearch.Proofs.Vocabularies
import StaffSearch.Proofs.ExtendedSettings
import StaffSearch.Proofs.JoinedQueries
import StaffSearch.Proofs.Lowercasing
import StaffSearch.Proofs.WordContents
import StaffSearch.Proofs.OwnSpelling
import StaffSearch.Proofs.BlockedTerms
import StaffSearch.Proofs.StoreRuns
import StaffSearch.Proofs.Identifiers
import StaffSearch.Proofs.EntryOrder
import StaffSearch.Proofs.Startup
import StaffSearch.Proofs.ConcurrentSeeding
import StaffSearch.Proofs.StableBindings
import StaffSearch.Proofs.SearchBodies
import StaffSearch.Proofs.Discretion
import StaffSearch.Proofs.TokenSpans
import StaffSearch.Proofs.WrittenNumbers
import StaffSearch.Proofs.SkillRuns
import StaffSearch.Proofs.LeftmostFirst
import StaffSearch.Proofs.CaptureLinks
import StaffSearch.Proofs.CaptureSites
import StaffSearch.Proofs.YearsBack
import StaffSearch.Proofs.JoinDateOrder
import StaffSearch.Proofs.WiderFilters
import StaffSearch.Proofs.JoinedBefore
import StaffSearch.Proofs.TextEquality
import StaffSearch.Proofs.PartsOfTexts
import StaffSearch.Proofs.WideWindows
import StaffSearch.Proofs.StoredRecords
import StaffSearch.Proofs.LexiconHistories
import StaffSearch.Proofs.HostVariables
import StaffSearch.Proofs.StemRounds
import StaffSearch.Proofs.ShortStems
