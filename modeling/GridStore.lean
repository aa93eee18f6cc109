import GridStore.Cache
import GridStore.Cell.Typing
import GridStore.Cell.Value
import GridStore.Client.Basic
import GridStore.Client.Batch
import GridStore.Client.Documents
import GridStore.Client.Rows
import GridStore.CommandLine.Command
import GridStore.CommandLine.Options
import GridStore.CommandLine.Run
import GridStore.CommandLine.Workplace
import GridStore.Config
import GridStore.Dictionary
import GridStore.Entries
import GridStore.Error
import GridStore.Files.Access
import GridStore.Files.Tree
import GridStore.Filter.Basic
import GridStore.Filter.Match
import GridStore.Filter.PushDown
import GridStore.Filter.Reader
import GridStore.Filter.Selector
import GridStore.Json.Basic
import GridStore.Json.Printer
import GridStore.Json.Reader
import GridStore.Json.Record
import GridStore.Json.Text
import GridStore.Json.Token
import GridStore.Json.Written
import GridStore.Main
import GridStore.Number.Arithmetic
import GridStore.Number.Basic
import GridStore.Number.Decimal
import GridStore.Number.Layout
import GridStore.Number.Shortest
import GridStore.Options
import GridStore.Pattern.Basic
import GridStore.Pattern.Bracket
import GridStore.Pattern.CharSet
import GridStore.Pattern.Escape
import GridStore.Pattern.Flags
import GridStore.Pattern.Fragment
import GridStore.Pattern.Matcher
import GridStore.Pattern.Reader
import GridStore.Pattern.Repetition
import GridStore.Proofs.Cache
import GridStore.Proofs.Cell.Respelling
import GridStore.Proofs.Cell.Typing
import GridStore.Proofs.Cell.WriteBack
import GridStore.Proofs.Client.Appends
import GridStore.Proofs.Client.Asks
import GridStore.Proofs.Client.Batches
import GridStore.Proofs.Client.Columns
import GridStore.Proofs.Client.Deletions
import GridStore.Proofs.Client.FirstMatch
import GridStore.Proofs.Client.Headers
import GridStore.Proofs.Client.Kept
import GridStore.Proofs.Client.KeptRows
import GridStore.Proofs.Client.Keys
import GridStore.Proofs.Client.Mutations
import GridStore.Proofs.Client.Paging
import GridStore.Proofs.Client.Prefixes
import GridStore.Proofs.Client.Reached
import GridStore.Proofs.Client.Reads
import GridStore.Proofs.Client.Refusals
import GridStore.Proofs.Client.Removals
import GridStore.Proofs.Client.Rewrites
import GridStore.Proofs.Client.Sessions
import GridStore.Proofs.Client.Tokens
import GridStore.Proofs.Client.Untouched
import GridStore.Proofs.Client.Upsert
import GridStore.Proofs.Client.Writes
import GridStore.Proofs.Dictionary
import GridStore.Proofs.Entries
import GridStore.Proofs.Files.Access
import GridStore.Proofs.Filter.Comparisons
import GridStore.Proofs.Filter.Equalities
import GridStore.Proofs.Filter.Expressible
import GridStore.Proofs.Filter.Instants
import GridStore.Proofs.Filter.Language
import GridStore.Proofs.Filter.Meaning
import GridStore.Proofs.Filter.Mistaken
import GridStore.Proofs.Filter.Narrowing
import GridStore.Proofs.Filter.Reordering
import GridStore.Proofs.Json.Printed
import GridStore.Proofs.Json.ReadBack
import GridStore.Proofs.Json.Record
import GridStore.Proofs.Json.Reordering
import GridStore.Proofs.Number.ReadBack
import GridStore.Proofs.Number.Rounding
import GridStore.Proofs.Query.Canonical
import GridStore.Proofs.Query.CellOrder
import GridStore.Proofs.Query.Grammar
import GridStore.Proofs.Query.PushedDown
import GridStore.Proofs.Query.ReadBack
import GridStore.Proofs.Query.Words
import GridStore.Proofs.Results
import GridStore.Proofs.Row.Cells
import GridStore.Proofs.Row.Documents
import GridStore.Proofs.Row.Fields
import GridStore.Proofs.Row.History
import GridStore.Proofs.Service.File
import GridStore.Proofs.Service.Identities
import GridStore.Proofs.Service.Memory
import GridStore.Proofs.Service.Sound
import GridStore.Proofs.Sorting
import GridStore.Proofs.Spreadsheet.Creations
import GridStore.Proofs.Spreadsheet.Known
import GridStore.Proofs.Spreadsheet.Lookups
import GridStore.Proofs.Spreadsheet.Outcomes
import GridStore.Proofs.StoreM
import GridStore.Proofs.Text.Count
import GridStore.Proofs.Text.Digits
import GridStore.Proofs.Time.ReadBack
import GridStore.Proofs.Time.Stored
import GridStore.Proofs.Update.Fields
import GridStore.Proofs.Update.Operators
import GridStore.Proofs.Workbook.Answers
import GridStore.Proofs.Workbook.Changes
import GridStore.Proofs.Workbook.Deletions
import GridStore.Proofs.Workbook.Document
import GridStore.Proofs.Workbook.Found
import GridStore.Proofs.Workbook.Headers
import GridStore.Proofs.Workbook.Listings
import GridStore.Proofs.Workbook.Locality
import GridStore.Proofs.Workbook.Sorted
import GridStore.Proofs.Workbook.WellFormed
import GridStore.Proofs.Workbook.Worksheets
import GridStore.Query.Basic
import GridStore.Query.Reader
import GridStore.Query.Token
import GridStore.Row.Basic
import GridStore.Row.Cells
import GridStore.Service.File
import GridStore.Service.Memory
import GridStore.Service.Operation
import GridStore.Service.Request
import GridStore.Service.Scripted
import GridStore.Service.Sheet
import GridStore.Sorting
import GridStore.Spreadsheet
import GridStore.StoreM
import GridStore.Text.Alphanumeric
import GridStore.Text.Blank
import GridStore.Text.Count
import GridStore.Text.Hexadecimal
import GridStore.Text.Printable
import GridStore.Text.Quoted
import GridStore.Text.Range
import GridStore.Text.Scan
import GridStore.Time.Calendar
import GridStore.Time.Instant
import GridStore.Time.Layout
import GridStore.Time.Rfc3339
import GridStore.Update.Basic
import GridStore.Update.Reader
import GridStore.Workbook.Basic
import GridStore.Workbook.Document
import GridStore.Workbook.Requests
