import CodeSearch.Channel.Basic
import CodeSearch.Channel.Script
import CodeSearch.Dialogue.Basic
import CodeSearch.Dialogue.Board
import CodeSearch.Dialogue.Written
import CodeSearch.Failure
import CodeSearch.Json.Printer
import CodeSearch.Json.Reader
import CodeSearch.Json.Shape
import CodeSearch.Json.Token
import CodeSearch.Json.Value
import CodeSearch.NameMap
import CodeSearch.Numeric.Binary64
import CodeSearch.Numeric.Bounded
import CodeSearch.Numeric.Decimal
import CodeSearch.Numeric.Grouped
import CodeSearch.Numeric.Hexadecimal
import CodeSearch.Page
import CodeSearch.Pattern
import CodeSearch.Query.Basic
import CodeSearch.Query.Normal
import CodeSearch.Query.Selection
import CodeSearch.Query.Url
import CodeSearch.Regex.Bracket
import CodeSearch.Regex.Escape
import CodeSearch.Regex.Expr
import CodeSearch.Regex.Flags
import CodeSearch.Regex.Lead
import CodeSearch.Regex.Program
import CodeSearch.Regex.Reading
import CodeSearch.Regex.Room
import CodeSearch.Regex.Room.Memo
import CodeSearch.Regex.Room.Sets
import CodeSearch.Regex.Room.Tally
import CodeSearch.Regex.Room.Words
import CodeSearch.Regex.Search
import CodeSearch.Repo.Basic
import CodeSearch.Repo.CloneUrl
import CodeSearch.Repo.Link
import CodeSearch.Repo.Skipped
import CodeSearch.Results.Batch
import CodeSearch.Results.Excerpt
import CodeSearch.Results.Hit
import CodeSearch.Results.Rendered
import CodeSearch.Results.Reply
import CodeSearch.Results.Span
import CodeSearch.Results.Strip
import CodeSearch.Text.Blank
import CodeSearch.Text.Cut
import CodeSearch.Text.Encoded
import CodeSearch.Text.Html
import CodeSearch.Text.Percent
import CodeSearch.Text.Template
import CodeSearch.Trace
import CodeSearch.Unicode.Age
import CodeSearch.Unicode.AgeRuns
import CodeSearch.Unicode.Break
import CodeSearch.Unicode.BreakRuns
import CodeSearch.Unicode.ByteRanges
import CodeSearch.Unicode.Category
import CodeSearch.Unicode.CategoryRuns
import CodeSearch.Unicode.CharSet
import CodeSearch.Unicode.Fold
import CodeSearch.Unicode.FoldRuns
import CodeSearch.Unicode.Named
import CodeSearch.Unicode.Property
import CodeSearch.Unicode.PropertyRuns
import CodeSearch.Unicode.Runs
import CodeSearch.Unicode.Script
import CodeSearch.Unicode.Script.Runs
import CodeSearch.Unicode.Script.RunsAK
import CodeSearch.Unicode.Script.RunsLZ
import CodeSearch.Unicode.Words
import CodeSearch.Proofs.Results.Numbering
import CodeSearch.Proofs.Results.Gathering
import CodeSearch.Proofs.Results.Markup
import CodeSearch.Proofs.Results.Rendering
import CodeSearch.Proofs.Dialogue.Calls
import CodeSearch.Proofs.Dialogue.Failing
import CodeSearch.Proofs.Text.Trimming
import CodeSearch.Proofs.Dialogue.ActiveSearch
import CodeSearch.Proofs.NameMap
import CodeSearch.Proofs.LastPattern
import CodeSearch.Proofs.Results.Covering
import CodeSearch.Proofs.Results.Layout
import CodeSearch.Proofs.Results.Keeping
import CodeSearch.Proofs.Results.Ranges
import CodeSearch.Proofs.Text.ByteOrder
import CodeSearch.Proofs.Results.Ranking
import CodeSearch.Proofs.Dialogue.Standings
import CodeSearch.Proofs.Dialogue.Paging
import CodeSearch.Proofs.Text.Splitting
import CodeSearch.Proofs.Results.Fragment
import CodeSearch.Proofs.Results.Highlighting
import CodeSearch.Proofs.Results.Windows
import CodeSearch.Proofs.Text.Encoding
import CodeSearch.Proofs.Text.PercentCoding
import CodeSearch.Proofs.Query.Fields
import CodeSearch.Proofs.Query.History
import CodeSearch.Proofs.Query.Overriding
import CodeSearch.Proofs.Query.Selecting
import CodeSearch.Proofs.Text.Filling
import CodeSearch.Proofs.Repo.Links
import CodeSearch.Proofs.Query.Following
import CodeSearch.Proofs.Query.Requests
import CodeSearch.Proofs.Channel.Course
import CodeSearch.Proofs.Channel.History
import CodeSearch.Proofs.Channel.Budget
import CodeSearch.Proofs.Channel.Dispatch
import CodeSearch.Proofs.Channel.Handles
import CodeSearch.Proofs.Channel.Timeline
import CodeSearch.Proofs.Text.Expanding
import CodeSearch.Proofs.Query.Normalizing
import CodeSearch.Proofs.Repo.CloneAddresses
import CodeSearch.Proofs.Regex.LiteralSearch
import CodeSearch.Proofs.Numeric.Decimal
import CodeSearch.Proofs.Numeric.Grouping
import CodeSearch.Proofs.Json.Escaping
import CodeSearch.Proofs.Json.Printing
import CodeSearch.Proofs.Json.Relaxing
import CodeSearch.Proofs.Results.ReadBack
