import SelectQuery.Configuration.Equality
import SelectQuery.Configuration.Verbatim
import SelectQuery.Editing.Edit
import SelectQuery.Main
import SelectQuery.Proofs.Number.Digits
import SelectQuery.Proofs.Number.Shortest
import SelectQuery.Service
import SelectQuery.Proofs.Value.Numeral
import SelectQuery.Proofs.Value.Document
import SelectQuery.Proofs.Build
import SelectQuery.Proofs.Text.Blank
import SelectQuery.Proofs.Value.Reader
import SelectQuery.Proofs.Configuration.Reload
import SelectQuery.Proofs.Literal.Operand
import SelectQuery.Proofs.Statement.Modes
import SelectQuery.Proofs.Literal.Number
import SelectQuery.Proofs.Literal.Meaning
import SelectQuery.Proofs.Literal.Items
import SelectQuery.Proofs.Editing.Effect
import SelectQuery.Proofs.Editing.Reached
import SelectQuery.Proofs.Editing.Cascade
import SelectQuery.Proofs.ColumnPath
import SelectQuery.Proofs.Service.Run
import SelectQuery.Proofs.Store.History
import SelectQuery.Proofs.Statement.Alike
import SelectQuery.Proofs.Configuration.Reopened
import SelectQuery.Proofs.Store.Reopened
import SelectQuery.Proofs.Catalog.Browsing
import SelectQuery.Proofs.Statement.Pointwise
import SelectQuery.Proofs.Statement.Spelling
import SelectQuery.Proofs.Statement.Layout
import SelectQuery.Proofs.Statement.Qualifier
import SelectQuery.Proofs.Statement.Placeholders
import SelectQuery.Proofs.Screen.Token
import SelectQuery.Proofs.Screen.Forbidden
import SelectQuery.Proofs.Editing.Alias
import SelectQuery.Proofs.Configuration.Respelled
import SelectQuery.Proofs.Value.LongRun
import SelectQuery.Proofs.Configuration.Typed
import SelectQuery.Proofs.Value.OneLine
import SelectQuery.Proofs.Statement.Params
import SelectQuery.Proofs.CommandLine.Run
import SelectQuery.Proofs.Screen.Tame
import SelectQuery.Proofs.Screen.Lexeme
import SelectQuery.Proofs.Statement.Pieces
import SelectQuery.Proofs.Statement.Plain
import SelectQuery.Proofs.Service.Check
import SelectQuery.Proofs.Editing.Identifier
import SelectQuery.Proofs.Literal.Range
import SelectQuery.Proofs.Literal.Constant
import SelectQuery.Proofs.Literal.Reformat
import SelectQuery.Proofs.Statement.Inert
import SelectQuery.Proofs.Text.Joined
import SelectQuery.Proofs.Csv
import SelectQuery.Proofs.Configuration.Words
import SelectQuery.Proofs.Literal.Characters
import SelectQuery.Proofs.Statement.SingleLine
import SelectQuery.Proofs.Editing.Attached
import SelectQuery.Proofs.Paging
import SelectQuery.Proofs.Service.Paging
import SelectQuery.Proofs.Service.Saved
import SelectQuery.Proofs.Editing.Move
