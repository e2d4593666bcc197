import BoundSql.Change.Insert
import BoundSql.Change.Row
import BoundSql.Change.Update
import BoundSql.Command.Arguments
import BoundSql.Command.Failure
import BoundSql.Command.Program
import BoundSql.Command.Run
import BoundSql.Condition.Basic
import BoundSql.Condition.Column
import BoundSql.Condition.Where
import BoundSql.Data.Json.Numeral
import BoundSql.Data.Json.Printer
import BoundSql.Data.Json.Reader
import BoundSql.Data.Json.Token
import BoundSql.Data.Node
import BoundSql.Data.Toml.Reader
import BoundSql.Data.Toml.Scalar
import BoundSql.Data.Toml.Tables
import BoundSql.Data.Toml.Token
import BoundSql.Document.Basic
import BoundSql.Document.Notes
import BoundSql.Document.Reading
import BoundSql.Fault
import BoundSql.Log
import BoundSql.Main
import BoundSql.Name
import BoundSql.Number.Binary64
import BoundSql.Number.Layout
import BoundSql.Number.Power
import BoundSql.Number.Reading
import BoundSql.Number.Shortest
import BoundSql.Operator
import BoundSql.Options
import BoundSql.Page
import BoundSql.Proofs.Alike.Condition
import BoundSql.Proofs.Alike.Draft
import BoundSql.Proofs.Alike.Insert
import BoundSql.Proofs.Batch.Batched
import BoundSql.Proofs.Batch.Chunk
import BoundSql.Proofs.Batch.Homogeneous
import BoundSql.Proofs.Batch.Insert
import BoundSql.Proofs.Batch.Literal
import BoundSql.Proofs.Batch.Row
import BoundSql.Proofs.Blank
import BoundSql.Proofs.Built
import BoundSql.Proofs.Checked.Condition
import BoundSql.Proofs.Checked.Emission
import BoundSql.Proofs.Checked.Query
import BoundSql.Proofs.Checked.Screen
import BoundSql.Proofs.Command.Compile
import BoundSql.Proofs.Command.Defaults
import BoundSql.Proofs.Command.Reports
import BoundSql.Proofs.Command.Shown
import BoundSql.Proofs.Condition
import BoundSql.Proofs.Count
import BoundSql.Proofs.Count.InStep
import BoundSql.Proofs.Digits
import BoundSql.Proofs.Draft
import BoundSql.Proofs.Filter.Chain
import BoundSql.Proofs.Filter.Combined
import BoundSql.Proofs.Filter.Narrowed
import BoundSql.Proofs.Json.Laid
import BoundSql.Proofs.Json.Nesting
import BoundSql.Proofs.Json.Numeral
import BoundSql.Proofs.Json.Printed
import BoundSql.Proofs.Json.Reread
import BoundSql.Proofs.Meaning.Fragment
import BoundSql.Proofs.Meaning.Reader
import BoundSql.Proofs.Name
import BoundSql.Proofs.Name.Grammar
import BoundSql.Proofs.Node
import BoundSql.Proofs.NormalForm.Basic
import BoundSql.Proofs.NormalForm.Readable
import BoundSql.Proofs.Opening
import BoundSql.Proofs.Operator
import BoundSql.Proofs.Page.Ending
import BoundSql.Proofs.Page.Paged
import BoundSql.Proofs.Page.Tiling
import BoundSql.Proofs.Page.Uniform
import BoundSql.Proofs.Pattern
import BoundSql.Proofs.Placeholder.Filled
import BoundSql.Proofs.Placeholder.Lexeme
import BoundSql.Proofs.Placeholder.Rendering
import BoundSql.Proofs.Placeholder.Scan
import BoundSql.Proofs.Placeholder.Spliced
import BoundSql.Proofs.Placeholder.Written
import BoundSql.Proofs.Query
import BoundSql.Proofs.Regex
import BoundSql.Proofs.Reread.Insert
import BoundSql.Proofs.Reread.Literal
import BoundSql.Proofs.Reread.Reader
import BoundSql.Proofs.Selection
import BoundSql.Proofs.Settings.Annotated
import BoundSql.Proofs.Settings.Ledger
import BoundSql.Proofs.Settings.Load
import BoundSql.Proofs.Settings.Saved
import BoundSql.Proofs.Shape.Change
import BoundSql.Proofs.Shape.Condition
import BoundSql.Proofs.Shape.Decoded
import BoundSql.Proofs.Shape.Fields
import BoundSql.Proofs.Shape.Filtered
import BoundSql.Proofs.Shape.Held
import BoundSql.Proofs.Shape.Nested
import BoundSql.Proofs.Shape.Query
import BoundSql.Proofs.Split
import BoundSql.Proofs.Storage.Absent
import BoundSql.Proofs.Storage.Files
import BoundSql.Proofs.Storage.Path
import BoundSql.Proofs.Tame.Compiled
import BoundSql.Proofs.Tame.Text
import BoundSql.Proofs.Toml.Lines
import BoundSql.Proofs.Toml.Numeral
import BoundSql.Proofs.Words
import BoundSql.Query.Basic
import BoundSql.Query.Join
import BoundSql.Query.Select
import BoundSql.Query.TableSelect
import BoundSql.Settings.Basic
import BoundSql.Settings.Session
import BoundSql.Settings.Store
import BoundSql.Shape.Change
import BoundSql.Shape.Condition
import BoundSql.Shape.Fields
import BoundSql.Shape.Query
import BoundSql.Shape.Selection
import BoundSql.Shape.Settings
import BoundSql.Statement
import BoundSql.Storage.Files
import BoundSql.Storage.Machine
import BoundSql.Storage.Path
import BoundSql.Text.Blank
import BoundSql.Text.Columns
import BoundSql.Text.Digits
import BoundSql.Text.Grid
import BoundSql.Text.Hidden
import BoundSql.Text.Quoted
import BoundSql.Text.Regex
import BoundSql.Text.Split
import BoundSql.Value
