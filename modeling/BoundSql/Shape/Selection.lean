import BoundSql.Shape.Query

/-! A selection in a document, which holds the name of its table among its own entries. -/
namespace BoundSql.Shape

/-- Reads the name of a table and a selection from it. They share one table of entries, and all of
these have to be readable but the name's, also those that are passed over. -/
def namedSelect? (d : Dialect) : Node → Option (String × TableSelect)
  | .table entries => do
    let name ← field? ["table"] entries
    let others := entries.filter (·.1 ≠ "table")
    if !Node.entriesReadable others then none
    else return (← required text? name, ← tableSelect? d (.table others))
  | _ => none

end BoundSql.Shape
