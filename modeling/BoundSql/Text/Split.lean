/-! Texts cut at a dividing character. -/
namespace BoundSql.Text

/-- The piece before the first divider, and the later pieces. -/
def pieces (divider : Char) : List Char → List Char × List (List Char)
  | [] => ([], [])
  | c :: rest =>
    let (piece, later) := pieces divider rest
    if c = divider then ([], piece :: later) else (c :: piece, later)

/-- The pieces of a text between dividers, one more than there are dividers. -/
def split (divider : Char) (s : String) : List String :=
  let (piece, later) := pieces divider s.toList
  (piece :: later).map String.ofList

/-- The pieces of a text up to a number of them. The last one is what is left, dividers and all. -/
def splitUpTo (divider : Char) : Nat → List Char → List (List Char)
  | 0, _ => []
  | 1, cs => [cs]
  | count + 2, cs =>
    match cs.dropWhile (· != divider) with
    | [] => [cs]
    | _ :: rest => cs.takeWhile (· != divider) :: splitUpTo divider (count + 1) rest

/-- Without a carriage return at the end. -/
def withoutReturn (cs : List Char) : List Char :=
  if cs.getLast? = some '\r' then cs.dropLast else cs

/-- The lines among the pieces between line ends. What follows the last line end is a line only if
there is anything. -/
def linesAmong : List (List Char) → List (List Char)
  | [] => []
  | [last] => if last.isEmpty then [] else [last]
  | piece :: later => withoutReturn piece :: linesAmong later

/-- The lines of a text. -/
def lines (s : String) : List String :=
  let (piece, later) := pieces '\n' s.toList
  (linesAmong (piece :: later)).map String.ofList

end BoundSql.Text
