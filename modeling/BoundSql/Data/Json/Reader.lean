import BoundSql.Data.Json.Token

/-! JSON texts read into trees. The lists and tables that are open at some point are kept on a
stack, the innermost first. -/
namespace BoundSql.Json

/-- Lists and tables deeper than this are unreadable. -/
def depthLimit : Nat := 127

/-- A list or table that is not complete, its contents so far in reverse. -/
inductive Frame where
  | list (items : List Node)
  /-- A table, with the key whose value comes next, and whether all keys so far are readable. -/
  | table (entries : List (String × Node)) (key : String) (sound : Bool)

/-- What may come next. -/
inductive Expected where
  | value
  | valueOrEnd
  | key
  | keyOrEnd
  | colon
  | commaOrEnd
  | nothing (n : Node)

/-- Puts a complete piece where it belongs. -/
def place (n : Node) : List Frame → Expected × List Frame
  | [] => (.nothing n, [])
  | .list items :: frames => (.commaOrEnd, .list (n :: items) :: frames)
  | .table entries key sound :: frames =>
    (.commaOrEnd, .table ((key, n) :: entries) key sound :: frames)

/-- Closes the innermost list or table and puts it where it belongs. -/
def close (n : Node) (readable : Bool) (frames : List Frame) : Expected × List Frame :=
  place (if readable && frames.length < depthLimit then n else .unreadable) frames

/-- Goes on by a token. -/
def advance? : Expected → List Frame → Token → Option (Expected × List Frame)
  | .value, frames, .openList | .valueOrEnd, frames, .openList =>
    some (.valueOrEnd, .list [] :: frames)
  | .value, frames, .openTable | .valueOrEnd, frames, .openTable =>
    some (.keyOrEnd, .table [] "" true :: frames)
  | .value, frames, .text s | .valueOrEnd, frames, .text s =>
    some (place (match s with | some s => .text s | none => .unreadable) frames)
  | .value, frames, .scalar n | .valueOrEnd, frames, .scalar n => some (place n frames)
  | .valueOrEnd, .list items :: frames, .closeList
  | .commaOrEnd, .list items :: frames, .closeList =>
    some (close (.list items.reverse) true frames)
  | .key, .table entries _ sound :: frames, .text s
  | .keyOrEnd, .table entries _ sound :: frames, .text s =>
    some (.colon, .table entries (s.getD "") (sound && s.isSome) :: frames)
  | .keyOrEnd, .table entries _ sound :: frames, .closeTable
  | .commaOrEnd, .table entries _ sound :: frames, .closeTable =>
    some (close (.table entries.reverse) sound frames)
  | .colon, frames, .colon => some (.value, frames)
  | .commaOrEnd, .list items :: frames, .comma => some (.value, .list items :: frames)
  | .commaOrEnd, .table entries key sound :: frames, .comma =>
    some (.key, .table entries key sound :: frames)
  | _, _, _ => none

def readFrom (expected : Expected) (frames : List Frame) : List Token → Option Node
  | [] =>
    match expected with
    | .nothing n => some n
    | _ => none
  | t :: rest =>
    match advance? expected frames t with
    | some (expected, frames) => readFrom expected frames rest
    | none => none

/-- The tree of a text, if it is JSON. -/
def read? (s : String) : Option Node := (tokens? s).bind (readFrom .value [])

end BoundSql.Json
