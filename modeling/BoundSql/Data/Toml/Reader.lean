import BoundSql.Data.Toml.Scalar
import BoundSql.Data.Toml.Tables
import BoundSql.Data.Toml.Token

/-! TOML texts read into trees. -/
namespace BoundSql.Toml

/-- How deep lists and inline tables may be nested. -/
def depthLimit : Nat := 80

def skipBlank : List Token → List Token
  | .blank _ :: rest => skipBlank rest
  | ts => ts

/-- Without the blanks and line ends in front. -/
def skipLines : List Token → List Token
  | .blank _ :: rest => skipLines rest
  | .newline :: rest => skipLines rest
  | ts => ts

def isKeyChar (c : Char) : Bool := c.isAlphanum || c == '_' || c == '-'

/-- One part of a key: a word of letters, digits, underscores and hyphens, or a string. -/
def keyPart? : List Token → Option (String × List Token)
  | .word cs :: rest => if cs.all isKeyChar then some (String.ofList cs, rest) else none
  | .text s false :: rest => some (s, rest)
  | _ => none

/-- The parts of a dotted key but the last, and the last, given at least as much fuel as there are
tokens. -/
def key? : Nat → List Token → Option (List String × String × List Token)
  | 0, _ => none
  | fuel + 1, ts =>
    match keyPart? ts with
    | none => none
    | some (part, rest) =>
      match skipBlank rest with
      | .dot :: rest =>
        (key? fuel (skipBlank rest)).map fun (path, last, rest) => (part :: path, last, rest)
      | rest => some ([], part, rest)

/-- The characters of words and dots in a row, and what follows them. -/
def wordRun : List Token → List Char × List Token
  | .word cs :: rest =>
    let (later, rest) := wordRun rest
    (cs ++ later, rest)
  | .dot :: rest =>
    let (later, rest) := wordRun rest
    ('.' :: later, rest)
  | ts => ([], ts)

/-- Whether a word begins with a digit, as a time does. -/
def beginsWithDigit (cs : List Char) : Bool := cs.head?.any Char.isDigit

/-- The characters of a value without brackets and quotes. A date and a time may have one space
between them. -/
def scalarRun (ts : List Token) : List Char × List Token :=
  let (cs, rest) := wordRun ts
  match rest with
  | .blank true :: later =>
    let (more, after) := wordRun later
    if beginsWithDigit more && (date? cs).any (·.2.isEmpty) then (cs ++ ' ' :: more, after)
    else (cs, rest)
  | _ => (cs, rest)

mutual

/-- A value in front of other tokens, given the levels that it may still open, and at least as
much fuel as there are tokens. -/
def value? : Nat → Nat → List Token → Option (Node × List Token)
  | 0, _, _ => none
  | fuel + 1, levels, ts =>
    match ts with
    | .text s _ :: rest => some (.text s, rest)
    | .openBracket :: rest =>
      match levels with
      | 0 => none
      | levels + 1 =>
        (items? fuel levels (skipLines rest)).map fun (items, rest) => (.list items, rest)
    | .openBrace :: rest =>
      match levels with
      | 0 => none
      | levels + 1 =>
        (entries? fuel levels [] (skipLines rest)).map fun (entries, rest) =>
          (.table (nodesOf entries), rest)
    | ts =>
      let (cs, rest) := scalarRun ts
      (scalar? cs).map (·, rest)

/-- The items of a list up to its bracket. The last may have a comma after it. -/
def items? : Nat → Nat → List Token → Option (List Node × List Token)
  | 0, _, _ => none
  | fuel + 1, levels, ts =>
    match ts with
    | .closeBracket :: rest => some ([], rest)
    | ts =>
      match value? fuel levels ts with
      | none => none
      | some (n, rest) =>
        match skipLines rest with
        | .closeBracket :: rest => some ([n], rest)
        | .comma :: rest =>
          (items? fuel levels (skipLines rest)).map fun (later, rest) => (n :: later, rest)
        | _ => none

/-- The entries of an inline table up to its brace, after those given. The last may have a comma
after it. -/
def entries? : Nat → Nat → Entries → List Token → Option (Entries × List Token)
  | 0, _, _, _ => none
  | fuel + 1, levels, done, ts =>
    match ts with
    | .closeBrace :: rest => some (done, rest)
    | ts =>
      match entry? fuel levels done ts with
      | none => none
      | some (done, rest) =>
        match skipLines rest with
        | .closeBrace :: rest => some (done, rest)
        | .comma :: rest => entries? fuel levels done (skipLines rest)
        | _ => none

/-- A key and its value, put into a table. -/
def entry? : Nat → Nat → Entries → List Token → Option (Entries × List Token)
  | 0, _, _, _ => none
  | fuel + 1, levels, done, ts =>
    match key? fuel ts with
    | some (path, key, .equals :: rest) =>
      match value? fuel levels (skipBlank rest) with
      | some (n, rest) => (insert n path key done).map (·, rest)
      | none => none
    | _ => none

end

/-- The table that a header begins, in the tables so far, and the path to it. -/
def header? (fuel : Nat) (root : Entries) :
    List Token → Option (Entries × List String × List Token)
  | .openBracket :: rest =>
    match key? fuel (skipBlank rest) with
    | some (path, key, .closeBracket :: .closeBracket :: rest) =>
      (openElement path key root).map (·, path ++ [key], rest)
    | _ => none
  | rest =>
    match key? fuel (skipBlank rest) with
    | some (path, key, .closeBracket :: rest) =>
      (openTable path key root).map (·, path ++ [key], rest)
    | _ => none

/-- Reads lines up to the end, after those that have made the given tables, of which the one at
the path is open. -/
def lines? : Nat → Entries → List String → List Token → Option Entries
  | 0, _, _, _ => none
  | fuel + 1, root, path, ts =>
    let line? := match skipLines ts with
      | [] => some (root, path, [])
      | .openBracket :: rest => header? fuel root rest
      | ts => do
        let (path', key, rest) ← key? fuel ts
        let rest ← match rest with
          | .equals :: rest => some rest
          | _ => none
        let (n, rest) ← value? fuel depthLimit (skipBlank rest)
        let root ← alterAt (insert n path' key) path root
        return (root, path, rest)
    match line? with
    | none => none
    | some (root, path, rest) =>
      match skipBlank rest with
      | [] => some root
      | .newline :: rest => lines? fuel root path rest
      | _ => none

/-- The tree of a text, if it is TOML. -/
def read? (s : String) : Option Node := do
  let ts ← tokens? s
  let root ← lines? (ts.length + 2) [] [] ts
  return .table (nodesOf root)

end BoundSql.Toml
