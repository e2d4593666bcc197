/-! White space, and what depends on it: a text trimmed at its ends, the words of a text, and
the content of an optional text. -/
namespace BoundSql.Text

/-- The white space characters, twenty-five in all. -/
def isBlank (c : Char) : Bool :=
  let n := c.toNat
  (0x9 ≤ n && n ≤ 0xD) || n == 0x20 || n == 0x85 || n == 0xA0 || n == 0x1680 ||
    (0x2000 ≤ n && n ≤ 0x200A) || n == 0x2028 || n == 0x2029 || n == 0x202F || n == 0x205F ||
    n == 0x3000

/-- Characters without the white space before the first and after the last other one. -/
def trimmed (cs : List Char) : List Char :=
  ((cs.dropWhile isBlank).reverse.dropWhile isBlank).reverse

/-- A text without the white space at its ends. -/
def trim (s : String) : String := String.ofList (trimmed s.toList)

/-- The trimmed text, when there is one and it is not blank. -/
def content? (s : Option String) : Option String :=
  (s.map trim).filter (· ≠ "")

/-- The first word, as far as it goes before the next white space, and the later words. -/
def cutWords : List Char → List Char × List (List Char)
  | [] => ([], [])
  | c :: rest =>
    let (word, later) := cutWords rest
    if isBlank c then ([], if word.isEmpty then later else word :: later) else (c :: word, later)

/-- The longest runs of characters that are not white space, in order. -/
def words (cs : List Char) : List (List Char) :=
  let (word, later) := cutWords cs
  if word.isEmpty then later else word :: later

/-- Equality of texts up to the case of ASCII letters. -/
def sameLetters (a b : String) : Bool :=
  a.toList.map Char.toUpper == b.toList.map Char.toUpper

end BoundSql.Text
