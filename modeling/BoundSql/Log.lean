import BoundSql.Data.Json.Printer

/-! What the program notes about its work, and how a note is written. -/
namespace BoundSql

/-- How much detail a note is about, from the least on. -/
inductive Level where
  | error
  | info
  | debug
  | trace
deriving DecidableEq

namespace Level

def name : Level → String
  | error => "ERROR"
  | info => "INFO"
  | debug => "DEBUG"
  | trace => "TRACE"

def rank : Level → Nat
  | error => 0
  | info => 1
  | debug => 2
  | trace => 3

end Level

inductive Color where
  | green
  | yellow
  | blue
  | magenta
  | cyan
deriving DecidableEq

def Color.code : Color → String
  | green => "32"
  | yellow => "33"
  | blue => "34"
  | magenta => "35"
  | cyan => "36"

def Color.paint (color : Color) (wanted : Bool) (text : String) : String :=
  if wanted then "\x1b[" ++ color.code ++ "m" ++ text ++ "\x1b[0m" else text

inductive Detail where
  | text (s : String)
  | number (n : Nat)

def Detail.plain : Detail → String
  | text s => s
  | number n => Text.ofNat n

def Detail.node : Detail → Node
  | text s => .text s
  | number n => .whole n

structure Note where
  level : Level
  message : String
  details : List (String × Detail) := []

namespace Note

/-- The mark of a note's level, which notes for everybody do not have. -/
def mark (colored : Bool) (level : Level) : String :=
  match level with
  | .trace => Color.magenta.paint colored "[TRACE]" ++ " "
  | .debug => Color.blue.paint colored "[DEBUG]" ++ " "
  | .info => ""
  | .error => "[ERROR] "

/-- A note as a line for people. Details are for those who look for faults. -/
def plainLine (colored : Bool) (note : Note) : String :=
  let details :=
    if Level.info.rank < note.level.rank then
      String.join (note.details.map fun (key, detail) => " " ++ key ++ "=" ++ detail.plain)
    else ""
  mark colored note.level ++ note.message ++ details ++ "\n"

def jsonLine (note : Note) : String :=
  Json.compact (.table ([("level", .text note.level.name), ("message", .text note.message)] ++
    note.details.map fun (key, detail) => (key, detail.node))) ++ "\n"

end Note
end BoundSql
