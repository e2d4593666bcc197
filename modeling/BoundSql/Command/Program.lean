import BoundSql.Command.Run

/-! The program as a whole, from its arguments to its exit status. -/
namespace BoundSql

inductive Ending where
  | done
  | failed (failure : Failure)
  /-- The arguments do not fit the program. -/
  | refused

namespace Ending

def status : Ending → UInt8
  | done => 0
  | failed _ => 1
  | refused => 2

/-- What the program has to say at its end to whoever runs it. -/
def text : Ending → String
  | done => ""
  | failed failure =>
    failure.code ++ "\n\n  " ++ failure.message ++ "\n" ++
      match failure.advice? with
      | none => ""
      | some advice => "  help: " ++ advice ++ "\n"
  | refused => "error: invalid arguments\n\nFor more information, try '--help'.\n"

end Ending

namespace Program

def versionText : String := "strata-cli 0.1.0\n"

def helpText : String :=
  "Compile query documents into parameterized SQL from the command line\n\n" ++
  "Usage: strata [OPTIONS] <COMMAND>\n\n" ++
  "Commands:\n" ++
  "  compile <FILE> [--raw] [-b, --batch-size <BATCH_SIZE>]\n" ++
  "             Compile a query document into SQL statements and their arguments\n" ++
  "  config     Print the effective configuration\n" ++
  "  defconfig [-f, --force]\n" ++
  "             Write the default configuration file\n\n" ++
  "Options:\n" ++
  "  -v, --verbose...       Set output verbosity\n" ++
  "  -q, --quiet            Suppress outputs\n" ++
  "  -j, --json             Output as json\n" ++
  "      --no-color         Disable colors in output\n" ++
  "  -c, --config <CONFIG>  Provide custom config file\n" ++
  "  -h, --help             Print help\n" ++
  "  -V, --version          Print version\n"

def run {m : Type → Type} [Monad m] (machine : Machine m) (args : List String) : m Ending := do
  match Command.parse args with
  | .error .usage => return .refused
  | .error .help =>
    machine.print helpText
    return .done
  | .error .version =>
    machine.print versionText
    return .done
  | .ok c =>
    match ← c.run machine with
    | .error failure => return .failed failure
    | .ok () => return .done

end Program
end BoundSql
