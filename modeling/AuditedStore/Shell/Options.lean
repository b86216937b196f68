import AuditedStore.Text

/-!
# Command lines

The shell takes two options with values, a flag and a request for help.  An option may be
given once, and its value stands in the next argument or after an equals sign.
-/

namespace AuditedStore.Shell

/-- The options of the shell. -/
structure Options where
  connection : String := "sled://scribe_data"
  database : String := "scribetest"
  /-- Whether store commands are logged. -/
  log : Bool := false
deriving DecidableEq, Repr

/-- What a command line asks for. -/
inductive Invocation where
  | start (options : Options)
  | help
  | invalid
deriving DecidableEq, Repr

/-- The options that a command line has given so far. -/
structure Given where
  connection : Option String := none
  database : Option String := none
  log : Bool := false

namespace Given

/-- Notes an option with a value, unless there is no such option or it has been given. -/
def set? (g : Given) (name value : String) : Option Given :=
  match name with
  | "--connection" => if g.connection.isSome then none else some { g with connection := value }
  | "--database" => if g.database.isSome then none else some { g with database := value }
  | _ => none

/-- Notes the flag, unless it has been given. -/
def setLog? (g : Given) : Option Given := if g.log then none else some { g with log := true }

/-- The options, where those that are not given have their defaults. -/
def options (g : Given) : Options where
  connection := g.connection.getD ({} : Options).connection
  database := g.database.getD ({} : Options).database
  log := g.log

end Given

namespace Invocation

/-- Whether an argument asks for help. -/
def isHelp (arg : String) : Bool :=
  arg == "--help" || (Text.beginsWith arg "-h" && !Text.beginsWith arg "--")

/-- Whether an argument cannot be the value of an option. -/
def isOption (arg : String) : Bool := Text.beginsWith arg "-" && arg != "-"

/-- Reads arguments after some that have given options.  The mark `--` may only come last,
since there are no other arguments than options. -/
def readFrom (g : Given) : List String → Invocation
  | [] => .start g.options
  | arg :: args =>
    if arg = "--" then if args.isEmpty then .start g.options else .invalid
    else if isHelp arg then .help
    else if arg = "--log" then
      match g.setLog? with
      | some g => readFrom g args
      | none => .invalid
    else match Text.cut "=" arg with
      | some (name, value) =>
        match g.set? name value with
        | some g => readFrom g args
        | none => .invalid
      | none =>
        match args with
        | [] => .invalid
        | value :: args =>
          if isOption value then .invalid
          else match g.set? arg value with
            | some g => readFrom g args
            | none => .invalid

/-- Reads a command line. -/
def read (args : List String) : Invocation := readFrom {} args

end Invocation

/-- The text that explains the command line. -/
def usage : List String :=
  [ "Interactive example shell for the scribe data layer",
    "",
    "Usage: scribe-db [OPTIONS]",
    "",
    "Options:",
    "      --connection <CONNECTION>  `memory://<name>` or `sled://<directory>` [default: sled://scribe_data]",
    "      --database <DATABASE>      [default: scribetest]",
    "      --log                      Trace every store command",
    "  -h, --help                     Print help" ]

end AuditedStore.Shell
