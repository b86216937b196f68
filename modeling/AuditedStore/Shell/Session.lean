import AuditedStore.Manager
import AuditedStore.Repository
import AuditedStore.Shell.Item
import AuditedStore.Shell.Options

/-!
# Sessions of the shell

A session has an open repository and answers lines of input.  A line is a command and its
words; each answer but the last ends with a rule.  Blank lines are passed over, and unknown
commands do nothing.
-/

namespace AuditedStore.Shell

/-- The state of a session. -/
structure Session where
  registry : Registry
  repository : Repository
  generator : ObjectId.Generator

/-- Lines, each with its end. -/
def unlines (lines : List String) : String := String.join (lines.map (· ++ "\n"))

/-- The lines that a session starts with. -/
def banner : String := unlines ["Scribe", "Document Data Example"]

/-- The line between answers. -/
def rule : String := unlines [String.ofList (List.replicate 31 '-')]

/-- The lines that explain the commands. -/
def commandHelp : String :=
  unlines
    [ "Help",
      "help - shows the application help",
      "conn <connection string> <database> - opens a new connection with the connection string and database sent",
      "add <name> - creates a new test item with the name sent",
      "list - lists all the test items in the database",
      "clear - clears the console screen",
      "quit - closes application" ]

/-- The characters that clear the screen and go to its top. -/
def clearScreen : String := "\x1b[2J\x1b[1;1H"

/-- A command of the shell. -/
inductive ShellCommand where
  | help
  | connect (connection database : String)
  /-- A connection without enough words. -/
  | connectUsage
  /-- Adds an item, which is named after the day if it has no name. -/
  | add (name : Option String)
  | list
  | clear
  | quit
  | unknown
deriving DecidableEq, Repr

/-- Reads a line; a blank one has no command. -/
def ShellCommand.read? (line : String) : Option ShellCommand :=
  match Text.words line with
  | [] => none
  | "help" :: _ => some help
  | "conn" :: connection :: database :: _ => some (connect connection database)
  | "conn" :: _ => some connectUsage
  | ["add"] => some (add none)
  | "add" :: words => some (add (" ".intercalate words))
  | "list" :: _ => some list
  | "clear" :: _ => some clear
  | "quit" :: _ => some quit
  | _ => some unknown

/-- How the items are managed. -/
def itemSettings : ManagerSettings :=
  { ManagerSettings.ofCollection "TestItems" with auditUser := "test_user" }

/-- The lines that announce a connection. -/
def connectionLines (settings : RepositorySettings) : String :=
  unlines
    ["Connection String: " ++ settings.connectionString, "Database: " ++ settings.databaseName]

/-- The line that tells of an error. -/
def exceptionLine (message : String) : String := unlines ["Exception: " ++ message]

/-- The text of an error while a repository is opened. -/
def openFailure (e : Error) : String := "failed to open repository: " ++ e.message

/-- The text of a date, if there is one. -/
def dateText (date : Option Instant) : String := (date.map Instant.toOffsetText).getD ""

/-- The text of a Boolean. -/
def boolText (b : Bool) : String := if b then "true" else "false"

/-- The text of the id of a record. -/
def idText (b : BaseFields) : String := (b.id.map ObjectId.toText).getD ""

/-- The lines that show an item. -/
def itemLines (i : Item) : String :=
  let b := i.base
  rule ++ unlines
    [ "Id: " ++ idText b,
      "Name: " ++ i.name,
      "Deleted: " ++ boolText b.deleted,
      "Archived: " ++ boolText b.archived,
      "CreatedBy: " ++ b.createdBy.getD "",
      "CreatedDate: " ++ dateText b.createdDate,
      "UpdatedBy: " ++ b.updatedBy.getD "",
      "UpdatedDate: " ++ dateText b.updatedDate,
      "Version: " ++ Numeral.ofInt b.version.toInt ]

namespace Session

/-- The manager of the items. -/
def manager (s : Session) : Manager := Manager.make Item s.repository.settings itemSettings

/-- Runs a program of the manager on the store of the open repository. -/
def runManager (s : Session) (now : Instant) (p : ManagerM EmbeddedStore α) :
    Except Error α × Session :=
  let location := s.repository.location
  let (answer, c) := p.exec ⟨s.registry.store location, s.generator, now⟩
  (answer, { s with registry := s.registry.setStore location c.store, generator := c.generator })

/-- The name of an item that is given none. -/
def defaultName (now : Instant) : String := "New Item: " ++ Instant.dateText now.date

/-- Adds an item and gives its id. -/
def add (s : Session) (now : Instant) (name : Option String) : String × Session :=
  let item := Item.named (name.getD (defaultName now))
  match s.runManager now (s.manager.create item) with
  | (.ok saved, s) => (unlines ["UpsertedId: " ++ idText saved.base], s)
  | (.error e, s) => (exceptionLine e.message, s)

/-- Lists the items. -/
def list (s : Session) (now : Instant) : String × Session :=
  match s.runManager now (s.manager.search Item {}) with
  | (.ok found, s) =>
    (unlines ["TotalCount: " ++ Numeral.ofNat found.totalCount]
      ++ String.join (found.results.map itemLines), s)
  | (.error e, s) => (exceptionLine e.message, s)

/-- Opens another repository; the session keeps its own if that fails. -/
def connect (s : Session) (connection database : String) : String × Session :=
  let settings : RepositorySettings :=
    { connectionString := connection, databaseName := database, log := s.repository.settings.log }
  match Repository.ofSettings settings with
  | .ok r => (connectionLines settings, { s with repository := r })
  | .error e => (connectionLines settings ++ exceptionLine (openFailure e), s)

/-- Answers a line; the session is absent after the command to quit. -/
def answer (s : Session) (now : Instant) (line : String) : String × Option Session :=
  let done (result : String × Session) : String × Option Session :=
    (result.1 ++ rule, some result.2)
  match ShellCommand.read? line with
  | none => ("", some s)
  | some .help => done (commandHelp, s)
  | some (.connect connection database) => done (s.connect connection database)
  | some .connectUsage => done (unlines ["usage: conn <connection string> <database>"], s)
  | some (.add name) => done (s.add now name)
  | some .list => done (s.list now)
  | some .clear => done (clearScreen ++ banner, s)
  | some .quit => ("", none)
  | some .unknown => done ("", s)

/-- Starts a session: opens the repository and makes the indexes of the items.  The session
is absent if the repository cannot be opened. -/
def start (o : Options) (generator : ObjectId.Generator) (now : Instant) :
    String × Except Error Session :=
  let settings : RepositorySettings :=
    { connectionString := o.connection, databaseName := o.database, log := o.log }
  (banner ++ connectionLines settings,
    (Repository.ofSettings settings).map fun r =>
      let s : Session := ⟨[], r, generator⟩
      (s.runManager now (s.manager.ensureIndexes (Entity.indexedFields Item))).2)

/-- Answers lines in turn, where `clock` tells the time at each. -/
def answerAll (s : Session) (clock : Nat → Instant) : (turn : Nat) → List String → String
  | _, [] => ""
  | turn, line :: lines =>
    match s.answer (clock turn) line with
    | (text, some s) => text ++ s.answerAll clock (turn + 1) lines
    | (text, none) => text

end Session

/-- What a run of the shell prints, and its exit code. -/
structure Outcome where
  output : String
  exitCode : Nat
deriving DecidableEq, Repr

/-- The exit code of a run that cannot start. -/
def failureCode : Nat := 1

/-- The exit code of a run with a wrong command line. -/
def misuseCode : Nat := 2

/-- Runs the shell on the lines of its input. -/
def run (args : List String) (lines : List String) (generator : ObjectId.Generator)
    (clock : Nat → Instant) : Outcome :=
  match Invocation.read args with
  | .invalid => ⟨"", misuseCode⟩
  | .help => ⟨unlines usage, 0⟩
  | .start o =>
    match Session.start o generator (clock 0) with
    | (text, .ok s) => ⟨text ++ s.answerAll clock 1 lines, 0⟩
    | (text, .error _) => ⟨text, failureCode⟩

end AuditedStore.Shell
