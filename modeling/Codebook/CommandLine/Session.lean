import Codebook.CommandLine.Arguments
import Codebook.CommandLine.Variables
import Codebook.Config.Load
import Codebook.Export.Saving
import Codebook.Run.Compilation
import Codebook.Run.Console

/-!
# Sessions

A session is one call of the program: it reads the arguments, the variables and the configuration,
compiles the workbook and saves the bundle, or shows what is in the workbook. What it prints, the files
it leaves and its ending are a function of the arguments, the variables and the files it finds.
-/

namespace Codebook.CommandLine

/-! ## Endings -/

/-- What goes wrong without the program having an answer for it. -/
inductive Fault where
  | variables (cause : VariableError)
  | config (cause : Config.Fault)
  | failure (cause : Failure)
  | save (cause : SaveError)

/-- How a session ends. -/
inductive Ending where
  /-- The program is done: 0 for success, 1 for an error, 2 for success with warnings. -/
  | done (code : Nat)
  /-- The arguments ask for help. -/
  | helped
  /-- The arguments are of no use. -/
  | misused (message : String)
  | broken (fault : Fault)

/-- A session that is over. -/
structure Session where
  ending : Ending
  /-- What was printed. -/
  output : String
  tree : FileTree
  log : IssueLog StampedIssue

namespace Session

/-- The name of the program in front of a complaint. -/
def programName : String := "listcompiler"

/-- The variable that names the configuration file. -/
def configVariable : String := "LISTCOMPILER_CONFIG"

/-- The file that holds variables. -/
def variablesFile : Path := ⟨"", [".env"]⟩

/-- The configuration file that is read when none is named. -/
def defaultConfig : Path := ⟨"", ["config", "compile.yml"]⟩

/-- What is printed for a call that asks for help. -/
def helpLines : List String :=
  [
    "usage: listcompiler [-h] [--config CONFIG] [--platform \x7bdimensions,ifield\x7d]",
    "                    [--output-dir OUTPUT_DIR] [--no-archive] [--debug]",
    "                    [--inspect-data]",
    "                    workbook",
    "",
    "Catalog workbook -> Dimensions list definitions / iField import tables",
    "",
    "positional arguments:",
    "  workbook              Source catalog workbook (.xlsx)",
    "",
    "options:",
    "  -h, --help            show this help message and exit",
    "  --config CONFIG       YAML config path",
    "  --platform \x7bdimensions,ifield\x7d",
    "                        Target platform (overrides export.platform)",
    "  --output-dir OUTPUT_DIR",
    "                        Output directory (overrides export.output_directory)",
    "  --no-archive          Write loose files instead of a zip archive",
    "  --debug               Enable debug logging",
    "  --inspect-data        Print sheet headers & first rows then exit"
  ]

/-- The complaint about a call of no use. -/
def complaint (message : String) : String :=
  programName ++ ": error: " ++ message

/-- A session that ends without having changed a file. -/
def ended (tree : FileTree) (ending : Ending) (output : String) : Session :=
  ⟨ending, output, tree, IssueLog.new IssueLog.defaultDirectory⟩

/-- A session before which something was printed. -/
def after (printed : String) (s : Session) : Session :=
  { s with output := printed ++ s.output }

/-- A session that ends with an error that is told. -/
def failed (console : Console) (tree : FileTree) (text : String) : Session :=
  ended tree (.done 1) (console.printed ⟨.error, text⟩)

/-- A session that a fault of the file system breaks. -/
def obstructed (tree : FileTree) (obstacle : Obstacle) (path : Path) : Session :=
  ended tree (.broken (.save (.file ⟨obstacle, path⟩))) ""

/-! ## Files that are read -/

/-- What is found at a path. -/
inductive Found where
  | nothing
  | obstacle (cause : Obstacle)
  | directory
  | file (content : StoredContent)

/-- Looks at a path. A name that is too long is an obstacle even to looking. -/
def look (tree : FileTree) (path : Path) : Found :=
  match tree.locate path with
  | .error .nameTooLong => .obstacle .nameTooLong
  | .error _ => .nothing
  | .ok at_ =>
    match tree.files.get? at_ with
    | some content => .file content
    | none => if tree.isDirectory at_ then .directory else .nothing

/-- The variables of a session, those of its file included. -/
def variablesIn (tree : FileTree) (surroundings : Variables) : Except VariableError Variables :=
  match look tree variablesFile with
  | .file (.single (.text text)) => surroundings.withFile text
  | _ => .ok surroundings

/-- The configuration file of a session. -/
def configPath (arguments : Arguments) (vars : Variables) : Path :=
  match arguments.config, vars.get? configVariable with
  | some path, _ => path
  | none, some text => if text.isEmpty then defaultConfig else Path.ofText text
  | none, none => defaultConfig

/-- The settings in a configuration file. -/
def readSettings : StoredContent → Except Config.Error Settings
  | .single (.text text) => Config.load .builtIn text
  | _ => .error .notYaml

/-! ## Showing a workbook -/

/-- The texts of a row as they are shown. -/
def shownRow (row : Row) : String :=
  Document.shown (.ofFields (row.filterMap fun (column, text) =>
    text.map fun t => (column, Document.ofText t)))

/-- What is shown of a sheet. -/
def shownSheet (name : String) : List Row → String
  | [] => "SHEET: " ++ name ++ " (empty)\n"
  | labels :: rows =>
    "SHEET: " ++ name ++ " header=" ++ shownRow labels ++ "\n"
      ++ String.join ((rows.take 3).map fun row => "    row= " ++ shownRow row ++ "\n")

/-- Shows the sheets of a workbook one after the other. -/
def showSheets (settings : Settings) (tree : FileTree) (workbook : Workbook) :
    List String → Session
  | [] => ended tree (.done 0) ""
  | name :: rest =>
    let offset := if name == settings.indexSheet then Number.whole 0 else settings.headerRowOffset
    match Table.load workbook name offset with
    | .error failure => ended tree (.broken (.failure failure)) ""
    | .ok rows => after (shownSheet name rows) (showSheets settings tree workbook rest)

/-- Shows what is in a workbook. -/
def inspect (settings : Settings) (tree : FileTree) (path : Path) : Session :=
  match Compilation.readWorkbook tree path fun _ => true with
  | .error (.unreadable reason) =>
    ended tree (.done 1) ("inspect: cannot read workbook: " ++ reason ++ "\n")
  | .error (.broken fault) => ended tree (.broken (.failure (.brokenWorkbook fault))) ""
  | .ok workbook => showSheets settings tree workbook (workbook.map Prod.fst)

/-! ## Compiling -/

/-- Saves the bundle of a compilation and prints the summary. -/
def save (console : Console) (settings : Settings) (arguments : Arguments) (elapsed : Number)
    (tree : FileTree) (log : IssueLog StampedIssue) (c : Compilation) (warnings : Nat) : Session :=
  let directory :=
    arguments.outputDirectory.getD (Path.ofText settings.exporting.outputDirectory)
  let saved := c.bundle.save tree directory (settings.exporting.archive && !arguments.noArchive)
  let printed := console.printedAll saved.events
  match saved.outcome with
  | .error e =>
    let told : Bool :=
      match e with
      | .file cause => cause.isSystemError
      | _ => false
    if told then
      ⟨.done 1, printed ++ console.printed ⟨.error, "write: " ++ e.message⟩, saved.tree, log⟩
    else ⟨.broken (.save e), printed, saved.tree, log⟩
  | .ok _ =>
    let summary : Summary :=
      ⟨c.market, c.bundle.platform, c.blocks.length, c.stats, warnings, c.bundle.artifacts.length,
        elapsed⟩
    ⟨.done (if warnings == 0 then 0 else 2),
      printed ++ console.printed ⟨.summary, summary.text⟩, saved.tree, log⟩

/-- Compiles a workbook, writes the issue log and saves the bundle. -/
def compile (console : Console) (settings : Settings) (arguments : Arguments) (elapsed : Number)
    (clock : String) (tree : FileTree) (path : Path) (platform : Platform) : Session :=
  let report := Compilation.run settings platform tree path
  let issues := (Compilation.issuesOf path.name report).map fun issue => StampedIssue.mk clock issue
  let pending := (IssueLog.new IssueLog.defaultDirectory).extend issues
  let ⟨flushed, log, tree⟩ := pending.flush StampedIssue.line clock tree
  after (console.printedAll report.journal.events)
    (match flushed with
    | .error e => ⟨.broken (.save (.file e)), "", tree, log⟩
    | .ok _ =>
      match report.outcome with
      | .error failure =>
        if failure.issueKind?.isSome then
          ⟨.done 1, console.printed ⟨.error, "compile: " ++ failure.message⟩, tree, log⟩
        else ⟨.broken (.failure failure), "", tree, log⟩
      | .ok c =>
        save console settings arguments elapsed tree log c report.journal.issues.length)

/-! ## Whole sessions -/

/-- Goes on once the configuration is read. -/
def withSettings (console : Console) (settings : Settings) (arguments : Arguments)
    (elapsed : Number) (clock : String) (tree : FileTree) (path : Path) : Session :=
  match look tree path with
  | .obstacle cause => obstructed tree cause path
  | .nothing => failed console tree ("workbook not found: " ++ path.text)
  | _ =>
    if arguments.inspect then inspect settings tree path
    else
      after (console.printed ⟨.info, "Compiling workbook: " ++ path.text⟩)
        (match arguments.platform, Platform.ofName settings.exporting.platform with
        | some platform, _ => compile console settings arguments elapsed clock tree path platform
        | none, .ok platform => compile console settings arguments elapsed clock tree path platform
        | none, .error failure => ended tree (.broken (.failure failure)) "")

/-- Goes on once the arguments are read. -/
def withArguments (console : Console) (arguments : Arguments) (vars : Variables)
    (elapsed : Number) (clock : String) (tree : FileTree) (workbook : Path) : Session :=
  let path := configPath arguments vars
  match look tree path with
  | .obstacle cause => obstructed tree cause path
  | .directory => obstructed tree .isDirectory path
  | .nothing => failed console tree ("config: " ++ (Config.Error.fileNotFound path.text).message)
  | .file content =>
    match readSettings content with
    | .error (.fault cause) => ended tree (.broken (.config cause)) ""
    | .error e => failed console tree ("config: " ++ e.message)
    | .ok settings => withSettings console settings arguments elapsed clock tree workbook

/-- The session of a call. The duration that the summary tells and the time that the issue log tells are
given from outside. -/
def run (args : List String) (surroundings : Variables) (tree : FileTree) (elapsed : Number)
    (clock : String) : Session :=
  let console := Console.initial.ready
  match Arguments.parse args with
  | .error .help => ended tree .helped (String.join (helpLines.map (· ++ "\n")))
  | .error (.misuse message) => ended tree (.misused message) ""
  | .ok arguments =>
    match variablesIn tree surroundings with
    | .error cause => ended tree (.broken (.variables cause)) ""
    | .ok vars =>
      let console := if arguments.debug then console.withLevel .debug else console
      after (if arguments.debug then console.printed ⟨.debug, "debug mode enabled"⟩ else "")
        (withArguments console arguments vars elapsed clock tree (arguments.workbook.getD .here))

end Session

end Codebook.CommandLine
