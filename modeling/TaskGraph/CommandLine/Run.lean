-- SUMMARY: The program behind the command line: documents in, graphs with their layouts out.
import TaskGraph.CommandLine.Arguments
import TaskGraph.Compiler.Basic
import TaskGraph.Config
import TaskGraph.Graph.Json
import TaskGraph.Json.Writer
import TaskGraph.Layout.Json

/-!
# The program

Files are read in a fixed order, the document, the configuration and the catalog,
and the first one that fails ends the run; only then is the document compiled.
How files are read is left open, so the program can be run on any set of them.
-/
namespace TaskGraph.CommandLine

/-- Why a file has no text. -/
inductive ReadError where
  | missing
  | notText
  | other (reason : String)
  deriving DecidableEq, Repr

def ReadError.message : ReadError → String
  | .missing => "No such file or directory (os error 2)"
  | .notText => "stream did not contain valid UTF-8"
  | .other reason => reason

inductive Failure where
  | document (path : String) (e : ReadError)
  | config (e : ConfigError)
  | catalog (path : String) (e : ReadError)
  | malformedCatalog (detail : String)
  | compilation (e : DocumentError)
  deriving DecidableEq, Repr

def Failure.message : Failure → String
  | .document path e => s!"Could not read DSL file '{path}': {e.message}"
  | .config e => s!"Failed to load config: {e.message}"
  | .catalog path e => s!"Could not read catalog '{path}': {e.message}"
  | .malformedCatalog detail => s!"Failed to parse catalog JSON: {detail}"
  | .compilation e => s!"Compilation failed: {e.message}"

/-- How a run ends. -/
inductive Outcome where
  | output (text : String)
  | failed (e : Failure)
  /-- The arguments are wrong. -/
  | misused
  deriving DecidableEq, Repr

def Outcome.exitCode : Outcome → UInt32
  | .output _ => 0
  | .failed _ => 1
  | .misused => 2

def usage : String :=
  "Usage: task-graph [OPTIONS] <DSL_PATH>\n\n" ++
  "Options:\n" ++
  "  -t, --trigger <cron|webhook|manual>       what launches a run [default: manual]\n" ++
  "  -c, --catalog <FILE>                      task catalog, for icons\n" ++
  "  -d, --direction <horizontal|vertical>     direction of ranks [default: horizontal]\n" ++
  "      --config <FILE>                       viewer configuration\n" ++
  "  -p, --pretty                              indent the output\n" ++
  "  -h, --help                                print this help\n" ++
  "  -V, --version                             print the version\n"

def version : String := "task-graph 0.1.0\n"

/-- The text that a graph is printed as. -/
def report (a : Arguments) (g : Graph) : String :=
  let layout := Layout.choose g.origin g.nodes.length a.orientation
  let style : Json.Style := if a.indented then .indented else .compact
  (Json.Value.record [("graph", g.toJson), ("layout", layout.toJson)]).render style ++ "\n"

variable {m : Type → Type} [Monad m]

/-- The configuration at a path. -/
def loadConfig (read : String → m (Except ReadError String)) (path : String) :
    ExceptT Failure m Config := do
  match ← read path with
  | .error e => throw (.config (.unreadable path e.message))
  | .ok text =>
    match Config.parse text with
    | .error e => throw (.config e)
    | .ok config => return config

/-- The catalog at a path. -/
def loadCatalog (read : String → m (Except ReadError String)) (path : String) :
    ExceptT Failure m Catalog := do
  match ← read path with
  | .error e => throw (.catalog path e)
  | .ok text =>
    match (Json.Value.parse? text).bind Catalog.ofJson? with
    | none => throw (.malformedCatalog "not a list of catalog entries")
    | some catalog => return catalog

/-- Reads the files, compiles the document and prints its graph. -/
def execute (read : String → m (Except ReadError String)) (a : Arguments) :
    ExceptT Failure m String := do
  match ← read a.document with
  | .error e => throw (.document a.document e)
  | .ok text =>
    let config ← match a.config with
      | some path => loadConfig read path
      | none => pure {}
    let catalog ← match a.catalog with
      | some path => some <$> loadCatalog read path
      | none => pure none
    let compiler : Compiler := { catalog, shellIcon := config.shellIcon }
    match compiler.compileText (some a.launch) (some text) with
    | .error e => throw (.compilation e)
    | .ok g => return report a g

/-- Runs the program on its arguments. -/
def run (read : String → m (Except ReadError String)) (args : List String) : m Outcome := do
  match Arguments.parse args with
  | .error .usage => return .misused
  | .error .help => return .output usage
  | .error .version => return .output version
  | .ok a =>
    match ← (execute read a).run with
    | .ok text => return .output text
    | .error e => return .failed e

end TaskGraph.CommandLine
