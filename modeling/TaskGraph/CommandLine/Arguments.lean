-- SUMMARY: The arguments of the command line.
import TaskGraph.Compiler.Trigger
import TaskGraph.Layout.Basic

/-!
# Arguments

A long option takes its value from behind an equals sign or from the next argument;
a short one also from the rest of its argument, and flags may be written
together. The next argument is no value if it begins with a hyphen, unless it is
nothing else. Everything behind `--` is a path. No option may be repeated.
-/
namespace TaskGraph.CommandLine

/-- What the program is asked to do. -/
structure Arguments where
  /-- The path of the document. -/
  document : String
  launch : Launch := .manual
  catalog : Option String := none
  orientation : Orientation := .horizontal
  config : Option String := none
  indented : Bool := false
  deriving DecidableEq, Repr

/-- Options with a value. -/
inductive Opt where
  | trigger
  | catalog
  | direction
  | config
  deriving DecidableEq, Repr

/-- Options without a value. -/
inductive Flag where
  | pretty
  | help
  | version
  deriving DecidableEq, Repr

def longOpt? : String → Option (Opt ⊕ Flag)
  | "trigger" => some (.inl .trigger)
  | "catalog" => some (.inl .catalog)
  | "direction" => some (.inl .direction)
  | "config" => some (.inl .config)
  | "pretty" => some (.inr .pretty)
  | "help" => some (.inr .help)
  | "version" => some (.inr .version)
  | _ => none

def shortOpt? : Char → Option (Opt ⊕ Flag)
  | 't' => some (.inl .trigger)
  | 'c' => some (.inl .catalog)
  | 'd' => some (.inl .direction)
  | 'p' => some (.inr .pretty)
  | 'h' => some (.inr .help)
  | 'V' => some (.inr .version)
  | _ => none

/-- Why the program is not run. -/
inductive Stop where
  /-- The arguments are wrong. -/
  | usage
  | help
  | version
  deriving DecidableEq, Repr

/-- What was given so far. -/
structure Given where
  document : Option String := none
  launch : Option Launch := none
  catalog : Option String := none
  orientation : Option Orientation := none
  config : Option String := none
  indented : Bool := false
  deriving Repr

namespace Given

def launch? : String → Option Launch
  | "cron" => some .cron
  | "webhook" => some .webhook
  | "manual" => some .manual
  | _ => none

def orientation? : String → Option Orientation
  | "horizontal" => some .horizontal
  | "vertical" => some .vertical
  | _ => none

/-- A value that must be known and must not have been given before. -/
def fresh {α : Type} (old new : Option α) : Except Stop (Option α) :=
  match old, new with
  | none, some a => .ok (some a)
  | _, _ => .error .usage

def setOpt (g : Given) (value : String) : Opt → Except Stop Given
  | .trigger => do return { g with launch := ← fresh g.launch (launch? value) }
  | .catalog => do return { g with catalog := ← fresh g.catalog (some value) }
  | .direction => do return { g with orientation := ← fresh g.orientation (orientation? value) }
  | .config => do return { g with config := ← fresh g.config (some value) }

def setFlag (g : Given) : Flag → Except Stop Given
  | .pretty => if g.indented then .error .usage else .ok { g with indented := true }
  | .help => .error .help
  | .version => .error .version

def setPath (g : Given) (path : String) : Except Stop Given := do
  return { g with document := ← fresh g.document (some path) }

/-- Short options in one argument; the last one may still want a value. -/
def setShort (g : Given) : List Char → Except Stop (Given × Option Opt)
  | [] => .ok (g, none)
  | c :: cs =>
    match shortOpt? c with
    | none => .error .usage
    | some (.inr f) => do setShort (← g.setFlag f) cs
    | some (.inl o) =>
      match cs with
      | [] => .ok (g, some o)
      | '=' :: value => do return (← g.setOpt (String.ofList value) o, none)
      | value => do return (← g.setOpt (String.ofList value) o, none)

/-- A long option, behind its hyphens; it may still want a value. -/
def setLong (g : Given) (cs : List Char) : Except Stop (Given × Option Opt) :=
  let name := String.ofList (cs.takeWhile (· ≠ '='))
  match longOpt? name, cs.dropWhile (· ≠ '=') with
  | some (.inl o), _ :: value => do return (← g.setOpt (String.ofList value) o, none)
  | some (.inl o), [] => .ok (g, some o)
  | some (.inr f), [] => do return (← g.setFlag f, none)
  | _, _ => .error .usage

/-- One argument in front of `--`. -/
def set (g : Given) (arg : String) : Except Stop (Given × Option Opt) :=
  match arg.toList with
  | '-' :: '-' :: cs => g.setLong cs
  | '-' :: c :: cs => g.setShort (c :: cs)
  | _ => do return (← g.setPath arg, none)

/-- Whether an argument can be the value of the option before it. -/
def isValue (arg : String) : Bool := arg == "-" || arg.toList.head? != some '-'

/-- Takes in all arguments. With `wants` the next one is the value of an option. -/
def setAll (g : Given) (wants : Option Opt) : List String → Except Stop Given
  | [] => if wants.isSome then .error .usage else .ok g
  | arg :: args =>
    match wants with
    | some o =>
      if isValue arg then do setAll (← g.setOpt arg o) none args else .error .usage
    | none =>
      if arg = "--" then args.foldlM setPath g
      else do
        let (g, wants) ← g.set arg
        setAll g wants args

end Given

/-- The meaning of the arguments. -/
def Arguments.parse (args : List String) : Except Stop Arguments := do
  let g ← Given.setAll {} none args
  match g.document with
  | none => .error .usage
  | some document =>
    return {
      document
      launch := g.launch.getD .manual
      catalog := g.catalog
      orientation := g.orientation.getD .horizontal
      config := g.config
      indented := g.indented }

end TaskGraph.CommandLine
