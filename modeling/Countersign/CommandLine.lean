import Countersign.Engine.Perform
import Countersign.Request
import Countersign.Setup.Install
import Countersign.StepSheet

/-!
The program: it reads a setup and a file of commands, carries out one command
after the other, and prints all steps. A command that cannot be read or that
fails is told on the error output and does not stop the program.
-/

namespace Countersign

structure Arguments where
  input : String
  setup : String
  database : Option String
deriving DecidableEq, Repr

inductive Usage where
  | run (arguments : Arguments)
  | help
  | version
  | wrong
deriving DecidableEq, Repr

namespace Usage

structure Found where
  input : Option String
  setup : Option String
  database : Option String

def Found.empty : Found := ⟨none, none, none⟩

/-- An option is given at most once and has a value that is not empty. -/
def setOnce (old : Option String) (value : String) : Option (Option String) :=
  if old.isSome || value == "" then none else some (some value)

def Found.setOption (found : Found) (name value : String) : Option Found :=
  if name == "--setup" then do some { found with setup := ← setOnce found.setup value }
  else if name == "--db-path" then do some { found with database := ← setOnce found.database value }
  else none

def Found.setInput (found : Found) (value : String) : Option Found := do
  some { found with input := ← setOnce found.input value }

def Found.finish (found : Found) : Usage :=
  match found.input, found.setup with
  | some input, some setup => .run ⟨input, setup, found.database⟩
  | _, _ => .wrong

def splitValue (argument : String) : String × Option String :=
  let chars := argument.toList
  match chars.dropWhile (· ≠ '=') with
  | _ :: value => (String.ofList (chars.takeWhile (· ≠ '=')), some (String.ofList value))
  | [] => (argument, none)

def isOption (argument : String) : Bool := argument.startsWith "-" && argument != "-"

/-- Values after a lone double dash. -/
def readRest (found : Found) : List String → Usage
  | [] => found.finish
  | argument :: rest =>
    match found.setInput argument with
    | some found => readRest found rest
    | none => .wrong

def read (found : Found) (waiting : Option String) : List String → Usage
  | [] => if waiting.isSome then .wrong else found.finish
  | argument :: rest =>
    let next := fun found? => match found? with
      | some found => read found none rest
      | none => .wrong
    match waiting with
    | some name => if isOption argument then .wrong else next (found.setOption name argument)
    | none =>
      if argument == "--" then readRest found rest
      else if argument == "--help" || argument.startsWith "-h" then .help
      else if argument == "--version" || argument.startsWith "-V" then .version
      else if isOption argument then
        match splitValue argument with
        | (name, some value) => next (found.setOption name value)
        | (name, none) => read found (some name) rest
      else next (found.setInput argument)

def ofArguments (arguments : List String) : Usage := read .empty none arguments

def helpText : String :=
  "Multi-level monetary approval workflow for loans\n\n" ++
  "Usage: loan-approval --setup <SETUP> <INPUT>\n\n" ++
  "Arguments:\n" ++
  "  <INPUT>  Input workflow commands CSV file\n\n" ++
  "Options:\n" ++
  "      --setup <SETUP>      JSON file with settings, chain templates, approvers and loans\n" ++
  "      --db-path <DB_PATH>  Path to persistent database (optional). If provided, approval steps are stored in RocksDB\n" ++
  "  -h, --help               Print help\n" ++
  "  -V, --version            Print version\n"

def versionText : String := "loan-approval 0.1.0\n"

def databaseWarning : String :=
  "WARNING: Persistent storage requested via --db-path, but 'storage-rocksdb' feature is not " ++
    "enabled. Falling back to In-Memory storage."

end Usage

/-- What there is under a path. A thing can be there and yet give no bytes. -/
inductive FileView where
  | missing
  | unreadable
  | content (bytes : List UInt8)
deriving DecidableEq, Repr

structure Exit where
  code : Nat
  output : String
  errors : List String
deriving DecidableEq, Repr

namespace Program

def refused : Exit := ⟨1, "", []⟩
def misused : Exit := ⟨2, "", []⟩

/-- A sum of money that does not fit brings the program down. -/
def crashed : Exit := ⟨101, "", []⟩

def readSetup : FileView → Option Setup
  | .content bytes =>
    match Utf8.decode bytes with
    | .ok chars => Json.parseChars chars >>= Setup.ofJson?
    | .error _ => none
  | _ => none

def readCommands : FileView → Option Csv.Source
  | .missing => none
  | .unreadable => some ⟨[], true⟩
  | .content bytes => some ⟨bytes, false⟩

/-- The desk after the commands, with what was told on the way; none when a sum did
not fit. -/
def process (engine : Engine Desk) (desk : Desk) :
    List (Except RequestError Command) → Option (Desk × List String)
  | [] => some (desk, [])
  | .error error :: rest => do
    let (desk, told) ← process engine desk rest
    some (desk, s!"Error reading command: {error.message}" :: told)
  | .ok command :: rest =>
    match engine.perform command desk with
    | .ok (.scanned report) desk => do
      let (desk, told) ← process engine desk rest
      some (desk, report.failed.map (fun loan =>
        s!"Error processing command: chain construction failed for loan {loan}") ++ told)
    | .ok _ desk => process engine desk rest
    | .error (.failed error) desk => do
      let (desk, told) ← process engine desk rest
      some (desk, s!"Error processing command: {error.message}" :: told)
    | .error (.overflow _) _ => none

def engine (settings : Settings) : Engine Desk := ⟨Desk.services, settings, .epoch⟩

def printed (desk : Desk) : String := StepSheet.batchText false desk.chains.allSteps

def runCommands (setup : Setup) (desk : Desk) (source : Csv.Source) (warnings : List String) :
    Exit :=
  match process (engine setup.settings) desk (Request.all source) with
  | none => crashed
  | some (desk, told) => ⟨0, printed desk, warnings ++ told⟩

def runArguments (arguments : Arguments) (files : String → FileView) : Exit :=
  match readSetup (files arguments.setup) with
  | none => refused
  | some setup =>
    match setup.install .empty with
    | .error (.failed _) _ => refused
    | .error (.overflow _) _ => crashed
    | .ok _ desk =>
      match readCommands (files arguments.input) with
      | none => refused
      | some source =>
        runCommands setup desk source
          (if arguments.database.isSome then [Usage.databaseWarning] else [])

def run (arguments : List String) (files : String → FileView) : Exit :=
  match Usage.ofArguments arguments with
  | .run arguments => runArguments arguments files
  | .help => ⟨0, Usage.helpText, []⟩
  | .version => ⟨0, Usage.versionText, []⟩
  | .wrong => misused

end Program

end Countersign
