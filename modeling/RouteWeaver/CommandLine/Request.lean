/-!
What a command line asks for. Options may stand before and after the path of the model; behind
`--` everything is a path. Arguments are read in order, and the first that tells what to do ends
the reading.
-/

namespace RouteWeaver.CommandLine

structure Generate where
  model : String
  /-- The file to write; standard output without one. -/
  output : Option String
  /-- Takes the place of the runtime path of the model. -/
  runtimeCrate : Option String
  denyUnresolved : Bool
deriving DecidableEq, Repr, Inhabited

inductive Command where
  | generate (options : Generate)
  | check (model : String)
deriving DecidableEq, Repr, Inhabited

inductive Request where
  | run (verbosity : Nat) (command : Command)
  | version
  | help
  | wrong
deriving DecidableEq, Repr, Inhabited

inductive Switch where
  | verbose
  | output
  | runtimeCrate
  | denyUnresolved
  | version
  | help
deriving DecidableEq, Repr, Inhabited

namespace Switch

def long : Switch → String
  | verbose => "verbose"
  | output => "output"
  | runtimeCrate => "runtime-crate"
  | denyUnresolved => "deny-unresolved"
  | version => "version"
  | help => "help"

def short? : Switch → Option Char
  | verbose => some 'v'
  | output => some 'o'
  | version => some 'V'
  | help => some 'h'
  | runtimeCrate | denyUnresolved => none

def takesValue : Switch → Bool
  | output | runtimeCrate => true
  | verbose | denyUnresolved | version | help => false

def beforeCommand : List Switch := [verbose, version, help]

def ofGenerate : List Switch := [verbose, output, runtimeCrate, denyUnresolved, help]

def ofCheck : List Switch := [verbose, help]

end Switch

structure Given where
  verbosity : Nat := 0
  model : Option String := none
  output : Option String := none
  runtimeCrate : Option String := none
  denyUnresolved : Bool := false
deriving DecidableEq, Repr, Inhabited

abbrev Reading := Except Request

namespace Given

/-- A switch without a value. All but the verbosity may be given only once. -/
def flag (g : Given) : Switch → Reading Given
  | .verbose => return { g with verbosity := g.verbosity + 1 }
  | .denyUnresolved =>
    if g.denyUnresolved then throw .wrong else return { g with denyUnresolved := true }
  | .version => throw .version
  | .help => throw .help
  | .output | .runtimeCrate => throw .wrong

/-- A switch with a value. A path is not empty. -/
def set (g : Given) (s : Switch) (value : String) : Reading Given :=
  match s with
  | .output =>
    if g.output.isSome || value = "" then throw .wrong else return { g with output := some value }
  | .runtimeCrate =>
    if g.runtimeCrate.isSome then throw .wrong else return { g with runtimeCrate := some value }
  | .verbose | .denyUnresolved | .version | .help => throw .wrong

def place (g : Given) (path : String) : Reading Given :=
  if g.model.isSome || path = "" then throw .wrong else return { g with model := some path }

end Given

/-- An argument that can be no value: more than one dash, or a dash and something behind it. -/
def isSwitch (word : String) : Bool :=
  match word.toList with
  | '-' :: _ :: _ => true
  | _ => false

/-- A value behind the letter of its switch; an equals sign may stand between them. -/
def attached : List Char → String
  | '=' :: value => String.ofList value
  | value => String.ofList value

def readLetters (known : List Switch) : List Char → Given → Reading (Given × Option Switch)
  | [], g => return (g, none)
  | c :: rest, g =>
    match known.find? (·.short? = some c) with
    | none => throw .wrong
    | some s =>
      if !s.takesValue then do readLetters known rest (← g.flag s)
      else if rest.isEmpty then return (g, some s)
      else do return (← g.set s (attached rest), none)

def readName (known : List Switch) (name : List Char) (value : Option (List Char)) (g : Given) :
    Reading (Given × Option Switch) :=
  match known.find? (·.long = String.ofList name), value with
  | none, _ => throw .wrong
  | some s, none => if s.takesValue then return (g, some s) else do return (← g.flag s, none)
  | some s, some v =>
    if s.takesValue then do return (← g.set s (String.ofList v), none) else throw .wrong

def readWord (known : List Switch) (word : String) (g : Given) : Reading (Given × Option Switch) :=
  match word.toList with
  | '-' :: '-' :: cs =>
    readName known (cs.takeWhile (· ≠ '='))
      (if '=' ∈ cs then some ((cs.dropWhile (· ≠ '=')).drop 1) else none) g
  | '-' :: c :: cs => readLetters known (c :: cs) g
  | _ => do return (← g.place word, none)

def readWords (known : List Switch) : List String → Given → Reading Given
  | [], g => return g
  | word :: rest, g =>
    if word = "--" then rest.foldlM Given.place g
    else do
      match ← readWord known word g, rest with
      | (g, none), rest => readWords known rest g
      | (g, some s), value :: rest =>
        if isSwitch value then throw .wrong
        else readWords known rest (← g.set s value)
      | (_, some _), [] => throw .wrong

/-- The verbosity behind a command counts in place of the one before it. -/
def Given.request (g : Given) (before : Nat) (command : String → Command) : Request :=
  match g.model with
  | some model => .run (if g.verbosity = 0 then before else g.verbosity) (command model)
  | none => .wrong

def commandNames : List String := ["generate", "check", "help"]

def readCommand : List String → Given → Reading Request
  | [], _ => throw .wrong
  | word :: rest, before =>
    if word = "generate" then do
      let g ← readWords Switch.ofGenerate rest {}
      return g.request before.verbosity fun model =>
        .generate ⟨model, g.output, g.runtimeCrate, g.denyUnresolved⟩
    else if word = "check" then do
      let g ← readWords Switch.ofCheck rest {}
      return g.request before.verbosity .check
    else if word = "help" then
      match rest with
      | [] => throw .help
      | [name] => throw (if name ∈ commandNames then .help else .wrong)
      | _ => throw .wrong
    else if isSwitch word && word ≠ "--" then do
      readCommand rest (← readWord Switch.beforeCommand word before).1
    else throw .wrong

def Request.ofArguments (arguments : List String) : Request :=
  match readCommand arguments {} with
  | .ok request => request
  | .error request => request

end RouteWeaver.CommandLine
