import RouteWeaver.CommandLine

namespace RouteWeaver

open CommandLine (Request)

def CommandLine.Request.paths : Request → List String
  | .run _ (.generate options) => options.model :: options.output.toList
  | .run _ (.check model) => [model]
  | .version | .help | .wrong => []

/-- The places that a path passes on its way from a start, the last one first. -/
def placesFrom (start : Location) (p : Path) : List Location :=
  p.pieces.foldl (fun places piece =>
    FileSystem.step (places.head?.getD start) piece :: places) [start]

def absolute (place : Location) : String :=
  "/" ++ "/".intercalate place.reverse

def lookUp (place : Location) : IO (Option Entry) := do
  let path := (← IO.currentDir) / absolute place
  if ← path.isDir then return some .directory
  else if ← path.pathExists then return some (.file (← IO.FS.readBinFile path))
  else return none

def snapshot (paths : List String) : IO FileSystem := do
  let home := (Path.ofText (← IO.currentDir).toString).pieces.foldl FileSystem.step []
  let places := paths.flatMap fun text =>
    let p := Path.ofText text
    placesFrom (if p.fromRoot then [] else home) p
  places.foldlM (fun fs place => do
    match ← lookUp place with
    | some e => return fs.insert place e
    | none => return fs) { workingDirectory := home }

def store (before after : FileSystem) : IO Unit :=
  after.entries.forM fun (place, e) => do
    if before.entry? place ≠ some e then
      match e with
      | .directory => IO.FS.createDirAll (absolute place)
      | .file content => IO.FS.writeBinFile (absolute place) content

end RouteWeaver

open RouteWeaver in
def main (arguments : List String) : IO UInt32 := do
  let request := CommandLine.Request.ofArguments arguments
  let files ← snapshot request.paths
  let outcome := request.outcome (← IO.getEnv "RUST_LOG") files
  store files outcome.files
  outcome.events.forM fun e => IO.eprintln e.line
  outcome.messages.forM fun line => IO.eprintln line
  IO.print outcome.output
  return outcome.status.code.toUInt32
