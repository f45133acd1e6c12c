import BlobSource.CommandLine.Program

/-! The program on the files of the machine: it takes a picture of those that its paths pass
through, runs on the picture, and writes the destination back. Two names of one file are taken for
two files unless one of them is a symbolic link. -/
namespace BlobSource.CommandLine

def locationOf (path : String) : Location := (Path.ofText path).segments

/-- The paths to the places that a path passes through, the last of which is where it ends. -/
def waypoints (p : Path) : List (String × Bytes) :=
  let segments := p.segments
  (List.range segments.length).filterMap fun n =>
    let way := List.intercalate [Path.slash] (segments.take (n + 1))
    let path : Path := ⟨if p.isAbsolute then Path.slash :: way else way⟩
    path.text?.map fun text => (text, segments.getD n [])

/-- Copies a place of the machine into the picture, and gives its location. Where that is not
the name in its parent, a link leads from the one to the other. -/
def observe (reads : Bool) (parent : Location) (store : Store) (path : String) (name : Bytes) :
    IO (Store × Location) := do
  let real ← IO.FS.realPath path
  let location := locationOf real.toString
  let kind ← real.metadata
  let store := store.makeDirectory (Location.toPath location.dropLast)
  let store ←
    match store.get? location, kind.type with
    | some (.device _), _ => pure store
    | _, .dir => pure (store.put location .directory)
    | _, .file =>
      if reads then
        pure (store.put location (.file (.ofBytes (← IO.FS.readBinFile path).toList)))
      else
        pure (store.put location (.file (.zeros kind.byteSize.toNat)))
    | _, _ => pure (store.put location (.file .empty))
  let entry := parent ++ [name]
  if name ≠ Path.parentName ∧ entry ≠ location then
    return (store.put entry (.link (Location.toPath location)), location)
  return (store, location)

/-- Copies the places that a path passes through into the picture, as far as there are any. -/
def observeAll (reads : Bool) (p : Path) (store : Store) : IO Store := do
  let mut store := store
  let mut location := if p.isAbsolute then [] else store.here
  for (path, name) in waypoints p do
    match ← (observe reads location store path name).toBaseIO with
    | .ok next => (store, location) := next
    | .error _ => return store
  return store

/-- Writes the destination back if its content is another one than before. -/
def writeBack (before after : Store) (p : Path) : IO Unit := do
  match after.content? p, p.text? with
  | some content, some path =>
    if before.content? p ≠ some content then
      IO.FS.writeBinFile path ⟨content.toList.toArray⟩
  | _, _ => pure ()

def picture (request : Except String Request) : IO Store := do
  let store := Store.fresh (locationOf (← IO.currentDir).toString)
  match request with
  | .ok (.convert a) =>
    let store ← observeAll false a.destination store
    observeAll (!a.useAssembly) a.source store
  | _ => return store

end BlobSource.CommandLine

open BlobSource BlobSource.CommandLine in
def main (args : List String) : IO UInt32 := do
  let args := args.map Utf8.encode
  let request := Toolkit.usual.parse args
  let before ← picture request
  let run := run args ((← IO.getEnv "RUST_LOG").map Utf8.encode) before
  if let .ok (.convert a) := request then
    writeBack before run.store a.destination
  IO.print run.stdout
  IO.eprint run.stderr
  return UInt32.ofNat run.exit.code
