import BlobSource.Reader
import BlobSource.Sink
import BlobSource.Store.Walk

/-! Opening, reading and writing the files of a store. -/
namespace BlobSource

namespace Device

/-- The length at which a supply without end is cut, so that every source is finite. A receiver
that refuses before cannot tell. -/
def endless : Nat := 1 <<< 62

def size : Device → Nat
  | locked size | faulty size _ => size
  | _ => 0

def barrier? : Device → Option FileError
  | locked _ => some .permissionDenied
  | _ => none

def reader : Device → Reader
  | null | locked _ => ⟨[], none⟩
  | full => .ofContent (.zeros endless)
  | memory => ⟨[], some .deviceFailure⟩
  | faulty _ sound => ⟨[.data sound], some .deviceFailure⟩

def sink : Device → Sink
  | null => .void
  | full => .limited 0 .deviceFull
  | _ => .limited 0 .deviceFailure

end Device

namespace Node

/-- The size that is reported for a node. A directory or a link has none that counts. -/
def size : Node → Nat
  | file content => content.size
  | device d => d.size
  | _ => 0

def barrier? : Node → Option FileError
  | device d => d.barrier?
  | _ => none

def reader : Node → Reader
  | file content => .ofContent content
  | device d => d.reader
  | _ => ⟨[], none⟩

def sink : Node → Sink
  | device d => d.sink
  | _ => .boundless

end Node

namespace Store

def find (s : Store) (p : Path) : Except FileError (Location × Node) :=
  match s.locate .reading p with
  | .error e => .error e
  | .ok (.vacant _) => .error .notFound
  | .ok (.present l) =>
    match s.get? l with
    | some n => .ok (l, n)
    | none => .error .notFound

def readerAt (s : Store) (l : Location) : Reader :=
  match s.get? l with
  | some n => n.reader
  | none => ⟨[], none⟩

/-- What a source that has been opened hands over, once the files have changed. A regular file has
the content of then; what is gone, or is none any more, is still open. -/
def readerAfter (s later : Store) (l : Location) : Reader :=
  match s.get? l, later.get? l with
  | some (.file _), some (.file content) => .ofContent content
  | _, _ => s.readerAt l

@[simp] theorem readerAfter_self (s : Store) (l : Location) :
    s.readerAfter s l = s.readerAt l := by
  unfold readerAfter readerAt
  split
  · simp_all [Node.reader]
  · rfl

def sinkAt (s : Store) (l : Location) : Sink :=
  match s.get? l with
  | some n => n.sink
  | none => .boundless

/-- Opens a path for writing: an empty file then lies where it leads, or the device that was
there. -/
def create (s : Store) (p : Path) : Except FileError (Store × Location) :=
  match s.locate .writing p with
  | .error e => .error e
  | .ok (.vacant l) => .ok (s.put l (.file .empty), l)
  | .ok (.present l) =>
    match s.get? l with
    | some (.file _) => .ok (s.put l (.file .empty), l)
    | some (.device d) =>
      match d.barrier? with
      | some cause => .error cause
      | none => .ok (s, l)
    | some .directory => .error .isDirectory
    | _ => .error .notFound

/-- Gives the regular file at the location a new content; a device keeps nothing. -/
def fill (s : Store) (l : Location) (content : Content) : Store :=
  match s.get? l with
  | some (.file _) => s.put l (.file content)
  | _ => s

def content? (s : Store) (p : Path) : Option Content :=
  match s.find p with
  | .ok (_, .file content) => some content
  | _ => none

def write (s : Store) (p : Path) (content : Content) : Except FileError Store :=
  (s.create p).map fun (s, l) => s.fill l content

def append (s : Store) (p : Path) (content : Content) : Except FileError Store :=
  match s.content? p with
  | some before => s.write p (before ++ content)
  | none => s.write p content

/-- Where the last step of a path is, even if it is a link or nothing lies there. -/
def entryAt (s : Store) (p : Path) : Except FileError Location :=
  match p.steps.getLast? with
  | some (.down name) =>
    match s.walk .reading maxLinks (if p.isAbsolute then [] else s.here) p.steps.dropLast with
    | .ok (.present l) => .ok (l ++ [name])
    | .ok (.vacant _) => .error .notFound
    | .error e => .error e
  | _ => .error .isDirectory

def link (s : Store) (p target : Path) : Except FileError Store :=
  (s.entryAt p).map (s.put · (.link target))

/-- The further names of the file at a location. -/
def otherNames (s : Store) (l : Location) : List Location :=
  s.places.toList.filterMap fun (k, n) => if n = .hardLink l then some k else none

/-- Takes a name away. A file with other names then lies at one of those. -/
def unlink (s : Store) (l : Location) : Store :=
  match s.get? l, s.otherNames l with
  | some n, k :: others =>
    others.foldl (fun s other => s.put other (.hardLink k)) ((s.erase l).put k n)
  | _, _ => s.erase l

def remove (s : Store) (p : Path) : Except FileError Store := (s.entryAt p).map s.unlink

def makeDirectories (s : Store) : Location → List Step → Store
  | _, [] => s
  | l, step :: rest =>
    match s.walk .reading maxLinks l [step], step with
    | .ok (.present l), _ => s.makeDirectories l rest
    | .error .notFound, .down name =>
      match s.get? (l ++ [name]) with
      | none => (s.put (l ++ [name]) .directory).makeDirectories (l ++ [name]) rest
      | some _ => s
    | _, _ => s

def makeDirectory (s : Store) (p : Path) : Store :=
  s.makeDirectories (if p.isAbsolute then [] else s.here) p.steps

def devices : List (String × String × Device) :=
  [("/dev", "/dev/null", .null), ("/dev", "/dev/full", .full),
    ("/proc/self", "/proc/self/mem", .memory)]

/-- The devices, and an empty directory to work in. -/
def fresh (here : Location) : Store :=
  let bare : Store := ⟨.nil, here⟩
  devices.foldl
    (fun s (dir, path, device) =>
      (s.makeDirectory (.ofText dir)).put (Path.ofText path).segments (.device device))
    (bare.makeDirectory here.toPath)

end Store
end BlobSource
