import BlobSource.ArrayListing
import BlobSource.AssemblyListing
import BlobSource.Store.Files
import BlobSource.Symbol.Derived

/-! Turning one file into C source: as text for a receiver, or as a file. -/
namespace BlobSource

/-- How the generated source holds the bytes. -/
inductive Form where
  /-- As an array that any C compiler takes. -/
  | array
  /-- As an assembler block that names the file. -/
  | assembly
  deriving DecidableEq, Repr

def Form.name : Form → String
  | .array => "Array"
  | .assembly => "Asm"

/-- The settings of a conversion. The width matters to the assembly form alone. -/
structure Conversion where
  form : Form
  width : WordWidth
  deriving DecidableEq, Repr

structure Report where
  symbol : Symbol
  length : Nat
  form : Form
  destination : Path
  deriving DecidableEq, Repr

/-- What happens on the way and may be logged. -/
inductive Event where
  | issueFound (symbol : Symbol) (issue : SymbolIssue)
  | generating (symbol : Symbol) (form : Form) (length : Nat) (source : Path)
  | wrote (report : Report)
  deriving DecidableEq, Repr

/-- A source whose size is known, and what is to be written for it. -/
structure Input where
  length : Nat
  location : Location
  listing : Listing

structure Rendering where
  sink : Sink
  store : Store
  result : Except ConversionError Nat

structure Embedding where
  store : Store
  events : List Event
  result : Except ConversionError Report

namespace Conversion

/-- Arrays, for the machine that the program runs on. -/
def default : Conversion := ⟨.array, .host⟩

def ofForm (form : Form) : Conversion := ⟨form, .host⟩

def withWidth (c : Conversion) (width : WordWidth) : Conversion := { c with width }

/-- Takes the size of the source, which must not be a directory. The array form then opens it, and
the assembly form has to name it in a text, which not every path can be. -/
def openSource (c : Conversion) (source : Path) (symbol : Symbol) (store : Store) :
    Except ConversionError Input :=
  match store.find source with
  | .error cause => .error (.sourceUnreadable source cause)
  | .ok (_, .directory) => .error (.sourceUnreadable source .sourceIsDirectory)
  | .ok (location, node) =>
    match c.form with
    | .array =>
      match node.barrier? with
      | some cause => .error (.sourceUnreadable source cause)
      | none => .ok ⟨node.size, location, ArrayListing.listing symbol source node.size⟩
    | .assembly =>
      match source.text? with
      | some path =>
        .ok ⟨node.size, location, AssemblyListing.listing c.width symbol path node.size⟩
      | none => .error (.pathNotText source)

/-- Writes the text for the source to a receiver. With `meanwhile` the files change after the
source is opened and before anything is read. -/
def render (c : Conversion) (source : Path) (symbol : Symbol) (sink : Sink)
    (meanwhile : Store → Store) (store : Store) : Rendering :=
  match c.openSource source symbol store with
  | .error e => ⟨sink, store, .error e⟩
  | .ok input =>
    let later := meanwhile store
    let (sink, result) :=
      input.listing.onto (fun _ => store.readerAfter later input.location) sink
    ⟨sink, later, result⟩

/-- Hands on what the buffer still holds: after a success this can fail in its turn, and after a
failure it makes no difference to the result. -/
def finish (out : Buffered) (result : Except ConversionError Nat) :
    Buffered × Except ConversionError Nat :=
  match result, out.flush with
  | .ok _, (out, some refusal) => (out, .error (.outputRefused refusal))
  | result, (out, _) => (out, result)

/-- A destination that refuses text is unwritable. -/
def blame (destination : Path) : ConversionError → ConversionError
  | .outputRefused cause => .destinationUnwritable destination cause
  | e => e

/-- Writes the text for the source to a new or emptied file. The source is opened before, and
read after, the destination is emptied. -/
def embed (c : Conversion) (source destination : Path) (symbol : Symbol) (store : Store) :
    Embedding :=
  match c.openSource source symbol store with
  | .error e => ⟨store, [], .error e⟩
  | .ok input =>
    match store.create destination with
    | .error cause => ⟨store, [], .error (.destinationUnwritable destination cause)⟩
    | .ok (opened, location) =>
      let received (out : Buffered) : Store := opened.fill location (.ofBytes out.sink.text)
      let (out, result) := input.listing.onto (fun out => (received out).readerAt input.location)
        (Buffered.ofSink (opened.sinkAt location))
      let (out, result) := finish out result
      { store := received out
        events := [.generating symbol c.form input.length source]
        result := match result with
          | .ok length => .ok ⟨symbol, length, c.form, destination⟩
          | .error e => .error (blame destination e) }

end Conversion
end BlobSource
