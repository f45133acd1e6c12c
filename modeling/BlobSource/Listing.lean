import BlobSource.Reader
import BlobSource.Sink

/-! Generated text in pieces, as it is written while the source is read. -/
namespace BlobSource

/-- Pieces of text to write in order, and how the conversion ends if all of them are taken. -/
structure Emission where
  pieces : Deferred String
  outcome : Except ConversionError Nat

namespace Emission

def text (e : Emission) : String := String.join e.pieces.toList

/-- Writes the emission. A refused piece ends it, whatever its outcome would have been. -/
def onto {σ : Type} [Receiver σ] (e : Emission) (s : σ) : σ × Except ConversionError Nat :=
  match Receiver.writeAll s e.pieces with
  | (s, none) => (s, e.outcome)
  | (s, some refusal) => (s, .error (.outputRefused refusal))

end Emission

inductive Listing where
  /-- Settled before any byte of the source is read, and none is. -/
  | settled (pieces : List String) (length : Nat)
  /-- With a head that is written before the source is read, and a body of what is read. -/
  | streamed (head : List String) (body : Reader → Emission)

namespace Listing

def emission (l : Listing) (r : Reader) : Emission :=
  match l with
  | settled pieces length => ⟨.ofList pieces, .ok length⟩
  | streamed head body =>
    let rest := body r
    { rest with pieces := (Deferred.ofList head).append fun _ => rest.pieces }

/-- Writes the listing. What the source hands over may hang on what has been received when
the reading starts. -/
def onto {σ : Type} [Receiver σ] (l : Listing) (source : σ → Reader) (s : σ) :
    σ × Except ConversionError Nat :=
  match l with
  | settled pieces length => Emission.onto ⟨.ofList pieces, .ok length⟩ s
  | streamed head body =>
    match Receiver.writeAll s (.ofList head) with
    | (s, none) => (body (source s)).onto s
    | (s, some refusal) => (s, .error (.outputRefused refusal))

/-- From a source that is not touched by the writing, the listing is written like its text. -/
theorem onto_const {σ : Type} [Receiver σ] (l : Listing) (r : Reader) (s : σ) :
    l.onto (fun _ => r) s = (l.emission r).onto s := by
  cases l with
  | settled pieces length => rfl
  | streamed head body =>
    simp only [onto, emission, Emission.onto, Receiver.writeAll_append]
    rcases Receiver.writeAll s (.ofList head) with ⟨t, refusal?⟩
    cases refusal? <;> rfl

/-- The headers that define the two integer types of the text. -/
def preamble : String := "#include <stddef.h>\n#include <stdint.h>\n\n"

end Listing
end BlobSource
