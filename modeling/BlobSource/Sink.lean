import BlobSource.Deferred
import BlobSource.Error

/-! Receivers of generated text: one that may run out of room, and a buffer before it. -/
namespace BlobSource

/-- A receiver that takes text piece by piece, or refuses a piece that it has no room for. -/
class Receiver (σ : Type) where
  write : σ → Bytes → σ × Option FileError
  /-- Whether it takes everything and keeps nothing, so that nothing need be handed to it. -/
  keepsNothing : σ → Bool

namespace Receiver

/-- Writes the pieces in order, up to the first that is refused. None after it is made. -/
def writeAll {σ : Type} [Receiver σ] (s : σ) : Deferred String → σ × Option FileError
  | .nil => (s, none)
  | .cons piece rest =>
    if keepsNothing s then (s, none)
    else match write s (Utf8.encode piece) with
      | (s, none) => writeAll s (rest ())
      | (s, some refusal) => (s, some refusal)

theorem writeAll_of_keepsNothing {σ : Type} [Receiver σ] {s : σ} (h : keepsNothing s = true)
    (ps : Deferred String) : writeAll s ps = (s, none) := by
  cases ps <;> simp [writeAll, h]

theorem writeAll_append {σ : Type} [Receiver σ] (s : σ) (ps : Deferred String)
    (qs : Unit → Deferred String) :
    writeAll s (ps.append qs) =
      match writeAll s ps with
      | (s, none) => writeAll s (qs ())
      | (s, some refusal) => (s, some refusal) := by
  induction ps generalizing s with
  | nil => rfl
  | cons p rest ih =>
    simp only [Deferred.append, writeAll]
    split
    · simp [writeAll_of_keepsNothing ‹_›]
    rcases write s (Utf8.encode p) with ⟨t, refusal?⟩
    cases refusal? with
    | none => exact ih () t
    | some refusal => rfl

end Receiver

/-- A receiver with room for a number of bytes, or for any number. -/
structure Sink where
  taken : Array UInt8
  room? : Option Nat
  refusal : FileError
  keepsNothing : Bool
  deriving DecidableEq, Repr

namespace Sink

def boundless : Sink := ⟨#[], none, .receiverFull, false⟩

def void : Sink := { boundless with keepsNothing := true }

/-- A receiver that takes so many bytes, and refuses the next as told. -/
def limited (room : Nat) (refusal : FileError) : Sink := ⟨#[], some room, refusal, false⟩

def text (s : Sink) : Bytes := s.taken.toList

/-- What has room is taken, also of a piece that as a whole is refused. -/
def write (s : Sink) (piece : Bytes) : Sink × Option FileError :=
  match s.room? with
  | none => ({ s with taken := s.taken ++ piece }, none)
  | some room =>
    let s' := { s with taken := s.taken ++ piece.take room, room? := some (room - piece.length) }
    if piece.length ≤ room then (s', none) else (s', some s.refusal)

instance : Receiver Sink := ⟨write, Sink.keepsNothing⟩

theorem write_of_boundless {s : Sink} (h : s.room? = none) (piece : Bytes) :
    s.write piece = ({ s with taken := s.taken ++ piece }, none) := by
  simp [write, h]

end Sink

/-- A sink behind a buffer. -/
structure Buffered where
  sink : Sink
  pending : Array UInt8
  deriving DecidableEq, Repr

namespace Buffered

def capacity : Nat := 8192

def ofSink (s : Sink) : Buffered := ⟨s, #[]⟩

/-- All bytes written so far, received or not. -/
def text (b : Buffered) : Bytes := b.sink.text ++ b.pending.toList

def flush (b : Buffered) : Buffered × Option FileError :=
  match b.sink.write b.pending.toList with
  | (sink, none) => (⟨sink, #[]⟩, none)
  | (sink, some refusal) => ({ b with sink }, some refusal)

/-- Adds a piece that fits; one that would fill the whole buffer goes straight on. -/
def add (b : Buffered) (piece : Bytes) : Buffered × Option FileError :=
  if capacity ≤ piece.length then
    let (sink, refusal?) := b.sink.write piece
    ({ b with sink }, refusal?)
  else ({ b with pending := b.pending ++ piece }, none)

/-- Hands the pending bytes on before a piece that no longer fits. -/
def write (b : Buffered) (piece : Bytes) : Buffered × Option FileError :=
  if b.pending.size + piece.length ≤ capacity then b.add piece
  else match b.flush with
    | (b, none) => b.add piece
    | (b, some refusal) => (b, some refusal)

instance : Receiver Buffered := ⟨write, (·.sink.keepsNothing)⟩

theorem flush_of_boundless {b : Buffered} (h : b.sink.room? = none) :
    b.flush = (⟨{ b.sink with taken := b.sink.taken ++ b.pending.toList }, #[]⟩, none) := by
  simp [flush, Sink.write_of_boundless h]

private theorem add_of_boundless {b : Buffered} (h : b.sink.room? = none) (piece : Bytes) :
    (b.add piece).2 = none ∧ (b.add piece).1.sink.room? = none := by
  unfold add
  split <;> simp [Sink.write_of_boundless h, h]

private theorem text_add_of_boundless {b : Buffered} (h : b.sink.room? = none) {piece : Bytes}
    (hp : b.pending.size + piece.length ≤ capacity) : (b.add piece).1.text = b.text ++ piece := by
  unfold add
  split
  · have : b.pending = #[] := Array.eq_empty_of_size_eq_zero (by omega)
    simp [Sink.write_of_boundless h, text, Sink.text, this]
  · simp [text]

/-- Before a receiver that takes everything, the buffer loses and reorders nothing. -/
theorem text_write_of_boundless {b : Buffered} (h : b.sink.room? = none) (piece : Bytes) :
    (b.write piece).1.text = b.text ++ piece ∧ (b.write piece).2 = none ∧
      (b.write piece).1.sink.room? = none := by
  unfold write
  split
  · exact ⟨text_add_of_boundless h ‹_›, add_of_boundless h piece⟩
  · rw [flush_of_boundless h]
    refine ⟨?_, add_of_boundless (by exact h) piece⟩
    dsimp only [add]
    split
    · simp [Sink.write, h, text, Sink.text]
    · simp [text, Sink.text]

end Buffered
end BlobSource
