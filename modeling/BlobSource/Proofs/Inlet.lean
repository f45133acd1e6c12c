import BlobSource.ArrayListing
import BlobSource.Proofs.Rows

/-! A source call by call: of the bytes that it is asked for it gives some, and is asked again for
the others. All calls together fill the rows of a listing. -/
namespace BlobSource

/-- What a source answers to a call for bytes. -/
inductive Supply where
  /-- No bytes are the end. -/
  | gave (bytes : Bytes)
  /-- The call came back without effect and is to be made again. -/
  | interrupted
  | failed (cause : FileError)
  deriving DecidableEq, Repr

/-- A source that holds some bytes and then ends or fails. -/
structure Inlet where
  held : Bytes
  /-- What limits the next calls: one is interrupted, or gives so many bytes and one more at most.
  Later calls give whatever is asked for. -/
  portions : List (Option ℕ)
  failure? : Option FileError
  deriving DecidableEq, Repr

namespace Inlet

/-- The number of bytes that a call gives if there are as many. -/
def portion (i : Inlet) (room : ℕ) : ℕ :=
  match i.portions with
  | some most :: _ => min (most + 1) room
  | _ => room

def call (i : Inlet) (room : ℕ) : Inlet × Supply :=
  let later := { i with portions := i.portions.tail }
  if i.portions.head? = some none then (later, .interrupted)
  else if i.held = [] then
    match i.failure? with
    | some cause => (later, .failed cause)
    | none => (later, .gave [])
  else
    let count := i.portion room
    ({ later with held := i.held.drop count }, .gave (i.held.take count))

theorem call_spec (i : Inlet) {room : ℕ} (hroom : 0 < room) :
    match i.call room with
    | (after, .interrupted) =>
      after = { i with portions := i.portions.tail } ∧ i.portions ≠ []
    | (_, .failed cause) => i.held = [] ∧ i.failure? = some cause
    | (after, .gave bytes) =>
      i.held = bytes ++ after.held ∧ after.failure? = i.failure? ∧
        after.portions = i.portions.tail ∧ bytes.length ≤ room ∧
        (bytes = [] → i.held = [] ∧ i.failure? = none) := by
  by_cases hi : i.portions.head? = some none
  · have hp : i.portions ≠ [] := by
      intro hnil
      rw [hnil] at hi
      cases hi
    simpa [call, hi] using hp
  by_cases hheld : i.held = []
  · cases hf : i.failure? with
    | none => simp [call, hi, hheld, hf]
    | some cause => simp [call, hi, hheld, hf]
  · have hportion : 0 < i.portion room ∧ i.portion room ≤ room := by
      unfold portion
      split <;> omega
    have hlength : (i.held.take (i.portion room)).length ≤ room := by
      rw [List.length_take]
      exact Nat.le_trans (Nat.min_le_left _ _) hportion.2
    simpa [call, hi, hheld, Nat.ne_of_gt hportion.1] using hlength

/-- Calls until the row is full. Each call uses up an interruption or gives some bytes. One that gives
nothing is the last, and one that fails loses the row. -/
def fillRow (i : Inlet) (row : Bytes) : Inlet × Except FileError Bytes :=
  if _hrow : bytesPerRow ≤ row.length then (i, .ok row)
  else match _h : i.call (bytesPerRow - row.length) with
    | (after, .interrupted) => fillRow after row
    | (after, .failed cause) => (after, .error cause)
    | (after, .gave bytes) =>
      if _hbytes : bytes = [] then (after, .ok row) else fillRow after (row ++ bytes)
termination_by i.held.length + i.portions.length
decreasing_by
  · have hspec := i.call_spec (Nat.sub_pos_of_lt (Nat.lt_of_not_le _hrow))
    rw [_h] at hspec
    obtain ⟨rfl, hp⟩ := hspec
    have hless : i.portions.tail.length < i.portions.length := by
      have hpos := List.length_pos_iff.2 hp
      rw [List.length_tail]
      omega
    exact Nat.add_lt_add_left hless _
  · have hspec := i.call_spec (Nat.sub_pos_of_lt (Nat.lt_of_not_le _hrow))
    rw [_h] at hspec
    obtain ⟨hheld, -, hportions, -, -⟩ := hspec
    have hless : after.held.length < i.held.length := by
      have hpos := List.length_pos_iff.2 _hbytes
      rw [hheld, List.length_append]
      omega
    have hle : after.portions.length ≤ i.portions.length := by
      rw [hportions]
      simp
    exact Nat.add_lt_add_of_lt_of_le hless hle

/-- However the calls divide the bytes, together they fill the row with the next ones, as far as
there are any. They fail only if there are too few. -/
theorem fillRow_spec (i : Inlet) (row : Bytes) :
    match i.fillRow row with
    | (after, .ok filled) =>
      filled = row ++ i.held.take (bytesPerRow - row.length) ∧
        after.held = i.held.drop (bytesPerRow - row.length) ∧ after.failure? = i.failure? ∧
        (i.failure? = none ∨ bytesPerRow ≤ row.length + i.held.length)
    | (_, .error cause) => i.failure? = some cause ∧ row.length + i.held.length < bytesPerRow := by
  fun_induction fillRow i row with
  | case1 i row hrow =>
    have hnone : bytesPerRow - row.length = 0 := Nat.sub_eq_zero_of_le hrow
    rw [hnone]
    exact ⟨by simp, by simp, rfl, .inr (Nat.le_add_right_of_le hrow)⟩
  | case2 i row hrow after h ih =>
    have hspec := i.call_spec (Nat.sub_pos_of_lt (Nat.lt_of_not_le hrow))
    rw [h] at hspec
    obtain ⟨rfl, -⟩ := hspec
    exact ih
  | case3 i row hrow after cause h =>
    have hspec := i.call_spec (Nat.sub_pos_of_lt (Nat.lt_of_not_le hrow))
    rw [h] at hspec
    obtain ⟨hheld, hf⟩ := hspec
    refine ⟨hf, ?_⟩
    rw [hheld, List.length_nil, Nat.add_zero]
    exact Nat.lt_of_not_le hrow
  | case4 i row hrow after h =>
    have hspec := i.call_spec (Nat.sub_pos_of_lt (Nat.lt_of_not_le hrow))
    rw [h] at hspec
    obtain ⟨hheld, hfailure, -, -, hend⟩ := hspec
    obtain ⟨hnil, hf⟩ := hend rfl
    have hafter : after.held = [] := hheld.symm.trans hnil
    rw [hnil]
    exact ⟨by simp, by simp [hafter], hfailure, .inl hf⟩
  | case5 i row hrow after bytes h hbytes ih =>
    have hspec := i.call_spec (Nat.sub_pos_of_lt (Nat.lt_of_not_le hrow))
    rw [h] at hspec
    obtain ⟨hheld, hfailure, -, hroom, -⟩ := hspec
    have hrest : bytesPerRow - (row ++ bytes).length = bytesPerRow - row.length - bytes.length := by
      rw [List.length_append]
      omega
    have htake : bytes ++ after.held.take (bytesPerRow - row.length - bytes.length) =
        i.held.take (bytesPerRow - row.length) := by
      rw [hheld, List.take_append, List.take_of_length_le hroom]
    have hdrop : after.held.drop (bytesPerRow - row.length - bytes.length) =
        i.held.drop (bytesPerRow - row.length) := by
      rw [hheld, List.drop_append, List.drop_of_length_le hroom, List.nil_append]
    have hlength : (row ++ bytes).length + after.held.length = row.length + i.held.length := by
      rw [hheld]
      simp only [List.length_append]
      omega
    rw [hrest, hlength, hfailure, hdrop, List.append_assoc, htake] at ih
    exact ih

/-- Two bytes, an interruption, and then the last one: the row stays short. -/
example : fillRow ⟨[1, 2, 3], [some 1, none], none⟩ [] = (⟨[], [], none⟩, .ok [1, 2, 3]) := by cbv

/-- The source as one that gives all at once what it holds. -/
def reader (i : Inlet) : Reader := ⟨[.data (.ofBytes i.held)], i.failure?⟩

theorem toList_bytes_reader (i : Inlet) : i.reader.bytes.toList = i.held := by
  simp [Reader.toList_bytes, reader, Delivery.content]

theorem size_reader (i : Inlet) : i.reader.size = i.held.length := by
  rw [← Reader.length_bytes, toList_bytes_reader]

theorem rows_reader (i : Inlet) :
    i.reader.rows = rowsOf i.failure?.isNone [] (.ofList i.held) := by
  rw [Reader.rows, ← Deferred.ofList_toList i.reader.bytes, toList_bytes_reader]
  rfl

/-- A row that the calls fill is the next one, and the calls go on behind it. Only an empty row ends
them. -/
theorem rows_reader_of_fillRow {i after : Inlet} {row : Bytes} (h : i.fillRow [] = (after, .ok row)) :
    (row = [] → i.held = [] ∧ i.failure? = none) ∧
      (row ≠ [] → i.reader.rows = .cons row (fun _ => after.reader.rows) ∧
        i.held = row ++ after.held ∧ after.failure? = i.failure?) := by
  have hspec := i.fillRow_spec []
  rw [h] at hspec
  simp only [List.length_nil, Nat.sub_zero, List.nil_append, Nat.zero_add] at hspec
  obtain ⟨rfl, hafter, hfailure, hend⟩ := hspec
  constructor
  · intro hempty
    have hheld : i.held = [] := by simpa [bytesPerRow] using hempty
    refine ⟨hheld, hend.resolve_right ?_⟩
    rw [hheld]
    decide
  · intro hrow
    refine ⟨?_, by rw [hafter, List.take_append_drop], hfailure⟩
    rw [rows_reader, rows_reader, hfailure, hafter]
    by_cases hfull : bytesPerRow ≤ i.held.length
    · exact rowsOf_of_le _ (by decide) (by simpa using hfull)
    · have hshort : i.held.length < bytesPerRow := Nat.lt_of_not_le hfull
      have hnone : i.failure? = none := hend.resolve_right hfull
      have hheld : i.held ≠ [] := by
        intro hheld
        rw [hheld] at hrow
        exact hrow List.take_nil
      rw [rowsOf_of_lt _ (by simpa using hshort), List.take_of_length_le (Nat.le_of_lt hshort),
        List.drop_of_length_le (Nat.le_of_lt hshort), hnone]
      simp [hheld, Deferred.ofList, rowsOf]

section Receiver
variable {σ : Type} [Receiver σ]

/-- Fills rows and writes them, one after the other, until one stays empty. Gives the number of
bytes that have been written. -/
def writeRows (i : Inlet) (path : Path) (written : ℕ) (receiver : σ) :
    σ × Except ConversionError ℕ :=
  match _h : i.fillRow [] with
  | (_, .error cause) => (receiver, .error (.sourceUnreadable path cause))
  | (after, .ok row) =>
    if _hrow : row = [] then (receiver, .ok written)
    else match Receiver.writeAll receiver (.ofList [ArrayListing.row row]) with
      | (receiver, some refusal) => (receiver, .error (.outputRefused refusal))
      | (receiver, none) => writeRows after path (written + row.length) receiver
termination_by i.held.length
decreasing_by
  obtain ⟨-, hheld, -⟩ := (rows_reader_of_fillRow _h).2 _hrow
  have hpos := List.length_pos_iff.2 _hrow
  rw [hheld, List.length_append]
  omega

/-- Writes the listing of a source of the given length, and reads the source meanwhile. -/
def writeArray (i : Inlet) (symbol : Symbol) (path : Path) (length : ℕ) (receiver : σ) :
    σ × Except ConversionError ℕ :=
  match Receiver.writeAll receiver (.ofList (ArrayListing.header symbol length)) with
  | (receiver, some refusal) => (receiver, .error (.outputRefused refusal))
  | (receiver, none) =>
    match i.writeRows path 0 receiver with
    | (receiver, .error e) => (receiver, .error e)
    | (receiver, .ok written) =>
      match Receiver.writeAll receiver (.ofList [ArrayListing.closing]) with
      | (receiver, some refusal) => (receiver, .error (.outputRefused refusal))
      | (receiver, none) =>
        (receiver, if written = length then .ok length
          else .error (.lengthMismatch path length written))

private theorem writeAll_rows {i after : Inlet} {row : Bytes} (h : i.fillRow [] = (after, .ok row))
    (hrow : row ≠ []) (receiver : σ) :
    Receiver.writeAll receiver (i.reader.rows.map ArrayListing.row) =
      match Receiver.writeAll receiver (.ofList [ArrayListing.row row]) with
      | (receiver, none) =>
        Receiver.writeAll receiver (after.reader.rows.map ArrayListing.row)
      | (receiver, some refusal) => (receiver, some refusal) := by
  obtain ⟨hrows, -, -⟩ := (rows_reader_of_fillRow h).2 hrow
  rw [hrows]
  exact Receiver.writeAll_append receiver (.ofList [ArrayListing.row row])
    fun _ => after.reader.rows.map ArrayListing.row

theorem writeRows_eq (i : Inlet) (path : Path) (written : ℕ) (receiver : σ) :
    i.writeRows path written receiver =
      match Receiver.writeAll receiver (i.reader.rows.map ArrayListing.row) with
      | (receiver, some refusal) => (receiver, .error (.outputRefused refusal))
      | (receiver, none) =>
        (receiver, match i.failure? with
          | some cause => .error (.sourceUnreadable path cause)
          | none => .ok (written + i.held.length)) := by
  fun_induction writeRows i path written receiver with
  | case1 i written receiver after cause h =>
    have hspec := i.fillRow_spec []
    rw [h] at hspec
    obtain ⟨hf, hshort⟩ := hspec
    rw [rows_reader, rowsOf_of_lt _ hshort, hf]
    rfl
  | case2 i written receiver after h =>
    obtain ⟨hheld, hf⟩ := (rows_reader_of_fillRow h).1 rfl
    rw [rows_reader, hheld, hf]
    rfl
  | case3 i written receiver after row h hrow later refusal hwrite =>
    rw [writeAll_rows h hrow, hwrite]
  | case4 i written receiver after row h hrow later hwrite ih =>
    obtain ⟨-, hheld, hfailure⟩ := (rows_reader_of_fillRow h).2 hrow
    have hlength : written + row.length + after.held.length = written + i.held.length := by
      rw [hheld, List.length_append, Nat.add_assoc]
    rw [writeAll_rows h hrow, hwrite, ih, hfailure, hlength]

/-- However the source divides its bytes over the calls, the listing is written as one that has
all of them at once. -/
theorem writeArray_eq (i : Inlet) (symbol : Symbol) (path : Path) (length : ℕ) (receiver : σ) :
    i.writeArray symbol path length receiver =
      ((ArrayListing.listing symbol path length).emission i.reader).onto receiver := by
  unfold writeArray Emission.onto
  simp only [ArrayListing.listing, Listing.emission, Receiver.writeAll_append, writeRows_eq]
  rcases Receiver.writeAll receiver (.ofList (ArrayListing.header symbol length)) with
    ⟨headed, refusal?⟩
  cases refusal? with
  | some refusal => rfl
  | none =>
    dsimp only
    cases hf : i.failure? with
    | some cause =>
      have hreader : i.reader.failure? = some cause := hf
      simp only [ArrayListing.body, hreader]
      rcases Receiver.writeAll headed (i.reader.rows.map ArrayListing.row) with ⟨after, refusal?⟩
      cases refusal? <;> rfl
    | none =>
      have hreader : i.reader.failure? = none := hf
      simp only [ArrayListing.body, hreader, Receiver.writeAll_append, size_reader, Nat.zero_add]
      rcases Receiver.writeAll headed (i.reader.rows.map ArrayListing.row) with ⟨after, refusal?⟩
      cases refusal? with
      | some refusal => rfl
      | none =>
        dsimp only
        rcases Receiver.writeAll after (.ofList [ArrayListing.closing]) with ⟨last, refusal?⟩
        cases refusal? <;> rfl

end Receiver
end Inlet
end BlobSource
