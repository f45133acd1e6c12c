import BlobSource.Proofs.Received

/-! A receiver call by call: of the bytes that it is handed it takes some, and is called again with
the rest. All calls together make it a sink. -/
namespace BlobSource

/-- What a receiver answers to a call with bytes. -/
inductive Answer where
  | took (count : ℕ)
  /-- The call came back without effect and is to be made again. -/
  | interrupted
  | failed (cause : FileError)
  deriving DecidableEq, Repr

/-- A receiver with room for a number of bytes. -/
structure Outlet where
  taken : Bytes
  room : ℕ
  /-- What limits the next calls: one is interrupted, or takes so many bytes and one more at most.
  Later calls take whatever there is room for. -/
  portions : List (Option ℕ)
  /-- How a call fails for which there is no room. Without a cause it takes nothing. -/
  failure? : Option FileError
  deriving DecidableEq, Repr

namespace Outlet

/-- The bytes that a call takes of some. -/
def portion (o : Outlet) (bytes : Bytes) : ℕ :=
  match o.portions with
  | some most :: _ => min (most + 1) (min o.room bytes.length)
  | _ => min o.room bytes.length

def call (o : Outlet) (bytes : Bytes) : Outlet × Answer :=
  let later := { o with portions := o.portions.tail }
  if o.portions.head? = some none then (later, .interrupted)
  else if o.room = 0 then
    match o.failure? with
    | some cause => (later, .failed cause)
    | none => (later, .took 0)
  else
    let count := o.portion bytes
    ({ later with taken := o.taken ++ bytes.take count, room := o.room - count }, .took count)

theorem call_spec (o : Outlet) {bytes : Bytes} (hb : bytes ≠ []) :
    match o.call bytes with
    | (after, .interrupted) =>
      after = { o with portions := o.portions.tail } ∧ o.portions ≠ []
    | (after, .failed cause) =>
      after = { o with portions := o.portions.tail } ∧ o.room = 0 ∧ o.failure? = some cause
    | (after, .took count) =>
      after = { o with
        taken := o.taken ++ bytes.take count
        room := o.room - count
        portions := o.portions.tail } ∧
      count ≤ o.room ∧ count ≤ bytes.length ∧ (count = 0 → o.room = 0 ∧ o.failure? = none) := by
  have hlength : 0 < bytes.length := List.length_pos_iff.2 hb
  by_cases hi : o.portions.head? = some none
  · have hp : o.portions ≠ [] := by
      intro hnil
      rw [hnil] at hi
      cases hi
    simpa [call, hi] using hp
  by_cases hroom : o.room = 0
  · cases hf : o.failure? with
    | none => simp [call, hi, hroom, hf]
    | some cause => simp [call, hi, hroom, hf]
  · have hportion : 0 < o.portion bytes ∧ o.portion bytes ≤ o.room ∧
        o.portion bytes ≤ bytes.length := by
      unfold portion
      split <;> omega
    simp [call, hi, hroom, hportion, Nat.ne_of_gt hportion.1]

/-- Calls until all bytes are taken. Each call uses up an interruption or takes some bytes. One that
takes nothing is the last. -/
def write (o : Outlet) (bytes : Bytes) : Outlet × Option FileError :=
  if _hb : bytes = [] then (o, none)
  else match _h : o.call bytes with
    | (after, .interrupted) => write after bytes
    | (after, .failed cause) => (after, some cause)
    | (after, .took count) =>
      if _hcount : count = 0 then (after, some .nothingTaken)
      else write after (bytes.drop count)
termination_by bytes.length + o.portions.length
decreasing_by
  · have hspec := o.call_spec _hb
    rw [_h] at hspec
    obtain ⟨rfl, hp⟩ := hspec
    have hless : o.portions.tail.length < o.portions.length := by
      have hpos := List.length_pos_iff.2 hp
      rw [List.length_tail]
      omega
    exact Nat.add_lt_add_left hless _
  · have hspec := o.call_spec _hb
    rw [_h] at hspec
    obtain ⟨rfl, -, hlength, -⟩ := hspec
    have hless : (bytes.drop count).length < bytes.length := by
      rw [List.length_drop]
      omega
    have hle : o.portions.tail.length ≤ o.portions.length := by simp
    exact Nat.add_lt_add_of_lt_of_le hless hle

instance : Receiver Outlet := ⟨write, fun _ => false⟩

def refusal (o : Outlet) : FileError := o.failure?.getD .nothingTaken

/-- What the calls come to when they are made for some bytes until all are taken. -/
def sink (o : Outlet) : Sink := ⟨o.taken.toArray, some o.room, o.refusal, false⟩

@[simp] theorem text_sink (o : Outlet) : o.sink.text = o.taken := rfl

private theorem sink_write_of_full {o : Outlet} {bytes : Bytes} (hb : bytes ≠ [])
    (hroom : o.room = 0) : o.sink.write bytes = (o.sink, some o.refusal) := by
  apply Sink.write_of_full _ hb
  rw [sink, hroom]

theorem sink_write (o : Outlet) (bytes : Bytes) :
    o.sink.write bytes = ((o.write bytes).1.sink, (o.write bytes).2) := by
  fun_induction write o bytes with
  | case1 o => simp [Sink.write, sink]
  | case2 o bytes hb after h ih =>
    have hspec := o.call_spec hb
    rw [h] at hspec
    obtain ⟨rfl, -⟩ := hspec
    exact ih
  | case3 o bytes hb after cause h =>
    have hspec := o.call_spec hb
    rw [h] at hspec
    obtain ⟨rfl, hroom, hf⟩ := hspec
    have hrefusal : o.refusal = cause := by rw [refusal, hf]; rfl
    rw [sink_write_of_full hb hroom, hrefusal]
    rfl
  | case4 o bytes hb after h =>
    have hspec := o.call_spec hb
    rw [h] at hspec
    obtain ⟨rfl, -, -, hfull⟩ := hspec
    obtain ⟨hroom, hf⟩ := hfull rfl
    have hrefusal : o.refusal = .nothingTaken := by rw [refusal, hf]; rfl
    rw [sink_write_of_full hb hroom, hrefusal]
    simp [sink, refusal]
  | case5 o bytes hb after count h hcount ih =>
    have hspec := o.call_spec hb
    rw [h] at hspec
    obtain ⟨rfl, hroom, hlength, -⟩ := hspec
    have hfirst : (bytes.take count).length = count := List.length_take_of_le hlength
    have hfits : o.sink.hasRoom (bytes.take count).length = true := by
      simpa [Sink.hasRoom, sink, hfirst] using hroom
    have hoffered : o.sink.offered (bytes.take count) =
        ({ o with
          taken := o.taken ++ bytes.take count
          room := o.room - count
          portions := o.portions.tail } : Outlet).sink := by
      rw [Sink.offered, Sink.admitted_of_hasRoom hfits]
      simp [sink, refusal, hfirst]
    have hsplit := Sink.write_append hfits (bytes.drop count)
    rw [List.take_append_drop, hoffered] at hsplit
    exact hsplit.trans ih

/-- One byte, an interruption, two bytes, and no room for the last. -/
example : write ⟨[], 3, [some 0, none], none⟩ [1, 2, 3, 4] =
    (⟨[1, 2, 3], 0, [], none⟩, some .nothingTaken) := by cbv

end Outlet
end BlobSource
