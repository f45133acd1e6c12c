import BlobSource.Listing
import Mathlib.Data.List.Basic

/-! What a receiver holds once a sequence of pieces has been written to it. -/
namespace BlobSource
open Receiver

namespace Utf8

theorem encode_append (s t : String) : encode (s ++ t) = encode s ++ encode t := by
  simp [encode]

theorem encode_join_cons (piece : String) (pieces : List String) :
    encode (String.join (piece :: pieces)) = encode piece ++ encode (String.join pieces) := by
  simp [encode, String.toList_join]

end Utf8

namespace Sink

/-- Whether a receiver takes so many bytes without a refusal. -/
def hasRoom (s : Sink) (count : ℕ) : Bool := s.room?.all (count ≤ ·)

def admitted (s : Sink) (bytes : Bytes) : Bytes :=
  match s.room? with
  | none => bytes
  | some room => bytes.take room

def offered (s : Sink) (bytes : Bytes) : Sink :=
  { s with
    taken := s.taken ++ s.admitted bytes
    room? := s.room?.map (· - bytes.length) }

@[simp] theorem text_offered (s : Sink) (bytes : Bytes) :
    (s.offered bytes).text = s.text ++ s.admitted bytes := by
  simp [offered, text]

theorem admitted_of_hasRoom {s : Sink} {bytes : Bytes} (h : s.hasRoom bytes.length = true) :
    s.admitted bytes = bytes := by
  cases hs : s.room? with
  | none => simp [admitted, hs]
  | some room =>
    have hl : bytes.length ≤ room := by simpa [hasRoom, hs] using h
    simp [admitted, hs, List.take_of_length_le hl]

private theorem write_eq (s : Sink) (piece : Bytes) :
    s.write piece = (s.offered piece, if s.hasRoom piece.length then none else some s.refusal) := by
  cases h : s.room? with
  | none => simp [write, offered, admitted, hasRoom, h]
  | some room =>
    by_cases hp : piece.length ≤ room <;> simp [write, offered, admitted, hasRoom, h, hp]

private theorem offered_append {s : Sink} {bytes : Bytes} (h : s.hasRoom bytes.length = true)
    (more : Bytes) : s.offered (bytes ++ more) = (s.offered bytes).offered more := by
  have ha : ∀ bs : Bytes, s.taken ++ (bytes ++ bs) = s.taken ++ bytes ++ bs := fun bs => by
    apply Array.toList_inj.1
    simp
  cases hs : s.room? with
  | none => simp [offered, admitted, hs, ha]
  | some room =>
    have hl : bytes.length ≤ room := by simpa [hasRoom, hs] using h
    simp [offered, admitted, hs, List.take_append, List.take_of_length_le hl, Nat.sub_sub, ha]

private theorem offered_append_of_full {s : Sink} {bytes : Bytes}
    (h : s.hasRoom bytes.length = false) (more : Bytes) :
    s.offered (bytes ++ more) = s.offered bytes := by
  cases hs : s.room? with
  | none => simp [hasRoom, hs] at h
  | some room =>
    have hl : room < bytes.length := by simpa [hasRoom, hs] using h
    have ht : (bytes ++ more).take room = bytes.take room :=
      List.take_append_of_le_length (Nat.le_of_lt hl)
    have hz : room - (bytes ++ more).length = room - bytes.length := by
      rw [List.length_append]
      omega
    simp only [offered, admitted, hs, ht, Option.map_some, hz]

private theorem hasRoom_offered {s : Sink} {bytes : Bytes} (h : s.hasRoom bytes.length = true)
    (n : ℕ) : (s.offered bytes).hasRoom n = s.hasRoom (bytes.length + n) := by
  cases hs : s.room? with
  | none => simp [hasRoom, offered, hs]
  | some room =>
    have hl : bytes.length ≤ room := by simpa [hasRoom, hs] using h
    simp only [hasRoom, offered, hs, Option.map_some, Option.all_some, decide_eq_decide]
    omega

theorem write_append {s : Sink} {bytes : Bytes} (h : s.hasRoom bytes.length = true)
    (more : Bytes) : s.write (bytes ++ more) = (s.offered bytes).write more := by
  rw [write_eq, write_eq, offered_append h, hasRoom_offered h, List.length_append]
  rfl

theorem write_of_full {s : Sink} (h : s.room? = some 0) {bytes : Bytes} (hb : bytes ≠ []) :
    s.write bytes = (s, some s.refusal) := by
  obtain ⟨taken, room?, refusal, keepsNothing⟩ := s
  subst h
  simp [write, hb]

private theorem hasRoom_of_le {s : Sink} {m n : ℕ} (hmn : m ≤ n) (h : s.hasRoom n = true) :
    s.hasRoom m = true := by
  cases hs : s.room? with
  | none => simp [hasRoom, hs]
  | some room =>
    have hl : n ≤ room := by simpa [hasRoom, hs] using h
    simpa [hasRoom, hs] using Nat.le_trans hmn hl

/-- A receiver is offered all pieces together. How the bytes are divided into pieces does not
matter, and there is one refusal if there is not room for all. -/
theorem writeAll_eq {s : Sink} (hk : s.keepsNothing = false) (pieces : Deferred String) :
    writeAll s pieces =
      (s.offered (Utf8.encode (String.join pieces.toList)),
        if s.hasRoom (Utf8.encode (String.join pieces.toList)).length then none
        else some s.refusal) := by
  induction pieces generalizing s with
  | nil =>
    have hr : s.hasRoom 0 = true := by cases hs : s.room? <;> simp [hasRoom, hs]
    have ho : s.offered [] = s := by
      obtain ⟨taken, room?, refusal, keepsNothing⟩ := s
      cases room? <;> simp [offered, admitted]
    simp [writeAll, Deferred.toList, Utf8.encode, hr, ho]
  | cons piece rest ih =>
    have hw : Receiver.write s (Utf8.encode piece) = _ := write_eq s (Utf8.encode piece)
    have hkeep : (s.offered (Utf8.encode piece)).keepsNothing = false := hk
    rw [writeAll, if_neg (by simp [Receiver.keepsNothing, hk]), hw, Deferred.toList,
      Utf8.encode_join_cons]
    by_cases hr : s.hasRoom (Utf8.encode piece).length = true
    · rw [if_pos hr]
      simp only [ih () hkeep, hasRoom_offered hr, offered_append hr, List.length_append]
      rfl
    · have hfull : ¬ s.hasRoom (Utf8.encode piece ++
          Utf8.encode (String.join (rest ()).toList)).length = true := by
        intro h
        refine hr (hasRoom_of_le ?_ h)
        rw [List.length_append]
        exact Nat.le_add_right _ _
      rw [if_neg hr, if_neg hfull, offered_append_of_full (by simpa using hr)]

end Sink

namespace Emission

def bytes (e : Emission) : Bytes := Utf8.encode e.text

/-- Where a receiver cuts the text off, its refusal comes before whatever the outcome would have
been. -/
theorem onto_sink (e : Emission) {s : Sink} (hk : s.keepsNothing = false) :
    e.onto s = (s.offered e.bytes,
      if s.hasRoom e.bytes.length then e.outcome else .error (.outputRefused s.refusal)) := by
  have hw : writeAll s e.pieces = (s.offered e.bytes,
      if s.hasRoom e.bytes.length then none else some s.refusal) := Sink.writeAll_eq hk e.pieces
  rw [onto, hw]
  by_cases hr : s.hasRoom e.bytes.length = true
  · rw [if_pos hr, if_pos hr]
  · rw [if_neg hr, if_neg hr]

/-- Whatever the receiver, only its refusal can come in the place of the outcome. -/
theorem result_onto {σ : Type} [Receiver σ] (e : Emission) (t : σ) :
    (e.onto t).2 = e.outcome ∨ ∃ cause, (e.onto t).2 = .error (.outputRefused cause) := by
  unfold onto
  rcases writeAll t e.pieces with ⟨after, refusal?⟩
  cases refusal? with
  | none => exact .inl rfl
  | some refusal => exact .inr ⟨refusal, rfl⟩

theorem onto_boundless (e : Emission) :
    (e.onto Sink.boundless).1.text = e.bytes ∧ (e.onto Sink.boundless).2 = e.outcome := by
  rw [onto_sink e rfl]
  exact ⟨Sink.text_offered _ _, rfl⟩

end Emission

namespace Buffered

private theorem keepsNothing_write (s : Sink) (piece : Bytes) :
    (s.write piece).1.keepsNothing = s.keepsNothing := by
  unfold Sink.write
  split
  · rfl
  · dsimp only
    split <;> rfl

private theorem keepsNothing_flush (b : Buffered) :
    b.flush.1.sink.keepsNothing = b.sink.keepsNothing := by
  have h := keepsNothing_write b.sink b.pending.toList
  unfold flush
  split <;> simp_all

private theorem keepsNothing_add (b : Buffered) (piece : Bytes) :
    (b.add piece).1.sink.keepsNothing = b.sink.keepsNothing := by
  unfold add
  split
  · exact keepsNothing_write b.sink piece
  · rfl

private theorem keepsNothing_buffered_write (b : Buffered) (piece : Bytes) :
    (b.write piece).1.sink.keepsNothing = b.sink.keepsNothing := by
  have hf := keepsNothing_flush b
  unfold write
  split
  · exact keepsNothing_add b piece
  split
  · rename_i after heq
    rw [heq] at hf
    rw [keepsNothing_add, hf]
  · rename_i after refusal heq
    rw [heq] at hf
    exact hf

theorem writeAll_of_boundless {b : Buffered} (hk : b.sink.keepsNothing = false)
    (hr : b.sink.room? = none) (pieces : Deferred String) :
    ∃ after : Buffered, writeAll b pieces = (after, none) ∧ after.sink.room? = none ∧
      after.text = b.text ++ Utf8.encode (String.join pieces.toList) := by
  induction pieces generalizing b with
  | nil => exact ⟨b, rfl, hr, by simp [Deferred.toList, Utf8.encode]⟩
  | cons piece rest ih =>
    obtain ⟨ht, hn, hr'⟩ := text_write_of_boundless hr (Utf8.encode piece)
    have hk' := (keepsNothing_buffered_write b (Utf8.encode piece)).trans hk
    obtain ⟨after, hw, hra, hta⟩ := ih () hk' hr'
    have hstep : Receiver.write b (Utf8.encode piece) = ((b.write (Utf8.encode piece)).1, none) :=
      Prod.ext rfl hn
    refine ⟨after, ?_, hra, ?_⟩
    · rw [writeAll, if_neg (by simp [Receiver.keepsNothing, hk]), hstep]
      exact hw
    · rw [hta, ht, Deferred.toList, Utf8.encode_join_cons, List.append_assoc]

/-- Pieces that do not fill the buffer stay in it, and nothing is handed on. -/
theorem writeAll_of_fits {b : Buffered} (hk : b.sink.keepsNothing = false)
    {pieces : Deferred String} (h : b.pending.size +
      (Utf8.encode (String.join pieces.toList)).length < capacity) :
    writeAll b pieces =
      ({ b with pending := b.pending ++ Utf8.encode (String.join pieces.toList) }, none) := by
  induction pieces generalizing b with
  | nil => simp [writeAll, Deferred.toList, Utf8.encode]
  | cons piece rest ih =>
    rw [Deferred.toList, Utf8.encode_join_cons, List.length_append] at h
    have hfits : b.pending.size + (Utf8.encode piece).length ≤ capacity := by omega
    have hshort : ¬ capacity ≤ (Utf8.encode piece).length := by omega
    have hstep : Receiver.write b (Utf8.encode piece) =
        ({ b with pending := b.pending ++ Utf8.encode piece }, none) := by
      change b.write (Utf8.encode piece) = _
      rw [write, if_pos hfits, add, if_neg hshort]
    have hsize : (b.pending ++ Utf8.encode piece).size =
        b.pending.size + (Utf8.encode piece).length := by
      rw [← Array.length_toList, Array.toList_appendList, List.length_append, Array.length_toList]
    have hroom : (b.pending ++ Utf8.encode piece).size +
        (Utf8.encode (String.join (rest ()).toList)).length < capacity := by
      rw [hsize]
      omega
    have hrest := ih () (b := ⟨b.sink, b.pending ++ Utf8.encode piece⟩) hk hroom
    rw [writeAll, if_neg (by simp [Receiver.keepsNothing, hk]), hstep]
    dsimp only
    rw [hrest, Deferred.toList, Utf8.encode_join_cons, Prod.mk.injEq, Buffered.mk.injEq]
    refine ⟨⟨rfl, ?_⟩, rfl⟩
    apply Array.toList_inj.1
    simp

end Buffered
end BlobSource
