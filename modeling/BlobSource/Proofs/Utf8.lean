import BlobSource.Text.Utf8.RoundTrip
import Mathlib.Data.List.Basic

/-! Bytes below `80` stand for themselves: none of them is part of a longer character, neither in a
text that is encoded nor in bytes that are decoded. -/
namespace BlobSource.Utf8

theorem eq_ofNat_of_mem_utf8EncodeChar {b : UInt8} (hb : b.toNat < 0x80) {c : Char}
    (h : b ∈ String.utf8EncodeChar c) : c = Char.ofNat b.toNat := by
  have hlong : ∀ n, 0x80 ≤ n % 256 → b ≠ UInt8.ofNat n := by
    rintro n hn rfl
    rw [UInt8.toNat_ofNat'] at hb
    omega
  unfold String.utf8EncodeChar at h
  simp only [show c.val.toNat = c.toNat from rfl] at h
  split at h
  · have hvalue : b.toNat = c.toNat := by
      rw [List.mem_singleton.1 h, UInt8.toNat_ofNat']
      omega
    rw [hvalue, Char.ofNat_toNat]
  split at h
  · rcases List.mem_pair.1 h with h | h
    · exact absurd h (hlong _ (by omega))
    · exact absurd h (hlong _ (by omega))
  split at h
  · simp only [List.mem_cons, List.not_mem_nil, or_false] at h
    rcases h with h | h | h
    · exact absurd h (hlong _ (by omega))
    · exact absurd h (hlong _ (by omega))
    · exact absurd h (hlong _ (by omega))
  · simp only [List.mem_cons, List.not_mem_nil, or_false] at h
    rcases h with h | h | h | h
    · exact absurd h (hlong _ (by omega))
    · exact absurd h (hlong _ (by omega))
    · exact absurd h (hlong _ (by omega))
    · exact absurd h (hlong _ (by omega))

theorem length_encode_of_isAscii {s : String} (h : ∀ c ∈ s.toList, c.toNat < 0x80) :
    (encode s).length = s.length := by
  rw [← String.length_toList, encode]
  generalize s.toList = chars at h
  induction chars with
  | nil => rfl
  | cons c cs ih =>
    have hc : c.utf8Size = 1 := by
      have hlow := h c List.mem_cons_self
      rw [Char.utf8Size_eq_one_iff, UInt32.le_iff_toNat_le]
      exact Nat.le_of_lt_succ hlow
    have hcs := ih fun d hd => h d (List.mem_cons_of_mem c hd)
    rw [List.flatMap_cons, List.length_append, String.length_utf8EncodeChar, hc, hcs,
      List.length_cons, Nat.add_comm]

theorem mem_toList_of_mem_encode {b : UInt8} (hb : b.toNat < 0x80) {s : String}
    (h : b ∈ encode s) : Char.ofNat b.toNat ∈ s.toList := by
  obtain ⟨c, hc, hbc⟩ := List.mem_flatMap.1 h
  exact eq_ofNat_of_mem_utf8EncodeChar hb hbc ▸ hc

/-- What is started comes to a character from `80` on. -/
def Started.IsLong (s : Started) : Prop :=
  2 ≤ s.value ∨ s.more ≠ 0 ∧ 2 ≤ s.value * 64 + (s.low.toNat - 0x80)

theorem Started.isLong_of_ofLead? {b : UInt8} {s : Started} (h : ofLead? b = some s) :
    s.IsLong := by
  unfold ofLead? at h
  dsimp only at h
  unfold IsLong
  split at h
  · cases h
  split at h
  · cases h
    exact .inl (by dsimp only; omega)
  split at h
  · cases h
    exact .inr (by decide)
  split at h
  · cases h
    exact .inl (by decide)
  split at h
  · cases h
    exact .inr ⟨Nat.one_ne_zero, by dsimp only; omega⟩
  split at h
  · cases h
    exact .inr (by decide)
  split at h
  · cases h
    exact .inr ⟨by simp, by dsimp only; omega⟩
  split at h
  · cases h
    exact .inl (by decide)
  · cases h

/-- With a byte that continues it, what is started has got a value, which is past the characters
below `80` if it was the last one. -/
theorem Started.IsLong.value {s : Started} (h : s.IsLong) {b : UInt8} (hb : s.low ≤ b) :
    2 ≤ s.value * 64 + (b.toNat - 0x80) ∧
      (s.more = 0 → 0x80 ≤ s.value * 64 + (b.toNat - 0x80)) := by
  have hlow : s.low.toNat ≤ b.toNat := UInt8.le_iff_toNat_le.1 hb
  rcases h with h | ⟨hmore, h⟩
  · exact ⟨by omega, fun _ => by omega⟩
  · exact ⟨by omega, fun h0 => absurd h0 hmore⟩

section Scan
variable {c : Char}

private theorem toNat_eq_of_eq_ofNat {n : ℕ} (hc : 0 < c.toNat) (h : c = Char.ofNat n) :
    c.toNat = n := by
  subst h
  by_cases hn : n.isValidChar
  · rw [Char.ofNat, dif_pos hn]
    rfl
  · rw [Char.ofNat, dif_neg hn] at hc
    exact absurd hc (by decide)

private theorem first_spec (hc : 0 < c.toNat ∧ c.toNat < 0x80) (b : UInt8) :
    (some c ∈ (first b).1 → b = UInt8.ofNat c.toNat) ∧
      ∀ s, (first b).2 = some s → s.IsLong := by
  unfold first
  split
  · rename_i hb
    constructor
    · intro h
      rw [toNat_eq_of_eq_ofNat hc.1 (Option.some.inj (List.mem_singleton.1 h)), UInt8.ofNat_toNat]
    · rintro s ⟨⟩
  · cases hl : Started.ofLead? b with
    | none => simp
    | some started =>
      refine ⟨by simp, ?_⟩
      rintro s ⟨⟩
      exact Started.isLong_of_ofLead? hl

private theorem step_spec (hc : 0 < c.toNat ∧ c.toNat < 0x80) {state : Option Started}
    (hs : ∀ s, state = some s → s.IsLong) (b : UInt8) :
    (some c ∈ (step state b).1 → b = UInt8.ofNat c.toNat) ∧
      ∀ s, (step state b).2 = some s → s.IsLong := by
  have hfirst := first_spec hc b
  cases state with
  | none => exact hfirst
  | some started =>
    unfold step
    dsimp only
    split
    · rename_i hb
      obtain ⟨hvalue, hlast⟩ := (hs started rfl).value hb.1
      cases hm : started.more with
      | zero =>
        refine ⟨?_, by simp⟩
        intro h
        have hdone := toNat_eq_of_eq_ofNat hc.1 (Option.some.inj (List.mem_singleton.1 h))
        have hlong := hlast hm
        omega
      | succ more =>
        refine ⟨by simp, ?_⟩
        rintro s ⟨⟩
        exact .inl hvalue
    · refine ⟨?_, hfirst.2⟩
      intro h
      rcases List.mem_cons.1 h with h | h
      · cases h
      · exact hfirst.1 h

/-- A character below `80` is decoded from its own byte alone. -/
theorem mem_of_mem_scan (hc : 0 < c.toNat ∧ c.toNat < 0x80) {bs : Bytes} {state : Option Started}
    (hs : ∀ s, state = some s → s.IsLong) (h : some c ∈ scan state bs) :
    UInt8.ofNat c.toNat ∈ bs := by
  induction bs generalizing state with
  | nil =>
    cases state with
    | none => cases h
    | some s => simp [scan] at h
  | cons b bs ih =>
    obtain ⟨hstep, hnext⟩ := step_spec hc hs b
    rw [scan, List.mem_append] at h
    rcases h with h | h
    · exact hstep h ▸ List.mem_cons_self
    · exact List.mem_cons_of_mem b (ih hnext h)

theorem mem_of_mem_decodeLossy (hc : 0 < c.toNat ∧ c.toNat < 0x80) {bs : Bytes}
    (h : c ∈ (decodeLossy bs).toList) : UInt8.ofNat c.toNat ∈ bs := by
  rw [decodeLossy, String.toList_ofList] at h
  obtain ⟨part, hpart, rfl⟩ := List.mem_map.1 h
  cases part with
  | none => exact absurd hc.2 (by decide)
  | some d => exact mem_of_mem_scan hc (by simp) hpart

end Scan
end BlobSource.Utf8
