import BlobSource.Text.Utf8

/-! Reading back what was encoded: every text is its own strict and its own lossy decoding. -/
namespace BlobSource.Utf8

private theorem toNat_ofNat {n : Nat} (h : n < 256) : (UInt8.ofNat n).toNat = n := by
  simp [UInt8.toNat_ofNat', Nat.mod_eq_of_lt h]

private theorem step_tail {s : Started} {n : Nat} (bs : Bytes) (hlow : s.low.toNat ≤ 0x80 + n)
    (hhigh : 0x80 + n ≤ s.high.toNat) (hn : n < 0x40) :
    scan (some s) (UInt8.ofNat (n + 128) :: bs) =
      match s.more with
      | 0 => some (Char.ofNat (s.value * 64 + n)) :: scan none bs
      | more + 1 => scan (some ⟨more, 0x80, 0xBF, s.value * 64 + n⟩) bs := by
  have hb : (UInt8.ofNat (n + 128)).toNat = n + 128 := toNat_ofNat (by omega)
  have hl : s.low ≤ UInt8.ofNat (n + 128) := UInt8.le_iff_toNat_le.mpr (by omega)
  have hh : UInt8.ofNat (n + 128) ≤ s.high := UInt8.le_iff_toNat_le.mpr (by omega)
  rw [scan, step]
  simp only [hl, hh, and_self, if_true, hb]
  cases s.more <;> simp

private theorem scan_lead {b : UInt8} {s : Started} (bs : Bytes) (h : Started.ofLead? b = some s)
    (hb : 0x80 ≤ b.toNat) : scan none (b :: bs) = scan (some s) bs := by
  rw [scan]
  simp [step, first, h, show ¬ b.toNat < 128 by omega]

theorem scan_char (c : Char) (bs : Bytes) :
    scan none (String.utf8EncodeChar c ++ bs) = some c :: scan none bs := by
  have hv : c.toNat < 0xD800 ∨ 0xDFFF < c.toNat ∧ c.toNat < 0x110000 := c.valid
  have hc : ∀ n, n = c.toNat → Char.ofNat n = c := fun n h => by rw [h]; exact Char.ofNat_toNat c
  unfold String.utf8EncodeChar
  simp only [show c.val.toNat = c.toNat from rfl]
  generalize c.toNat = v at *
  split
  · have h := toNat_ofNat (n := v) (by omega)
    simp [scan, step, first, h, hc v rfl, show v < 128 by omega]
  split
  · have h := toNat_ofNat (n := v / 64 % 32 + 192) (by omega)
    have hl : Started.ofLead? (UInt8.ofNat (v / 64 % 32 + 192)) = some ⟨0, 0x80, 0xBF, v / 64⟩ := by
      simp only [Started.ofLead?, h]
      rw [if_neg (by omega), if_pos (by omega), show v / 64 % 32 + 192 - 192 = v / 64 by omega]
    rw [List.cons_append, scan_lead _ hl (by omega), List.cons_append,
      step_tail _ (by simp) (by simp; omega) (by omega)]
    simp [hc (v / 64 * 64 + v % 64) (by omega)]
  split
  · have h := toNat_ofNat (n := v / 4096 % 16 + 224) (by omega)
    have hl : ∃ low high, Started.ofLead? (UInt8.ofNat (v / 4096 % 16 + 224)) =
        some ⟨1, low, high, v / 4096⟩ ∧ low.toNat ≤ 0x80 + v / 64 % 64 ∧
          0x80 + v / 64 % 64 ≤ high.toNat := by
      simp only [Started.ofLead?, h]
      rw [if_neg (by omega), if_neg (by omega)]
      split
      · exact ⟨0xA0, 0xBF, by rw [show v / 4096 = 0 by omega], by simp; omega, by simp; omega⟩
      split
      · exact ⟨0x80, 0x9F, by rw [show v / 4096 = 0xD by omega], by simp, by simp; omega⟩
      · rw [if_pos (by omega)]
        exact ⟨0x80, 0xBF, by rw [show v / 4096 % 16 + 224 - 224 = v / 4096 by omega], by simp,
          by simp; omega⟩
    obtain ⟨low, high, hl, hlow, hhigh⟩ := hl
    rw [List.cons_append, scan_lead _ hl (by omega), List.cons_append,
      step_tail _ hlow hhigh (by omega)]
    dsimp only
    rw [List.cons_append, step_tail _ (by simp) (by simp; omega) (by omega)]
    simp [hc ((v / 4096 * 64 + v / 64 % 64) * 64 + v % 64) (by omega)]
  · have h := toNat_ofNat (n := v / 262144 % 8 + 240) (by omega)
    have hl : ∃ low high, Started.ofLead? (UInt8.ofNat (v / 262144 % 8 + 240)) =
        some ⟨2, low, high, v / 262144⟩ ∧ low.toNat ≤ 0x80 + v / 4096 % 64 ∧
          0x80 + v / 4096 % 64 ≤ high.toNat := by
      simp only [Started.ofLead?, h]
      rw [if_neg (by omega), if_neg (by omega), if_neg (by omega), if_neg (by omega),
        if_neg (by omega)]
      split
      · exact ⟨0x90, 0xBF, by rw [show v / 262144 = 0 by omega], by simp; omega, by simp; omega⟩
      split
      · exact ⟨0x80, 0xBF, by rw [show v / 262144 % 8 + 240 - 240 = v / 262144 by omega], by simp,
          by simp; omega⟩
      · rw [if_pos (by omega)]
        exact ⟨0x80, 0x8F, by rw [show v / 262144 = 4 by omega], by simp, by simp; omega⟩
    obtain ⟨low, high, hl, hlow, hhigh⟩ := hl
    rw [List.cons_append, scan_lead _ hl (by omega), List.cons_append,
      step_tail _ hlow hhigh (by omega)]
    dsimp only
    rw [List.cons_append, step_tail _ (by simp) (by simp; omega) (by omega)]
    dsimp only
    rw [List.cons_append, step_tail _ (by simp) (by simp; omega) (by omega)]
    simp [hc (((v / 262144 * 64 + v / 4096 % 64) * 64 + v / 64 % 64) * 64 + v % 64) (by omega)]

theorem scan_encode (s : String) : scan none (encode s) = s.toList.map some := by
  unfold encode
  induction s.toList with
  | nil => rfl
  | cons c cs ih => rw [List.flatMap_cons, scan_char, ih, List.map_cons]

private theorem mapM_id_map_some (cs : List Char) : (cs.map some).mapM id = some cs := by
  induction cs with
  | nil => rfl
  | cons c cs ih => simp [List.mapM_cons, ih]

@[simp] theorem decode?_encode (s : String) : decode? (encode s) = some s := by
  rw [decode?, scan_encode, mapM_id_map_some, Option.map_some, String.ofList_toList]

@[simp] theorem decodeLossy_encode (s : String) : decodeLossy (encode s) = s := by
  simp [decodeLossy, scan_encode, Function.comp_def]

end BlobSource.Utf8
