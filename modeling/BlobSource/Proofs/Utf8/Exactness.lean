import BlobSource.Text.Utf8.RoundTrip
import Mathlib.Data.List.Basic

/-! Decoding accepts nothing but encoded text: bytes that decode strictly, and bytes that decode
lossily without a replacement, are the encoding of what they decode to. -/
namespace BlobSource.Utf8

def IsTail (b : UInt8) : Prop := 0x80 ≤ b.toNat ∧ b.toNat ≤ 0xBF

/-- The value of a character as far as it is read, with one byte more. -/
def nextValue (value : ℕ) (b : UInt8) : ℕ := value * 64 + (b.toNat - 0x80)

/-- What a first byte starts: how many bytes follow it, and which of them may be the next. -/
theorem Started.of_ofLead? {b : UInt8} {s : Started} (h : ofLead? b = some s) :
    0x80 ≤ s.low.toNat ∧ s.high.toNat ≤ 0xBF ∧
      (s.more = 0 ∧ b.toNat = 0xC0 + s.value ∧ 2 ≤ s.value ∧ s.value < 32 ∨
        s.more = 1 ∧ b.toNat = 0xE0 + s.value ∧ s.value < 16 ∧
          (s.value = 0 → 0xA0 ≤ s.low.toNat) ∧ (s.value = 0xD → s.high.toNat ≤ 0x9F) ∨
        s.more = 2 ∧ b.toNat = 0xF0 + s.value ∧ s.value ≤ 4 ∧
          (s.value = 0 → 0x90 ≤ s.low.toNat) ∧ (s.value = 4 → s.high.toNat ≤ 0x8F)) := by
  unfold ofLead? at h
  dsimp only at h
  split at h
  · cases h
  split at h
  · cases h
    simp
    omega
  split at h
  · cases h
    simp
    omega
  split at h
  · cases h
    simp
    omega
  split at h
  · cases h
    simp
    omega
  split at h
  · cases h
    simp
    omega
  split at h
  · cases h
    simp
    omega
  split at h
  · cases h
    simp
    omega
  · cases h

theorem exists_tail_of_scan {s : Started} {bs : Bytes} {cs : List Char}
    (h : scan (some s) bs = cs.map some) : ∃ b tail rest cs', bs = b :: (tail ++ rest) ∧
      (s.low.toNat ≤ b.toNat ∧ b.toNat ≤ s.high.toNat) ∧ tail.length = s.more ∧
      (∀ d ∈ tail, IsTail d) ∧ cs = Char.ofNat ((b :: tail).foldl nextValue s.value) :: cs' ∧
      scan none rest = cs'.map some := by
  induction bs generalizing s with
  | nil => cases cs <;> simp [scan] at h
  | cons b bs ih =>
    by_cases hb : s.low ≤ b ∧ b ≤ s.high
    · have hrange : s.low.toNat ≤ b.toNat ∧ b.toNat ≤ s.high.toNat := hb
      rw [scan, step, if_pos hb] at h
      cases hmore : s.more with
      | zero =>
        simp only [hmore] at h
        cases cs with
        | nil => cases h
        | cons c cs =>
          obtain ⟨hc, hrest⟩ := List.cons.inj h
          obtain rfl := Option.some.inj hc
          exact ⟨b, [], bs, cs, rfl, hrange, rfl, by simp, rfl, hrest⟩
      | succ more =>
        simp only [hmore] at h
        obtain ⟨d, tail, rest, cs', hbs, hd, hlength, htail, hcs, hrest⟩ := ih h
        refine ⟨b, d :: tail, rest, cs', by rw [hbs]; rfl, hrange, ?_, ?_, ?_, hrest⟩
        · rw [List.length_cons, hlength]
        · exact List.forall_mem_cons.2 ⟨hd, htail⟩
        · rw [hcs, List.foldl_cons (b := s.value)]
          rfl
    · rw [scan, step, if_neg hb] at h
      cases cs <;> cases h

private theorem ofNat_eq {b : UInt8} {n : ℕ} (h : n = b.toNat) : UInt8.ofNat n = b := by
  rw [h, UInt8.ofNat_toNat]

private theorem toNat_val_ofNat {n : ℕ} (h : n.isValidChar) : (Char.ofNat n).val.toNat = n := by
  rw [Char.ofNat, dif_pos h]
  rfl

theorem utf8EncodeChar_foldl {a b : UInt8} {s : Started} {tail : Bytes}
    (ha : Started.ofLead? a = some s) (hb : s.low.toNat ≤ b.toNat ∧ b.toNat ≤ s.high.toNat)
    (hlength : tail.length = s.more) (htail : ∀ d ∈ tail, IsTail d) :
    String.utf8EncodeChar (Char.ofNat ((b :: tail).foldl nextValue s.value)) = a :: b :: tail := by
  obtain ⟨hlow, hhigh, hkind⟩ := Started.of_ofLead? ha
  generalize hv : (b :: tail).foldl nextValue s.value = v
  rcases hkind with ⟨hmore, hlead, hbelow, habove⟩ | ⟨hmore, hlead, habove, hfirst, hlast⟩ |
    ⟨hmore, hlead, habove, hfirst, hlast⟩
  · obtain rfl := List.eq_nil_of_length_eq_zero (hlength.trans hmore)
    simp only [List.foldl_cons, List.foldl_nil] at hv
    unfold nextValue at hv
    have hvalid : v.isValidChar := .inl (by omega)
    unfold String.utf8EncodeChar
    rw [toNat_val_ofNat hvalid, if_neg (by omega), if_pos (by omega), ofNat_eq (b := a) (by omega),
      ofNat_eq (b := b) (by omega)]
  · obtain ⟨d, rfl⟩ := List.length_eq_one_iff.1 (hlength.trans hmore)
    obtain ⟨hd, hd'⟩ := htail d List.mem_cons_self
    simp only [List.foldl_cons, List.foldl_nil] at hv
    unfold nextValue at hv
    have hvalid : v.isValidChar := by
      unfold Nat.isValidChar
      omega
    unfold String.utf8EncodeChar
    rw [toNat_val_ofNat hvalid, if_neg (by omega), if_neg (by omega), if_pos (by omega),
      ofNat_eq (b := a) (by omega), ofNat_eq (b := b) (by omega), ofNat_eq (b := d) (by omega)]
  · obtain ⟨d, e, rfl⟩ := List.length_eq_two.1 (hlength.trans hmore)
    obtain ⟨hd, hd'⟩ := htail d List.mem_cons_self
    obtain ⟨he, he'⟩ := htail e (List.mem_cons_of_mem d List.mem_cons_self)
    simp only [List.foldl_cons, List.foldl_nil] at hv
    unfold nextValue at hv
    have hvalid : v.isValidChar := by
      unfold Nat.isValidChar
      omega
    unfold String.utf8EncodeChar
    rw [toNat_val_ofNat hvalid, if_neg (by omega), if_neg (by omega), if_neg (by omega),
      ofNat_eq (b := a) (by omega), ofNat_eq (b := b) (by omega), ofNat_eq (b := d) (by omega),
      ofNat_eq (b := e) (by omega)]

theorem scan_some_ne_nil (s : Started) (bs : Bytes) : scan (some s) bs ≠ [] := by
  induction bs generalizing s with
  | nil => simp [scan]
  | cons b bs ih =>
    rw [scan]
    unfold step
    dsimp only
    split
    · cases s.more with
      | zero => simp
      | succ more => exact ih _
    · simp

theorem scan_cons_ne_nil (a : UInt8) (bs : Bytes) : scan none (a :: bs) ≠ [] := by
  rw [scan, step, first]
  split
  · simp
  · cases Started.ofLead? a with
    | none => simp
    | some s => exact scan_some_ne_nil s bs

theorem decodeLossy_ne_empty {bs : Bytes} (h : bs ≠ []) : decodeLossy bs ≠ "" := by
  obtain ⟨a, bs, rfl⟩ := List.exists_cons_of_ne_nil h
  intro hempty
  have hparts : (scan none (a :: bs)).map (·.getD '\uFFFD') = [] := by
    rw [← String.toList_ofList (l := (scan none (a :: bs)).map (·.getD '\uFFFD'))]
    exact congrArg String.toList hempty
  exact scan_cons_ne_nil a bs (List.map_eq_nil_iff.1 hparts)

theorem eq_flatMap_of_scan {bs : Bytes} {cs : List Char} (h : scan none bs = cs.map some) :
    bs = cs.flatMap String.utf8EncodeChar := by
  induction hn : bs.length using Nat.strongRecOn generalizing bs cs with
  | ind n ih =>
    subst hn
    cases bs with
    | nil =>
      cases cs with
      | nil => rfl
      | cons c cs => cases h
    | cons a bs =>
      cases cs with
      | nil => exact absurd h (scan_cons_ne_nil a bs)
      | cons c cs =>
        rw [scan, step, first] at h
        by_cases hascii : a.toNat < 0x80
        · rw [if_pos hascii] at h
          obtain ⟨hc, hrest⟩ := List.cons.inj h
          have hencoded : String.utf8EncodeChar (Char.ofNat a.toNat) = [a] := by
            unfold String.utf8EncodeChar
            rw [toNat_val_ofNat (.inl (by omega)), if_pos (by omega), ofNat_eq rfl]
          have hlater := ih bs.length (by simp) hrest rfl
          rw [List.flatMap_cons, ← Option.some.inj hc, hencoded, ← hlater]
          rfl
        · rw [if_neg hascii] at h
          cases ha : Started.ofLead? a with
          | none =>
            rw [ha] at h
            cases h
          | some s =>
            rw [ha] at h
            have hstarted : scan (some s) bs = (c :: cs).map some := h
            obtain ⟨b, tail, rest, cs', rfl, hb, hlength, htail, hcs, hrest⟩ :=
              exists_tail_of_scan hstarted
            have hlater := ih rest.length (by simp; omega) hrest rfl
            rw [hcs, List.flatMap_cons, utf8EncodeChar_foldl ha hb hlength htail, ← hlater]
            rfl

private theorem eq_map_some_of_mapM {parts : List (Option Char)} {cs : List Char}
    (h : parts.mapM id = some cs) : parts = cs.map some := by
  induction parts generalizing cs with
  | nil =>
    cases h
    rfl
  | cons part parts ih =>
    cases part with
    | none => simp at h
    | some c =>
      cases hrest : parts.mapM id with
      | none => simp [hrest] at h
      | some rest =>
        have hcs : c :: rest = cs := by simpa [hrest] using h
        rw [← hcs, ih hrest, List.map_cons]

/-- Bytes that decode to a text are its encoding, and no others do. -/
theorem decode?_eq_some_iff {bs : Bytes} {s : String} : decode? bs = some s ↔ bs = encode s := by
  constructor
  · intro h
    obtain ⟨cs, hcs, rfl⟩ := Option.map_eq_some_iff.1 h
    rw [eq_flatMap_of_scan (eq_map_some_of_mapM hcs), encode, String.toList_ofList]
  · rintro rfl
    exact decode?_encode s

/-- Bytes that decode without a replacement are the encoding of what they decode to. -/
theorem eq_encode_of_notMem_decodeLossy {bs : Bytes} (h : '\uFFFD' ∉ (decodeLossy bs).toList) :
    bs = encode (decodeLossy bs) := by
  rw [decodeLossy, String.toList_ofList] at h
  have hparts : scan none bs = ((scan none bs).map (·.getD '\uFFFD')).map some := by
    have hsome : ∀ part ∈ scan none bs, (some ∘ (·.getD '\uFFFD')) part = id part := by
      intro part hpart
      cases part with
      | none => exact absurd (List.mem_map.2 ⟨none, hpart, rfl⟩) h
      | some c => rfl
    rw [List.map_map, List.map_congr_left hsome, List.map_id]
  rw [encode, decodeLossy, String.toList_ofList]
  exact eq_flatMap_of_scan hparts

end BlobSource.Utf8
