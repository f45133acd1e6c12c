import BlobSource.Proofs.BuildStages
import BlobSource.Proofs.FrontEnds
import BlobSource.Proofs.Produced
import Mathlib.Computability.Language

/-! How the width of a target is spelled, and what a build step makes of every other value. A number
that does not fit 32 bits never passes for one that does. -/
namespace BlobSource
open Reading

namespace WordWidth
open scoped Computability

/-- The numbers of bits that a word serves, as they are written. -/
def numerals : WordWidth → Language Char
  | .bits32 => {"16".toList, "32".toList}
  | .bits64 => {"64".toList}

/-- What spells a width: a plus sign or none, any zeros, and a number of bits. -/
def spellings (width : WordWidth) : Language Char := {[], ['+']} * {['0']}∗ * width.numerals

/-- What is left of a text behind its plus sign. -/
def magnitude : List Char → List Char
  | '+' :: rest => rest
  | cs => cs

/-- A word of 32 bits takes in one more digit, unless it overflows. -/
def push? (n : UInt32) (c : Char) : Option UInt32 :=
  let digit := UInt32.ofNat (c.toNat - '0'.toNat)
  if c.isDigit = false then none
  else if UInt32.size ≤ n.toNat * 10 then none
  else if UInt32.size ≤ (n * 10).toNat + digit.toNat then none
  else some (n * 10 + digit)

/-- A number of bits, taken in digit by digit. -/
def pushAll? (text : String) : Option UInt32 :=
  if magnitude text.toList = [] then none else (magnitude text.toList).foldlM push? 0

theorem bits?_eq (text : String) :
    bits? text = (number? (magnitude text.toList)).filter (· < UInt32.size) := rfl

theorem number?_spec {digits : List Char} {n : ℕ} : number? digits = some n ↔
    digits ≠ [] ∧ (∀ c ∈ digits, c.isDigit = true) ∧ Nat.ofDigitChars 10 digits 0 = n := by
  unfold number?
  rw [Option.ite_none_right_eq_some, Option.some.injEq, List.all_eq_true, and_assoc,
    Nat.ofDigitChars_eq_foldl]
  simp only [Nat.mul_comm]

theorem digit_lt_ten {c : Char} (h : c.isDigit = true) : c.toNat - '0'.toNat < 10 := by
  obtain ⟨-, hnine⟩ := Char.isDigit_iff_toNat.1 h
  have hcodes : '0'.toNat = 48 ∧ '9'.toNat = 57 := by decide
  omega

theorem le_ofDigitChars (digits : List Char) (n : ℕ) : n ≤ Nat.ofDigitChars 10 digits n := by
  induction digits generalizing n with
  | nil => exact Nat.le_refl n
  | cons c digits ih =>
    rw [Nat.ofDigitChars_cons]
    have hrest := ih (10 * n + (c.toNat - '0'.toNat))
    omega

theorem push?_eq_some_iff {n m : UInt32} {c : Char} : push? n c = some m ↔
    c.isDigit = true ∧ m.toNat = 10 * n.toNat + (c.toNat - '0'.toNat) := by
  have hm := m.toNat_lt
  have hsize : UInt32.size = 2 ^ 32 := rfl
  by_cases hdigit : c.isDigit = true
  · have hten := digit_lt_ten hdigit
    have hvalue : (UInt32.ofNat (c.toNat - '0'.toNat)).toNat = c.toNat - '0'.toNat := by
      apply UInt32.toNat_ofNat_of_lt'
      omega
    have hproduct : (n * 10).toNat = n.toNat * 10 % 2 ^ 32 := UInt32.toNat_mul n 10
    have hsum : (n * 10 + UInt32.ofNat (c.toNat - '0'.toNat)).toNat =
        ((n * 10).toNat + (c.toNat - '0'.toNat)) % 2 ^ 32 := by
      rw [UInt32.toNat_add, hvalue]
    unfold push?
    dsimp only
    rw [if_neg (by simp [hdigit])]
    split
    · simp only [reduceCtorEq, hdigit, true_and, false_iff]
      omega
    split
    · simp only [reduceCtorEq, hdigit, true_and, false_iff]
      omega
    · simp only [Option.some.injEq, hdigit, true_and, ← UInt32.toNat_inj]
      omega
  · simp [push?, hdigit]

theorem foldlM_push?_eq_some_iff {digits : List Char} {n m : UInt32} :
    digits.foldlM push? n = some m ↔
      (∀ c ∈ digits, c.isDigit = true) ∧ m.toNat = Nat.ofDigitChars 10 digits n.toNat := by
  induction digits generalizing n with
  | nil =>
    rw [Nat.ofDigitChars_nil, UInt32.toNat_inj]
    constructor
    · intro h
      cases h
      exact ⟨by simp, rfl⟩
    · rintro ⟨-, rfl⟩
      rfl
  | cons c digits ih =>
    rw [List.foldlM_cons, Option.bind_eq_bind, Option.bind_eq_some_iff, Nat.ofDigitChars_cons,
      List.forall_mem_cons]
    constructor
    · rintro ⟨next, hnext, hrest⟩
      obtain ⟨hdigit, hvalue⟩ := push?_eq_some_iff.1 hnext
      obtain ⟨hdigits, hm⟩ := ih.1 hrest
      exact ⟨⟨hdigit, hdigits⟩, hvalue ▸ hm⟩
    · rintro ⟨⟨hdigit, hdigits⟩, hm⟩
      have hle := le_ofDigitChars digits (10 * n.toNat + (c.toNat - '0'.toNat))
      have hfits : 10 * n.toNat + (c.toNat - '0'.toNat) < UInt32.size := by
        have hlast := m.toNat_lt
        have hsize : UInt32.size = 2 ^ 32 := rfl
        omega
      have hvalue := UInt32.toNat_ofNat_of_lt' hfits
      exact ⟨_, push?_eq_some_iff.2 ⟨hdigit, hvalue⟩, ih.2 ⟨hdigits, by rw [hvalue, hm]⟩⟩

theorem bits?_eq_map_pushAll? (text : String) : bits? text = (pushAll? text).map UInt32.toNat := by
  apply Option.ext
  intro n
  rw [bits?_eq, pushAll?, Option.filter_eq_some_iff, number?_spec, Option.map_eq_some_iff]
  by_cases hnil : magnitude text.toList = []
  · simp [hnil]
  · rw [if_neg hnil]
    simp only [ne_eq, hnil, not_false_eq_true, true_and, foldlM_push?_eq_some_iff,
      decide_eq_true_eq]
    constructor
    · rintro ⟨⟨hdigits, rfl⟩, hfits⟩
      have hvalue := UInt32.toNat_ofNat_of_lt' hfits
      exact ⟨_, ⟨hdigits, hvalue⟩, hvalue⟩
    · rintro ⟨m, ⟨hdigits, hm⟩, rfl⟩
      exact ⟨⟨hdigits, hm.symm⟩, m.toNat_lt⟩

theorem toDigits_digit {c : Char} (h : c.isDigit = true) :
    Nat.toDigits 10 (c.toNat - '0'.toNat) = [c] := by
  have hten := digit_lt_ten h
  have hcode := Nat.toNat_digitChar_of_lt_ten hten
  obtain ⟨hle, -⟩ := Char.isDigit_iff_toNat.1 h
  have hzero : '0'.toNat = 48 := rfl
  rw [Nat.toDigits_of_lt_base hten, List.singleton_inj, ← Char.toNat_inj]
  omega

theorem toDigits_ofDigitChars {n : ℕ} (hn : 0 < n) {digits : List Char}
    (h : ∀ c ∈ digits, c.isDigit = true) :
    Nat.toDigits 10 (Nat.ofDigitChars 10 digits n) = Nat.toDigits 10 n ++ digits := by
  induction digits generalizing n with
  | nil => rw [Nat.ofDigitChars_nil, List.append_nil]
  | cons c digits ih =>
    obtain ⟨hc, hdigits⟩ := List.forall_mem_cons.1 h
    rw [Nat.ofDigitChars_cons, ih (by omega) hdigits,
      ← Nat.toDigits_append_toDigits (by decide) hn (digit_lt_ten hc), toDigits_digit hc,
      List.append_assoc, List.singleton_append]

theorem exists_zeros_of_pos {digits : List Char} (h : ∀ c ∈ digits, c.isDigit = true)
    (hpos : 0 < Nat.ofDigitChars 10 digits 0) : ∃ zeros,
      digits = List.replicate zeros '0' ++ Nat.toDigits 10 (Nat.ofDigitChars 10 digits 0) := by
  induction digits with
  | nil => exact absurd hpos (by simp [Nat.ofDigitChars_nil])
  | cons c digits ih =>
    obtain ⟨hc, hdigits⟩ := List.forall_mem_cons.1 h
    rw [Nat.ofDigitChars_cons, Nat.mul_zero, Nat.zero_add] at hpos ⊢
    by_cases hzero : c = '0'
    · subst hzero
      obtain ⟨zeros, hrest⟩ := ih hdigits hpos
      refine ⟨zeros + 1, ?_⟩
      rw [List.replicate_succ, List.cons_append]
      exact congrArg ('0' :: ·) hrest
    · have hfirst : 0 < c.toNat - '0'.toNat := by
        obtain ⟨hle, -⟩ := Char.isDigit_iff_toNat.1 hc
        have hne : c.toNat ≠ '0'.toNat := fun heq => hzero (Char.toNat_inj.1 heq)
        omega
      refine ⟨0, ?_⟩
      rw [toDigits_ofDigitChars hfirst hdigits, toDigits_digit hc]
      rfl

def padded (zeros n : ℕ) : List Char := List.replicate zeros '0' ++ Nat.toDigits 10 n

theorem isDigit_of_mem_padded {zeros n : ℕ} {c : Char} (h : c ∈ padded zeros n) :
    c.isDigit = true := by
  rcases List.mem_append.1 h with hzero | hdigit
  · rw [List.eq_of_mem_replicate hzero]
    decide
  · exact Nat.isDigit_of_mem_toDigits (by decide) (by decide) hdigit

theorem plus_notMem_padded (zeros n : ℕ) : '+' ∉ padded zeros n := by
  intro h
  exact absurd (isDigit_of_mem_padded h) (by decide)

theorem number?_padded (zeros n : ℕ) : number? (padded zeros n) = some n := by
  have hne : padded zeros n ≠ [] := by simp [padded, Nat.toDigits_ne_nil]
  have hvalue : Nat.ofDigitChars 10 (padded zeros n) 0 = n := by
    rw [padded, Nat.ofDigitChars_append, Nat.ofDigitChars_replicate_zero, Nat.mul_zero,
      Nat.ofDigitChars_ten_toDigits]
  exact number?_spec.2 ⟨hne, fun c hc => isDigit_of_mem_padded hc, hvalue⟩

theorem number?_eq_some_iff {digits : List Char} {n : ℕ} (hn : 0 < n) :
    number? digits = some n ↔ ∃ zeros, digits = padded zeros n := by
  constructor
  · intro h
    obtain ⟨-, hdigits, rfl⟩ := number?_spec.1 h
    exact exists_zeros_of_pos hdigits hn
  · rintro ⟨zeros, rfl⟩
    exact number?_padded zeros n

theorem magnitude_eq_iff {word digits : List Char} (hplus : '+' ∉ digits) :
    magnitude word = digits ↔ ∃ sign ∈ [[], ['+']], word = sign ++ digits := by
  have hsigns : (∃ sign ∈ [[], ['+']], word = sign ++ digits) ↔
      word = digits ∨ word = '+' :: digits := by simp
  rw [hsigns]
  unfold magnitude
  split
  · rename_i rest
    constructor
    · rintro rfl
      exact .inr rfl
    · rintro (rfl | h)
      · exact absurd List.mem_cons_self hplus
      · exact List.tail_eq_of_cons_eq h
  · rename_i hword
    constructor
    · exact .inl
    · rintro (h | rfl)
      · exact h
      · exact absurd rfl (hword digits)

theorem bits?_eq_some_iff {text : String} {n : ℕ} (hn : 0 < n) (hfits : n < UInt32.size) :
    bits? text = some n ↔
      ∃ sign ∈ [[], ['+']], ∃ zeros, text.toList = sign ++ padded zeros n := by
  have hread : (∃ zeros, magnitude text.toList = padded zeros n) ↔
      ∃ sign ∈ [[], ['+']], ∃ zeros, text.toList = sign ++ padded zeros n := by
    simp only [magnitude_eq_iff (plus_notMem_padded _ n)]
    constructor
    · rintro ⟨zeros, sign, hsign, htext⟩
      exact ⟨sign, hsign, zeros, htext⟩
    · rintro ⟨sign, hsign, zeros, htext⟩
      exact ⟨zeros, sign, hsign, htext⟩
  rw [bits?_eq, Option.filter_eq_some_iff, number?_eq_some_iff hn, hread]
  exact and_iff_left (decide_eq_true hfits)

theorem ofBits?_eq_some_iff {n : ℕ} {width : WordWidth} : ofBits? n = some width ↔
    width = .bits32 ∧ (n = 16 ∨ n = 32) ∨ width = .bits64 ∧ n = 64 := by
  unfold ofBits?
  split_ifs with hsmall hlarge
  · have hne : n ≠ 64 := by omega
    simp [hsmall, hne, eq_comm]
  · simp [hlarge, eq_comm]
  · simp [hsmall, hlarge]

theorem bounds_of_ofBits? {n : ℕ} {width : WordWidth} (h : ofBits? n = some width) :
    0 < n ∧ n < UInt32.size := by
  rcases ofBits?_eq_some_iff.1 h with ⟨-, rfl | rfl⟩ | ⟨-, rfl⟩ <;> decide

theorem mem_numerals_iff {width : WordWidth} {word : List Char} : word ∈ width.numerals ↔
    ∃ n, ofBits? n = some width ∧ word = Nat.toDigits 10 n := by
  cases width with
  | bits32 =>
    change word = _ ∨ word = _ ↔ _
    simp only [ofBits?_eq_some_iff, true_and, reduceCtorEq, false_and, or_false, or_and_right,
      exists_or, exists_eq_left]
    exact Iff.rfl
  | bits64 =>
    change word = _ ↔ _
    simp only [ofBits?_eq_some_iff, true_and, reduceCtorEq, false_and, false_or, exists_eq_left]
    exact Iff.rfl

theorem mem_spellings_iff {width : WordWidth} {word : List Char} : word ∈ width.spellings ↔
    ∃ n, ofBits? n = some width ∧ ∃ sign ∈ [[], ['+']], ∃ zeros,
      word = sign ++ padded zeros n := by
  have hzeros : ∀ run, run ∈ ({['0']} : Language Char)∗ ↔ ∃ zeros, run = List.replicate zeros '0' := by
    intro run
    rw [Language.mem_kstar]
    constructor
    · rintro ⟨parts, rfl, hparts⟩
      refine ⟨parts.length, ?_⟩
      rw [List.eq_replicate_of_mem hparts, List.length_replicate, List.flatten_replicate_singleton]
    · rintro ⟨zeros, rfl⟩
      refine ⟨List.replicate zeros ['0'], ?_, fun part hpart => List.eq_of_mem_replicate hpart⟩
      simp
  unfold spellings
  simp only [Language.mem_mul, hzeros, mem_numerals_iff]
  constructor
  · rintro ⟨_, ⟨sign, hsign, _, ⟨zeros, rfl⟩, rfl⟩, _, ⟨n, hwidth, rfl⟩, rfl⟩
    exact ⟨n, hwidth, sign, List.mem_pair.2 hsign, zeros, List.append_assoc _ _ _⟩
  · rintro ⟨n, hwidth, sign, hsign, zeros, rfl⟩
    exact ⟨_, ⟨sign, List.mem_pair.1 hsign, _, ⟨zeros, rfl⟩, rfl⟩, _, ⟨n, hwidth, rfl⟩,
      List.append_assoc _ _ _⟩

theorem ofText?_eq_some_iff {text : String} {width : WordWidth} :
    ofText? text = some width ↔ text.toList ∈ width.spellings := by
  rw [ofText?, Option.bind_eq_some_iff, mem_spellings_iff]
  constructor
  · rintro ⟨n, hbits, hwidth⟩
    obtain ⟨hn, hfits⟩ := bounds_of_ofBits? hwidth
    exact ⟨n, hwidth, (bits?_eq_some_iff hn hfits).1 hbits⟩
  · rintro ⟨n, hwidth, hspelled⟩
    obtain ⟨hn, hfits⟩ := bounds_of_ofBits? hwidth
    exact ⟨n, (bits?_eq_some_iff hn hfits).2 hspelled, hwidth⟩

theorem notMem_spellings_of_ofBits? {n : ℕ} (h : ofBits? n = none) {sign : List Char}
    (hsign : sign ∈ [[], ['+']]) (zeros : ℕ) (width : WordWidth) :
    sign ++ padded zeros n ∉ width.spellings := by
  intro hmem
  obtain ⟨m, hwidth, sign', hsign', zeros', hsame⟩ := mem_spellings_iff.1 hmem
  have hread := (magnitude_eq_iff (plus_notMem_padded zeros n)).2 ⟨sign, hsign, rfl⟩
  rw [(magnitude_eq_iff (plus_notMem_padded zeros' m)).2 ⟨sign', hsign', hsame⟩] at hread
  have hnumber := number?_padded zeros n
  rw [← hread, number?_padded] at hnumber
  obtain rfl := Option.some.inj hnumber
  rw [h] at hwidth
  cases hwidth

/-- What the text of a block has behind its headers: the alignment and the directive of a width. -/
def directives : WordWidth → String
  | .bits32 => "#define BALIGN \"4\"\n#define TYPE \".int\"\n\n"
  | .bits64 => "#define BALIGN \"8\"\n#define TYPE \".quad\"\n\n"

end WordWidth

theorem assemblyText_eq (symbol : Symbol) (width : WordWidth) (length : ℕ) (path : String) :
    assemblyText symbol width length path = Listing.preamble ++ width.directives ++
      String.join (AssemblyListing.block symbol path length) := by
  have hdefinitions : String.join (AssemblyListing.definitions width) = width.directives := by
    cases width <;> decide +kernel
  rw [assemblyText, List.cons_append, String.join_cons, String.join_append, hdefinitions,
    String.append_assoc]

theorem Conversion.exists_rendered_assembly {c : Conversion} (hc : c.form = .assembly)
    {source : Path} {symbol : Symbol} {s : Store} {input : Input}
    (ho : c.openSource source symbol s = .ok input) : ∃ path,
      c.rendered source symbol s = Utf8.encode (assemblyText symbol c.width input.length path) := by
  obtain ⟨node, -, -, hlength, ⟨harray, -⟩ | ⟨-, path, -, hlisting⟩⟩ := exists_of_openSource ho
  · rw [hc] at harray
    cases harray
  · refine ⟨path, ?_⟩
    have htext := (AssemblyListing.emission_listing c.width symbol path node.size
      (s.readerAt input.location)).1
    rw [rendered_of_openSource ho, hlisting, Emission.bytes, htext, hlength]

namespace BuildStep
variable {b : BuildStep} {env : Environment} {s : Store}

theorem reaches_absolutePath_iff (hform : b.form = .assembly) (h : b.Reaches env s .width) :
    b.Reaches env s .absolutePath ↔ ∃ width, env.targetWidth = .ok width := by
  constructor
  · intro hnext
    cases hwidth : env.targetWidth with
    | ok width => exact ⟨width, rfl⟩
    | error e =>
      have hrank := hnext .width e ((targetWidth_eq_error_iff hform).1 hwidth)
      exact absurd hrank (by decide)
  · rintro ⟨width, hwidth⟩
    refine h.next ?_ rfl
    intro e hfails
    rw [(targetWidth_eq_error_iff hform).2 hfails] at hwidth
    cases hwidth

theorem conversion_of_target (hform : b.form = .assembly) {width : WordWidth}
    (hwidth : env.targetWidth = .ok width) {c : Conversion} {source : Path}
    (h : b.target env s = .ok (c, source)) : c = ⟨.assembly, width⟩ := by
  obtain ⟨text, width', htext, hspelled, hc, -⟩ := (target_eq_ok_iff.1 h).2 hform
  have hsame := Environment.targetWidth_eq_ok_iff.2 ⟨text, htext, hspelled⟩
  obtain rfl := Except.ok.inj (hwidth.symm.trans hsame)
  exact hc

theorem exists_block_of_run (hform : b.form = .assembly) {width : WordWidth}
    (hwidth : env.targetWidth = .ok width) {d : Path} (hd : (b.run env s).result = .ok d) :
    ∃ block, (b.run env s).store.Holds d
      (Utf8.encode (Listing.preamble ++ width.directives ++ block)) := by
  obtain ⟨j, report, hj, hreport, -, -⟩ := exists_job_of_run hd
  obtain ⟨dir, hsymbol, -, -, htarget, -⟩ := exists_of_job hj
  have hconversion := conversion_of_target hform hwidth htarget
  have hholds := leaves_rendered htarget hsymbol d hd (by simp [hform])
  obtain ⟨input, ho, -⟩ := Conversion.exists_of_embed hreport
  obtain ⟨path, hrendered⟩ := Conversion.exists_rendered_assembly (by rw [hconversion]) ho
  rw [hrendered, hconversion, assemblyText_eq] at hholds
  exact ⟨_, hholds⟩

end BuildStep

open BuildStep WordWidth in
/-- A step that comes to ask for the width of the target, as one that writes a block does, goes on
just if the variable holds a text that spells a width: a plus sign or none, any zeros, and 16, 32 or
64. The block then has the alignment and the directive for 32 bits, or for 64 bits if that is the
number. A variable that is unset or no text is reported as unset, and every other text as it is; so
is every other number, of whatever length, with or without sign and zeros. To take in the digits one
by one, and to give up where a word of 32 bits overflows, is to read the same. -/
theorem target_width_spelled (b : BuildStep) (env : Environment) (s : Store)
    (hform : b.form = .assembly) (hasks : b.Reaches env s .width) :
    (b.Reaches env s .absolutePath ↔ ∃ value width,
      env.targetWidth? = some (Utf8.encode value) ∧ value.toList ∈ spellings width) ∧
    (∀ value width, env.targetWidth? = some (Utf8.encode value) → value.toList ∈ spellings width →
      (∀ j, b.Hands env s j → j.conversion = ⟨.assembly, width⟩) ∧
      ∀ d, (b.run env s).result = .ok d → ∃ block, (b.run env s).store.Holds d
        (Utf8.encode (Listing.preamble ++ width.directives ++ block))) ∧
    ((∀ value, env.targetWidth? ≠ some (Utf8.encode value)) →
      (b.run env s).result = .error (.variableUnset "CARGO_CFG_TARGET_POINTER_WIDTH")) ∧
    (∀ value, env.targetWidth? = some (Utf8.encode value) →
      ((∀ width, value.toList ∉ spellings width) →
        (b.run env s).result = .error (.unsupportedWidth value)) ∧
      ∀ n ∉ [16, 32, 64], ∀ sign ∈ [[], ['+']], ∀ zeros,
        value.toList = sign ++ padded zeros n →
          (b.run env s).result = .error (.unsupportedWidth value)) ∧
    ∀ value, bits? value = (pushAll? value).map UInt32.toNat := by
  have hread : ∀ value width, env.targetWidth? = some (Utf8.encode value) →
      value.toList ∈ spellings width → env.targetWidth = .ok width := by
    intro value width hvalue hspelled
    exact Environment.targetWidth_eq_ok_iff.2 ⟨value, hvalue, ofText?_eq_some_iff.2 hspelled⟩
  have hother : ∀ value, env.targetWidth? = some (Utf8.encode value) →
      (∀ width, value.toList ∉ spellings width) →
        (b.run env s).result = .error (.unsupportedWidth value) := by
    intro value hvalue hspelled
    have hnone : ofText? value = none := by
      apply Option.eq_none_iff_forall_ne_some.2
      intro width hwidth
      exact hspelled width (ofText?_eq_some_iff.1 hwidth)
    exact result_eq_error_iff.2 ⟨.width, hasks, .widthUnsupported hform hvalue hnone⟩
  refine ⟨?_, ?_, ?_, ?_, bits?_eq_map_pushAll?⟩
  · rw [reaches_absolutePath_iff hform hasks]
    simp only [Environment.targetWidth_eq_ok_iff, ofText?_eq_some_iff]
    exact exists_comm
  · intro value width hvalue hspelled
    have hwidth := hread value width hvalue hspelled
    refine ⟨?_, fun d hd => exists_block_of_run hform hwidth hd⟩
    intro j hj
    exact conversion_of_target hform hwidth (hands_iff.1 hj).2.2
  · intro hunset
    exact result_eq_error_iff.2 ⟨.width, hasks, .widthUnset hform hunset⟩
  · intro value hvalue
    refine ⟨hother value hvalue, ?_⟩
    intro n hn sign hsign zeros htext
    have hnone : ofBits? n = none := by
      simp only [List.mem_cons, List.not_mem_nil, or_false, not_or] at hn
      simp [ofBits?, hn]
    apply hother value hvalue
    intro width
    rw [htext]
    exact notMem_spellings_of_ofBits? hnone hsign zeros width

/-- Sixty-four behind a sign and zeros, and a number that is thirty-two up to a multiple of the
range of a word. -/
theorem target_width_spelled_zeros :
    let b : BuildStep := ⟨.ofText "f", .assembly, some "x", some (.ofText "."), false⟩
    let s : Store := ⟨.single (some (.file (.zeros 3))) [[0x66]], []⟩
    let padded : Environment := ⟨none, some (Utf8.encode "+0064")⟩
    let wrapped : Environment := ⟨none, some (Utf8.encode "4294967328")⟩
    (b.run padded s).result = .ok (.ofText "./x.c") ∧
      (∃ block, (b.run padded s).store.Holds (.ofText "./x.c") (Utf8.encode
        (Listing.preamble ++ "#define BALIGN \"8\"\n#define TYPE \".quad\"\n\n" ++ block))) ∧
      (b.run wrapped s).result = .error (.unsupportedWidth "4294967328") := by
  intro b s padded wrapped
  have hasks : ∀ env, b.Reaches env s .width := by
    intro env other e h
    cases h with
    | unnamed hs _ => cases hs
    | refused hstrict _ _ => cases hstrict
    | nowhere hgiven _ => cases hgiven
    | _ => decide
  have hresult : (b.run padded s).result = .ok (.ofText "./x.c") := by decide +kernel
  have hspelled : "+0064".toList ∈ WordWidth.spellings .bits64 :=
    WordWidth.ofText?_eq_some_iff.1 (by decide)
  obtain ⟨-, hpadded, -⟩ := target_width_spelled b padded s rfl (hasks padded)
  obtain ⟨-, -, -, hwrapped, -⟩ := target_width_spelled b wrapped s rfl (hasks wrapped)
  refine ⟨hresult, (hpadded "+0064" .bits64 rfl hspelled).2 _ hresult, ?_⟩
  exact (hwrapped "4294967328" rfl).2 4294967328 (by decide) [] (by decide) 0 (by decide)

end BlobSource
