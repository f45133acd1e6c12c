import BlobSource.Symbol.Basic

/-! The words, literals and marks of a line of source text. C and the assembler share them and
differ in the characters that a word may hold. -/
namespace BlobSource.Reading

/-- A token; a literal is what its escapes spell, without the quotes. -/
inductive Token where
  | word (chars : List Char)
  | literal (chars : List Char)
  | mark (c : Char)
  deriving DecidableEq, Repr

/-- A token of which the beginning is read. -/
inductive Begun where
  | nothing
  | word (chars : List Char)
  | literal (chars : List Char)
  /-- In a literal, behind a backslash. -/
  | escape (chars : List Char)
  deriving DecidableEq, Repr

/-- The character that a backslash and a letter stand for. -/
def unescape? : Char → Option Char
  | 'n' => some '\n'
  | 't' => some '\t'
  | 'r' => some '\r'
  | '"' => some '"'
  | '\\' => some '\\'
  | _ => none

/-- A character outside all tokens: the mark it is, and the token it begins. -/
def first (inWord : Char → Bool) (c : Char) : List Token × Begun :=
  if inWord c then ([], .word [c])
  else if c = '"' then ([], .literal [])
  else if c = ' ' ∨ c = '\t' then ([], .nothing)
  else ([.mark c], .nothing)

/-- One character: the tokens that end before or with it, and the one that goes on. -/
def step (inWord : Char → Bool) : Begun → Char → Option (List Token × Begun)
  | .nothing, c => some (first inWord c)
  | .word w, c =>
    if inWord c then some ([], .word (w ++ [c]))
    else some (.word w :: (first inWord c).1, (first inWord c).2)
  | .literal s, c =>
    if c = '"' then some ([.literal s], .nothing)
    else if c = '\\' then some ([], .escape s)
    else some ([], .literal (s ++ [c]))
  | .escape s, c => (unescape? c).map fun d => ([], .literal (s ++ [d]))

/-- The tokens of a line. A literal has to end on it. -/
def scan (inWord : Char → Bool) : Begun → List Char → Option (List Token)
  | .nothing, [] => some []
  | .word w, [] => some [.word w]
  | _, [] => none
  | b, c :: cs => (step inWord b c).bind fun next => (scan inWord next.2 cs).map (next.1 ++ ·)

variable {inWord : Char → Bool}

@[simp] theorem scan_nil : scan inWord .nothing [] = some [] := rfl

private theorem scan_cons {b next : Begun} {c : Char} {tokens : List Token}
    (h : step inWord b c = some (tokens, next)) (cs : List Char) :
    scan inWord b (c :: cs) = (scan inWord next cs).map (tokens ++ ·) := by
  rw [scan, h]
  rfl

private theorem scan_cons_silent {b next : Begun} {c : Char}
    (h : step inWord b c = some ([], next)) (cs : List Char) :
    scan inWord b (c :: cs) = scan inWord next cs := by
  rw [scan_cons h]
  cases scan inWord next cs <;> rfl

theorem scan_mark {c : Char} (hw : inWord c = false) (hq : c ≠ '"') (hs : c ≠ ' ') (ht : c ≠ '\t')
    (cs : List Char) :
    scan inWord .nothing (c :: cs) = (scan inWord .nothing cs).map (.mark c :: ·) := by
  have hc : step inWord .nothing c = some ([.mark c], .nothing) := by
    simp [step, first, hw, hq, hs, ht]
  exact scan_cons hc cs

theorem scan_space (h : inWord ' ' = false) (cs : List Char) :
    scan inWord .nothing (' ' :: cs) = scan inWord .nothing cs :=
  scan_cons_silent (by simp [step, first, h]) cs

private theorem scan_in_word {more : List Char} (hm : ∀ c ∈ more, inWord c = true)
    (w cs : List Char) :
    scan inWord (.word w) (more ++ cs) = scan inWord (.word (w ++ more)) cs := by
  induction more generalizing w with
  | nil => simp
  | cons c more ih =>
    have hc : step inWord (.word w) c = some ([], .word (w ++ [c])) := by
      simp [step, hm c List.mem_cons_self]
    rw [List.cons_append, scan_cons_silent hc, ih fun d hd => hm d (List.mem_cons_of_mem _ hd),
      List.append_assoc, List.singleton_append]

private theorem scan_begin_word {a : Char} {more : List Char}
    (hw : ∀ c ∈ a :: more, inWord c = true) (cs : List Char) :
    scan inWord .nothing (a :: more ++ cs) = scan inWord (.word (a :: more)) cs := by
  have ha : step inWord .nothing a = some ([], .word [a]) := by
    simp [step, first, hw a List.mem_cons_self]
  rw [List.cons_append, scan_cons_silent ha,
    scan_in_word fun d hd => hw d (List.mem_cons_of_mem _ hd)]
  rfl

theorem scan_word {w : List Char} (hne : w ≠ []) (hw : ∀ c ∈ w, inWord c = true) {c : Char}
    (hc : inWord c = false) (cs : List Char) :
    scan inWord .nothing (w ++ c :: cs) = (scan inWord .nothing (c :: cs)).map (.word w :: ·) := by
  obtain ⟨a, more, rfl⟩ := List.exists_cons_of_ne_nil hne
  have hstep : step inWord (.word (a :: more)) c =
      some (.word (a :: more) :: (first inWord c).1, (first inWord c).2) := by simp [step, hc]
  have hfirst : step inWord .nothing c = some ((first inWord c).1, (first inWord c).2) := rfl
  rw [scan_begin_word hw, scan_cons hstep, scan_cons hfirst, Option.map_map]
  rfl

theorem scan_word_end {w : List Char} (hne : w ≠ []) (hw : ∀ c ∈ w, inWord c = true) :
    scan inWord .nothing w = some [.word w] := by
  obtain ⟨a, more, rfl⟩ := List.exists_cons_of_ne_nil hne
  have h := scan_begin_word hw []
  rwa [List.append_nil] at h

/-- The characters that stand for themselves in a literal. -/
def isPlain (c : Char) : Bool := c != '"' && c != '\\'

theorem scan_in_literal {more : List Char} (hm : ∀ c ∈ more, isPlain c = true)
    (s cs : List Char) :
    scan inWord (.literal s) (more ++ cs) = scan inWord (.literal (s ++ more)) cs := by
  induction more generalizing s with
  | nil => simp
  | cons c more ih =>
    obtain ⟨hq, hb⟩ : c ≠ '"' ∧ c ≠ '\\' := by
      simpa [isPlain] using hm c List.mem_cons_self
    have hc : step inWord (.literal s) c = some ([], .literal (s ++ [c])) := by simp [step, hq, hb]
    rw [List.cons_append, scan_cons_silent hc, ih fun d hd => hm d (List.mem_cons_of_mem _ hd),
      List.append_assoc, List.singleton_append]

theorem scan_quote (h : inWord '"' = false) (cs : List Char) :
    scan inWord .nothing ('"' :: cs) = scan inWord (.literal []) cs :=
  scan_cons_silent (by simp [step, first, h]) cs

theorem scan_escape {c d : Char} (h : unescape? c = some d) (s cs : List Char) :
    scan inWord (.literal s) ('\\' :: c :: cs) = scan inWord (.literal (s ++ [d])) cs := by
  have hb : step inWord (.literal s) '\\' = some ([], .escape s) := rfl
  have hc : step inWord (.escape s) c = some ([], .literal (s ++ [d])) := by simp [step, h]
  rw [scan_cons_silent hb, scan_cons_silent hc]

theorem scan_end_literal (s cs : List Char) :
    scan inWord (.literal s) ('"' :: cs) = (scan inWord .nothing cs).map (.literal s :: ·) := by
  have hc : step inWord (.literal s) '"' = some ([.literal s], .nothing) := rfl
  exact scan_cons hc cs

/-- The value of a decimal number. A leading zero would make it an octal one. -/
def decimal? (w : List Char) : Option Nat :=
  if w ≠ [] ∧ w.all Char.isDigit ∧ (w.head? = some '0' → w = ['0']) then
    some (Nat.ofDigitChars 10 w 0)
  else none

def hexValue? (c : Char) : Option Nat :=
  if c.isDigit then some (c.toNat - '0'.toNat)
  else if 'A' ≤ c ∧ c ≤ 'F' then some (c.toNat - 'A'.toNat + 10)
  else if 'a' ≤ c ∧ c ≤ 'f' then some (c.toNat - 'a'.toNat + 10)
  else none

/-- The value of a hexadecimal constant of two digits. -/
def byte? : List Char → Option UInt8
  | ['0', 'x', high, low] => do
    let h ← hexValue? high
    let l ← hexValue? low
    return UInt8.ofNat (16 * h + l)
  | _ => none

private theorem head?_toDigits {n : Nat} (hn : 0 < n) :
    (Nat.toDigits 10 n).head? ≠ some '0' := by
  induction n using Nat.strongRecOn with
  | ind n ih =>
    by_cases hlt : n < 10
    · rw [Nat.toDigits_of_lt_base hlt]
      have h : ∀ d < 10, 0 < d → [Nat.digitChar d].head? ≠ some '0' := by decide
      exact h n hlt hn
    · have hq := ih (n / 10) (by omega) (by omega)
      obtain ⟨c, cs, hc⟩ := List.exists_cons_of_ne_nil (Nat.toDigits_ne_nil (n := n / 10) (b := 10))
      rw [Nat.toDigits_of_base_le (by omega) (by omega)]
      rw [hc] at hq ⊢
      exact hq

theorem toList_toString_ne_nil (n : Nat) : (toString n).toList ≠ [] := by
  have hs : (toString n).toList = Nat.toDigits 10 n := Nat.toList_repr
  rw [hs]
  exact Nat.toDigits_ne_nil

theorem isNameChar_of_mem_toString (n : Nat) :
    ∀ c ∈ (toString n).toList, Symbol.isNameChar c = true := by
  intro c hc
  have hs : (toString n).toList = Nat.toDigits 10 n := Nat.toList_repr
  have hd : c.isDigit = true := Nat.isDigit_of_mem_toDigits (by omega) (by omega) (hs ▸ hc)
  simp [Symbol.isNameChar, Char.isAlphanum, hd]

theorem isNameChar_space : Symbol.isNameChar ' ' = false := rfl

theorem isNameChar_quote : Symbol.isNameChar '"' = false := rfl

theorem newline_notMem_of_isNameChar {w : List Char}
    (hw : ∀ c ∈ w, Symbol.isNameChar c = true) : '\n' ∉ w := fun h => absurd (hw _ h) (by decide)

theorem isAscii_of_isNameChar {c : Char} (h : Symbol.isNameChar c = true) : c.toNat < 0x80 := by
  have hle : ∀ d : Char, d.toNat < 0x80 → c ≤ d → c.toNat < 0x80 := fun d hd hc =>
    Nat.lt_of_le_of_lt hc hd
  have hkinds : (((decide ('A' ≤ c ∧ c ≤ 'Z') || (decide ('a' ≤ c) && decide (c ≤ 'z'))) ||
      (decide ('0' ≤ c) && decide (c ≤ '9'))) || c == '_') = true := h
  simp only [Bool.or_eq_true, Bool.and_eq_true, decide_eq_true_eq, beq_iff_eq] at hkinds
  rcases hkinds with ((⟨-, hupper⟩ | ⟨-, hlower⟩) | ⟨-, hdigit⟩) | rfl
  · exact hle 'Z' (by decide) hupper
  · exact hle 'z' (by decide) hlower
  · exact hle '9' (by decide) hdigit
  · decide

theorem isPlain_of_isNameChar {c : Char} (h : Symbol.isNameChar c = true) : isPlain c = true := by
  have hq : c ≠ '"' := fun hc => absurd (hc ▸ h) (by decide)
  have hb : c ≠ '\\' := fun hc => absurd (hc ▸ h) (by decide)
  simp [isPlain, hq, hb]

theorem decimal?_toString (n : Nat) : decimal? (toString n).toList = some n := by
  have hs : (toString n).toList = Nat.toDigits 10 n := Nat.toList_repr
  have hz : (Nat.toDigits 10 n).head? = some '0' → Nat.toDigits 10 n = ['0'] := by
    intro h
    have hn : n = 0 := Nat.eq_zero_of_not_pos fun hpos => head?_toDigits hpos h
    rw [hn]
    rfl
  have hd : (Nat.toDigits 10 n).all Char.isDigit = true :=
    List.all_eq_true.2 fun c hc => Nat.isDigit_of_mem_toDigits (by omega) (by omega) hc
  rw [hs, decimal?, if_pos ⟨Nat.toDigits_ne_nil, hd, hz⟩, Nat.ofDigitChars_ten_toDigits]

end BlobSource.Reading
