import BlobSource.ArrayListing
import BlobSource.Proofs.Reading.CText
import BlobSource.Proofs.Symbol
import BlobSource.Text.Utf8.RoundTrip

/-! A reader of constant declarations in C, and what it makes of an array listing. -/
namespace BlobSource.Reading

/-- A constant that C source declares. -/
inductive Declaration where
  | number (type name : String) (value : ℕ)
  | bytes (type name : String) (bytes : Bytes)
  deriving DecidableEq, Repr

/-- A word that can be declared: it begins with no digit and is no keyword. -/
def isIdentifier (w : List Char) : Bool :=
  !w.head?.any Char.isDigit && !cKeywords.contains (String.ofList w)

/-- The elements of an initializer up to its closing brace; the last may have a comma too. -/
def elements? : List Token → Option Bytes
  | [.mark '\x7d'] => some []
  | [.word w, .mark '\x7d'] => (byte? w).map ([·])
  | .word w :: .mark ',' :: rest => do
    let b ← byte? w
    let bs ← elements? rest
    return b :: bs
  | _ => none

/-- A declaration without its semicolon. -/
def declaration? : List Token → Option Declaration
  | .word constant :: .word type :: .word name :: rest =>
    if constant = "const".toList ∧ isIdentifier name then
      match rest with
      | [.mark '=', .word value] =>
        (decimal? value).map (.number (String.ofList type) (String.ofList name))
      | .mark '[' :: .mark ']' :: .mark '=' :: .mark '\x7b' :: items =>
        (elements? items).map (.bytes (String.ofList type) (String.ofList name))
      | _ => none
    else none
  | _ => none

def declarations? (tokens : List Token) : Option (List Declaration) :=
  let parts := tokens.splitOn (.mark ';')
  if parts.getLast? = some [] then parts.dropLast.mapM declaration? else none

/-- What a C compiler learns from a text that holds nothing but declarations of constants: the
headers it asks for, and the constants. -/
def readDeclarations? (text : Bytes) : Option (List String × List Declaration) := do
  let text ← Utf8.decode? text
  let u ← CUnit.ofText? text.toList
  let declarations ← declarations? u.tokens
  return (u.headers, declarations)

private theorem hexValue?_hexDigit : ∀ n < 16, hexValue? (ArrayListing.hexDigit n) = some n := by
  decide

private theorem byte?_byteLiteral (b : UInt8) :
    byte? (ArrayListing.byteLiteral b).toList = some b := by
  have hb := b.toNat_lt
  have hh := hexValue?_hexDigit (b.toNat / 16) (by omega)
  have hl := hexValue?_hexDigit (b.toNat % 16) (by omega)
  have hv : UInt8.ofNat (16 * (b.toNat / 16) + b.toNat % 16) = b := by
    rw [Nat.div_add_mod]
    exact UInt8.ofNat_toNat
  rw [ArrayListing.byteLiteral, String.toList_ofList, byte?, hh, hl]
  exact congrArg some hv

/-- The tokens of bytes with a comma behind each. -/
def byteTokens (bytes : Bytes) : List Token :=
  bytes.flatMap fun b => [.word (ArrayListing.byteLiteral b).toList, .mark ',']

private theorem elements?_byteTokens (bytes : Bytes) :
    elements? (byteTokens bytes ++ [.mark '\x7d']) = some bytes := by
  induction bytes with
  | nil => rfl
  | cons b bytes ih =>
    have hc : byteTokens (b :: bytes) ++ [.mark '\x7d'] =
        .word (ArrayListing.byteLiteral b).toList :: .mark ',' ::
          (byteTokens bytes ++ [.mark '\x7d']) := by
      simp [byteTokens]
    rw [hc, elements?, byte?_byteLiteral, ih]
    rfl

private theorem isNameChar_hexDigit :
    ∀ n < 16, Symbol.isNameChar (ArrayListing.hexDigit n) = true := by
  decide

private theorem isNameChar_of_mem_byteLiteral (b : UInt8) :
    ∀ c ∈ (ArrayListing.byteLiteral b).toList, Symbol.isNameChar c = true := by
  have hb := b.toNat_lt
  have hh := isNameChar_hexDigit (b.toNat / 16) (by omega)
  have hl := isNameChar_hexDigit (b.toNat % 16) (by omega)
  have hx : Symbol.isNameChar '0' = true ∧ Symbol.isNameChar 'x' = true := by decide
  simp [ArrayListing.byteLiteral, hh, hl, hx]

private theorem byteLiteral_ne_nil (b : UInt8) : (ArrayListing.byteLiteral b).toList ≠ [] := by
  simp [ArrayListing.byteLiteral]

private def rowBody (bytes : Bytes) : List Char :=
  List.intercalate [',', ' '] (bytes.map fun b => (ArrayListing.byteLiteral b).toList) ++ [',']

private theorem rowBody_cons (b : UInt8) (bytes : Bytes) :
    rowBody (b :: bytes) = (ArrayListing.byteLiteral b).toList ++
      ',' :: (if bytes = [] then [] else ' ' :: rowBody bytes) := by
  cases bytes <;> simp [rowBody, List.intercalate_cons_cons]

private theorem scan_rowBody {bytes : Bytes} (h : bytes ≠ []) :
    scan Symbol.isNameChar .nothing (rowBody bytes) = some (byteTokens bytes) := by
  induction bytes with
  | nil => exact absurd rfl h
  | cons b bytes ih =>
    have hcomma : Symbol.isNameChar ',' = false := by decide
    rw [rowBody_cons, scan_word (byteLiteral_ne_nil b) (isNameChar_of_mem_byteLiteral b) hcomma,
      scan_mark hcomma (by decide) (by decide) (by decide)]
    by_cases hb : bytes = []
    · subst hb
      rfl
    · rw [if_neg hb, scan_space isNameChar_space, ih hb]
      rfl

private theorem newline_notMem_rowBody (bytes : Bytes) : '\n' ∉ rowBody bytes := by
  induction bytes with
  | nil => decide
  | cons b bytes ih =>
    have hb := newline_notMem_of_isNameChar (isNameChar_of_mem_byteLiteral b)
    rw [rowBody_cons]
    by_cases hn : bytes = [] <;> simp [hb, hn, ih]

private def rowLine (bytes : Bytes) : List Char := [' ', ' ', ' ', ' '] ++ rowBody bytes

private theorem toList_row (bytes : Bytes) :
    (ArrayListing.row bytes).toList = rowLine bytes ++ ['\n'] := by
  simp [ArrayListing.row, rowLine, rowBody, String.toList_intercalate, List.map_map,
    Function.comp_def]

private theorem scan_rowLine {bytes : Bytes} (h : bytes ≠ []) :
    scan Symbol.isNameChar .nothing (rowLine bytes) = some (byteTokens bytes) := by
  simp only [rowLine, List.cons_append, List.nil_append, scan_space isNameChar_space,
    scan_rowBody h]

/-- The bytes that one line of an initializer lists. -/
def listed? (line : List Char) : Option Bytes :=
  (scan Symbol.isNameChar .nothing line).bind fun tokens => elements? (tokens ++ [.mark '\x7d'])

theorem listed?_row {bytes : Bytes} (h : bytes ≠ []) :
    listed? (ArrayListing.row bytes).toList.dropLast = some bytes := by
  rw [toList_row, List.dropLast_concat, listed?, scan_rowLine h]
  exact elements?_byteTokens bytes

theorem newline_notMem_dropLast_row (bytes : Bytes) :
    '\n' ∉ (ArrayListing.row bytes).toList.dropLast := by
  rw [toList_row, List.dropLast_concat]
  simp [rowLine, newline_notMem_rowBody]

theorem isPrefix_row (bytes : Bytes) :
    "    ".toList <+: (ArrayListing.row bytes).toList := by
  rw [toList_row, rowLine, List.append_assoc]
  exact List.prefix_append _ _

theorem isSuffix_row (bytes : Bytes) : ",\n".toList <:+ (ArrayListing.row bytes).toList := by
  have hend : (ArrayListing.row bytes).toList = ([' ', ' ', ' ', ' '] ++
      List.intercalate [',', ' '] (bytes.map fun b => (ArrayListing.byteLiteral b).toList)) ++
      ",\n".toList := by
    simp [toList_row, rowLine, rowBody]
  rw [hend]
  exact List.suffix_append _ _

private theorem length_rowBody {bytes : Bytes} (h : bytes ≠ []) :
    (rowBody bytes).length + 1 = 6 * bytes.length := by
  induction bytes with
  | nil => exact absurd rfl h
  | cons b bytes ih =>
    have hb : (ArrayListing.byteLiteral b).toList.length = 4 := by simp [ArrayListing.byteLiteral]
    rw [rowBody_cons, List.length_append, hb, List.length_cons, List.length_cons]
    by_cases hn : bytes = []
    · subst hn
      rfl
    · have hrest := ih hn
      rw [if_neg hn, List.length_cons]
      omega

theorem length_row {bytes : Bytes} (h : bytes ≠ []) :
    (ArrayListing.row bytes).length = 6 * bytes.length + 4 := by
  have hbody := length_rowBody h
  rw [← String.length_toList, toList_row, rowLine]
  simp only [List.length_append, List.length_cons, List.length_nil]
  omega

private theorem isAscii_of_mem_rowBody (bytes : Bytes) : ∀ c ∈ rowBody bytes, c.toNat < 0x80 := by
  have hliteral : ∀ b : UInt8, ∀ c ∈ (ArrayListing.byteLiteral b).toList, c.toNat < 0x80 := by
    intro b c hc
    exact isAscii_of_isNameChar (isNameChar_of_mem_byteLiteral b c hc)
  have hcomma : ','.toNat < 0x80 := by decide
  have hspace : ' '.toNat < 0x80 := by decide
  induction bytes with
  | nil => simp [rowBody]
  | cons b bytes ih =>
    intro c hc
    rw [rowBody_cons, List.mem_append, List.mem_cons] at hc
    rcases hc with hc | rfl | hc
    · exact hliteral b c hc
    · exact hcomma
    · split at hc
      · cases hc
      · rcases List.mem_cons.1 hc with rfl | hc
        · exact hspace
        · exact ih c hc

theorem isAscii_of_mem_row (bytes : Bytes) :
    ∀ c ∈ (ArrayListing.row bytes).toList, c.toNat < 0x80 := by
  have hspace : ' '.toNat < 0x80 ∧ '\n'.toNat < 0x80 := by decide
  have hbody := isAscii_of_mem_rowBody bytes
  simpa [toList_row, rowLine, hspace, or_imp, forall_and] using hbody

private def numberLine (symbol : Symbol) (length : ℕ) : List Char :=
  "const".toList ++ ' ' :: ("size_t".toList ++ ' ' :: (symbol.lengthName.toList ++
    ' ' :: '=' :: ' ' :: ((toString length).toList ++ [';'])))

private def arrayLine (symbol : Symbol) : List Char :=
  "const".toList ++ ' ' :: ("uint8_t".toList ++ ' ' :: (symbol.name.toList ++
    ['[', ']', ' ', '=', ' ', '\x7b']))

/-- The declaration of the length without its semicolon, as it is read. -/
private def numberTokens (symbol : Symbol) (length : ℕ) : List Token :=
  [.word "const".toList, .word "size_t".toList, .word symbol.lengthName.toList, .mark '=',
    .word (toString length).toList]

/-- The declaration of the bytes up to the first of them. -/
private def arrayHead (symbol : Symbol) : List Token :=
  [.word "const".toList, .word "uint8_t".toList, .word symbol.name.toList, .mark '[', .mark ']',
    .mark '=', .mark '\x7b']

private theorem toList_header (symbol : Symbol) (length : ℕ) :
    (String.join (ArrayListing.header symbol length)).toList = Listing.preamble.toList ++
      [numberLine symbol length, arrayLine symbol].flatMap (· ++ ['\n']) := by
  unfold numberLine arrayLine
  simp [ArrayListing.header]

variable {symbol : Symbol}

private theorem scan_numberLine (hs : ∀ c ∈ symbol.name.toList, Symbol.isNameChar c = true)
    (length : ℕ) :
    scan Symbol.isNameChar .nothing (numberLine symbol length) =
      some (numberTokens symbol length ++ [.mark ';']) := by
  have hequals : Symbol.isNameChar '=' = false := by decide
  have hend : Symbol.isNameChar ';' = false := by decide
  have hl : symbol.lengthName.toList ≠ [] := by simp [Symbol.toList_lengthName]
  unfold numberLine
  rw [scan_word (by decide) (List.all_eq_true.1 rfl) isNameChar_space, scan_space isNameChar_space,
    scan_word (by decide) (List.all_eq_true.1 rfl) isNameChar_space, scan_space isNameChar_space,
    scan_word hl (Symbol.isNameChar_of_mem_lengthName hs) isNameChar_space,
    scan_space isNameChar_space, scan_mark hequals (by decide) (by decide) (by decide),
    scan_space isNameChar_space,
    scan_word (toList_toString_ne_nil length) (isNameChar_of_mem_toString length) hend,
    scan_mark hend (by decide) (by decide) (by decide)]
  rfl

private theorem scan_arrayLine (hne : symbol.name.toList ≠ [])
    (hs : ∀ c ∈ symbol.name.toList, Symbol.isNameChar c = true) :
    scan Symbol.isNameChar .nothing (arrayLine symbol) = some (arrayHead symbol) := by
  have hopen : Symbol.isNameChar '[' = false := by decide
  unfold arrayLine
  rw [scan_word (by decide) (List.all_eq_true.1 rfl) isNameChar_space, scan_space isNameChar_space,
    scan_word (by decide) (List.all_eq_true.1 rfl) isNameChar_space, scan_space isNameChar_space,
    scan_word hne hs hopen]
  rfl

/-- The whole text of an array whose bytes are divided into the given rows. -/
def arrayText (symbol : Symbol) (length : ℕ) (rows : List Bytes) : String :=
  String.join (ArrayListing.header symbol length ++ rows.map ArrayListing.row ++
    [ArrayListing.closing])

private theorem toList_arrayText (symbol : Symbol) (length : ℕ) (rows : List Bytes) :
    (arrayText symbol length rows).toList = Listing.preamble.toList ++
      ([numberLine symbol length, arrayLine symbol] ++ rows.map rowLine ++
        [['\x7d', ';']]).flatMap (· ++ ['\n']) := by
  have hrows : (String.join (rows.map ArrayListing.row)).toList =
      (rows.map rowLine).flatMap (· ++ ['\n']) := by
    rw [String.toList_join, List.flatMap_map, List.flatMap_map]
    exact congrArg (List.flatMap · rows) (funext toList_row)
  have hclosing : ArrayListing.closing.toList = ['\x7d', ';', '\n'] := by
    simp [ArrayListing.closing]
  rw [arrayText, String.join_append, String.join_append, String.toList_append,
    String.toList_append, toList_header, hrows, List.flatMap_append, List.flatMap_append]
  simp [hclosing]

private def arrayTokens (symbol : Symbol) (length : ℕ) (bytes : Bytes) : List Token :=
  numberTokens symbol length ++ .mark ';' ::
    (arrayHead symbol ++ (byteTokens bytes ++ [.mark '\x7d']) ++ [.mark ';'])

private theorem newline_notMem_line (hs : ∀ c ∈ symbol.name.toList, Symbol.isNameChar c = true)
    (length : ℕ) (rows : List Bytes) :
    ∀ l ∈ [numberLine symbol length, arrayLine symbol] ++ rows.map rowLine ++ [['\x7d', ';']],
      '\n' ∉ l := by
  have hname := newline_notMem_of_isNameChar hs
  have hlength := newline_notMem_of_isNameChar (Symbol.isNameChar_of_mem_lengthName hs)
  have hnumber : '\n' ∉ Nat.toDigits 10 length := by
    simpa using newline_notMem_of_isNameChar (isNameChar_of_mem_toString length)
  intro l hl
  simp only [List.mem_append, List.mem_cons, List.not_mem_nil, or_false, List.mem_map] at hl
  rcases hl with ((rfl | rfl) | ⟨r, -, rfl⟩) | rfl
  · unfold numberLine
    simp [hlength, hnumber]
  · unfold arrayLine
    simp [hname]
  · simp [rowLine, newline_notMem_rowBody]
  · decide

private theorem scan_lines (hne : symbol.name.toList ≠ [])
    (hs : ∀ c ∈ symbol.name.toList, Symbol.isNameChar c = true) (length : ℕ) {rows : List Bytes}
    (hr : ∀ r ∈ rows, r ≠ []) :
    List.Forall₂ CUnit.IsCode
      ([numberLine symbol length, arrayLine symbol] ++ rows.map rowLine ++ [['\x7d', ';']])
      ([numberTokens symbol length ++ [.mark ';'], arrayHead symbol] ++ rows.map byteTokens ++
        [[.mark '\x7d', .mark ';']]) := by
  have hrows : List.Forall₂ CUnit.IsCode (rows.map rowLine) (rows.map byteTokens) := by
    rw [List.forall₂_map_left_iff, List.forall₂_map_right_iff, List.forall₂_same]
    intro r hrow
    obtain ⟨b, bs, hb⟩ := List.exists_cons_of_ne_nil (hr r hrow)
    refine ⟨scan_rowLine (hr r hrow), ?_⟩
    simp [hb, byteTokens]
  have hheader : List.Forall₂ CUnit.IsCode [numberLine symbol length, arrayLine symbol]
      [numberTokens symbol length ++ [.mark ';'], arrayHead symbol] := by
    apply List.Forall₂.cons ⟨scan_numberLine hs length, by simp [numberTokens]⟩
    exact List.Forall₂.cons ⟨scan_arrayLine hne hs, by simp [arrayHead]⟩ List.Forall₂.nil
  exact List.rel_append (List.rel_append hheader hrows)
    (List.Forall₂.cons ⟨by decide, by simp⟩ List.Forall₂.nil)

private theorem ofText?_arrayText (hne : symbol.name.toList ≠ [])
    (hs : ∀ c ∈ symbol.name.toList, Symbol.isNameChar c = true) (length : ℕ) {rows : List Bytes}
    (hr : ∀ r ∈ rows, r ≠ []) :
    CUnit.ofText? (arrayText symbol length rows).toList =
      some ⟨["stddef.h", "stdint.h"], [], arrayTokens symbol length rows.flatten⟩ := by
  have hbytes : (rows.map byteTokens).flatten = byteTokens rows.flatten := by
    unfold byteTokens
    rw [← List.flatMap_def, List.flatten_eq_flatMap, List.flatMap_assoc]
    rfl
  rw [toList_arrayText, CUnit.ofText?_preamble (newline_notMem_line hs length rows),
    CUnit.foldlM_addLine_code _ (scan_lines hne hs length hr),
    CUnit.flatMap_expand_of_no_macros rfl]
  simp [arrayTokens, hbytes]

private theorem semicolon_notMem_byteTokens (bytes : Bytes) :
    Token.mark ';' ∉ byteTokens bytes := by
  simp [byteTokens]

private theorem splitOn_arrayTokens (length : ℕ) (bytes : Bytes) :
    (arrayTokens symbol length bytes).splitOn (.mark ';') =
      [numberTokens symbol length, arrayHead symbol ++ (byteTokens bytes ++ [.mark '\x7d']),
        []] := by
  have hnumber : Token.mark ';' ∉ numberTokens symbol length := by simp [numberTokens]
  have hbytes : Token.mark ';' ∉ arrayHead symbol ++ (byteTokens bytes ++ [.mark '\x7d']) := by
    simp [arrayHead, semicolon_notMem_byteTokens]
  unfold arrayTokens
  rw [List.splitOn_append_cons_self_of_not_mem hnumber,
    List.splitOn_append_cons_self_of_not_mem hbytes, List.splitOn_nil]

private theorem isIdentifier_name (hs : symbol.issue? = none) :
    isIdentifier symbol.name.toList = true ∧ isIdentifier symbol.lengthName.toList = true := by
  obtain ⟨first, rest, hname, hd, -, hk, -⟩ := (Symbol.issue?_eq_none_iff symbol).1 hs
  have hn : symbol.name.toList.head? = some first := by rw [hname]; rfl
  have hl : symbol.lengthName.toList.head? = some first := by
    rw [Symbol.toList_lengthName, hname]
    rfl
  have hkl := symbol.lengthName_notMem_cKeywords
  constructor
  · simp [isIdentifier, hk, hn, hd]
  · simp [isIdentifier, hkl, hl, hd]

private theorem declarations?_arrayTokens (hs : symbol.issue? = none) (length : ℕ)
    (bytes : Bytes) :
    declarations? (arrayTokens symbol length bytes) =
      some [.number "size_t" symbol.lengthName length, .bytes "uint8_t" symbol.name bytes] := by
  obtain ⟨hname, hlength⟩ := isIdentifier_name hs
  have hnumber : declaration? (numberTokens symbol length) =
      some (.number "size_t" symbol.lengthName length) := by
    unfold numberTokens
    rw [declaration?, if_pos ⟨rfl, hlength⟩, decimal?_toString, Option.map_some,
      String.ofList_toList, String.ofList_toList]
  have hbytes : declaration? (arrayHead symbol ++ (byteTokens bytes ++ [.mark '\x7d'])) =
      some (.bytes "uint8_t" symbol.name bytes) := by
    simp only [arrayHead, List.cons_append, List.nil_append]
    rw [declaration?, if_pos ⟨rfl, hname⟩]
    simp only [elements?_byteTokens, Option.map_some, String.ofList_toList]
  rw [declarations?, splitOn_arrayTokens]
  simp only [List.getLast?_cons_cons, List.getLast?_singleton, if_true, List.dropLast_cons_cons,
    List.dropLast_singleton, List.mapM_cons, List.mapM_nil, hnumber, hbytes]
  rfl

/-- The text of an array declares the length and the bytes, and nothing besides. It does so also
where the two do not agree. -/
theorem readDeclarations?_arrayText (hs : symbol.issue? = none) (length : ℕ) {rows : List Bytes}
    (hr : ∀ r ∈ rows, r ≠ []) :
    readDeclarations? (Utf8.encode (arrayText symbol length rows)) =
      some (["stddef.h", "stdint.h"], [.number "size_t" symbol.lengthName length,
        .bytes "uint8_t" symbol.name rows.flatten]) := by
  obtain ⟨first, rest, hname, -, hchars, -, -⟩ := (Symbol.issue?_eq_none_iff symbol).1 hs
  have hne : symbol.name.toList ≠ [] := by simp [hname]
  rw [readDeclarations?, Utf8.decode?_encode]
  simp only [Option.bind_eq_bind, Option.bind_some,
    ofText?_arrayText hne (hname ▸ hchars) length hr, declarations?_arrayTokens hs]
  rfl

end BlobSource.Reading
