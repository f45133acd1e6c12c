import BlobSource.AssemblyListing
import BlobSource.Proofs.Reading.Assembler
import BlobSource.Proofs.Symbol
import BlobSource.Text.Utf8.RoundTrip

/-! What a compiler and its assembler read in an assembly listing. -/
namespace BlobSource.Reading

/-- A path that stands for itself between quotes. -/
def Quotable (path : String) : Prop :=
  ∀ c ∈ path.toList, c ≠ '"' ∧ c ≠ '\\' ∧ c ≠ '\n' ∧ c ≠ '\r'

instance (path : String) : Decidable (Quotable path) := List.decidableBAll _ path.toList

/-- The program that a listing is to spell. -/
def blobProgram (symbol : Symbol) (width : WordWidth) (length : ℕ) (path : String) :
    List Statement :=
  [.inSection ".rodata", .align (wordSize width), .global symbol.lengthName,
    .label symbol.lengthName, .word width length, .global symbol.name, .label symbol.name,
    .contents path, .align (wordSize width), .inSection ".text"]

def assemblyText (symbol : Symbol) (width : WordWidth) (length : ℕ) (path : String) : String :=
  String.join (Listing.preamble :: AssemblyListing.definitions width ++
    AssemblyListing.block symbol path length)

/-- A text with the definitions for a width and a block of the given lines. -/
def blockText (width : WordWidth) (lines : List String) : String :=
  String.join (Listing.preamble :: AssemblyListing.definitions width ++
    ("asm (\n" :: lines ++ [");\n"]))

def wordText (length : ℕ) : String := "    TYPE \" " ++ toString length ++ "\\n\"\n"

theorem exists_lines_assemblyText (symbol : Symbol) (width : WordWidth) (length : ℕ)
    (path : String) : ∃ before after,
      assemblyText symbol width length path =
        blockText width (before ++ wordText length :: after) := by
  let align := "    \".balign \" BALIGN \"\\n\"\n"
  refine ⟨[AssemblyListing.quoted ".section .rodata", align,
      AssemblyListing.quoted (".global " ++ symbol.lengthName),
      AssemblyListing.quoted (symbol.lengthName ++ ":")],
    [AssemblyListing.quoted (".global " ++ symbol.name),
      AssemblyListing.quoted (symbol.name ++ ":"),
      AssemblyListing.quoted (".incbin \\\"" ++ path ++ "\\\""), align,
      AssemblyListing.quoted ".section .text"], ?_⟩
  rfl

private def quotedLine (statement : List Char) : List Char :=
  ' ' :: ' ' :: ' ' :: ' ' :: '"' :: (statement ++ ['\\', 'n', '"'])

private def wordLine (length : ℕ) : List Char :=
  ' ' :: ' ' :: ' ' :: ' ' :: ("TYPE".toList ++ ' ' :: '"' :: ' ' ::
    ((toString length).toList ++ ['\\', 'n', '"']))

private def pathLine (path : String) : List Char :=
  ' ' :: ' ' :: ' ' :: ' ' :: '"' :: (".incbin ".toList ++ '\\' :: '"' ::
    (path.toList ++ ['\\', '"', '\\', 'n', '"']))

private def alignLine : List Char := "    \".balign \" BALIGN \"\\n\"".toList

private def alignDefinition (width : WordWidth) : List Char :=
  "#define BALIGN \"".toList ++ (toString width.alignment).toList ++ ['"']

private def wordDefinition (width : WordWidth) : List Char :=
  "#define TYPE \"".toList ++ width.directive.toList ++ ['"']

private def blockLines (symbol : Symbol) (length : ℕ) (path : String) : List (List Char) :=
  [quotedLine ".section .rodata".toList, alignLine,
    quotedLine (".global ".toList ++ symbol.lengthName.toList),
    quotedLine (symbol.lengthName.toList ++ [':']), wordLine length,
    quotedLine (".global ".toList ++ symbol.name.toList),
    quotedLine (symbol.name.toList ++ [':']), pathLine path, alignLine,
    quotedLine ".section .text".toList]

private theorem toList_definitions (width : WordWidth) :
    (String.join (AssemblyListing.definitions width)).toList =
      [alignDefinition width, wordDefinition width, []].flatMap (· ++ ['\n']) := by
  have htype : "\"\n#define TYPE \"".toList = '"' :: '\n' :: "#define TYPE \"".toList := rfl
  have hend : "\"\n\n".toList = ['"', '\n', '\n'] := rfl
  unfold AssemblyListing.definitions alignDefinition wordDefinition
  generalize toString width.alignment = alignment
  simp only [String.toList_join, List.flatMap_cons, List.flatMap_nil, htype, hend,
    List.append_assoc, List.cons_append, List.nil_append, List.append_nil]

private theorem toList_wordText (length : ℕ) :
    (wordText length).toList = wordLine length ++ ['\n'] := by
  simp [wordText, wordLine]

private theorem toList_blockText_word (width : WordWidth) (length : ℕ) :
    (blockText width [wordText length]).toList = Listing.preamble.toList ++
      ([alignDefinition width, wordDefinition width, []] ++
        ["asm (".toList, wordLine length, [')', ';']]).flatMap (· ++ ['\n']) := by
  have hblock : (String.join ("asm (\n" :: [wordText length] ++ [");\n"])).toList =
      ["asm (".toList, wordLine length, [')', ';']].flatMap (· ++ ['\n']) := by
    simp [toList_wordText]
  rw [blockText, List.cons_append, String.join_cons, String.join_append, String.toList_append,
    String.toList_append, toList_definitions, hblock, ← List.flatMap_append]

private theorem toList_block (symbol : Symbol) (length : ℕ) (path : String) :
    (String.join (AssemblyListing.block symbol path length)).toList =
      ("asm (".toList :: blockLines symbol length path ++ [[')', ';']]).flatMap (· ++ ['\n']) := by
  have hquoted : ∀ s : String,
      (AssemblyListing.quoted s).toList = quotedLine s.toList ++ ['\n'] := fun s => by
    simp [AssemblyListing.quoted, quotedLine]
  have hpath : quotedLine (".incbin \\\"".toList ++ path.toList ++ "\\\"".toList) =
      pathLine path := by
    simp [quotedLine, pathLine]
  have hword : ("    TYPE \" " ++ toString length ++ "\\n\"\n").toList =
      wordLine length ++ ['\n'] := toList_wordText length
  have halign : "    \".balign \" BALIGN \"\\n\"\n".toList = alignLine ++ ['\n'] := by
    decide
  have hasm : "asm (\n".toList = "asm (".toList ++ ['\n'] := rfl
  have hclose : ");\n".toList = [')', ';'] ++ ['\n'] := rfl
  have hcolon : ":".toList = [':'] := rfl
  simp only [AssemblyListing.block, blockLines, String.toList_join, List.flatMap_cons,
    List.flatMap_nil, List.cons_append, List.nil_append, hquoted, hpath, hword, halign, hasm,
    hclose, hcolon, String.toList_append]

private theorem toList_assemblyText (symbol : Symbol) (width : WordWidth) (length : ℕ)
    (path : String) :
    (assemblyText symbol width length path).toList = Listing.preamble.toList ++
      ([alignDefinition width, wordDefinition width, []] ++
        ("asm (".toList :: blockLines symbol length path ++
          [[')', ';']])).flatMap (· ++ ['\n']) := by
  rw [assemblyText, List.cons_append, String.join_cons, String.join_append, String.toList_append,
    String.toList_append, toList_definitions, toList_block, ← List.flatMap_append]

private theorem scan_quotedLine {statement : List Char}
    (hs : ∀ c ∈ statement, isPlain c = true) :
    scan Symbol.isNameChar .nothing (quotedLine statement) =
      some [.literal (statement ++ ['\n'])] := by
  have hend : unescape? 'n' = some '\n' := rfl
  simp only [quotedLine, scan_space isNameChar_space, scan_quote isNameChar_quote]
  rw [scan_in_literal hs, scan_escape hend, scan_end_literal]
  rfl

private theorem isPlain_of_quotable {path : String} (hp : Quotable path) :
    ∀ c ∈ path.toList, isPlain c = true := by
  intro c hc
  obtain ⟨hq, hb, -, -⟩ := hp c hc
  simp [isPlain, hq, hb]

private theorem scan_wordLine (length : ℕ) :
    scan Symbol.isNameChar .nothing (wordLine length) =
      some [.word "TYPE".toList, .literal (' ' :: (toString length).toList ++ ['\n'])] := by
  have hend : unescape? 'n' = some '\n' := rfl
  have hl : ∀ c ∈ ' ' :: (toString length).toList, isPlain c = true := by
    have hd := isNameChar_of_mem_toString length
    generalize (toString length).toList = digits at hd
    intro c hc
    rcases List.mem_cons.1 hc with rfl | hc
    · decide
    · exact isPlain_of_isNameChar (hd c hc)
  have h : scan Symbol.isNameChar (.literal [])
      (' ' :: ((toString length).toList ++ ['\\', 'n', '"'])) = _ := scan_in_literal hl [] _
  simp only [wordLine, scan_space isNameChar_space]
  rw [scan_word (by decide) (List.all_eq_true.1 rfl) isNameChar_space, scan_space isNameChar_space,
    scan_quote isNameChar_quote, h, scan_escape hend, scan_end_literal]
  rfl

private theorem scan_pathLine {path : String} (hp : Quotable path) :
    scan Symbol.isNameChar .nothing (pathLine path) =
      some [.literal (".incbin \"".toList ++ path.toList ++ ['"', '\n'])] := by
  have hend : unescape? 'n' = some '\n' := rfl
  have hq : unescape? '"' = some '"' := rfl
  have hdirective : ∀ c ∈ ".incbin ".toList, isPlain c = true := List.all_eq_true.1 rfl
  have hpath := isPlain_of_quotable hp
  have hopen : ".incbin \"".toList = ".incbin ".toList ++ ['"'] := rfl
  simp only [pathLine, scan_space isNameChar_space, scan_quote isNameChar_quote]
  rw [scan_in_literal hdirective, scan_escape hq, scan_in_literal hpath, scan_escape hq,
    scan_escape hend, scan_end_literal, hopen]
  simp

variable {symbol : Symbol}

private def programLines (symbol : Symbol) (width : WordWidth) (length : ℕ) (path : String) :
    List (List Char) :=
  [".section .rodata".toList, ".balign ".toList ++ (toString width.alignment).toList,
    ".global ".toList ++ symbol.lengthName.toList, symbol.lengthName.toList ++ [':'],
    width.directive.toList ++ ' ' :: (toString length).toList,
    ".global ".toList ++ symbol.name.toList, symbol.name.toList ++ [':'],
    ".incbin \"".toList ++ path.toList ++ ['"'],
    ".balign ".toList ++ (toString width.alignment).toList, ".section .text".toList]

private def definitions (width : WordWidth) : CUnit :=
  ⟨["stddef.h", "stdint.h"],
    [("TYPE".toList, [.literal width.directive.toList]),
      ("BALIGN".toList, [.literal (toString width.alignment).toList])], []⟩

private theorem foldlM_definitions (width : WordWidth) :
    [alignDefinition width, wordDefinition width, []].foldlM CUnit.addLine
      ⟨["stddef.h", "stdint.h"], [], []⟩ = some (definitions width) := by
  cases width <;> decide

private def blockTokens (symbol : Symbol) (length : ℕ) (path : String) : List (List Token) :=
  [[.word "asm".toList, .mark '('], [.literal (".section .rodata".toList ++ ['\n'])],
    [.literal ".balign ".toList, .word "BALIGN".toList, .literal ['\n']],
    [.literal (".global ".toList ++ symbol.lengthName.toList ++ ['\n'])],
    [.literal (symbol.lengthName.toList ++ [':'] ++ ['\n'])],
    [.word "TYPE".toList, .literal (' ' :: (toString length).toList ++ ['\n'])],
    [.literal (".global ".toList ++ symbol.name.toList ++ ['\n'])],
    [.literal (symbol.name.toList ++ [':'] ++ ['\n'])],
    [.literal (".incbin \"".toList ++ path.toList ++ ['"', '\n'])],
    [.literal ".balign ".toList, .word "BALIGN".toList, .literal ['\n']],
    [.literal (".section .text".toList ++ ['\n'])], [.mark ')', .mark ';']]

private theorem plain_append {v w : List Char} (hv : ∀ c ∈ v, isPlain c = true)
    (hw : ∀ c ∈ w, isPlain c = true) : ∀ c ∈ v ++ w, isPlain c = true :=
  fun c hc => (List.mem_append.1 hc).elim (hv c) (hw c)

private theorem scan_block (hs : ∀ c ∈ symbol.name.toList, Symbol.isNameChar c = true)
    (length : ℕ) {path : String} (hp : Quotable path) :
    List.Forall₂ CUnit.IsCode
      ("asm (".toList :: blockLines symbol length path ++ [[')', ';']])
      (blockTokens symbol length path) := by
  have hname : ∀ c ∈ symbol.name.toList, isPlain c = true := fun c hc =>
    isPlain_of_isNameChar (hs c hc)
  have hlength : ∀ c ∈ symbol.lengthName.toList, isPlain c = true := fun c hc =>
    isPlain_of_isNameChar (Symbol.isNameChar_of_mem_lengthName hs c hc)
  have hglobal : ∀ c ∈ ".global ".toList, isPlain c = true := List.all_eq_true.1 rfl
  have hcolon : ∀ c ∈ [':'], isPlain c = true := List.all_eq_true.1 rfl
  have halign : scan Symbol.isNameChar .nothing alignLine =
      some [.literal ".balign ".toList, .word "BALIGN".toList, .literal ['\n']] := by decide
  apply List.Forall₂.cons ⟨by decide, by simp⟩
  apply List.Forall₂.cons ⟨scan_quotedLine (List.all_eq_true.1 rfl), by simp⟩
  apply List.Forall₂.cons ⟨halign, by simp⟩
  apply List.Forall₂.cons ⟨scan_quotedLine (plain_append hglobal hlength), by simp⟩
  apply List.Forall₂.cons ⟨scan_quotedLine (plain_append hlength hcolon), by simp⟩
  apply List.Forall₂.cons ⟨scan_wordLine length, by simp⟩
  apply List.Forall₂.cons ⟨scan_quotedLine (plain_append hglobal hname), by simp⟩
  apply List.Forall₂.cons ⟨scan_quotedLine (plain_append hname hcolon), by simp⟩
  apply List.Forall₂.cons ⟨scan_pathLine hp, by simp⟩
  apply List.Forall₂.cons ⟨halign, by simp⟩
  apply List.Forall₂.cons ⟨scan_quotedLine (List.all_eq_true.1 rfl), by simp⟩
  exact List.Forall₂.cons ⟨by decide, by simp⟩ List.Forall₂.nil

private theorem block?_blockTokens (symbol : Symbol) (width : WordWidth) (length : ℕ)
    (path : String) :
    block? ((blockTokens symbol length path).flatten.flatMap (definitions width).expand) =
      some ((programLines symbol width length path).flatMap (· ++ ['\n'])) := by
  have hasm : (definitions width).expand (.word "asm".toList) = [.word "asm".toList] := rfl
  have htype : (definitions width).expand (.word "TYPE".toList) =
      [.literal width.directive.toList] := rfl
  have halign : (definitions width).expand (.word "BALIGN".toList) =
      [.literal (toString width.alignment).toList] := rfl
  have hliteral : ∀ s, (definitions width).expand (.literal s) = [.literal s] := fun _ => rfl
  have hmark : ∀ c, (definitions width).expand (.mark c) = [.mark c] := fun _ => rfl
  have hopen : ".incbin \"".toList ++ path.toList ++ ['"', '\n'] =
      ".incbin \"".toList ++ path.toList ++ ['"'] ++ ['\n'] := by
    rw [List.append_assoc _ ['"']]
    rfl
  unfold blockTokens programLines
  rw [hopen]
  simp only [List.flatten_cons, List.flatten_nil, List.cons_append, List.nil_append,
    List.flatMap_cons, List.flatMap_nil, hasm, htype, halign, hliteral, hmark, block?, literals?,
    if_true, Option.map_some, List.append_nil]
  simp only [List.append_assoc, List.cons_append, List.nil_append]

private theorem isAssemblerChar_of_isNameChar {w : List Char}
    (hw : ∀ c ∈ w, Symbol.isNameChar c = true) : ∀ c ∈ w, isAssemblerChar c = true := by
  intro c hc
  simp [isAssemblerChar, hw c hc]

private theorem scan_directive (directive operand : List Char) (hd : directive ≠ [])
    (ho : operand ≠ []) (hdw : ∀ c ∈ directive, isAssemblerChar c = true)
    (how : ∀ c ∈ operand, isAssemblerChar c = true) :
    scan isAssemblerChar .nothing (directive ++ ' ' :: operand) =
      some [.word directive, .word operand] := by
  rw [scan_word hd hdw isAssemblerChar_space, scan_space isAssemblerChar_space,
    scan_word_end ho how]
  rfl

private theorem scan_label {name : List Char} (hne : name ≠ [])
    (hw : ∀ c ∈ name, isAssemblerChar c = true) :
    scan isAssemblerChar .nothing (name ++ [':']) = some [.word name, .mark ':'] := by
  have hcolon : isAssemblerChar ':' = false := by decide
  rw [scan_word hne hw hcolon, scan_mark hcolon (by decide) (by decide) (by decide)]
  rfl

private theorem scan_contents {path : String} (hp : Quotable path) :
    scan isAssemblerChar .nothing (".incbin \"".toList ++ path.toList ++ ['"']) =
      some [.word ".incbin".toList, .literal path.toList] := by
  have hpath := isPlain_of_quotable hp
  have hopen : ".incbin \"".toList ++ path.toList ++ ['"'] =
      ".incbin".toList ++ ' ' :: '"' :: (path.toList ++ ['"']) := rfl
  rw [hopen, scan_word (by decide) (List.all_eq_true.1 rfl) isAssemblerChar_space,
    scan_space isAssemblerChar_space, scan_quote isAssemblerChar_quote, scan_in_literal hpath,
    scan_end_literal]
  rfl

/-- The statement of a line of the program. -/
private def Reads (line : List Char) (statement : Statement) : Prop :=
  (scan isAssemblerChar .nothing line).bind statements? = some [statement]

private theorem reads_section (name : List Char) (hne : name ≠ [])
    (hw : ∀ c ∈ name, isAssemblerChar c = true) :
    Reads (".section ".toList ++ name) (.inSection (String.ofList name)) := by
  have hs : scan isAssemblerChar .nothing (".section ".toList ++ name) =
      some [.word ".section".toList, .word name] :=
    scan_directive ".section".toList name (by decide) hne (List.all_eq_true.1 rfl) hw
  rw [Reads, hs]
  rfl

private theorem reads_global {name : String} (hne : name.toList ≠ [])
    (hw : ∀ c ∈ name.toList, isAssemblerChar c = true) :
    Reads (".global ".toList ++ name.toList) (.global name) := by
  have hs : scan isAssemblerChar .nothing (".global ".toList ++ name.toList) =
      some [.word ".global".toList, .word name.toList] :=
    scan_directive ".global".toList name.toList (by decide) hne (List.all_eq_true.1 rfl) hw
  have hd : directive? ".global".toList name.toList = some (.global (String.ofList name.toList)) :=
    rfl
  rw [Reads, hs, Option.bind_some, statements?, hd, String.ofList_toList]
  rfl

private theorem reads_label {name : String} (hne : name.toList ≠ [])
    (hw : ∀ c ∈ name.toList, isAssemblerChar c = true)
    (hd : name.toList.head?.any Char.isDigit = false) :
    Reads (name.toList ++ [':']) (.label name) := by
  rw [Reads, scan_label hne hw, Option.bind_some, statements?, hd, String.ofList_toList]
  rfl

private theorem isAssemblerChar_toString (n : ℕ) :
    ∀ c ∈ (toString n).toList, isAssemblerChar c = true :=
  isAssemblerChar_of_isNameChar (isNameChar_of_mem_toString n)

private theorem reads_align (n : ℕ) :
    Reads (".balign ".toList ++ (toString n).toList) (.align n) := by
  have hs : scan isAssemblerChar .nothing (".balign ".toList ++ (toString n).toList) =
      some [.word ".balign".toList, .word (toString n).toList] :=
    scan_directive ".balign".toList (toString n).toList (by decide) (toList_toString_ne_nil n)
      (List.all_eq_true.1 rfl) (isAssemblerChar_toString n)
  have hd : directive? ".balign".toList (toString n).toList =
      (decimal? (toString n).toList).map .align := rfl
  rw [Reads, hs, Option.bind_some, statements?, hd, decimal?_toString]
  rfl

private theorem reads_word (width : WordWidth) (n : ℕ) :
    Reads (width.directive.toList ++ ' ' :: (toString n).toList) (.word width n) := by
  have hne : width.directive.toList ≠ [] := by cases width <;> decide
  have hw : ∀ c ∈ width.directive.toList, isAssemblerChar c = true := by
    cases width <;> exact List.all_eq_true.1 rfl
  have hs := scan_directive _ _ hne (toList_toString_ne_nil n) hw (isAssemblerChar_toString n)
  have hd : directive? width.directive.toList (toString n).toList =
      (decimal? (toString n).toList).map (.word width) := by cases width <;> rfl
  rw [Reads, hs, Option.bind_some, statements?, hd, decimal?_toString]
  rfl

private theorem reads_contents {path : String} (hp : Quotable path) :
    Reads (".incbin \"".toList ++ path.toList ++ ['"']) (.contents path) := by
  rw [Reads, scan_contents hp, Option.bind_some, statements?, if_pos rfl, String.ofList_toList]

private theorem newline_notMem_path {path : String} (hp : Quotable path) : '\n' ∉ path.toList :=
  fun h => (hp _ h).2.2.1 rfl

private theorem newline_notMem_quotedLine {statement : List Char} (h : '\n' ∉ statement) :
    '\n' ∉ quotedLine statement := by
  simp [quotedLine, h]

private theorem newline_notMem_wordLine (n : ℕ) : '\n' ∉ wordLine n := by
  have hn := newline_notMem_of_isNameChar (isNameChar_of_mem_toString n)
  unfold wordLine
  generalize (toString n).toList = digits at hn ⊢
  simp [hn]

private theorem newline_notMem_pathLine {path : String} (hp : Quotable path) :
    '\n' ∉ pathLine path := by
  simp [pathLine, newline_notMem_path hp]

private theorem newline_notMem_blockLines
    (hs : ∀ c ∈ symbol.name.toList, Symbol.isNameChar c = true) (length : ℕ) {path : String}
    (hp : Quotable path) : ∀ l ∈ blockLines symbol length path, '\n' ∉ l := by
  have hname := newline_notMem_of_isNameChar hs
  have hlength := newline_notMem_of_isNameChar (Symbol.isNameChar_of_mem_lengthName hs)
  have halign : '\n' ∉ alignLine := by decide
  intro l hl
  simp only [blockLines, List.mem_cons, List.not_mem_nil, or_false] at hl
  rcases hl with rfl | rfl | rfl | rfl | rfl | rfl | rfl | rfl | rfl | rfl
  · exact newline_notMem_quotedLine (by decide)
  · exact halign
  · exact newline_notMem_quotedLine (by simp [hlength])
  · exact newline_notMem_quotedLine (by simp [hlength])
  · exact newline_notMem_wordLine length
  · exact newline_notMem_quotedLine (by simp [hname])
  · exact newline_notMem_quotedLine (by simp [hname])
  · exact newline_notMem_pathLine hp
  · exact halign
  · exact newline_notMem_quotedLine (by decide)

private theorem newline_notMem_definitions (width : WordWidth) :
    ∀ l ∈ [alignDefinition width, wordDefinition width, []], '\n' ∉ l := by
  cases width <;> decide

private theorem newline_notMem_cLines (hs : ∀ c ∈ symbol.name.toList, Symbol.isNameChar c = true)
    (width : WordWidth) (length : ℕ) {path : String} (hp : Quotable path) :
    ∀ l ∈ [alignDefinition width, wordDefinition width, []] ++
      ("asm (".toList :: blockLines symbol length path ++ [[')', ';']]), '\n' ∉ l := by
  intro l hl
  rcases List.mem_append.1 hl with hl | hl
  · exact newline_notMem_definitions width l hl
  rcases List.mem_append.1 hl with hl | hl
  · rcases List.mem_cons.1 hl with rfl | hl
    · decide
    · exact newline_notMem_blockLines hs length hp l hl
  · rw [List.mem_singleton.1 hl]
    decide

private theorem newline_notMem_programLines
    (hs : ∀ c ∈ symbol.name.toList, Symbol.isNameChar c = true) (width : WordWidth) (length : ℕ)
    {path : String} (hp : Quotable path) :
    ∀ l ∈ programLines symbol width length path, '\n' ∉ l := by
  have hname := newline_notMem_of_isNameChar hs
  have hlength := newline_notMem_of_isNameChar (Symbol.isNameChar_of_mem_lengthName hs)
  have hpath := newline_notMem_path hp
  have hdirective : '\n' ∉ width.directive.toList := by cases width <;> decide
  have hnumber := newline_notMem_of_isNameChar (isNameChar_of_mem_toString length)
  have halignment := newline_notMem_of_isNameChar (isNameChar_of_mem_toString width.alignment)
  unfold programLines
  generalize (toString length).toList = digits at hnumber ⊢
  generalize (toString width.alignment).toList = alignment at halignment ⊢
  simp [hname, hlength, hpath, hdirective, hnumber, halignment]

private theorem reads_programLines (hs : symbol.issue? = none) (width : WordWidth) (length : ℕ)
    {path : String} (hp : Quotable path) :
    List.Forall₂ Reads (programLines symbol width length path)
      (blobProgram symbol width length path) := by
  obtain ⟨first, rest, hname, hd, hchars, -, -⟩ := (Symbol.issue?_eq_none_iff symbol).1 hs
  rw [← hname] at hchars
  have hne : symbol.name.toList ≠ [] := by simp [hname]
  have hlne : symbol.lengthName.toList ≠ [] := by simp [Symbol.toList_lengthName]
  have hn := isAssemblerChar_of_isNameChar hchars
  have hl := isAssemblerChar_of_isNameChar (Symbol.isNameChar_of_mem_lengthName hchars)
  have hhead : symbol.name.toList.head?.any Char.isDigit = false := by simp [hname, hd]
  have hlhead : symbol.lengthName.toList.head?.any Char.isDigit = false := by
    simp [Symbol.toList_lengthName, hname, hd]
  have hrodata : Reads ".section .rodata".toList (.inSection ".rodata") :=
    reads_section ".rodata".toList (by decide) (List.all_eq_true.1 rfl)
  have htext : Reads ".section .text".toList (.inSection ".text") :=
    reads_section ".text".toList (by decide) (List.all_eq_true.1 rfl)
  apply List.Forall₂.cons hrodata
  apply List.Forall₂.cons (reads_align _)
  apply List.Forall₂.cons (reads_global hlne hl)
  apply List.Forall₂.cons (reads_label hlne hl hlhead)
  apply List.Forall₂.cons (reads_word width length)
  apply List.Forall₂.cons (reads_global hne hn)
  apply List.Forall₂.cons (reads_label hne hn hhead)
  apply List.Forall₂.cons (reads_contents hp)
  apply List.Forall₂.cons (reads_align _)
  exact List.Forall₂.cons htext List.Forall₂.nil

private theorem ofText?_assemblyText (hs : ∀ c ∈ symbol.name.toList, Symbol.isNameChar c = true)
    (width : WordWidth) (length : ℕ) {path : String} (hp : Quotable path) :
    CUnit.ofText? (assemblyText symbol width length path).toList =
      some { definitions width with
        tokens :=
          (blockTokens symbol length path).flatten.flatMap (definitions width).expand } := by
  rw [toList_assemblyText, CUnit.ofText?_preamble (newline_notMem_cLines hs width length hp),
    List.foldlM_append, foldlM_definitions, Option.bind_eq_bind, Option.bind_some,
    CUnit.foldlM_addLine_code _ (scan_block hs length hp)]
  rfl

theorem readAssembly?_wordText (width : WordWidth) (length : ℕ) :
    readAssembly? (Utf8.encode (blockText width [wordText length])) =
      some (["stddef.h", "stdint.h"], [.word width length]) := by
  have hlines : ∀ l ∈ [alignDefinition width, wordDefinition width, []] ++
      ["asm (".toList, wordLine length, [')', ';']], '\n' ∉ l := by
    intro l hl
    rcases List.mem_append.1 hl with hl | hl
    · exact newline_notMem_definitions width l hl
    · simp only [List.mem_cons, List.not_mem_nil, or_false] at hl
      rcases hl with rfl | rfl | rfl
      · decide
      · exact newline_notMem_wordLine length
      · decide
  have hcode : List.Forall₂ CUnit.IsCode ["asm (".toList, wordLine length, [')', ';']]
      [[.word "asm".toList, .mark '('],
        [.word "TYPE".toList, .literal (' ' :: (toString length).toList ++ ['\n'])],
        [.mark ')', .mark ';']] := by
    apply List.Forall₂.cons ⟨by decide, by simp⟩
    apply List.Forall₂.cons ⟨scan_wordLine length, by simp⟩
    exact List.Forall₂.cons ⟨by decide, by simp⟩ List.Forall₂.nil
  have hunit : CUnit.ofText? (blockText width [wordText length]).toList =
      some { definitions width with
        tokens := [.word "asm".toList, .mark '(', .literal width.directive.toList,
          .literal (' ' :: (toString length).toList ++ ['\n']), .mark ')', .mark ';'] } := by
    rw [toList_blockText_word, CUnit.ofText?_preamble hlines, List.foldlM_append,
      foldlM_definitions, Option.bind_eq_bind, Option.bind_some,
      CUnit.foldlM_addLine_code _ hcode]
    rfl
  have hblock : block? [.word "asm".toList, .mark '(', .literal width.directive.toList,
      .literal (' ' :: (toString length).toList ++ ['\n']), .mark ')', .mark ';'] =
      some ([width.directive.toList ++ ' ' :: (toString length).toList].flatMap
        (· ++ ['\n'])) := by
    simp only [block?, literals?, if_true, Option.map_some, List.flatMap_cons, List.flatMap_nil,
      List.append_nil, List.append_assoc]
  have hline : ∀ l ∈ [width.directive.toList ++ ' ' :: (toString length).toList], '\n' ∉ l := by
    have hdirective : '\n' ∉ width.directive.toList := by cases width <;> decide
    have hnumber := newline_notMem_of_isNameChar (isNameChar_of_mem_toString length)
    generalize (toString length).toList = digits at hnumber ⊢
    simp [hdirective, hnumber]
  have hprogram := program?_lines hline
    (List.Forall₂.cons (reads_word width length) List.Forall₂.nil)
  rw [readAssembly?, Utf8.decode?_encode]
  simp only [Option.bind_eq_bind, Option.bind_some, hunit, hblock, hprogram]
  rfl

/-- The text spells the program, and nothing besides. -/
theorem readAssembly?_assemblyText (hs : symbol.issue? = none) (width : WordWidth) (length : ℕ)
    {path : String} (hp : Quotable path) :
    readAssembly? (Utf8.encode (assemblyText symbol width length path)) =
      some (["stddef.h", "stdint.h"], blobProgram symbol width length path) := by
  obtain ⟨first, rest, hname, -, hchars, -, -⟩ := (Symbol.issue?_eq_none_iff symbol).1 hs
  rw [← hname] at hchars
  have hprogram := program?_lines (newline_notMem_programLines hchars width length hp)
    (reads_programLines hs width length hp)
  rw [readAssembly?, Utf8.decode?_encode]
  simp only [Option.bind_eq_bind, Option.bind_some, ofText?_assemblyText hchars width length hp,
    block?_blockTokens, hprogram]
  rfl

end BlobSource.Reading
