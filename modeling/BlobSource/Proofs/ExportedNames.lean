import BlobSource.CommandLine.Program
import BlobSource.Proofs.Produced
import BlobSource.Proofs.Strict

/-! The names that a listing exports: that of the blob, and that of its length. -/
namespace BlobSource
open Reading

namespace Reading

def Declaration.name : Declaration → String
  | number _ name _ => name
  | bytes _ name _ => name

/-- The name that a statement shows to other object files. -/
def Statement.exported? : Statement → Option String
  | global name => some name
  | _ => none

/-- The names that other files can use, of a text that can be read. C exports every constant that
is declared outside of functions. -/
def exportedNames? (form : Form) (text : Bytes) : Option (List String) :=
  match form with
  | .array => (readDeclarations? text).map fun read => read.2.map Declaration.name
  | .assembly => (readAssembly? text).map fun read => read.2.filterMap Statement.exported?

theorem exportedNames?_of_block {text : String} {block : List Char} {names : List String}
    (hb : ((CUnit.ofText? text.toList).bind fun u => block? u.tokens) = some block)
    (hn : (program? block).map (List.filterMap Statement.exported?) = some names) :
    exportedNames? .assembly (Utf8.encode text) = some names := by
  obtain ⟨u, hunit, hu⟩ := Option.bind_eq_some_iff.1 hb
  obtain ⟨program, hprogram, hexported⟩ := Option.map_eq_some_iff.1 hn
  have hread : readAssembly? (Utf8.encode text) = some (u.headers, program) := by
    rw [readAssembly?, Utf8.decode?_encode]
    simp only [Option.bind_eq_bind, Option.bind_some, hunit, hu, hprogram]
    rfl
  rw [exportedNames?, hread]
  exact congrArg some hexported

end Reading

/-- The path of the source stands for itself in the text. Only the assembly form names it. -/
def Conversion.Quotes (c : Conversion) (source : Path) : Prop :=
  c.form = .assembly → ∀ path, source.text? = some path → Quotable path

theorem Conversion.Produces.exportedNames? {c : Conversion} {source : Path} {symbol : Symbol}
    {s : Store} {n : ℕ} {text : Bytes} (h : c.Produces source symbol s n text)
    (hs : symbol.issue? = none) (hq : c.Quotes source) :
    exportedNames? c.form text = some [symbol.lengthName, symbol.name] := by
  cases hc : c.form with
  | array =>
    obtain ⟨rows, hne, -, htext⟩ := h.exists_rows hc
    have hread := readDeclarations?_arrayText hs n hne
    rw [← htext] at hread
    rw [Reading.exportedNames?, hread]
    rfl
  | assembly =>
    obtain ⟨location, node, path, -, -, hpath, htext⟩ := h.eq_assemblyText hc
    have hread := readAssembly?_assemblyText hs c.width n (hq hc path hpath)
    rw [← htext] at hread
    rw [Reading.exportedNames?, hread]
    rfl

namespace Call
variable {s : Store} {call : Call} {j : Job}

theorem produces_of_job? (h : call.job? s = .ok (some j)) {report : Report}
    (hr : (j.embedding s).result = .ok report) {content : Content}
    (hc : (call.run s).content? j.destination = some content) :
    j.conversion.Produces j.source j.symbol s report.length content.toList := by
  have hrun := call.run_eq s
  rw [h] at hrun
  rw [hrun] at hc
  exact .filed hr rfl hc

theorem exists_content_of_job? (h : call.job? s = .ok (some j)) {location l : Location}
    {content : Content} (hf : s.find j.source = .ok (location, .file content))
    (hd : s.Opens j.destination l) (hne : location ≠ l)
    (hp : j.conversion.form = .assembly → ∃ path, j.source.text? = some path) :
    call.Succeeds s ∧ ∃ filed, (call.run s).content? j.destination = some filed ∧
      ∃ n, j.conversion.Produces j.source j.symbol s n filed.toList := by
  obtain ⟨report, filed, hr, hfiled⟩ := j.conversion.exists_filed hf hd hne hp j.symbol
  have hrun := call.run_eq s
  rw [h] at hrun
  refine ⟨succeeds_of_job? h hr, filed, ?_, report.length, .filed hr rfl hfiled⟩
  rw [hrun]
  exact hfiled

end Call

/-- If C takes a symbol, it also takes the name of the length, but for the symbol `_`, of which that
name is a reserved one. Every listing under a symbol that C takes exports these two names and no
others, if it does not spell a path that breaks it. So a strict call that succeeds exports only
names that C takes, unless its symbol is `_`. -/
theorem exported_names_usable :
    (∀ symbol : Symbol, symbol.issue? = none →
      (Symbol.mk symbol.lengthName).issue? =
        if symbol.name = "_" then some .reservedStart else none) ∧
    (∀ (c : Conversion) (source : Path) (symbol : Symbol) (s : Store) (n : ℕ) (text : Bytes),
      c.Produces source symbol s n text → symbol.issue? = none → c.Quotes source →
      exportedNames? c.form text = some [symbol.lengthName, symbol.name]) ∧
    (∀ (s : Store) (call : Call), call.IsStrict → call.Succeeds s →
      ∃ j : Job, call.job? s = .ok (some j) ∧ j.symbol.issue? = none ∧
        (j.conversion.Quotes j.source → ∀ content,
          (call.run s).content? j.destination = some content →
          ∃ names, exportedNames? j.conversion.form content.toList = some names ∧
            names = [j.symbol.lengthName, j.symbol.name] ∧
            (j.symbol.name ≠ "_" → ∀ name ∈ names, (Symbol.mk name).issue? = none))) := by
  refine ⟨fun symbol => Symbol.issue?_lengthName, ?_, ?_⟩
  · intro c source symbol s n text h hs hq
    exact h.exportedNames? hs hq
  · intro s call hstrict hsucceeds
    obtain ⟨j, report, hjob, hs, hr⟩ := Call.exists_job_of_strict hstrict hsucceeds
    refine ⟨j, hjob, hs, ?_⟩
    intro hq content hcontent
    have hproduced := Call.produces_of_job? hjob hr hcontent
    refine ⟨_, hproduced.exportedNames? hs hq, rfl, ?_⟩
    intro hne name hname
    have hlength := Symbol.issue?_lengthName hs
    rw [if_neg hne] at hlength
    simp only [List.mem_cons, List.not_mem_nil, or_false] at hname
    rcases hname with rfl | rfl
    · exact hlength
    · exact hs

/-- A strict command line. The symbol begins like `_`, but goes on. -/
theorem exported_names_usable_underscored :
    let s : Store := ⟨.single (some (.file (.ofBytes [1, 2, 3]))) [[0x66]], []⟩
    let call : Call :=
      .program .usual (["--strict", "--symbol", "_x", "f", "g"].map Utf8.encode) none
    call.IsStrict ∧ call.Succeeds s ∧ ∃ content, (call.run s).content? ⟨[0x67]⟩ = some content ∧
      exportedNames? .array content.toList = some ["_x_len", "_x"] ∧
      ∀ name ∈ ["_x_len", "_x"], (Symbol.mk name).issue? = none := by
  intro s call
  let arguments : CommandLine.Arguments :=
    ⟨false, some "_x", none, true, false, ⟨[0x66]⟩, ⟨[0x67]⟩⟩
  have hparse : CommandLine.Toolkit.usual.parse
      (["--strict", "--symbol", "_x", "f", "g"].map Utf8.encode) =
        .ok (.convert arguments) := by decide +kernel
  have hstrict : call.IsStrict := ⟨arguments, hparse, rfl⟩
  have hjob : call.job? s = .ok (some ⟨.default, ⟨[0x66]⟩, ⟨[0x67]⟩, ⟨"_x"⟩⟩) :=
    CommandLine.Toolkit.job?_of_parse hparse rfl (by decide)
  have hf : s.find ⟨[0x66]⟩ = .ok ([[0x66]], .file (.ofBytes [1, 2, 3])) := rfl
  have hd : s.Opens ⟨[0x67]⟩ [[0x67]] := .inl rfl
  obtain ⟨hsucceeds, content, hcontent, -⟩ :=
    Call.exists_content_of_job? hjob hf hd (by decide) nofun
  obtain ⟨j, hj, -, hnames⟩ := exported_names_usable.2.2 s call hstrict hsucceeds
  obtain rfl := Option.some.inj (Except.ok.inj (hj.symm.trans hjob))
  obtain ⟨names, hread, rfl, hissue⟩ := hnames nofun content hcontent
  exact ⟨hstrict, hsucceeds, content, hcontent, hread, hissue (by decide)⟩

/-- A path with a quote and line ends of its own, as the assembler comes to see it. -/
def splicedPath : String := "f\\\"\\n.global __x\\n__x:\\n.incbin \\\"f"

private theorem exportedNames?_splicedPath :
    exportedNames? .assembly (Utf8.encode (assemblyText ⟨"b"⟩ .host 3 splicedPath)) =
      some ["b_len", "b", "__x"] := by
  let block := (".section .rodata\n.balign 8\n.global b_len\nb_len:\n.quad 3\n.global b\nb:\n" ++
    ".incbin \"f\"\n.global __x\n__x:\n.incbin \"f\"\n.balign 8\n.section .text\n").toList
  have hblock : ((CUnit.ofText? (assemblyText ⟨"b"⟩ .host 3 splicedPath).toList).bind fun u =>
      block? u.tokens) = some block := by
    rw [assemblyText, String.toList_join]
    decide +kernel
  have hnames : (program? block).map (List.filterMap Statement.exported?) =
      some ["b_len", "b", "__x"] := by decide +kernel
  exact exportedNames?_of_block hblock hnames

/-- Two strict command lines that export a reserved name: the name of the length under the symbol
`_`, and a name that the path of the source brings in. -/
theorem strict_exports_reserved :
    let file : Node := .file (.ofBytes [1, 2, 3])
    let s : Store := ⟨.single (some file) [[0x66]], []⟩
    let t : Store := ⟨.single (some file) [Utf8.encode splicedPath], []⟩
    let short : Call :=
      .program .usual (["--strict", "--symbol", "_", "f", "g"].map Utf8.encode) none
    let spliced : Call := .program .usual
      (["--use-asm", "--strict", "--symbol", "b", splicedPath, "g"].map Utf8.encode) none
    ((Symbol.mk "_").issue? = none ∧ (Symbol.mk "__len").issue? = some .reservedStart ∧
      short.IsStrict ∧ short.Succeeds s ∧
      ∃ content, (short.run s).content? ⟨[0x67]⟩ = some content ∧
        exportedNames? .array content.toList = some ["__len", "_"]) ∧
    ((Symbol.mk "b").issue? = none ∧ (Symbol.mk "__x").issue? = some .reservedStart ∧
      spliced.IsStrict ∧ spliced.Succeeds t ∧
      ∃ content, (spliced.run t).content? ⟨[0x67]⟩ = some content ∧
        exportedNames? .assembly content.toList = some ["b_len", "b", "__x"]) := by
  intro file s t short spliced
  constructor
  · let arguments : CommandLine.Arguments :=
      ⟨false, some "_", none, true, false, ⟨[0x66]⟩, ⟨[0x67]⟩⟩
    have hparse : CommandLine.Toolkit.usual.parse
        (["--strict", "--symbol", "_", "f", "g"].map Utf8.encode) =
          .ok (.convert arguments) := by decide +kernel
    have hjob : short.job? s = .ok (some ⟨.default, ⟨[0x66]⟩, ⟨[0x67]⟩, ⟨"_"⟩⟩) :=
      CommandLine.Toolkit.job?_of_parse hparse rfl (by decide)
    have hf : s.find ⟨[0x66]⟩ = .ok ([[0x66]], file) := rfl
    have hd : s.Opens ⟨[0x67]⟩ [[0x67]] := .inl rfl
    obtain ⟨hsucceeds, content, hcontent, n, hproduced⟩ :=
      Call.exists_content_of_job? hjob hf hd (by decide) nofun
    have hnames := hproduced.exportedNames? (by decide) nofun
    exact ⟨by decide, by decide, ⟨arguments, hparse, rfl⟩, hsucceeds, content, hcontent, hnames⟩
  · let arguments : CommandLine.Arguments :=
      ⟨true, some "b", none, true, false, .ofText splicedPath, ⟨[0x67]⟩⟩
    have hparse : CommandLine.Toolkit.usual.parse
        (["--use-asm", "--strict", "--symbol", "b", splicedPath, "g"].map Utf8.encode) =
          .ok (.convert arguments) := by decide +kernel
    have hjob : spliced.job? t =
        .ok (some ⟨.ofForm .assembly, .ofText splicedPath, ⟨[0x67]⟩, ⟨"b"⟩⟩) :=
      CommandLine.Toolkit.job?_of_parse hparse rfl (by decide)
    have hf : t.find (.ofText splicedPath) = .ok ([Utf8.encode splicedPath], file) := by
      with_unfolding_all rfl
    have hd : t.Opens ⟨[0x67]⟩ [[0x67]] := .inl (by with_unfolding_all rfl)
    have hp : (Path.ofText splicedPath).text? = some splicedPath :=
      Utf8.decode?_encode splicedPath
    obtain ⟨hsucceeds, content, hcontent, n, hproduced⟩ :=
      Call.exists_content_of_job? hjob hf hd (by decide) fun _ => ⟨splicedPath, hp⟩
    obtain ⟨location, node, path, hfound, hlength, hpath, htext⟩ :=
      hproduced.eq_assemblyText rfl
    obtain rfl : splicedPath = path := Option.some.inj (hp.symm.trans hpath)
    have hnode : node = file := congrArg Prod.snd (Except.ok.inj (hfound.symm.trans hf))
    refine ⟨by decide, by decide, ⟨arguments, hparse, rfl⟩, hsucceeds, content, hcontent, ?_⟩
    rw [htext, hlength, hnode]
    exact exportedNames?_splicedPath

end BlobSource
