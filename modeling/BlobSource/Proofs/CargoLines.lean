import BlobSource.Proofs.Destination
import BlobSource.Proofs.Identifier
import BlobSource.Proofs.Path.Bytes

/-! What a build step says to Cargo, line by line. Symbol and path are printed as they are, so that
a line feed in them begins a line of its own. Nothing else does. -/
namespace BlobSource

namespace Cargo

/-- A text in pieces: one for each line feed, and one more. -/
def cut (text : List Char) : List (List Char) := text.splitOn '\n'

/-- The lines in what a build script prints. Each is ended by a line feed; only the last may lack
it. -/
def lines (printed : String) : List (List Char) :=
  let pieces := cut printed.toList
  if pieces.getLast? = some [] then pieces.dropLast else pieces

def warningStart : String := "cargo:warning=bin2c: "

def dependencyStart : String := "cargo:rerun-if-changed="

/-- At most one warning, and then at most one dependency. -/
def IsPlain (lines : List (List Char)) : Prop :=
  ∃ warning? dependency? : Option (List Char),
    lines = warning?.toList ++ dependency?.toList ∧
    (∀ line ∈ warning?, warningStart.toList <+: line) ∧
    ∀ line ∈ dependency?, dependencyStart.toList <+: line

theorem length_cut (text : List Char) : (cut text).length = text.count '\n' + 1 := by
  unfold cut
  induction text with
  | nil => rfl
  | cons c text ih =>
    rw [List.splitOn_cons_eq_if_modifyHead, List.count_cons]
    split
    · rw [List.length_cons, ih]
    · rw [List.length_modifyHead, ih, Nat.add_zero]

theorem lines_of_messages {printed : String} {messages : List (List Char)}
    (h : printed.toList = messages.flatMap (· ++ ['\n'])) :
    lines printed = messages.flatMap cut := by
  have hcut : cut printed.toList = messages.flatMap cut ++ [[]] := by
    rw [h]
    clear h
    induction messages with
    | nil => rfl
    | cons text messages ih =>
      rw [List.flatMap_cons, List.append_assoc, List.singleton_append, cut,
        List.splitOn_append_cons_self, ← cut, ← cut, ih, List.flatMap_cons, List.append_assoc]
  simp [lines, hcut]

theorem length_le_length_flatMap_cut (messages : List (List Char)) :
    messages.length ≤ (messages.flatMap cut).length := by
  induction messages with
  | nil => exact le_rfl
  | cons text messages ih =>
    rw [List.flatMap_cons, List.length_append, List.length_cons, length_cut]
    omega

theorem flatMap_cut_eq_self_iff {messages : List (List Char)} :
    messages.flatMap cut = messages ↔ ∀ text ∈ messages, '\n' ∉ text := by
  constructor
  · intro h
    have hlength := congrArg List.length h
    clear h
    induction messages with
    | nil => simp
    | cons text messages ih =>
      have hrest := length_le_length_flatMap_cut messages
      rw [List.flatMap_cons, List.length_append, List.length_cons, length_cut] at hlength
      exact List.forall_mem_cons.2 ⟨List.count_eq_zero.1 (by omega), ih (by omega)⟩
  · intro h
    induction messages with
    | nil => rfl
    | cons text messages ih =>
      obtain ⟨htext, hmessages⟩ := List.forall_mem_cons.1 h
      rw [List.flatMap_cons, cut, List.splitOn_eq_singleton htext, ih hmessages]
      rfl

end Cargo

namespace Quoted

theorem newline_notMem_codePoint (c : Char) : '\n' ∉ (codePoint c).toList := by
  have hdigit : ∀ d < 16, Nat.digitChar d ≠ '\n' := by decide
  rw [codePoint, String.toList_ofList]
  generalize c.toNat = n
  induction n using Nat.strongRecOn with
  | ind n ih =>
    by_cases hn : n < 16
    · rw [Nat.toDigits_of_lt_base hn, List.mem_singleton]
      exact (hdigit n hn).symm
    · rw [Nat.toDigits_of_base_le (by omega) (by omega), List.mem_append, List.mem_singleton]
      rintro (h | h)
      · exact ih (n / 16) (by omega) h
      · exact hdigit (n % 16) (by omega) h.symm

theorem newline_notMem_escape (c : Char) : '\n' ∉ (escape c).toList := by
  unfold escape
  split
  · decide
  · decide
  · decide
  · decide
  · decide
  · decide
  · rename_i hnewline _ _
    split
    · simp [newline_notMem_codePoint]
    · simpa [Char.toString, eq_comm] using hnewline

theorem newline_notMem_char (c : Char) : '\n' ∉ (char c).toList := by
  simp [char, newline_notMem_escape]

end Quoted

namespace Symbol
variable {symbol : Symbol}

theorem mem_cKeywords_of_issue? {word : String} (h : symbol.issue? = some (.keyword word)) :
    word ∈ cKeywords := by
  obtain ⟨-, hword⟩ := (issue?_eq_some_iff.1 h).1
  exact Identifier.mem_keywords_iff.1 hword

theorem newline_notMem_message {issue : SymbolIssue} (h : symbol.issue? = some issue) :
    '\n' ∉ issue.message.toList := by
  cases issue with
  | empty | leadingDigit | reservedStart => simp [SymbolIssue.message]
  | illegalChar c =>
    change '\n' ∉ ("character " ++ Quoted.char c ++ " is not allowed in an identifier").toList
    simp [Quoted.newline_notMem_char]
  | keyword word =>
    have hk : ∀ word ∈ cKeywords, '\n' ∉ word.toList := by decide
    change '\n' ∉ ("`" ++ word ++ "` is a C keyword").toList
    simp [hk word (mem_cKeywords_of_issue? h)]

end Symbol

theorem Path.newline_notMem_display {p : Path} (h : 0x0A ∉ p.bytes) : '\n' ∉ p.display.toList :=
  fun hline => h (Utf8.mem_of_mem_decodeLossy (by decide) hline)

theorem Symbol.newline_notMem_of_ofPath {p : Path} {symbol : Symbol} (hp : 0x0A ∉ p.bytes)
    (h : ofPath p = .ok symbol) : '\n' ∉ symbol.name.toList := by
  obtain ⟨name, hname, hsymbol⟩ := exists_of_ofPath h
  have hsegment := Path.mem_segments_of_fileName? hname
  rw [hsymbol, toList_sanitize]
  intro hline
  obtain ⟨c, hc, hreplaced⟩ := List.mem_map.1 hline
  split at hreplaced
  · exact absurd hreplaced (by decide)
  · subst hreplaced
    exact hp (Path.mem_of_mem_segments hsegment (Utf8.mem_of_mem_decodeLossy (by decide) hc))

theorem Location.mem_of_mem_toPath {l : Location} {b : UInt8} (hb : b ∈ l.toPath.bytes) :
    b = Path.slash ∨ ∃ name ∈ l, b ∈ name := by
  unfold toPath at hb
  split at hb
  · exact .inl (List.mem_singleton.1 hb)
  · obtain ⟨name, hname, hb⟩ := List.mem_flatMap.1 hb
    exact (List.mem_cons.1 hb).imp id fun hb => ⟨name, hname, hb⟩

namespace BuildStep

def warningText (symbol : Symbol) (issue : SymbolIssue) : String :=
  s!"cargo:warning=bin2c: symbol '{symbol.name}' is not a valid C identifier: {issue.message}"

def dependencyText (source : Path) : String := s!"cargo:rerun-if-changed={source.display}"

theorem newline_mem_warningText_iff {symbol : Symbol} {issue : SymbolIssue}
    (h : symbol.issue? = some issue) :
    '\n' ∈ (warningText symbol issue).toList ↔ '\n' ∈ symbol.name.toList := by
  have hmessage := Symbol.newline_notMem_message h
  change '\n' ∈ ("cargo:warning=bin2c: symbol '" ++ symbol.name ++
    "' is not a valid C identifier: " ++ issue.message).toList ↔ _
  simp [hmessage]

theorem newline_mem_dependencyText_iff {source : Path} :
    '\n' ∈ (dependencyText source).toList ↔ '\n' ∈ source.display.toList := by
  change '\n' ∈ ("cargo:rerun-if-changed=" ++ source.display).toList ↔ _
  simp

theorem prefix_warningText (symbol : Symbol) (issue : SymbolIssue) :
    Cargo.warningStart.toList <+: (warningText symbol issue).toList := by
  change _ <+: ("cargo:warning=bin2c: symbol '" ++ symbol.name ++
    "' is not a valid C identifier: " ++ issue.message).toList
  have hstart : Cargo.warningStart.toList <+: "cargo:warning=bin2c: symbol '".toList := by decide
  simp only [String.toList_append, List.append_assoc]
  exact hstart.trans (List.prefix_append _ _)

theorem prefix_dependencyText (source : Path) :
    Cargo.dependencyStart.toList <+: (dependencyText source).toList := by
  change _ <+: (Cargo.dependencyStart ++ source.display).toList
  rw [String.toList_append]
  exact List.prefix_append _ _

variable {b : BuildStep} {env : Environment} {s : Store}

/-- The symbol that a step warns of, with what is wrong with it. -/
def warned? (b : BuildStep) : Option (Symbol × SymbolIssue) :=
  match b.symbol with
  | .error _ => none
  | .ok symbol => if b.strict then none else symbol.issue?.map (symbol, ·)

/-- The source that a step asks Cargo to watch, if it comes that far. -/
def watched? (b : BuildStep) (env : Environment) (s : Store) : Option Path :=
  (b.job env s).toOption.map Job.source

/-- What a step says to Cargo. -/
def messages (b : BuildStep) (env : Environment) (s : Store) : List (List Char) :=
  b.warned?.toList.map (fun (symbol, issue) => (warningText symbol issue).toList) ++
    (b.watched? env s).toList.map fun source => (dependencyText source).toList

theorem toList_warning {symbol : Symbol} (hs : b.symbol = .ok symbol) :
    (b.warning symbol).toList =
      (b.warned?.toList.map fun w => (warningText w.1 w.2).toList).flatMap (· ++ ['\n']) := by
  unfold warning warned?
  rw [hs]
  dsimp only
  cases symbol.issue? with
  | none => cases b.strict <;> rfl
  | some issue =>
    cases b.strict with
    | true => rfl
    | false =>
      have hended : ∀ text : String, (text ++ "\n").toList = text.toList ++ ['\n'] := fun text =>
        String.toList_append
      change (_ ++ (issue.message ++ "\n")).toList = _
      rw [← String.append_assoc, hended]
      exact (List.append_nil _).symm

theorem toList_dependency (source : Path) :
    (dependency source).toList = (dependencyText source).toList ++ ['\n'] :=
  String.toList_append

theorem printed_run (b : BuildStep) (env : Environment) (s : Store) :
    (b.run env s).printed.toList = (b.messages env s).flatMap (· ++ ['\n']) := by
  cases hs : b.symbol with
  | error e =>
    unfold run messages watched? warned? job
    rw [hs]
    rfl
  | ok symbol =>
    have hwarning := toList_warning hs
    cases hc : b.checkSymbol symbol with
    | error e =>
      have hstrict : b.strict = true := by
        by_contra hlenient
        rw [checkSymbol, if_neg hlenient] at hc
        cases hc
      unfold run messages watched? warned? job
      rw [hs]
      dsimp only
      rw [hc, if_pos hstrict]
      rfl
    | ok _ =>
      unfold run messages watched? job
      rw [hs, List.flatMap_append, ← hwarning]
      dsimp only
      rw [hc]
      cases b.prepare env s with
      | error e => exact (List.append_nil _).symm
      | ok prepared =>
        obtain ⟨dir, conversion, source⟩ := prepared
        dsimp only
        rw [String.toList_append, toList_dependency]
        simp [Except.toOption]

theorem issue?_of_warned {symbol : Symbol} {issue : SymbolIssue}
    (h : b.warned? = some (symbol, issue)) :
    b.symbol = .ok symbol ∧ symbol.issue? = some issue := by
  unfold warned? at h
  split at h
  · cases h
  · rename_i symbol' hs
    split at h
    · cases h
    · obtain ⟨issue', hissue, heq⟩ := Option.map_eq_some_iff.1 h
      cases heq
      exact ⟨hs, hissue⟩

theorem eq_or_absolute?_of_watched {source : Path} (h : b.watched? env s = some source) :
    source = b.source ∨
      b.form = .assembly ∧ Path.absolute? s.here.toPath b.source = some source := by
  unfold watched? at h
  cases hj : b.job env s with
  | error failure =>
    rw [hj] at h
    cases h
  | ok j =>
    rw [hj] at h
    obtain ⟨dir, -, -, -, htarget, -⟩ := exists_of_job hj
    have hsource : j.source = source := Option.some.inj h
    rw [hsource] at htarget
    cases hform : b.form with
    | array =>
      rw [target_of_array hform] at htarget
      exact .inl (Prod.mk.inj (Except.ok.inj htarget)).2.symm
    | assembly =>
      rw [target_of_assembly hform] at htarget
      split at htarget
      · cases htarget
      · rename_i habsolute
        have heq := (Prod.mk.inj (Except.ok.inj htarget)).2
        exact .inr ⟨rfl, heq ▸ (Store.absolute_eq_ok_iff.1 habsolute).1⟩
      · cases htarget

theorem isPlain_messages (b : BuildStep) (env : Environment) (s : Store) :
    Cargo.IsPlain (b.messages env s) := by
  refine ⟨b.warned?.map fun w => (warningText w.1 w.2).toList,
    (b.watched? env s).map fun source => (dependencyText source).toList, ?_, ?_, ?_⟩
  · simp [messages, Option.toList_map]
  · intro line hline
    obtain ⟨w, -, rfl⟩ := Option.map_eq_some_iff.1 hline
    exact prefix_warningText w.1 w.2
  · intro line hline
    obtain ⟨source, -, rfl⟩ := Option.map_eq_some_iff.1 hline
    exact prefix_dependencyText source

theorem newline_notMem_messages_iff : (∀ text ∈ b.messages env s, '\n' ∉ text) ↔
    (∀ symbol issue, b.warned? = some (symbol, issue) → '\n' ∉ symbol.name.toList) ∧
      ∀ source, b.watched? env s = some source → '\n' ∉ source.display.toList := by
  unfold messages
  rw [List.forall_mem_append]
  refine and_congr ?_ ?_
  · constructor
    · intro h symbol issue hwarned
      rw [← newline_mem_warningText_iff (issue?_of_warned hwarned).2]
      exact h _ (by simp [hwarned])
    · intro h text ht
      obtain ⟨⟨symbol, issue⟩, hw, rfl⟩ := List.mem_map.1 ht
      have hwarned := Option.mem_toList.1 hw
      rw [newline_mem_warningText_iff (issue?_of_warned hwarned).2]
      exact h symbol issue hwarned
  · simp [newline_mem_dependencyText_iff]

theorem newline_notMem_of_symbol {symbol : Symbol} (hsource : 0x0A ∉ b.source.bytes)
    (hsymbol : ∀ name, b.symbol? = some name → '\n' ∉ name.toList) (h : b.symbol = .ok symbol) :
    '\n' ∉ symbol.name.toList := by
  unfold BuildStep.symbol at h
  cases hs : b.symbol? with
  | none =>
    rw [hs] at h
    exact Symbol.newline_notMem_of_ofPath hsource h
  | some name =>
    rw [hs] at h
    cases h
    exact hsymbol name hs

theorem newline_notMem_of_watched {source : Path} (hsource : 0x0A ∉ b.source.bytes)
    (hhere : b.form = .assembly → b.source.isAbsolute = false → ∀ name ∈ s.here, 0x0A ∉ name)
    (h : b.watched? env s = some source) : '\n' ∉ source.display.toList := by
  refine Path.newline_notMem_display fun hline => ?_
  rcases eq_or_absolute?_of_watched h with rfl | ⟨hform, habsolute⟩
  · exact hsource hline
  · rcases Path.mem_of_mem_absolute? habsolute hline with hslash | hown | ⟨hrelative, hdir⟩
    · exact absurd hslash (by decide)
    · exact hsource hown
    · rcases Location.mem_of_mem_toPath hdir with hslash | ⟨name, hname, hline⟩
      · exact absurd hslash (by decide)
      · exact hhere hform hrelative name hname hline

end BuildStep

/-- What Cargo reads of a step are its messages, cut where they hold a line feed: at most one
warning, and then at most one dependency. They are lines as they stand unless the symbol that is
warned of, or the path that is watched, holds a line feed. The issue never does. And neither do
symbol and path if there is none in what the step is given. -/
theorem cargo_reads_messages (b : BuildStep) (env : Environment) (s : Store) :
    Cargo.IsPlain (b.messages env s) ∧
    Cargo.lines (b.run env s).printed = (b.messages env s).flatMap Cargo.cut ∧
    (Cargo.lines (b.run env s).printed = b.messages env s ↔
      (∀ symbol issue, b.warned? = some (symbol, issue) → '\n' ∉ symbol.name.toList) ∧
        ∀ source, b.watched? env s = some source → '\n' ∉ source.display.toList) ∧
    (0x0A ∉ b.source.bytes → (∀ name, b.symbol? = some name → '\n' ∉ name.toList) →
      (b.form = .assembly → b.source.isAbsolute = false → ∀ name ∈ s.here, 0x0A ∉ name) →
      Cargo.lines (b.run env s).printed = b.messages env s) := by
  have hlines := Cargo.lines_of_messages (b.printed_run env s)
  have hclean : Cargo.lines (b.run env s).printed = b.messages env s ↔
      (∀ symbol issue, b.warned? = some (symbol, issue) → '\n' ∉ symbol.name.toList) ∧
        ∀ source, b.watched? env s = some source → '\n' ∉ source.display.toList := by
    rw [hlines, Cargo.flatMap_cut_eq_self_iff, BuildStep.newline_notMem_messages_iff]
  refine ⟨b.isPlain_messages env s, hlines, hclean, ?_⟩
  intro hsource hsymbol hhere
  refine hclean.2 ⟨?_, ?_⟩
  · intro symbol issue hwarned
    exact BuildStep.newline_notMem_of_symbol hsource hsymbol (BuildStep.issue?_of_warned hwarned).1
  · intro source hwatched
    exact BuildStep.newline_notMem_of_watched hsource hhere hwatched

/-- A symbol that is warned of, and a relative source that is watched under its absolute path. -/
theorem cargo_reads_messages_digit :
    let b : BuildStep := ⟨⟨[0x66]⟩, .assembly, some "9", some ⟨[0x2E]⟩, false⟩
    let s : Store := ⟨.single (some .directory) [[0x77]], [[0x77]]⟩
    Cargo.lines (b.run ⟨none, some [0x33, 0x32]⟩ s).printed =
      ["cargo:warning=bin2c: symbol '9' is not a valid C identifier: " ++
          "identifier starts with a digit",
        "cargo:rerun-if-changed=/w/f"].map String.toList := by
  intro b s
  obtain ⟨-, -, -, hclean⟩ := cargo_reads_messages b ⟨none, some [0x33, 0x32]⟩ s
  have hsymbol : ∀ name, b.symbol? = some name → '\n' ∉ name.toList := by
    rintro name ⟨⟩
    decide
  exact (hclean (by decide) hsymbol fun _ _ => by decide).trans (by decide +kernel)

/-- A line feed in the name of a source lets the rest of the name be read as a directive of its own.
So does one in a symbol that is only warned of, though the issue shows it escaped. -/
theorem directives_injected :
    let env : Environment := ⟨none, none⟩
    let name : Bytes := Utf8.encode "a\ncargo:rustc-cfg=x"
    let s : Store := ⟨.single (some (.file (.ofBytes [0x61, 0x62, 0x63]))) [name], []⟩
    let named : BuildStep := ⟨⟨name⟩, .array, some "blob", some ⟨[0x2E]⟩, false⟩
    let warned : BuildStep := ⟨⟨[0x66]⟩, .array, some "a\ncargo:rustc-cfg=x", none, false⟩
    Cargo.lines (named.run env s).printed =
        ["cargo:rerun-if-changed=a", "cargo:rustc-cfg=x"].map String.toList ∧
      ¬ Cargo.IsPlain (Cargo.lines (named.run env s).printed) ∧
      Cargo.lines (warned.run env s).printed = ["cargo:warning=bin2c: symbol 'a",
        "cargo:rustc-cfg=x' is not a valid C identifier: " ++
          "character '\\n' is not allowed in an identifier"].map String.toList := by
  intro env name s named warned
  have hlines : Cargo.lines (named.run env s).printed =
      ["cargo:rerun-if-changed=a", "cargo:rustc-cfg=x"].map String.toList := by
    decide +kernel
  refine ⟨hlines, ?_, by decide +kernel⟩
  rw [hlines]
  rintro ⟨warning?, dependency?, hparts, hwarning, -⟩
  cases warning? with
  | none =>
    have hlength := congrArg List.length hparts
    cases dependency? <;> simp at hlength
  | some line =>
    have hfirst : line = "cargo:rerun-if-changed=a".toList := (List.cons.inj hparts).1.symm
    subst hfirst
    exact absurd (hwarning _ rfl) (by decide)

end BlobSource
