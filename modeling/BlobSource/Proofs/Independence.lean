import BlobSource.Proofs.Frame
import BlobSource.Proofs.Store.Naming

/-! Conversions that have no file in common: each of them comes to the same whether the others have
been made before it or not. So they may be made in any order. -/
namespace BlobSource

/-- The same lies at every location, whatever was laid first. -/
structure Store.Alike (s t : Store) : Prop where
  here : t.here = s.here
  get? : ∀ l, t.get? l = s.get? l

namespace Conversion
variable {c : Conversion} {source destination : Path} {symbol : Symbol} {s t : Store}
  {input : Input} {l m : Location}

theorem openSource_put_file_iff (symbol : Symbol) (h : s.IsFree l)
    (hsource : ¬ s.Names source l) (content : Content) :
    c.openSource source symbol (s.put l (.file content)) = .ok input ↔
      c.openSource source symbol s = .ok input := by
  constructor
  · intro ho
    obtain ⟨node, hf, -⟩ := exists_of_openSource ho
    have hne : input.location ≠ l := by
      intro heq
      have hnames := (Store.names_put_file_iff h content).1 (Store.names_of_find hf)
      exact hsource (heq ▸ hnames)
    have hf' := (Store.find_put_file_iff h content hne).1 hf
    rw [← ho]
    unfold openSource
    rw [hf, hf']
  · intro ho
    obtain ⟨node, hf, -⟩ := exists_of_openSource ho
    have hne : input.location ≠ l := fun heq => hsource (heq ▸ Store.names_of_find hf)
    exact openSource_put_file ho h hne content

/-- Two embeddings end alike and write the same if they open the same source and, whatever has been
handed on by then, read the same from it. -/
theorem embed_congr {opened opened' : Store} (ho : c.openSource source symbol s = .ok input)
    (ho' : c.openSource source symbol t = .ok input) (hc : s.create destination = .ok (opened, m))
    (hc' : t.create destination = .ok (opened', m)) (hsink : opened'.sinkAt m = opened.sinkAt m)
    (hread : ∀ content, (opened'.fill m content).readerAt input.location =
      (opened.fill m content).readerAt input.location) :
    (c.embed source destination symbol t).result = (c.embed source destination symbol s).result ∧
      ∃ content, (c.embed source destination symbol s).store = opened.fill m content ∧
        (c.embed source destination symbol t).store = opened'.fill m content := by
  have hsource : (fun out : Buffered =>
        (opened'.fill m (.ofBytes out.sink.text)).readerAt input.location) =
      fun out => (opened.fill m (.ofBytes out.sink.text)).readerAt input.location := by
    funext out
    exact hread _
  unfold embed
  rw [ho, ho', hc, hc']
  dsimp only
  rw [hsink, hsource]
  exact ⟨rfl, _, rfl, rfl⟩

theorem embed_of_not_opened
    (h : ∀ input created, c.openSource source symbol s = .ok input →
      s.create destination ≠ .ok created) :
    (c.embed source destination symbol s).store = s ∧
      (c.embed source destination symbol s).result.toOption = none := by
  cases ho : c.openSource source symbol s with
  | error e =>
    rw [embed_of_openSource_error ho]
    exact ⟨rfl, rfl⟩
  | ok input =>
    cases hc : s.create destination with
    | error cause =>
      rw [embed_of_create_error ho hc]
      exact ⟨rfl, rfl⟩
    | ok created => exact absurd hc (h input created ho)

/-- An embedding that has nothing to do with a location comes to the same when a file is laid there
first, and the file stays. -/
theorem embed_put_file (symbol : Symbol) (h : s.IsFree l) (hsource : ¬ s.Names source l)
    (hdestination : ¬ s.Names destination l) (content : Content) :
    (c.embed source destination symbol (s.put l (.file content))).result.toOption =
        (c.embed source destination symbol s).result.toOption ∧
      (c.embed source destination symbol s).store.Adds
        (c.embed source destination symbol (s.put l (.file content))).store l content := by
  have hopen : ∀ input, c.openSource source symbol (s.put l (.file content)) = .ok input ↔
      c.openSource source symbol s = .ok input := fun _ =>
    openSource_put_file_iff symbol h hsource content
  by_cases hopened : ∃ input created, c.openSource source symbol s = .ok input ∧
      s.create destination = .ok created
  · obtain ⟨input, ⟨opened, m⟩, ho, hc⟩ := hopened
    obtain ⟨node, hf, -⟩ := exists_of_openSource ho
    have hne : input.location ≠ l := fun heq => hsource (heq ▸ Store.names_of_find hf)
    obtain ⟨hml, opened', hc', hadds⟩ := Store.create_put_file h content hdestination hc
    obtain ⟨hresult, written, hs, ht⟩ := embed_congr ho ((hopen input).2 ho) hc hc'
      (hadds.sinkAt hml) fun x => (hadds.fill hml x).readerAt hne
    rw [hs, ht]
    exact ⟨congrArg Except.toOption hresult, hadds.fill hml written⟩
  · have hnone : ∀ input created, c.openSource source symbol s = .ok input →
        s.create destination ≠ .ok created := fun input created ho hc =>
      hopened ⟨input, created, ho, hc⟩
    have hnone' : ∀ input created, c.openSource source symbol (s.put l (.file content)) =
        .ok input → (s.put l (.file content)).create destination ≠ .ok created := by
      rintro input ⟨opened', m⟩ ho hc
      obtain ⟨opened, hc'⟩ := Store.exists_create_of_put_file h content hdestination hc
      exact hnone _ _ ((hopen input).1 ho) hc'
    obtain ⟨hstore, hreport⟩ := embed_of_not_opened hnone
    obtain ⟨hstore', hreport'⟩ := embed_of_not_opened hnone'
    rw [hstore, hstore']
    exact ⟨hreport'.trans hreport.symm, Store.Adds.put_file s h.ne_nil content⟩

end Conversion

namespace Job
variable {i j : Job} {s : Store}

def report? (j : Job) (s : Store) : Option Report := (j.embedding s).result.toOption

/-- The destinations of two jobs are different files, and neither is the source of the other job.
That a job has its own source for its destination does not matter. -/
structure Independent (s : Store) (i j : Job) : Prop where
  destinations : ∀ l, s.Names i.destination l → ¬ s.Names j.destination l
  source_left : ∀ l, s.Names j.destination l → ¬ s.Names i.source l
  source_right : ∀ l, s.Names i.destination l → ¬ s.Names j.source l

theorem Independent.symm (h : Independent s i j) : Independent s j i where
  destinations l hj hi := h.destinations l hi hj
  source_left := h.source_right
  source_right := h.source_left

theorem names_embedding_iff (j : Job) (s : Store) {p : Path} {l : Location} :
    (j.embedding s).store.Names p l ↔ s.Names p l := by
  rcases j.store_embedding s with hs | ⟨m, content, hopens, hs⟩
  · rw [hs]
  · rw [hs]
    exact Store.names_put_file_iff hopens.isFree content

theorem Independent.of_embedding {k : Job} (h : Independent s i j) :
    Independent (k.embedding s).store i j where
  destinations l hi hj :=
    h.destinations l ((k.names_embedding_iff s).1 hi) ((k.names_embedding_iff s).1 hj)
  source_left l hj hi :=
    h.source_left l ((k.names_embedding_iff s).1 hj) ((k.names_embedding_iff s).1 hi)
  source_right l hi hj :=
    h.source_right l ((k.names_embedding_iff s).1 hi) ((k.names_embedding_iff s).1 hj)

theorem get?_embedding (j : Job) {l : Location} (h : ¬ s.Names j.destination l) :
    (j.embedding s).store.get? l = s.get? l := by
  rcases j.store_embedding s with hs | ⟨m, content, hopens, hs⟩
  · rw [hs]
  · have hlm : l ≠ m := fun heq => h (heq ▸ hopens.names)
    rw [hs, Store.get?_put_of_ne s hopens.isFree.ne_nil hlm]

/-- Behind a job that it is independent of, a job reports what it would have reported before, and
leaves there what it would have left. -/
theorem Independent.embedding (h : Independent s i j) :
    j.report? (i.embedding s).store = j.report? s ∧
      ∀ l, ¬ s.Names i.destination l →
        (j.embedding (i.embedding s).store).store.get? l = (j.embedding s).store.get? l := by
  rcases i.store_embedding s with hs | ⟨m, content, hopens, hs⟩
  · rw [hs]
    exact ⟨rfl, fun _ _ => rfl⟩
  · have hnames := hopens.names
    obtain ⟨hreport, hadds⟩ := Conversion.embed_put_file (c := j.conversion) j.symbol
      hopens.isFree (h.source_right m hnames) (h.destinations m hnames) content
    rw [hs]
    refine ⟨hreport, ?_⟩
    intro l hl
    have hlm : l ≠ m := fun heq => hl (heq ▸ hnames)
    exact (hadds l).trans (if_neg hlm)

def reports (s : Store) : List Job → List (Option Report)
  | [] => []
  | j :: js => j.report? s :: reports (j.embedding s).store js

def doAll (s : Store) (js : List Job) : Store := Call.runAll s (js.map .embed)

/-- Independent jobs come to the same as each of them alone: in what they report, and in what they
leave at their destinations. Nothing else changes. -/
theorem doAll_of_independent {js : List Job} (h : js.Pairwise (Independent s)) :
    reports s js = js.map (·.report? s) ∧
      (∀ j ∈ js, ∀ l, s.Names j.destination l →
        (doAll s js).get? l = (j.embedding s).store.get? l) ∧
      ∀ l, (∀ j ∈ js, ¬ s.Names j.destination l) → (doAll s js).get? l = s.get? l := by
  induction js generalizing s with
  | nil => exact ⟨rfl, by simp, fun _ _ => rfl⟩
  | cons i js ih =>
    obtain ⟨hi, hjs⟩ := List.pairwise_cons.1 h
    obtain ⟨hreports, hnamed, hother⟩ := ih (s := (i.embedding s).store)
      (hjs.imp fun hpair => hpair.of_embedding)
    simp only [names_embedding_iff] at hnamed hother
    refine ⟨?_, ?_, ?_⟩
    · rw [reports, hreports, List.map_cons]
      congr 1
      exact List.map_congr_left fun j hj => (hi j hj).embedding.1
    · intro j hj l hl
      rcases List.mem_cons.1 hj with rfl | hj
      · exact hother l fun k hk => (hi k hk).destinations l hl
      · have hfirst : ¬ s.Names i.destination l := (hi j hj).symm.destinations l hl
        exact (hnamed j hj l hl).trans ((hi j hj).embedding.2 l hfirst)
    · intro l hl
      obtain ⟨hfirst, hrest⟩ := List.forall_mem_cons.1 hl
      exact (hother l hrest).trans (i.get?_embedding hfirst)

theorem alike_doAll_of_perm {js js' : List Job} (h : js.Pairwise (Independent s))
    (hp : js.Perm js') : (doAll s js).Alike (doAll s js') := by
  have h' : js'.Pairwise (Independent s) := (hp.pairwise_iff Independent.symm).1 h
  obtain ⟨-, hnamed, hother⟩ := doAll_of_independent h
  obtain ⟨-, hnamed', hother'⟩ := doAll_of_independent h'
  refine ⟨?_, ?_⟩
  · exact (Call.keeps_runAll _ s).here.trans (Call.keeps_runAll _ s).here.symm
  · intro l
    by_cases hl : ∃ j ∈ js, s.Names j.destination l
    · obtain ⟨j, hj, hname⟩ := hl
      rw [hnamed j hj l hname, hnamed' j (hp.mem_iff.1 hj) l hname]
    · push Not at hl
      rw [hother l hl, hother' l fun j hj => hl j (hp.mem_iff.2 hj)]

theorem report?_eq_some_iff {report : Report} :
    j.report? s = some report ↔ (j.embedding s).result = .ok report := by
  unfold report?
  cases (j.embedding s).result <;> simp [Except.toOption]

end Job

/-- Independent conversions commute. If two of them succeed in one order, they succeed in the other
with the same reports, and leave the same files. Any number of them, of which some may fail, leave
the same files in every order, and each reports what it reports when it is the only one. Every
regular file can be opened for writing here, and has room without bound, so that no conversion takes
room from another. -/
theorem conversions_commute (s : Store) :
    (∀ i j : Job, Job.Independent s i j → ∀ first second,
      (i.embedding s).result = .ok first →
      (j.embedding (i.embedding s).store).result = .ok second →
        (j.embedding s).result = .ok second ∧
        (i.embedding (j.embedding s).store).result = .ok first ∧
        (j.embedding (i.embedding s).store).store.Alike
          (i.embedding (j.embedding s).store).store) ∧
    ∀ js js' : List Job, js.Pairwise (Job.Independent s) → js.Perm js' →
      (Job.doAll s js).Alike (Job.doAll s js') ∧
      Job.reports s js = js.map (·.report? s) ∧ Job.reports s js' = js'.map (·.report? s) := by
  constructor
  · intro i j h first second hfirst hsecond
    rw [← Job.report?_eq_some_iff] at hfirst hsecond
    rw [h.embedding.1] at hsecond
    have hfirst' := h.symm.embedding.1.trans hfirst
    refine ⟨Job.report?_eq_some_iff.1 hsecond, Job.report?_eq_some_iff.1 hfirst', ?_⟩
    exact Job.alike_doAll_of_perm (List.pairwise_pair.2 h) (.swap j i [])
  · intro js js' h hp
    have h' : js'.Pairwise (Job.Independent s) := (hp.pairwise_iff Job.Independent.symm).1 h
    exact ⟨Job.alike_doAll_of_perm h hp, (Job.doAll_of_independent h).1,
      (Job.doAll_of_independent h').1⟩

/-- Two embeddings of one file, each to a new file beside it. -/
theorem conversions_commute_beside :
    let s : Store := ⟨.single (some (.file (.ofBytes [7]))) [[0x66]], []⟩
    let i : Job := ⟨⟨.array, .bits64⟩, ⟨[0x66]⟩, ⟨[0x61]⟩, ⟨"a"⟩⟩
    let j : Job := ⟨⟨.array, .bits32⟩, ⟨[0x66]⟩, ⟨[0x62]⟩, ⟨"b"⟩⟩
    (j.embedding s).result = .ok ⟨⟨"b"⟩, 1, .array, ⟨[0x62]⟩⟩ ∧
      (i.embedding (j.embedding s).store).result = .ok ⟨⟨"a"⟩, 1, .array, ⟨[0x61]⟩⟩ ∧
      (j.embedding (i.embedding s).store).store.Alike
        (i.embedding (j.embedding s).store).store ∧
      Job.reports s [j, i] = [j.report? s, i.report? s] := by
  intro s i j
  have hsource : s.Names ⟨[0x66]⟩ [[0x66]] := .inl rfl
  have hfirst : s.Names ⟨[0x61]⟩ [[0x61]] := .inr rfl
  have hsecond : s.Names ⟨[0x62]⟩ [[0x62]] := .inr rfl
  have hindependent : Job.Independent s i j := by
    refine ⟨?_, ?_, ?_⟩
    · intro l hi hj
      exact absurd ((hi.unique hfirst).trans (hj.unique hsecond).symm) (by decide)
    · intro l hj hi
      exact absurd ((hj.unique hsecond).trans (hi.unique hsource).symm) (by decide)
    · intro l hi hj
      exact absurd ((hi.unique hfirst).trans (hj.unique hsource).symm) (by decide)
  obtain ⟨hpair, hany⟩ := conversions_commute s
  obtain ⟨hlate, hearly, halike⟩ := hpair i j hindependent ⟨⟨"a"⟩, 1, .array, ⟨[0x61]⟩⟩
    ⟨⟨"b"⟩, 1, .array, ⟨[0x62]⟩⟩ (by decide +kernel) (by decide +kernel)
  obtain ⟨-, -, hreports⟩ :=
    hany [i, j] [j, i] (List.pairwise_pair.2 hindependent) (.swap j i [])
  exact ⟨hlate, hearly, halike, hreports⟩

end BlobSource
