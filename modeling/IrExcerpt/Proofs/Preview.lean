import IrExcerpt.Proofs.Listings
import IrExcerpt.Proofs.SucceededExtraction

/-!
# A listing as a preview of an extraction

A listing is made to show what an extraction from the same names would select,
and it does not know of the patterns that the configuration ignores. Extractions
do. So what a listing shows is what an extraction reports exactly if it shows no
function that is ignored; and else it shows more, or shows it nearer.

Underneath are two searches of one graph, from the same names up to the same
depth, and one of them keeps out of the ignored functions. A path of this one is
a path of the other. A path of the other is one of this one unless it meets an
ignored function, and everything it meets on the way is listed. That is why the
condition can be read off the listing alone.
-/

namespace IrExcerpt

open LawfulFiles (view)

/-! ## Two searches -/

/-- `c₀` ignores nothing, and its search starts where that of `c` starts, or
would start if it ignored nothing. -/
structure Criteria.Unrestricted (c₀ c : Criteria)
    (start₀ start : String → Prop) : Prop where
  kept : ∀ g, c₀.ignores g = false
  starts : ∀ g, start g ↔ start₀ g ∧ c.ignores g = false

namespace Criteria.Unrestricted

variable {c₀ c : Criteria} {start₀ start : String → Prop} {doc : Document}
  {n k : Nat} {g : String} {s₀ s : Selection}

theorem reached (h : c₀.Unrestricted c start₀ start)
    (hg : Reached c doc start n g) : Reached c₀ doc start₀ n g := by
  induction n generalizing g with
  | zero =>
      obtain ⟨hstart, hadm⟩ := reached_zero.1 hg
      exact reached_zero.2 ⟨((h.starts g).1 hstart).1, hadm.1, h.kept g⟩
  | succ n ih =>
      obtain ⟨⟨f, hf, hcall⟩, hadm⟩ := reached_succ.1 hg
      exact reached_succ.2 ⟨⟨f, ih hf, hcall⟩, hadm.1, h.kept g⟩

/-- A path along which nothing is ignored is a path of both searches. -/
theorem reached_of_kept (h : c₀.Unrestricted c start₀ start)
    (hkept : ∀ m ≤ k, ∀ f, Reached c₀ doc start₀ m f → c.ignores f = false)
    (hn : n ≤ k) (hg : Reached c₀ doc start₀ n g) :
    Reached c doc start n g := by
  induction n generalizing g with
  | zero =>
      obtain ⟨hstart, hadm⟩ := reached_zero.1 hg
      have hign := hkept 0 hn g hg
      exact reached_zero.2 ⟨(h.starts g).2 ⟨hstart, hign⟩, hadm.1, hign⟩
  | succ n ih =>
      obtain ⟨⟨f, hf, hcall⟩, hadm⟩ := reached_succ.1 hg
      exact reached_succ.2 ⟨⟨f, ih (by omega) hf, hcall⟩, hadm.1,
        hkept (n + 1) hn g hg⟩

/-- The search that ignores nothing comes everywhere, and not later. -/
theorem depth?_le (h : c₀.Unrestricted c start₀ start)
    (h₀ : Layered c₀ doc start₀ k s₀) (hs : Layered c doc start k s)
    (hg : s.depth? g = some n) : ∃ m ≤ n, s₀.depth? g = some m := by
  obtain ⟨hn, hdist⟩ := (hs.depths g n).1 hg
  obtain ⟨m, hm, hdist₀⟩ := exists_atDistance (h.reached hdist.1)
  exact ⟨m, hm, (h₀.depths g m).2 ⟨hm.trans hn, hdist₀⟩⟩

theorem atDistance_iff (h : c₀.Unrestricted c start₀ start)
    (hkept : ∀ m ≤ k, ∀ f, Reached c₀ doc start₀ m f → c.ignores f = false)
    (hn : n ≤ k) :
    AtDistance c doc start n g ↔ AtDistance c₀ doc start₀ n g := by
  constructor
  · intro hdist
    refine ⟨h.reached hdist.1, fun m hm => ?_⟩
    rcases le_total m k with hle | hle
    · exact hdist.2 (h.reached_of_kept hkept hle hm)
    · exact hn.trans hle
  · intro hdist
    exact ⟨h.reached_of_kept hkept hn hdist.1,
      fun m hm => hdist.2 (h.reached hm)⟩

/-- The two searches find the same at the same depths exactly if the one finds
nothing that the other ignores. -/
theorem depth?_eq_iff (h : c₀.Unrestricted c start₀ start)
    (h₀ : Layered c₀ doc start₀ k s₀) (hs : Layered c doc start k s) :
    (∀ g, s₀.depth? g = s.depth? g) ↔
      ∀ g n, s₀.depth? g = some n → c.ignores g = false := by
  constructor
  · intro hsame g n hg
    rw [hsame] at hg
    exact ((hs.depths g n).1 hg).2.admits.2
  · intro hkept g
    refine Option.ext fun n => ?_
    rw [h₀.depths, hs.depths]
    refine and_congr_right fun hn => (h.atDistance_iff ?_ hn).symm
    intro m hm f hf
    obtain ⟨m', hm', hdist⟩ := exists_atDistance hf
    exact hkept f m' ((h₀.depths f m').2 ⟨hm'.trans hm, hdist⟩)

end Criteria.Unrestricted

/-! ## What is listed and what is reported -/

/-- What a report lists, read off the names of the document. -/
theorem Report.map_entries_eq_filterMap {doc : Document}
    (hnodup : doc.names.Nodup) (s : Selection) :
    (entries doc s).map (fun e => (e.name, e.depth)) =
      doc.names.filterMap fun name => (s.depth? name).map (name, ·) := by
  rw [entries, Document.inDocumentOrder_eq hnodup, List.map_filterMap,
    List.filterMap_filter]
  refine List.filterMap_congr fun name hname => ?_
  rw [Document.names_eq] at hname
  obtain ⟨d, hd, rfl⟩ := List.mem_map.1 hname
  rw [Document.find?_of_mem hnodup hd, Selection.contains]
  cases s.depth? d.name <;> rfl

theorem Report.map_name_entries {doc : Document} (hnodup : doc.names.Nodup)
    (s : Selection) :
    ((entries doc s).map fun e => (e.name, e.depth)).map Prod.fst =
      doc.names.filter s.contains := by
  rw [entries_eq hnodup, List.map_map, List.map_map, Document.names_eq,
    List.filter_map]
  rfl

theorem Layered.mem_map_entries {c : Criteria} {doc : Document}
    {start : String → Prop} {k : Nat} {s : Selection}
    (h : Layered c doc start k s) (hnodup : doc.names.Nodup) {g : String}
    {n : Nat} :
    (g, n) ∈ (Report.entries doc s).map (fun e => (e.name, e.depth)) ↔
      s.depth? g = some n := by
  rw [Report.map_entries_eq_filterMap hnodup, List.mem_filterMap]
  constructor
  · rintro ⟨name, -, hname⟩
    obtain ⟨level, hlevel, heq⟩ := Option.map_eq_some_iff.1 hname
    cases heq
    exact hlevel
  · intro hg
    have hdoc := h.contains_doc (Selection.contains_iff_depth?.2 ⟨n, hg⟩)
    exact ⟨g, Document.contains_iff.1 hdoc, by rw [hg]; rfl⟩

/-- How far a listing is a preview of a report: it says the same exactly if it
lists nothing that is ignored. It leaves nothing out, keeps the order, and lists
nothing at a greater level. -/
structure Listing.Previews (listed reported : List (String × Nat))
    (ignores : String → Bool) : Prop where
  same : listed = reported ↔ ∀ f ∈ listed, ignores f.1 = false
  order : (reported.map Prod.fst).Sublist (listed.map Prod.fst)
  level : ∀ f ∈ reported, ∃ level ≤ f.2, (f.1, level) ∈ listed

theorem Criteria.Unrestricted.previews {text : String} {doc : Document}
    {c₀ c : Criteria} {start₀ start : String → Prop} {k : Nat}
    {s₀ s : Selection} (h : c₀.Unrestricted c start₀ start)
    (hparse : Document.parse text = .ok doc)
    (h₀ : Layered c₀ doc start₀ k s₀) (hs : Layered c doc start k s) :
    Listing.Previews (Listing.headings (Session.listing doc s₀))
      ((Report.entries doc s).map fun e => (e.name, e.depth)) c.ignores := by
  have hnodup := Document.names_nodup hparse
  rw [Listing.headings_listing hparse]
  refine ⟨?_, ?_, ?_⟩
  · have hdepths : (Report.entries doc s₀).map (fun e => (e.name, e.depth)) =
          (Report.entries doc s).map (fun e => (e.name, e.depth)) ↔
        ∀ g, s₀.depth? g = s.depth? g := by
      constructor
      · intro hsame g
        refine Option.ext fun n => ?_
        rw [← h₀.mem_map_entries hnodup, ← hs.mem_map_entries hnodup, hsame]
      · intro hsame
        rw [Report.map_entries_eq_filterMap hnodup,
          Report.map_entries_eq_filterMap hnodup]
        simp only [hsame]
    rw [hdepths, h.depth?_eq_iff h₀ hs]
    constructor
    · rintro hkept ⟨g, n⟩ hg
      exact hkept g n ((h₀.mem_map_entries hnodup).1 hg)
    · intro hkept g n hg
      exact hkept (g, n) ((h₀.mem_map_entries hnodup).2 hg)
  · rw [Report.map_name_entries hnodup, Report.map_name_entries hnodup]
    refine List.monotone_filter_right _ fun g hg => ?_
    obtain ⟨n, hn⟩ := Selection.contains_iff_depth?.1 hg
    obtain ⟨m, -, hm⟩ := h.depth?_le h₀ hs hn
    exact Selection.contains_iff_depth?.2 ⟨m, hm⟩
  · rintro ⟨g, n⟩ hg
    obtain ⟨m, hm, hg₀⟩ := h.depth?_le h₀ hs ((hs.mem_map_entries hnodup).1 hg)
    exact ⟨m, hm, (h₀.mem_map_entries hnodup).2 hg₀⟩

/-! ## Criteria of listings and of extractions -/

/-- What a listing goes by. -/
def Criteria.ofNames (names : List String) : Criteria :=
  ⟨firstOccurrences names, .empty, .empty, .empty⟩

theorem Criteria.ofTexts_ofNames {names : List String} (h : names ≠ []) :
    ofTexts names [] [] [] = .ok (ofNames names) := by
  cases names with
  | nil => exact absurd rfl h
  | cons name names => rfl

theorem Criteria.ok_of_ofTexts {names ignored : List String} {c : Criteria}
    (h : ofTexts names [] [] ignored = .ok c) :
    ∃ set, c = ⟨firstOccurrences names, .empty, .empty, set⟩ := by
  cases names with
  | nil => cases h
  | cons name names =>
      change (patterns ignored >>= fun set =>
        pure (⟨_, _, _, set⟩ : Criteria)) = .ok c at h
      cases hset : patterns ignored with
      | error fault =>
          rw [hset] at h
          cases h
      | ok set =>
          rw [hset] at h
          cases h
          exact ⟨set, rfl⟩

/-- The request asks for these names up to this depth, and for nothing else. -/
structure Request.AsksFor (r : Request) (input : Path) (names : List String)
    (depth : Nat) : Prop where
  input : r.input = input
  functions : r.functions = names
  functionPatterns : r.functionPatterns = []
  linePatterns : r.linePatterns = []
  ignorePatterns : r.ignorePatterns = []
  depth : r.depth = some depth

/-- The search of an extraction differs from that of a listing in what it
ignores, and in nothing else. -/
theorem Request.AsksFor.unrestricted {r : Request} {input : Path}
    {names : List String} {depth : Nat} (h : r.AsksFor input names depth)
    {c : Criteria} {defaults : Defaults} (hc : r.criteriaWith defaults = .ok c)
    (doc : Document) (limit : Nat) :
    (Criteria.ofNames names).Unrestricted c
      (fun f => ((Criteria.ofNames names).select doc limit).1.contains f = true)
      (fun f => (c.select doc limit).1.contains f = true) := by
  unfold Request.criteriaWith at hc
  rw [h.functions, h.functionPatterns, h.linePatterns] at hc
  obtain ⟨set, rfl⟩ := Criteria.ok_of_ofTexts hc
  refine ⟨fun g => rfl, fun g => ?_⟩
  rw [Criteria.contains_select, Criteria.contains_select,
    Criteria.mem_candidates, Criteria.mem_candidates]
  exact and_congr_left fun _ => ⟨fun hasked => ⟨hasked, rfl⟩, And.left⟩

/-! ## Loading again -/

namespace Cache

variable {cache later : Cache} {text : String} {loaded : Loaded}

theorem graph?_of_load (h : cache.load text = .ok (loaded, later)) :
    loaded.digest = Digest.sha256 text ∧
      later.graph? loaded.digest = some loaded.graph := by
  simp only [load] at h
  split at h
  · next graph hkept =>
      cases h
      exact ⟨rfl, hkept⟩
  · split at h
    · cases h
    · cases h
      exact ⟨rfl, List.lookup_cons_self⟩

theorem graph?_update {digest : String} {old : CallGraph}
    (h : cache.graph? digest = some old) (graph : CallGraph) :
    (cache.update digest graph).graph? digest = some graph := by
  obtain ⟨entries⟩ := cache
  simp only [graph?, update] at h ⊢
  induction entries with
  | nil => cases h
  | cons entry rest ih =>
      obtain ⟨key, kept⟩ := entry
      by_cases hkey : digest = key
      · subst hkey
        simp
      · have hbeq : (digest == key) = false := beq_eq_false_iff_ne.2 hkey
        have hbeq' : (key == digest) = false :=
          beq_eq_false_iff_ne.2 (Ne.symm hkey)
        rw [List.lookup_cons, hbeq] at h
        rw [List.map_cons, List.lookup_cons, hbeq', if_neg Bool.false_ne_true,
          hbeq]
        exact ih h

/-- A text that has been loaded is loaded as the same document again, also when
more is known of its graph. -/
theorem document_of_load_again (h : cache.load text = .ok (loaded, later))
    {graph : CallGraph} (hgraph : graph.document = loaded.document)
    {again : Loaded} {last : Cache}
    (hagain : (later.update loaded.digest graph).load text =
      .ok (again, last)) : again.document = loaded.document := by
  obtain ⟨hdigest, hkept⟩ := graph?_of_load h
  have hupdated := graph?_update hkept graph
  rw [hdigest] at hupdated hagain
  simp only [load] at hagain
  rw [hupdated] at hagain
  cases hagain
  exact hgraph

theorem exists_load {doc : Document} (h : Document.parse text = .ok doc)
    (cache : Cache) :
    ∃ loaded later, cache.load text = .ok (loaded, later) := by
  simp only [load]
  split
  · exact ⟨_, _, rfl⟩
  · rw [h]
    exact ⟨_, _, rfl⟩

end Cache

/-! ## Runs -/

section Runs

variable {σ : Type} [FileAccess (StateM σ)] {u v : Session} {s s₁ : σ}

theorem Session.result_load {input : Path} {text : String} {loaded : Loaded}
    {later : Cache}
    (hread : (FileAccess.readText input : StateM σ _).run s = (.ok text, s₁))
    (hload : u.cache.load text = .ok (loaded, later)) :
    (Session.load input).result u s =
      ((.ok loaded, { u with cache := later }), s₁) := by
  unfold Session.load
  rw [Task.result_bind_ok (Task.result_ask hread),
    Task.result_bind_ok (Task.result_settle rfl _),
    Task.result_bind_ok Task.result_get,
    Task.result_bind_ok (Task.result_settle hload _)]
  rfl

/-- Names that are given and an input that can be read and parsed are all that a
listing needs. -/
theorem Session.result_graph {input : Path} {names : List String}
    (hnames : names ≠ []) {text : String} {loaded : Loaded} {later : Cache}
    (hread : (FileAccess.readText input : StateM σ _).run s = (.ok text, s₁))
    (hload : u.cache.load text = .ok (loaded, later)) (depth : Nat) :
    let c := Criteria.ofNames names
    let grown := c.expand loaded.graph
      (c.select loaded.document u.config.defaults.listLimit).1 depth
    ∃ v, (Session.graph input names depth).result u s =
        ((.ok (Session.listing loaded.document grown.selection), v), s₁) ∧
      v.cache = later.update loaded.digest grown.graph := by
  intro c grown
  unfold Session.graph
  rw [Task.result_bind_ok
      (Task.result_settle (Criteria.ofTexts_ofNames hnames) _),
    Task.result_bind_ok (Session.result_load hread hload)]
  exact ⟨_, rfl, rfl⟩

variable [LawfulFiles σ]

/-- A report that was asked for is there in the end, as it was drafted. -/
theorem report_of_extract {r : Request} {path : Path} {outcome : Outcome}
    (h : (Session.extract r).result u s = ((.ok outcome, v), s₁))
    (hpath : r.report = some path)
    (hstaging : ∀ place, r.stagingPlace? u s = some place →
      (view s).place? (r.outputWith u.config.defaults) ≠ some place) :
    ∃ d u₁ s₂ json place,
      (Session.draft r).result u s = ((.ok d, u₁), s₂) ∧
      d.report = some (path, json) ∧ (view s).place? path = some place ∧
      (view s₁).files place = some (String.toUTF8 json) := by
  unfold Session.extract at h
  obtain ⟨d, u₁, s₂, hdraft, hpublish⟩ := Task.ok_of_bind h
  obtain ⟨_, _, _, _, _, _, -, -, -, -, -, hd⟩ := Session.ok_of_draft hdraft
  have hview := view_of_draft hdraft
  obtain ⟨⟨_, json⟩, hreport, rfl⟩ :=
    Option.map_eq_some_iff.1 (hd.report.trans hpath)
  obtain ⟨-, out, -, hpublished⟩ := published_of_publish
    (fun place hplace => by
      rw [hview, hd.output]
      refine hstaging place ?_
      rw [Request.stagingPlace?, hdraft]
      exact hplace) hpublish
  rw [Draft.Published, hreport] at hpublished
  obtain ⟨place, hplace, hfiles⟩ := hpublished
  rw [hview] at hplace
  exact ⟨d, u₁, s₂, json, place, hdraft, hreport, hplace, by
    rw [hfiles, Holdings.files_put_self]⟩

/-- A listing is a preview of extractions up to what the configuration ignores.
In a session that may have been used before, let the input be read and be a
document, and let some names be given. Then they can be listed up to any depth,
and no file changes. Let an extraction that asks for the same succeed in the
session as the listing found it or as it left it, with a report that does not
wait in the place of the output. The report and the listing say the same,
function by function and level by level, exactly if no function that is listed
is ignored; and in any case what is reported is listed, in the same order and at
no greater level. -/
theorem previews_of_graph {config : Config} {texts : Set String} {input : Path}
    {names : List String} {text : String} {doc : Document}
    (hused : Used σ config texts u)
    (hread : ((FileAccess.readText input : StateM σ _).run s).1 = .ok text)
    (hparse : Document.parse text = .ok doc) (hnames : names ≠ [])
    (depth : Nat) :
    ∃ listing v s₁, (Session.graph input names depth).result u s =
        ((.ok listing, v), s₁) ∧ view s₁ = view s ∧
      ∀ (r : Request) (path : Path) (u' : Session) (s₂ : σ) (outcome : Outcome)
          (w : Session) (s' : σ),
        r.AsksFor input names depth → r.report = some path →
        u' = u ∨ u' = v →
        ((FileAccess.readText input : StateM σ _).run s₂).1 = .ok text →
        (∀ place, r.stagingPlace? u' s₂ = some place →
          (view s₂).place? (r.outputWith config.defaults) ≠ some place) →
        (Session.extract r).result u' s₂ = ((.ok outcome, w), s') →
        ∃ (c : Criteria) (place : Location) (report : Report) (json : String),
          r.criteriaWith config.defaults = .ok c ∧
          (view s₂).place? path = some place ∧
          (view s').files place = some json.toUTF8 ∧
          Report.read? json = some report ∧ report.text? = some json ∧
          Listing.Previews (Listing.headings listing)
            (report.functions.map fun e => (e.name, e.depth)) c.ignores := by
  have hu : u.Sound config (insert text texts) :=
    hused.sound (Set.subset_insert text texts)
  obtain ⟨loaded, later, hload⟩ := Cache.exists_load hparse u.cache
  obtain ⟨v, hgraph, hcache⟩ := Session.result_graph hnames
    (show (FileAccess.readText input : StateM σ _).run s = (.ok text, _) from
      Prod.ext hread rfl) hload depth
  have hv : v.Sound config (insert text texts) := by
    have hkept := hu.graph depth fun other (hother : GraphLoads input names s
      other) => .inl (Except.ok.inj (hother.2.symm.trans hread))
    rwa [hgraph] at hkept
  refine ⟨_, v, _, hgraph, LawfulFiles.readText input s, ?_⟩
  intro r path u' s₂ outcome w s' hasks hpath hsession hread₂ hstaging hextract
  have hu' : u'.Sound config (insert text texts) := by
    rcases hsession with rfl | rfl
    · exact hu
    · exact hv
  rw [← hu'.config] at hstaging
  obtain ⟨d, _, _, json, place, hdraft, hreport, hplace, hfile⟩ :=
    report_of_extract hextract hpath hstaging
  obtain ⟨depth', c, text', loaded', later', direct, hdepth, hcriteria, hread',
    hload', rfl, hd⟩ := Session.ok_of_draft hdraft
  rw [hu'.config] at hdepth hcriteria hd
  rw [Request.depthWith, hasks.depth] at hdepth
  cases hdepth
  rw [hasks.input, hread₂] at hread'
  cases hread'
  obtain ⟨-, hread₀, -⟩ := hu.cache.load (Set.mem_insert text texts) hload
  obtain ⟨-, hread₁, -⟩ := hu'.cache.load (Set.mem_insert text texts) hload'
  -- The extraction finds the document that was listed.
  have hdocument : loaded'.document = loaded.document := by
    rcases hsession with rfl | rfl
    · rw [hload] at hload'
      cases hload'
      rfl
    · rw [hcache] at hload'
      exact Cache.document_of_load_again hload
        (faithful_rounds _ depth 0 hread₀.faithful _).2 hload'
  obtain ⟨origin, -, -, horigin⟩ := hread₀.text
  have hnodup := Document.names_nodup horigin
  obtain ⟨time, hjson⟩ := hd.json path json hreport
  refine ⟨c, place, _, json, hcriteria, hplace, hfile,
    Report.read?_of_text? hjson, hjson, ?_⟩
  change Listing.Previews _ ((Report.entries loaded'.document _).map _) _
  rw [hdocument, hu.config]
  exact (hasks.unrestricted hcriteria loaded.document _).previews horigin
    (layered_expand hnodup _ _ hread₀.faithful rfl depth)
    (layered_expand hnodup c _ hread₁.faithful hdocument depth)

end Runs

/-! ## A listing that shows too much -/

/-- Every extraction ignores what starts with `b`. -/
def ignoringConfig : Config where
  defaults := { ignorePatterns := ["^b"] }

theorem previews_of_graph_ignoring :
    let u := Session.ofConfig ignoringConfig
    let s := diskWith chainText
    let run := (Session.extract reportRequest).result u s
    ∃ (listing json : String) (report : Report),
      ((Session.graph (.ofString "in.ll") ["a"] 1).result u s).1.1 =
        .ok listing ∧
      Listing.headings listing = [("a", 0), ("b", 1)] ∧
      (view run.2).files (.named "out.json") = some json.toUTF8 ∧
      Report.read? json = some report ∧ report.text? = some json ∧
      (report.functions.map Report.Entry.name).Sublist ["a", "b"] ∧
      Listing.headings listing ≠
        report.functions.map fun e => (e.name, e.depth) := by
  intro u s run
  have hread : ((FileAccess.readText (.ofString "in.ll") :
      StateM Disk _).run s).1 = .ok chainText :=
    ok_of_toOption (by decide +kernel)
  have hparse : (Document.parse chainText).toOption.isSome = true := by
    decide +kernel
  have hlevels : (Cache.empty.load chainText).toOption.map (fun found =>
      found.1.document.names.filterMap fun name =>
        (((Criteria.ofNames ["a"]).expand found.1.graph
          ((Criteria.ofNames ["a"]).select found.1.document 10).1
          1).selection.depth? name).map (name, ·)) =
      some [("a", 0), ("b", 1)] := by
    decide +kernel
  have hrun : run.1.1.toOption = some ⟨1, .ofString "out.ll", ⟨2, 1, 0, 0⟩⟩ ∧
      reportRequest.stagingPlace? u s ≠
        (view s).place? (.ofString "out.ll") ∧
      (view s).place? (.ofString "out.json") = some (.named "out.json") := by
    decide +kernel
  have hignored : (reportRequest.criteriaWith
      ignoringConfig.defaults).toOption.map (·.ignores "b") = some true := by
    decide +kernel
  obtain ⟨doc, hdoc⟩ := Option.isSome_iff_exists.1 hparse
  obtain ⟨listing, v, s₁, hgraph, -, hpreview⟩ :=
    previews_of_graph (@Used.new Disk _ ignoringConfig) hread
      (ok_of_toOption hdoc) (List.cons_ne_nil "a" []) 1
  obtain ⟨c, place, report, json, hcriteria, hplace, hfile, hback, hjson,
      hsame⟩ :=
    hpreview reportRequest (.ofString "out.json") u s _ run.1.2 run.2
      ⟨rfl, rfl, rfl, rfl, rfl, rfl⟩ rfl (.inl rfl) hread
      (fun place hplace hout => hrun.2.1 (hplace.trans hout.symm))
      (Prod.ext (Prod.ext (ok_of_toOption hrun.1) rfl) rfl)
  have hheadings : Listing.headings listing = [("a", 0), ("b", 1)] := by
    obtain ⟨loaded, later, hload⟩ :=
      Cache.exists_load (ok_of_toOption hdoc) Cache.empty
    obtain ⟨v', hlisting, -⟩ := Session.result_graph (u := u)
      (List.cons_ne_nil "a" []) (Prod.ext hread rfl) hload 1
    rw [hgraph] at hlisting
    cases hlisting
    obtain ⟨-, hfrom, -⟩ := (Cache.sound_empty {chainText}).load rfl hload
    obtain ⟨origin, -, -, horigin⟩ := hfrom.text
    change Document.parse origin = .ok loaded.document at horigin
    rw [hload] at hlevels
    rw [Listing.headings_listing horigin,
      Report.map_entries_eq_filterMap (Document.names_nodup horigin)]
    exact Option.some.inj hlevels
  rw [hrun.2.2] at hplace
  cases hplace
  refine ⟨listing, json, report, by rw [hgraph], hheadings, hfile, hback, hjson,
    ?_, fun heq => ?_⟩
  · have horder := hsame.order
    rw [hheadings, List.map_map] at horder
    exact horder
  · have hkept := hsame.same.1 heq ("b", 1) (by rw [hheadings]; simp)
    rw [hcriteria] at hignored
    exact Bool.false_ne_true (hkept.symm.trans (Option.some.inj hignored))

end IrExcerpt
