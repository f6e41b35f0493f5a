import IrExcerpt.Proofs.Preview
import IrExcerpt.Proofs.SelectedSet

/-!
# A listing shows the layers of the search

A listing gives every function a level and prints an arrow for each of its
calls. The levels come from the search, which asks the call graph for sets of
callees; the arrows come from scanning the lines of the function once more. So
whether the arrows bear the levels out is a question about two scans, and about
the text that both end up in.

The text is read back first. A heading opens an entry and the arrows behind it
belong to the entry; an arrow is read from its end, because a name may hold
anything but a line feed, also what looks like the rest of an arrow. What is read
is what was printed (`entries_listing`). Then the entries are compared with the
distances of the search, for which the two scans agree on who calls whom.
-/

namespace IrExcerpt

/-! ## The lines of call sites -/

namespace CallSite

theorem line_of_inLines {n : Nat} {body : List String} {site : CallSite}
    (h : site ∈ inLines n body) :
    n ≤ site.line ∧ site.line < n + body.length := by
  induction body generalizing n with
  | nil => cases h
  | cons line body ih =>
      rw [List.length_cons]
      rcases List.mem_append.1 h with h | h
      · obtain ⟨call, -, rfl⟩ := List.mem_map.1 h
        exact ⟨Nat.le_refl n, Nat.lt_add_of_pos_right (Nat.succ_pos _)⟩
      · obtain ⟨hfirst, hlast⟩ := ih h
        omega

/-- Call sites come line by line. -/
theorem pairwise_line_inLines (n : Nat) (body : List String) :
    (inLines n body).Pairwise fun a b => a.line ≤ b.line := by
  induction body generalizing n with
  | nil => exact List.Pairwise.nil
  | cons line body ih =>
      refine List.pairwise_append.2 ⟨?_, ih (n + 1), fun a ha b hb => ?_⟩
      · exact List.pairwise_map.2 (List.pairwise_of_forall fun _ _ => Nat.le_refl n)
      · obtain ⟨call, -, rfl⟩ := List.mem_map.1 ha
        have hline := (line_of_inLines hb).1
        exact Nat.le_of_succ_le hline

theorem line_of_ofDefinition {text : String} {doc : Document}
    (h : Document.parse text = .ok doc) {d : Definition}
    (hd : d ∈ doc.definitions) {site : CallSite}
    (hsite : site ∈ ofDefinition doc d) :
    d.range.first ≤ site.line ∧ site.line ≤ d.range.last := by
  obtain ⟨-, hrange, -⟩ := Document.within_of_mem_definitions h hd
  obtain ⟨hfirst, hlast⟩ := line_of_inLines hsite
  have hlength : (doc.body d).length ≤ d.range.last + 1 - d.range.first :=
    List.length_take_le _ _
  exact ⟨hfirst, by omega⟩

end CallSite

/-! ## Reading entries -/

namespace Listing

/-- An arrow of a listing. -/
structure Arrow where
  callee : String
  line : Nat
  kind : CallKind
  /-- Whether it is marked as external. -/
  external : Bool
deriving DecidableEq, Repr

/-- A function of a listing, with the arrows under it. -/
structure Entry where
  name : String
  level : Nat
  arrows : List Arrow
deriving DecidableEq, Repr

/-- Whether a line that is given from its end is marked, and the rest of it. -/
def mark : List Char → Bool × List Char
  | ']' :: 'l' :: 'a' :: 'n' :: 'r' :: 'e' :: 't' :: 'x' :: 'e' :: '[' :: ' ' :: rest => (true, rest)
  | rest => (false, rest)

/-- The kind of call that a line ends in, given from its end. -/
def kind? : List Char → Option (CallKind × List Char)
  | ')' :: 'l' :: 'l' :: 'a' :: 'C' :: ' ' :: ',' :: rest => some (.call, rest)
  | ')' :: 'e' :: 'k' :: 'o' :: 'v' :: 'n' :: 'I' :: ' ' :: ',' :: rest => some (.invoke, rest)
  | _ => none

/-- The callee and the line number of an arrow, given from its end. -/
def target? (cs : List Char) : Option (String × Nat) :=
  match cs.dropWhile Char.isDigit with
  | ' ' :: 'e' :: 'n' :: 'i' :: 'l' :: '(' :: ' ' :: callee =>
    some (String.ofList callee.reverse, Nat.ofDigitChars 10 (cs.takeWhile Char.isDigit).reverse 0)
  | _ => none

/-- The arrow that a line shows. -/
def arrow? : List Char → Option Arrow
  | ' ' :: ' ' :: ' ' :: ' ' :: '-' :: '>' :: ' ' :: cs => do
    let (external, rest) := mark cs.reverse
    let (kind, rest) ← kind? rest
    let (callee, line) ← target? rest
    return ⟨callee, line, kind, external⟩
  | _ => none

/-- The arrows in front of the first heading, and the entries from there on. -/
def gather : List (List Char) → List Arrow × List Entry
  | [] => ([], [])
  | line :: rest =>
    let (arrows, entries) := gather rest
    match heading? line with
    | some (name, level) => ([], ⟨name, level, arrows⟩ :: entries)
    | none => ((arrow? line).toList ++ arrows, entries)

/-- What a text of headings and arrows says. -/
def read (text : String) : List Arrow × List Entry :=
  gather (text.toList.splitOn '\n')

/-- The functions of a listing, with the arrows under them. -/
def entries (listing : String) : List Entry := (read listing).2

/-! ## What is read is what was printed -/

theorem read_line {line : String} (h : '\n' ∉ line.toList) (rest : String) :
    read (line ++ "\n" ++ rest) =
      match heading? line.toList with
      | some (name, level) => ([], ⟨name, level, (read rest).1⟩ :: (read rest).2)
      | none => ((arrow? line.toList).toList ++ (read rest).1, (read rest).2) := by
  have hsplit : (line ++ "\n" ++ rest).toList.splitOn '\n' =
      line.toList :: rest.toList.splitOn '\n' := by
    rw [String.toList_append, String.toList_append, List.append_assoc]
    exact List.splitOn_append_cons_self_of_not_mem h _
  rw [read, hsplit]
  rfl

/-- The arrow for a call site. -/
def Arrow.ofSite (doc : Document) (site : CallSite) : Arrow :=
  ⟨site.callee, site.line, site.kind, !doc.contains site.callee⟩

theorem target?_eq (callee : String) (line : Nat) :
    target? ((Nat.toDigits 10 line).reverse ++
      ' ' :: 'e' :: 'n' :: 'i' :: 'l' :: '(' :: ' ' :: callee.toList.reverse) =
      some (callee, line) := by
  have hdigits : ∀ c ∈ (Nat.toDigits 10 line).reverse, c.isDigit = true :=
    fun c hc => isDigit_of_mem_toDigits (List.mem_reverse.1 hc)
  rw [target?, List.dropWhile_append_of_pos hdigits,
    List.takeWhile_append_of_pos hdigits]
  simp [Nat.ofDigitChars_ten_toDigits]

theorem arrow?_siteText (doc : Document) (site : CallSite) :
    arrow? (siteText doc site).toList = some (.ofSite doc site) := by
  unfold siteText Arrow.ofSite
  cases site.kind <;> cases doc.contains site.callee <;>
    simp [arrow?, mark, kind?, CallKind.label, target?_eq]

theorem read_join_siteLine {doc : Document} {sites : List CallSite}
    (h : ∀ site ∈ sites, '\n' ∉ site.callee.toList) (rest : String) :
    read (String.join (sites.map (Session.siteLine doc)) ++ rest) =
      (sites.map (.ofSite doc) ++ (read rest).1, (read rest).2) := by
  induction sites with
  | nil => simp
  | cons site sites ih =>
      have hline : Session.siteLine doc site = siteText doc site ++ "\n" := rfl
      have hrest := ih fun site' hsite' => h site' (List.mem_cons_of_mem _ hsite')
      rw [List.map_cons, String.join_cons, String.append_assoc, hline,
        read_line (newline_not_mem_siteText (h site List.mem_cons_self)),
        heading?_siteText, arrow?_siteText, hrest]
      rfl

variable {text : String} {doc : Document}

/-- The entry of a definition, if it is selected. -/
def Entry.ofDefinition? (doc : Document) (s : Selection) (d : Definition) :
    Option Entry :=
  (s.depth? d.name).map fun level =>
    ⟨d.name, level, (CallSite.ofDefinition doc d).map (.ofSite doc)⟩

theorem read_functionLines (h : Document.parse text = .ok doc) (s : Selection)
    {d : Definition} (hd : d ∈ doc.definitions) {rest : String}
    (hrest : (read rest).1 = []) :
    read (Session.functionLines doc s d.name ++ rest) =
      ([], (Entry.ofDefinition? doc s d).toList ++ (read rest).2) := by
  have hname : d.name ∈ doc.names := by
    rw [Document.names_eq]
    exact List.mem_map_of_mem hd
  unfold Session.functionLines Entry.ofDefinition?
  rw [Document.find?_of_mem (Document.names_nodup h) hd]
  cases s.depth? d.name with
  | none => exact (congrArg read String.empty_append).trans (Prod.ext hrest rfl)
  | some level =>
      have hline : '\n' ∉ ("[" ++ toString level ++ "] " ++ d.name).toList := by
        simp only [String.toList_append, List.mem_append, not_or]
        exact ⟨⟨⟨by decide, newline_not_mem_toString level⟩, by decide⟩,
          Document.newline_not_mem_name h hname⟩
      simp only []
      rw [String.append_assoc, read_line hline, heading?_level,
        read_join_siteLine fun _ => Document.newline_not_mem_callee h, hrest,
        List.append_nil]
      rfl

/-- A listing says of each selected definition its level and its calls, and says
nothing else. -/
theorem entries_listing (h : Document.parse text = .ok doc) (s : Selection) :
    entries (Session.listing doc s) =
      doc.definitions.filterMap (Entry.ofDefinition? doc s) := by
  have hrun : ∀ ds : List Definition, ds ⊆ doc.definitions →
      read (String.join (((ds.map Definition.name).filter s.contains).map
        (Session.functionLines doc s))) =
      ([], ds.filterMap (Entry.ofDefinition? doc s)) := by
    intro ds hds
    induction ds with
    | nil => rfl
    | cons d ds ih =>
        obtain ⟨hd, hds⟩ := List.cons_subset.1 hds
        have hrest := ih hds
        rw [List.map_cons, List.filter_cons, List.filterMap_cons]
        cases hlevel : s.depth? d.name with
        | none =>
            have hout : s.contains d.name = false := by
              rw [Selection.contains, hlevel]
              rfl
            rw [hout, if_neg Bool.false_ne_true, Entry.ofDefinition?, hlevel]
            exact hrest
        | some level =>
            have hin : s.contains d.name = true :=
              Selection.contains_iff_depth?.2 ⟨level, hlevel⟩
            rw [hin, if_pos rfl, List.map_cons, String.join_cons,
              read_functionLines h s hd (by rw [hrest]), hrest,
              Entry.ofDefinition?, hlevel]
            rfl
  rw [entries, Session.listing,
    Document.inDocumentOrder_eq (Document.names_nodup h), Document.names_eq,
    hrun doc.definitions (List.Subset.refl _)]

/-- A definition and the level that it is listed at. -/
theorem mem_entries {s : Selection} {e : Entry} :
    e ∈ doc.definitions.filterMap (Entry.ofDefinition? doc s) ↔
      ∃ d ∈ doc.definitions, s.depth? d.name = some e.level ∧
        e.name = d.name ∧
        e.arrows = (CallSite.ofDefinition doc d).map (.ofSite doc) := by
  rw [List.mem_filterMap]
  refine exists_congr fun d => and_congr_right fun _ => ?_
  rw [Entry.ofDefinition?, Option.map_eq_some_iff]
  constructor
  · rintro ⟨level, hlevel, rfl⟩
    exact ⟨hlevel, rfl, rfl⟩
  · rintro ⟨hlevel, hname, harrows⟩
    exact ⟨e.level, hlevel, by rw [← hname, ← harrows]⟩

/-- What entries say when they show the layers of a search from `names` up to
`depth`. -/
structure Layers (doc : Document) (names : List String) (depth : Nat)
    (es : List Entry) : Prop where
  /-- The functions come in document order. -/
  order : (es.map Entry.name).Sublist doc.names
  once : (es.map Entry.name).Nodup
  start : ∀ f, (∃ e ∈ es, e.name = f ∧ e.level = 0) ↔
    f ∈ names ∧ doc.contains f = true
  called : ∀ e ∈ es, 0 < e.level → ∃ e' ∈ es, e'.level + 1 = e.level ∧
    ∃ a ∈ e'.arrows, a.callee = e.name
  nearest : ∀ e ∈ es, ∀ e' ∈ es, e'.level + 1 < e.level →
    ∀ a ∈ e'.arrows, a.callee ≠ e.name
  followed : ∀ e ∈ es, e.level < depth → ∀ a ∈ e.arrows, a.external = false →
    ∃ e' ∈ es, e'.name = a.callee ∧ e'.level ≤ e.level + 1
  marked : ∀ e ∈ es, ∀ a ∈ e.arrows,
    a.external = true ↔ doc.contains a.callee = false
  /-- The arrows are the calls of the definition, by line. -/
  lines : ∀ e ∈ es, ∃ d ∈ doc.definitions, d.name = e.name ∧
    e.arrows.map (fun a => CallSite.mk a.callee a.line a.kind) =
      CallSite.ofDefinition doc d ∧
    (∀ a ∈ e.arrows, d.range.first ≤ a.line ∧ a.line ≤ d.range.last) ∧
    e.arrows.Pairwise fun a b => a.line ≤ b.line

theorem map_name_entries (doc : Document) (s : Selection) :
    (doc.definitions.filterMap (Entry.ofDefinition? doc s)).map Entry.name =
      doc.names.filter s.contains := by
  rw [Document.names_eq]
  induction doc.definitions with
  | nil => rfl
  | cons d ds ih =>
      rw [List.filterMap_cons, List.map_cons, List.filter_cons, ← ih,
        Selection.contains, Entry.ofDefinition?]
      cases s.depth? d.name <;> rfl

theorem depth?_of_mem_entries {s : Selection} {e : Entry}
    (h : e ∈ doc.definitions.filterMap (Entry.ofDefinition? doc s)) :
    s.depth? e.name = some e.level := by
  obtain ⟨d, -, hdepth, hname, -⟩ := mem_entries.1 h
  rw [hname, hdepth]

/-- The arrows under a function point to the functions that it calls. -/
theorem exists_arrow_iff (hnodup : doc.names.Nodup) {s : Selection} {e : Entry}
    (h : e ∈ doc.definitions.filterMap (Entry.ofDefinition? doc s))
    {g : String} : (∃ a ∈ e.arrows, a.callee = g) ↔ doc.Calls e.name g := by
  obtain ⟨d, hd, -, hname, harrows⟩ := mem_entries.1 h
  rw [harrows, hname]
  constructor
  · rintro ⟨a, ha, rfl⟩
    obtain ⟨site, hsite, rfl⟩ := List.mem_map.1 ha
    exact ⟨d, hd, rfl, site, hsite, rfl⟩
  · rintro ⟨d', hd', hsame, site, hsite, rfl⟩
    have hfound := Document.find?_of_mem hnodup hd'
    rw [hsame, Document.find?_of_mem hnodup hd] at hfound
    cases hfound
    exact ⟨_, List.mem_map_of_mem hsite, rfl⟩

theorem external_of_mem_arrows {s : Selection} {e : Entry} {a : Arrow}
    (h : e ∈ doc.definitions.filterMap (Entry.ofDefinition? doc s))
    (ha : a ∈ e.arrows) : a.external = !doc.contains a.callee := by
  obtain ⟨d, -, -, -, harrows⟩ := mem_entries.1 h
  rw [harrows] at ha
  obtain ⟨site, -, rfl⟩ := List.mem_map.1 ha
  rfl

/-- The levels of a listing are the layers of the search, as far as arrows can
show. -/
theorem Layers.of_layered (h : Document.parse text = .ok doc) {c : Criteria}
    {start : String → Prop} {names : List String} {depth : Nat} {s : Selection}
    (hkept : ∀ g, c.ignores g = false)
    (hstart : ∀ f, start f ↔ f ∈ names ∧ doc.contains f = true)
    (hs : Layered c doc start depth s) :
    Layers doc names depth (entries (Session.listing doc s)) := by
  have hnodup := Document.names_nodup h
  rw [entries_listing h]
  -- A function is listed at its distance from the names.
  have hlisted : ∀ {g n}, n ≤ depth → AtDistance c doc start n g →
      ∃ e ∈ doc.definitions.filterMap (Entry.ofDefinition? doc s),
        e.name = g ∧ e.level = n := by
    intro g n hn hg
    have hdef := hg.admits.1
    rw [Document.contains_iff, Document.names_eq] at hdef
    obtain ⟨d, hd, rfl⟩ := List.mem_map.1 hdef
    exact ⟨⟨d.name, n, _⟩, mem_entries.2
      ⟨d, hd, (hs.depths d.name n).2 ⟨hn, hg⟩, rfl, rfl⟩, rfl, rfl⟩
  have hlevel : ∀ {e}, e ∈ doc.definitions.filterMap
      (Entry.ofDefinition? doc s) → e.level ≤ depth ∧
        AtDistance c doc start e.level e.name := fun he =>
    (hs.depths _ _).1 (depth?_of_mem_entries he)
  constructor
  case order =>
    rw [map_name_entries]
    exact List.filter_sublist
  case once =>
    rw [map_name_entries]
    exact hnodup.filter _
  case start =>
    intro f
    have hzero : AtDistance c doc start 0 f ↔
        f ∈ names ∧ doc.contains f = true := by
      rw [atDistance_zero, hstart, Criteria.Admits]
      simp [hkept]
    rw [← hzero]
    constructor
    · rintro ⟨e, he, rfl, hlevel₀⟩
      rw [← hlevel₀]
      exact (hlevel he).2
    · exact hlisted (Nat.zero_le depth)
  case called =>
    intro e he hpos
    obtain ⟨k, hk⟩ : ∃ k, e.level = k + 1 := ⟨e.level - 1, by omega⟩
    obtain ⟨hle, hdist⟩ := hlevel he
    rw [hk] at hle hdist
    obtain ⟨⟨g, hg, hcall⟩, -, -⟩ := atDistance_succ.1 hdist
    obtain ⟨e', he', rfl, rfl⟩ := hlisted (Nat.le_of_succ_le hle) hg
    exact ⟨e', he', hk.symm, (exists_arrow_iff hnodup he').2 hcall⟩
  case nearest =>
    intro e he e' he' hlt a ha heq
    have hcall := (exists_arrow_iff hnodup he').1 ⟨a, ha, heq⟩
    have hdist := (hlevel he).2
    have hthrough : Reached c doc start (e'.level + 1) e.name :=
      reached_succ.2 ⟨⟨_, (hlevel he').2.1, hcall⟩, hdist.admits⟩
    have hle := hdist.2 hthrough
    omega
  case followed =>
    intro e he hlt a ha hin
    have hdef : doc.contains a.callee = true := by
      rw [external_of_mem_arrows he ha] at hin
      simpa using hin
    have hcall := (exists_arrow_iff hnodup he).1 ⟨a, ha, rfl⟩
    have hthrough : Reached c doc start (e.level + 1) a.callee :=
      reached_succ.2 ⟨⟨_, (hlevel he).2.1, hcall⟩, hdef, hkept _⟩
    obtain ⟨n, hn, hdist⟩ := exists_atDistance hthrough
    obtain ⟨e', he', hname, rfl⟩ := hlisted (by omega) hdist
    exact ⟨e', he', hname, hn⟩
  case marked =>
    intro e he a ha
    rw [external_of_mem_arrows he ha]
    simp
  case lines =>
    intro e he
    obtain ⟨d, hd, -, hname, harrows⟩ := mem_entries.1 he
    refine ⟨d, hd, hname.symm, ?_, fun a ha => ?_, ?_⟩
    · rw [harrows, List.map_map]
      exact List.map_id _
    · rw [harrows] at ha
      obtain ⟨site, hsite, rfl⟩ := List.mem_map.1 ha
      exact CallSite.line_of_ofDefinition h hd hsite
    · rw [harrows]
      exact List.pairwise_map.2 (CallSite.pairwise_line_inLines _ _)

end Listing

/-! ## Listings of a session -/

theorem Criteria.contains_select_ofNames {names : List String} {doc : Document}
    {limit : Nat} {f : String} :
    ((ofNames names).select doc limit).1.contains f = true ↔
      f ∈ names ∧ doc.contains f = true := by
  rw [contains_select_iff]
  simp [ofNames, PatternSet.empty, ignores, PatternSet.isMatch,
    mem_firstOccurrences, and_comm]

variable {σ : Type} [FileAccess (StateM σ)]

/-- A listing shows the layers of a breadth-first search. In a session that may
have been used before, let the input be read and be a document, let no other text
with its digest have been loaded, and let some names be given. Then they can be
listed up to any depth, and the text of the listing shows the layers of the
search: each function once, at its level, with its calls as arrows. -/
theorem graph_layers {config : Config} {texts : Set String} {u : Session}
    {s : σ} {input : Path} {names : List String} {text : String}
    {doc : Document} (hused : Used σ config texts u)
    (hread : ((FileAccess.readText input : StateM σ _).run s).1 = .ok text)
    (hparse : Document.parse text = .ok doc)
    (hdigest : ∀ other ∈ texts,
      Digest.sha256 other = Digest.sha256 text → other = text)
    (hnames : names ≠ []) (depth : Nat) :
    ∃ listing, ((Session.graph input names depth).result u s).1.1 =
        .ok listing ∧
      Listing.Layers doc names depth (Listing.entries listing) := by
  have hu : u.Sound config (insert text texts) :=
    hused.sound (Set.subset_insert text texts)
  obtain ⟨loaded, later, hload⟩ := Cache.exists_load hparse u.cache
  obtain ⟨v, hgraph, -⟩ := Session.result_graph hnames
    (show (FileAccess.readText input : StateM σ _).run s = (.ok text, _) from
      Prod.ext hread rfl) hload depth
  refine ⟨_, by rw [hgraph], ?_⟩
  obtain ⟨-, hfrom, -⟩ := hu.cache.load (Set.mem_insert text texts) hload
  have hdoc : loaded.document = doc := by
    have hown : ∀ other ∈ insert text texts,
        Digest.sha256 other = Digest.sha256 text → other = text := by
      rintro other (rfl | hother) hequal
      · rfl
      · exact hdigest other hother hequal
    have hsame := hu.cache.load_eq_parse hown
    rw [hload, hparse] at hsame
    exact Except.ok.inj hsame
  have hgrown := layered_expand (Document.names_nodup hparse)
    (Criteria.ofNames names) u.config.defaults.listLimit hfrom.faithful hdoc
    depth
  rw [hdoc]
  exact .of_layered hparse (fun _ => rfl)
    (fun _ => Criteria.contains_select_ofNames) hgrown

theorem graph_layers_sample :
    let u := ((Session.graph (.ofString "in.ll") ["a"] 1).result
      (.ofConfig .default) (diskWith plainText)).1.2
    ∃ doc listing, Document.parse chainText = .ok doc ∧
      ((Session.graph (.ofString "in.ll") ["x", "a"] 1).result u
        (diskWith chainText)).1.1 = .ok listing ∧
      Listing.Layers doc ["x", "a"] 1 (Listing.entries listing) ∧
      ∃ e ∈ Listing.entries listing, e.name = "a" ∧ e.level = 0 := by
  intro u
  have hparse : (Document.parse chainText).toOption.map
      (fun doc => doc.contains "a") = some true := by
    decide +kernel
  obtain ⟨doc, hdoc, hdef⟩ := Option.map_eq_some_iff.1 hparse
  have hread : ((FileAccess.readText (.ofString "in.ll") :
      StateM Disk _).run (diskWith chainText)).1 = .ok chainText :=
    ok_of_toOption (by decide +kernel)
  have hbefore : ((FileAccess.readText (.ofString "in.ll") :
      StateM Disk _).run (diskWith plainText)).1 = .ok plainText :=
    ok_of_toOption (by decide +kernel)
  have hdiffer : Digest.sha256 plainText ≠ Digest.sha256 chainText := by
    decide +kernel
  obtain ⟨listing, hlisting, hlayers⟩ := graph_layers
    (Used.new.graph (.ofString "in.ll") ["a"] 1 (diskWith plainText)) hread
    (ok_of_toOption hdoc) (by
      rintro other (hnone | ⟨-, hother⟩) hsame
      · cases hnone
      · rw [hbefore] at hother
        cases hother
        exact absurd hsame hdiffer)
    (List.cons_ne_nil "x" ["a"]) 1
  exact ⟨doc, listing, ok_of_toOption hdoc, hlisting, hlayers,
    (hlayers.start "a").2 ⟨by simp, hdef⟩⟩

end IrExcerpt
