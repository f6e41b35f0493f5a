import IrExcerpt.Failure
import IrExcerpt.Proofs.Lockstep
import IrExcerpt.Proofs.Preview
import IrExcerpt.Proofs.TextBytes
import IrExcerpt.Storage.Disk
import Mathlib.Data.Finset.Card

/-!
# A cache and its history

A cache is asked for documents, and the documents that it hands out are asked
for callees. Whoever holds a document shares it with everybody who was given
the same text, so an answer through one of them leaves its trace in all.

What a cache answers can be told from what it has been asked, without the
cache: the texts that were loaded, and the questions that were put about them.
`History` is that much and no more. A cache keeps one graph for each text of its
history, and that graph remembers the callees of those names that are defined
and were asked for. Each operation preserves this (`Records.serve`), so it holds
after any sequence of them, and all answers follow.
-/

namespace IrExcerpt

/-! ## What a graph remembers -/

/-- Something is found under a key that stands in the table. -/
theorem isSome_lookup_iff {β : Type} {key : String} {table : List (String × β)} :
    (table.lookup key).isSome ↔ key ∈ table.map Prod.fst := by
  simp [List.lookup_isSome_iff]

theorem Document.find?_isSome_iff {doc : Document} {name : String} :
    (doc.find? name).isSome ↔ doc.contains name = true := by
  rw [Document.contains_iff, Document.names, ← isSome_lookup_iff,
    ← Document.find?_body, Option.isSome_map]

namespace CallGraph

/-- The graph remembers the callees of the defined names among `asked`, each
once. -/
structure Remembers (graph : CallGraph) (asked : String → Prop) : Prop where
  distinct : (graph.known.map Prod.fst).Nodup
  names : ∀ name, name ∈ graph.known.map Prod.fst ↔
    graph.document.contains name = true ∧ asked name

theorem remembers_ofDocument (doc : Document) :
    (ofDocument doc).Remembers fun _ => False where
  distinct := List.nodup_nil
  names := by simp [ofDocument]

theorem Remembers.congr {graph : CallGraph} {asked asked' : String → Prop}
    (h : graph.Remembers asked) (hasked : ∀ name, asked' name ↔ asked name) :
    graph.Remembers asked' where
  distinct := h.distinct
  names name := by rw [h.names, hasked]

theorem Remembers.callees {graph : CallGraph} {asked : String → Prop}
    (h : graph.Remembers asked) (name : String) :
    (graph.callees name).2.Remembers fun other => asked other ∨ other = name := by
  unfold CallGraph.callees
  split
  · next found hfound =>
      have hknown : name ∈ graph.known.map Prod.fst := by
        rw [← isSome_lookup_iff, hfound]
        rfl
      refine ⟨h.distinct, fun other => ?_⟩
      rw [h.names]
      constructor
      · rintro ⟨hdef, hasked⟩
        exact ⟨hdef, .inl hasked⟩
      · rintro ⟨hdef, hasked | rfl⟩
        · exact ⟨hdef, hasked⟩
        · exact (h.names other).1 hknown
  · next hunknown =>
      have hnew : name ∉ graph.known.map Prod.fst := by
        rw [← isSome_lookup_iff, hunknown]
        exact Bool.false_ne_true
      have hfind := @Document.find?_isSome_iff graph.document name
      split
      · next hnone =>
          rw [hnone] at hfind
          refine ⟨h.distinct, fun other => ?_⟩
          rw [h.names]
          constructor
          · rintro ⟨hdef, hasked⟩
            exact ⟨hdef, .inl hasked⟩
          · rintro ⟨hdef, hasked | rfl⟩
            · exact ⟨hdef, hasked⟩
            · cases hfind.2 hdef
      · next d hd =>
          rw [hd] at hfind
          refine ⟨List.nodup_cons.2 ⟨hnew, h.distinct⟩, fun other => ?_⟩
          show other ∈ name :: graph.known.map Prod.fst ↔ _
          rw [List.mem_cons, h.names]
          constructor
          · rintro (rfl | ⟨hdef, hasked⟩)
            · exact ⟨hfind.1 rfl, .inr rfl⟩
            · exact ⟨hdef, .inl hasked⟩
          · rintro ⟨hdef, hasked | rfl⟩
            · exact .inr ⟨hdef, hasked⟩
            · exact .inl rfl

end CallGraph

namespace Cache

/-! ## What a cache keeps -/

/-- The digests under which graphs are kept. -/
def keys (c : Cache) : List String := c.graphs.map Prod.fst

theorem graph?_isSome_iff {c : Cache} {digest : String} :
    (c.graph? digest).isSome ↔ digest ∈ c.keys :=
  isSome_lookup_iff

@[simp] theorem keys_update (c : Cache) (digest : String) (graph : CallGraph) :
    (c.update digest graph).keys = c.keys := by
  rw [keys, keys, update, List.map_map]
  refine List.map_congr_left fun entry _ => ?_
  simp only [Function.comp_apply]
  split <;> rfl

theorem graph?_update_of_ne {c : Cache} {digest other : String}
    (h : other ≠ digest) (graph : CallGraph) :
    (c.update digest graph).graph? other = c.graph? other := by
  obtain ⟨entries⟩ := c
  simp only [graph?, update]
  induction entries with
  | nil => rfl
  | cons entry rest ih =>
      obtain ⟨key, kept⟩ := entry
      rw [List.map_cons, List.lookup_cons, List.lookup_cons, ih]
      by_cases hkey : key = digest
      · have hbeq : (other == key) = false := beq_eq_false_iff_ne.2 (hkey ▸ h)
        rw [if_pos (beq_iff_eq.2 hkey), hbeq]
      · rw [if_neg (by simpa using hkey)]

/-! ## Operations and histories -/

/-- What can be asked of a cache and of the documents that it hands out. A
document is called by its place among all that were handed out. A file is read
from the disk as it is at that time. -/
inductive Operation where
  | loadText (text : String)
  | load (disk : Disk) (input : Path)
  | callees (handle : Nat) (name : String)

/-- The text that an operation loads, if it loads one. -/
def Operation.text? : Operation → Option String
  | .loadText text => some text
  | .load disk input => (disk.readText input).toOption
  | .callees _ _ => none

/-- What is answered. -/
inductive Answer where
  | loaded (loaded : Loaded)
  | failed (failure : Failure)
  | callees (names : NameSet)

/-- A cache in use, and the digests of the documents that it has handed out. -/
structure Usage where
  cache : Cache
  handles : List String

namespace Usage

/-- A new cache. -/
def start : Usage := ⟨.empty, []⟩

/-- Loads a text. -/
def serveText (u : Usage) (text : String) : Answer × Usage :=
  match u.cache.load text with
  | .ok (loaded, cache) => (.loaded loaded, ⟨cache, u.handles ++ [loaded.digest]⟩)
  | .error e => (.failed (.parse e), u)

/-- Serves one operation. -/
def serve (u : Usage) : Operation → Answer × Usage
  | .loadText text => u.serveText text
  | .load disk input =>
    match disk.readText input with
    | .ok text => u.serveText text
    | .error e => (.failed (.io e), u)
  | .callees handle name =>
    match u.handles[handle]? with
    | some digest =>
      let (names, cache) := u.cache.callees digest name
      (.callees names, { u with cache })
    | none => (.callees [], u)

/-- A new cache after a sequence of operations. -/
def after (operations : List Operation) : Usage :=
  operations.foldl (fun u op => (u.serve op).2) start

/-- The graph of a document that was handed out, as it is now. -/
def graph? (u : Usage) (handle : Nat) : Option CallGraph :=
  u.handles[handle]?.bind u.cache.graph?

end Usage

/-- What has happened, without the cache: the texts that were loaded, in order,
and the names that were asked for, each with the text it was asked of. -/
structure History where
  texts : List String
  asked : List (String × String)

namespace History

/-- A text that is a document has been loaded. -/
def addText (h : History) (text : String) : History :=
  match Document.parse text with
  | .ok _ => { h with texts := h.texts ++ [text] }
  | .error _ => h

/-- The history with one operation more. -/
def add (h : History) : Operation → History
  | .loadText text => h.addText text
  | .load disk input =>
    match disk.readText input with
    | .ok text => h.addText text
    | .error _ => h
  | .callees handle name =>
    match h.texts[handle]? with
    | some text => { h with asked := h.asked ++ [(text, name)] }
    | none => h

/-- The names that were asked of a text, in order. -/
def askedOf (h : History) (text : String) : List String :=
  (h.asked.filter fun question => question.1 == text).map Prod.snd

/-- The history of a sequence of operations. -/
def of (operations : List Operation) : History :=
  operations.foldl add ⟨[], []⟩

end History

/-- The usage is what its history says: there is one graph for each text, and
it remembers what was asked of this text. -/
structure Usage.Records (u : Usage) (h : History) : Prop where
  handles : u.handles = h.texts.map Digest.sha256
  distinct : u.cache.keys.Nodup
  keys : ∀ digest, digest ∈ u.cache.keys ↔ digest ∈ h.texts.map Digest.sha256
  graphs : ∀ text ∈ h.texts, ∃ graph,
    u.cache.graph? (Digest.sha256 text) = some graph ∧
    Document.parse text = .ok graph.document ∧ graph.Faithful ∧
    graph.Remembers fun name => (text, name) ∈ h.asked
  asked : ∀ text name, (text, name) ∈ h.asked → text ∈ h.texts

namespace Usage

variable {u : Usage} {h : History} {texts : Set String}

theorem records_start : start.Records ⟨[], []⟩ where
  handles := rfl
  distinct := List.nodup_nil
  keys _ := Iff.rfl
  graphs _ htext := by cases htext
  asked _ _ hasked := by cases hasked

theorem Records.load_of_mem (hrec : u.Records h) {text : String}
    (htext : text ∈ h.texts) :
    ∃ graph, Document.parse text = .ok graph.document ∧
      u.cache.load text = .ok (⟨Digest.sha256 text, graph, true⟩, u.cache) := by
  obtain ⟨graph, hkept, hparse, -⟩ := hrec.graphs text htext
  refine ⟨graph, hparse, ?_⟩
  simp only [Cache.load]
  rw [hkept]

/-- A text that has not been loaded is not found, if no text of the history
shares its digest. -/
theorem Records.load_of_not_mem (hrec : u.Records h) {text : String}
    (hinj : ∀ other ∈ h.texts, Digest.sha256 other = Digest.sha256 text →
      other = text) (htext : text ∉ h.texts) :
    u.cache.load text = (Document.parse text).map fun doc =>
      (⟨Digest.sha256 text, .ofDocument doc, false⟩,
        ⟨(Digest.sha256 text, .ofDocument doc) :: u.cache.graphs⟩) := by
  have hnone : u.cache.graph? (Digest.sha256 text) = none := by
    rw [← Option.not_isSome_iff_eq_none, graph?_isSome_iff, hrec.keys]
    intro hmem
    obtain ⟨other, hother, hdigest⟩ := List.mem_map.1 hmem
    exact htext (hinj other hother hdigest ▸ hother)
  simp only [Cache.load]
  rw [hnone]
  cases Document.parse text <;> rfl

/-- Handing out a document again leaves the cache as it is. -/
theorem Records.handOut (hrec : u.Records h) {text : String}
    (htext : text ∈ h.texts) :
    Records ⟨u.cache, u.handles ++ [Digest.sha256 text]⟩
      { h with texts := h.texts ++ [text] } where
  handles := by simp [hrec.handles]
  distinct := hrec.distinct
  keys digest := by
    rw [hrec.keys, List.map_append, List.mem_append, List.map_singleton,
      List.mem_singleton]
    constructor
    · exact .inl
    · rintro (hmem | rfl)
      · exact hmem
      · exact List.mem_map_of_mem htext
  graphs other hother := by
    refine hrec.graphs other ?_
    rcases List.mem_append.1 hother with hmem | hmem
    · exact hmem
    · exact List.mem_singleton.1 hmem ▸ htext
  asked other name hasked :=
    List.mem_append_left _ (hrec.asked other name hasked)

/-- A new document comes with a graph that remembers nothing. -/
theorem Records.keep (hrec : u.Records h) {text : String} {doc : Document}
    (hparse : Document.parse text = .ok doc) (htext : text ∉ h.texts)
    (hnew : ∀ other ∈ h.texts, Digest.sha256 other ≠ Digest.sha256 text) :
    Records
      ⟨⟨(Digest.sha256 text, .ofDocument doc) :: u.cache.graphs⟩,
        u.handles ++ [Digest.sha256 text]⟩
      { h with texts := h.texts ++ [text] } where
  handles := by simp [hrec.handles]
  distinct := by
    refine List.nodup_cons.2 ⟨fun hmem => ?_, hrec.distinct⟩
    obtain ⟨other, hother, hdigest⟩ := List.mem_map.1 ((hrec.keys _).1 hmem)
    exact hnew other hother hdigest
  keys digest := by
    show digest ∈ Digest.sha256 text :: u.cache.keys ↔ _
    rw [List.mem_cons, hrec.keys, List.map_append, List.mem_append,
      List.map_singleton, List.mem_singleton, or_comm]
  graphs other hother := by
    rcases List.mem_append.1 hother with hmem | hmem
    · obtain ⟨graph, hkept, hgraph⟩ := hrec.graphs other hmem
      refine ⟨graph, ?_, hgraph⟩
      have hbeq : (Digest.sha256 other == Digest.sha256 text) = false :=
        beq_eq_false_iff_ne.2 (hnew other hmem)
      rw [Cache.graph?, List.lookup_cons, hbeq]
      exact hkept
    · obtain rfl := List.mem_singleton.1 hmem
      refine ⟨.ofDocument doc, List.lookup_cons_self, hparse,
        CallGraph.faithful_ofDocument doc,
        (CallGraph.remembers_ofDocument doc).congr fun name => ?_⟩
      exact iff_of_false (fun hasked => htext (hrec.asked _ _ hasked)) id
  asked other name hasked :=
    List.mem_append_left _ (hrec.asked other name hasked)

theorem Records.serveText (hrec : u.Records h) {text : String}
    (hinj : ∀ other ∈ h.texts, Digest.sha256 other = Digest.sha256 text →
      other = text) :
    (u.serveText text).2.Records (h.addText text) := by
  by_cases htext : text ∈ h.texts
  · obtain ⟨graph, hparse, hload⟩ := hrec.load_of_mem htext
    simp only [Usage.serveText, History.addText, hload, hparse]
    exact hrec.handOut htext
  · have hload := hrec.load_of_not_mem hinj htext
    cases hparse : Document.parse text with
    | error e =>
        rw [hparse] at hload
        simp only [Usage.serveText, History.addText, hload, hparse, Except.map]
        exact hrec
    | ok doc =>
        rw [hparse] at hload
        simp only [Usage.serveText, History.addText, hload, hparse, Except.map]
        exact hrec.keep hparse htext fun other hother hdigest =>
          htext (hinj other hother hdigest ▸ hother)

/-- A question is remembered by the graph of its text and by no other. -/
theorem Records.ask (hrec : u.Records h) {text : String} (htext : text ∈ h.texts)
    (hinj : ∀ other ∈ h.texts, Digest.sha256 other = Digest.sha256 text →
      other = text) (name : String) :
    Records { u with cache := (u.cache.callees (Digest.sha256 text) name).2 }
      { h with asked := h.asked ++ [(text, name)] } := by
  obtain ⟨graph, hkept, hparse, hfaithful, hremembers⟩ := hrec.graphs text htext
  have hcache : (u.cache.callees (Digest.sha256 text) name).2 =
      u.cache.update (Digest.sha256 text) (graph.callees name).2 := by
    rw [Cache.callees, hkept]
  rw [hcache]
  constructor
  · exact hrec.handles
  · rw [keys_update]
    exact hrec.distinct
  · intro digest
    rw [keys_update]
    exact hrec.keys digest
  · intro other hother
    by_cases hsame : other = text
    · subst hsame
      refine ⟨_, graph?_update hkept _, ?_, CallGraph.faithful_callees hfaithful name,
        (hremembers.callees name).congr fun asked => ?_⟩
      · rw [CallGraph.document_callees]
        exact hparse
      · simp
    · obtain ⟨graph', hkept', hparse', hfaithful', hremembers'⟩ :=
        hrec.graphs other hother
      refine ⟨graph', ?_, hparse', hfaithful', hremembers'.congr fun asked => ?_⟩
      · rw [graph?_update_of_ne fun hdigest => hsame (hinj other hother hdigest)]
        exact hkept'
      · simp [hsame]
  · intro other asked hasked
    rcases List.mem_append.1 hasked with hmem | hmem
    · exact hrec.asked other asked hmem
    · cases List.mem_singleton.1 hmem
      exact htext

theorem Records.serve (hrec : u.Records h) (hinj : Set.InjOn Digest.sha256 texts)
    (htexts : ∀ text ∈ h.texts, text ∈ texts) {op : Operation}
    (hop : ∀ text, op.text? = some text → text ∈ texts) :
    (u.serve op).2.Records (h.add op) := by
  cases op with
  | loadText text =>
      exact hrec.serveText fun other hother =>
        hinj (htexts other hother) (hop text rfl)
  | load disk input =>
      simp only [Usage.serve, History.add]
      cases hread : disk.readText input with
      | error e => exact hrec
      | ok text =>
          have htext : text ∈ texts := hop text (by rw [Operation.text?, hread]; rfl)
          exact hrec.serveText fun other hother =>
            hinj (htexts other hother) htext
  | callees handle name =>
      have hhandle : u.handles[handle]? =
          h.texts[handle]?.map Digest.sha256 := by
        rw [hrec.handles, List.getElem?_map]
      simp only [Usage.serve, History.add, hhandle]
      cases htext : h.texts[handle]? with
      | none => exact hrec
      | some text =>
          have hmem : text ∈ h.texts := List.mem_of_getElem? htext
          exact hrec.ask hmem
            (fun other hother => hinj (htexts other hother) (htexts text hmem)) name

theorem mem_texts_addText {text other : String}
    (hmem : other ∈ (h.addText text).texts) : other ∈ h.texts ∨ other = text := by
  unfold History.addText at hmem
  split at hmem
  · simpa using hmem
  · exact .inl hmem

theorem mem_texts_add {op : Operation} {text : String}
    (hmem : text ∈ (h.add op).texts) : text ∈ h.texts ∨ op.text? = some text := by
  cases op with
  | loadText loaded =>
      rcases mem_texts_addText hmem with hold | rfl
      · exact .inl hold
      · exact .inr rfl
  | load disk input =>
      simp only [History.add] at hmem
      cases hread : disk.readText input with
      | error e =>
          rw [hread] at hmem
          exact .inl hmem
      | ok loaded =>
          rw [hread] at hmem
          rcases mem_texts_addText hmem with hold | rfl
          · exact .inl hold
          · exact .inr (by rw [Operation.text?, hread]; rfl)
  | callees handle name =>
      simp only [History.add] at hmem
      split at hmem
      · exact .inl hmem
      · exact .inl hmem

/-- After any operations on texts with digests of their own, a cache is what
its history says. -/
theorem records_after (hinj : Set.InjOn Digest.sha256 texts)
    (operations : List Operation)
    (hops : ∀ op ∈ operations, ∀ text, op.text? = some text → text ∈ texts) :
    (after operations).Records (.of operations) ∧
      ∀ text ∈ (History.of operations).texts, text ∈ texts := by
  have hrun : ∀ (u : Usage) (h : History), u.Records h →
      (∀ text ∈ h.texts, text ∈ texts) →
      (operations.foldl (fun u op => (u.serve op).2) u).Records
          (operations.foldl History.add h) ∧
        ∀ text ∈ (operations.foldl History.add h).texts, text ∈ texts := by
    induction operations with
    | nil =>
        intro u h hrec htexts
        exact ⟨hrec, htexts⟩
    | cons op operations ih =>
        intro u h hrec htexts
        have hop := hops op List.mem_cons_self
        refine ih (fun op hmem => hops op (List.mem_cons_of_mem _ hmem)) _ _
          (hrec.serve hinj htexts hop) fun text hmem => ?_
        rcases mem_texts_add hmem with hold | hnew
        · exact htexts text hold
        · exact hop text hnew
  exact hrun _ _ records_start fun text htext => by cases htext

/-! ## Answers -/

theorem Records.size (hrec : u.Records h) (hinj : Set.InjOn Digest.sha256 texts)
    (htexts : ∀ text ∈ h.texts, text ∈ texts) :
    u.cache.size = h.texts.toFinset.card := by
  have hkeys : u.cache.keys.toFinset = h.texts.toFinset.image Digest.sha256 := by
    ext digest
    simp [hrec.keys]
  calc u.cache.size = u.cache.keys.length := (List.length_map _).symm
    _ = u.cache.keys.toFinset.card :=
        (List.toFinset_card_of_nodup hrec.distinct).symm
    _ = (h.texts.toFinset.image Digest.sha256).card := by rw [hkeys]
    _ = h.texts.toFinset.card := Finset.card_image_of_injOn fun a ha b hb =>
        hinj (htexts a (List.mem_toFinset.1 ha)) (htexts b (List.mem_toFinset.1 hb))

theorem memoized_of_remembers {graph : CallGraph} {text : String}
    (hremembers : graph.Remembers fun name => (text, name) ∈ h.asked) :
    graph.memoized =
      ((h.askedOf text).filter graph.document.contains).toFinset.card := by
  have hnames : (graph.known.map Prod.fst).toFinset =
      ((h.askedOf text).filter graph.document.contains).toFinset := by
    ext name
    rw [List.mem_toFinset, hremembers.names]
    simp [History.askedOf, and_comm]
  rw [← hnames, List.toFinset_card_of_nodup hremembers.distinct, List.length_map]
  rfl

theorem serve_of_text? {op : Operation} {text : String}
    (hop : op.text? = some text) : u.serve op = u.serveText text := by
  cases op with
  | loadText loaded =>
      cases hop
      rfl
  | load disk input =>
      rw [Operation.text?] at hop
      cases hread : disk.readText input with
      | error e =>
          rw [hread] at hop
          cases hop
      | ok loaded =>
          rw [hread] at hop
          cases hop
          simp only [Usage.serve, hread]
  | callees handle name => cases hop

/-- A load gives what parsing gives, and tells whether the text has been loaded
before. -/
theorem Records.serveText_eq (hrec : u.Records h) {text : String}
    (hinj : ∀ other ∈ h.texts, Digest.sha256 other = Digest.sha256 text →
      other = text) :
    match Document.parse text with
    | .error e => u.serveText text = (.failed (.parse e), u)
    | .ok doc => ∃ loaded later, u.serveText text = (.loaded loaded, later) ∧
        loaded.document = doc ∧ (loaded.fromCache = true ↔ text ∈ h.texts) ∧
        later.graph? h.texts.length = some loaded.graph := by
  have hlength : h.texts.length = u.handles.length := by
    rw [hrec.handles, List.length_map]
  have hhandle : ∀ {loaded : Loaded} {cache : Cache},
      u.cache.load text = .ok (loaded, cache) →
      Usage.graph? ⟨cache, u.handles ++ [Digest.sha256 text]⟩ h.texts.length =
        some loaded.graph := by
    intro loaded cache hload
    obtain ⟨hdigest, hgraph⟩ := graph?_of_load hload
    rw [Usage.graph?, hlength, List.getElem?_concat_length, Option.bind_some, ← hdigest]
    exact hgraph
  by_cases htext : text ∈ h.texts
  · obtain ⟨graph, hparse, hload⟩ := hrec.load_of_mem htext
    simp only [hparse, Usage.serveText, hload]
    exact ⟨_, _, rfl, rfl, iff_of_true rfl htext, hhandle hload⟩
  · have hload := hrec.load_of_not_mem hinj htext
    cases hparse : Document.parse text with
    | error e =>
        rw [hparse] at hload
        simp only [Usage.serveText, hload, Except.map]
    | ok doc =>
        rw [hparse] at hload
        simp only [Usage.serveText, hload, Except.map]
        exact ⟨_, _, rfl, rfl, iff_of_false Bool.false_ne_true htext, hhandle hload⟩

/-- What is answered about a document is what its text says. -/
theorem Records.callees (hrec : u.Records h) {handle : Nat} {text : String}
    {doc : Document} (htext : h.texts[handle]? = some text)
    (hparse : Document.parse text = .ok doc) (name : String) :
    (u.serve (.callees handle name)).1 = .callees (doc.calleesOf name) := by
  obtain ⟨graph, hkept, hgraph, hfaithful, -⟩ :=
    hrec.graphs text (List.mem_of_getElem? htext)
  obtain rfl : doc = graph.document := by
    rw [hparse] at hgraph
    cases hgraph
    rfl
  have hhandle : u.handles[handle]? = some (Digest.sha256 text) := by
    rw [hrec.handles, List.getElem?_map, htext]
    rfl
  simp only [Usage.serve, hhandle, Cache.callees, hkept]
  rw [CallGraph.callees_fst hfaithful]

end Usage

/-- A cache and the documents it hands out, after any sequence of operations.
Let all texts that are loaded have digests of their own. Then a load gives what
parsing gives, whether the text is given or read from a file, and says that it
comes from the cache if the text was loaded before; a load that fails changes
nothing; and as many documents are kept as different texts were loaded. Through
any document that was handed out, the callees of a name are those that its text
has for it, sorted by their bytes, whatever was asked before. And the graph
behind it remembers as many functions as different defined names were asked of
the same text. -/
theorem serve_of_history {texts : Set String}
    (hinj : Set.InjOn Digest.sha256 texts) (before : List Operation)
    (hbefore : ∀ op ∈ before, ∀ text, op.text? = some text → text ∈ texts) :
    let u := Usage.after before
    let h := History.of before
    (∀ op, ∀ text ∈ texts, op.text? = some text →
      match Document.parse text with
      | .error e => u.serve op = (.failed (.parse e), u)
      | .ok doc => ∃ loaded later, u.serve op = (.loaded loaded, later) ∧
          loaded.document = doc ∧ (loaded.fromCache = true ↔ text ∈ h.texts) ∧
          later.graph? h.texts.length = some loaded.graph) ∧
    (∀ disk input e, disk.readText input = .error e →
      u.serve (.load disk input) = (.failed (.io e), u)) ∧
    u.cache.size = h.texts.toFinset.card ∧
    ∀ handle text doc, h.texts[handle]? = some text →
      Document.parse text = .ok doc →
      (∀ name, ∃ names later,
        u.serve (.callees handle name) = (.callees names, later) ∧
        names.Pairwise (fun a b => a.toUTF8.toList < b.toUTF8.toList) ∧
        (∀ g, g ∈ names ↔ doc.Calls name g) ∧
        (doc.contains name = false → names = [])) ∧
      ∃ graph, u.graph? handle = some graph ∧
        graph.memoized = ((h.askedOf text).filter doc.contains).toFinset.card := by
  intro u h
  obtain ⟨hrec, htexts⟩ := Usage.records_after hinj before hbefore
  refine ⟨fun op text htext hop => ?_, fun disk input e hread => ?_,
    hrec.size hinj htexts, fun handle text doc htext hparse => ⟨fun name => ?_, ?_⟩⟩
  · rw [Usage.serve_of_text? hop]
    exact hrec.serveText_eq fun other hother => hinj (htexts other hother) htext
  · simp only [Usage.serve, hread]
  · have hnodup := Document.names_nodup hparse
    refine ⟨doc.calleesOf name, (u.serve (.callees handle name)).2,
      Prod.ext (hrec.callees htext hparse name) rfl, ?_,
      fun g => Document.mem_calleesOf hnodup, fun hundefined => ?_⟩
    · exact (NameSet.ordered_ofList _).imp Text.lt_iff_toUTF8_lt.1
    · rw [List.eq_nil_iff_forall_not_mem]
      rintro g hg
      obtain ⟨d, hd, rfl, -⟩ := (Document.mem_calleesOf hnodup).1 hg
      rw [← Bool.not_eq_true, Document.contains_iff, Document.names_eq] at hundefined
      exact hundefined (List.mem_map_of_mem hd)
  · obtain ⟨graph, hkept, hgraph, -, hremembers⟩ :=
      hrec.graphs text (List.mem_of_getElem? htext)
    obtain rfl : doc = graph.document := by
      rw [hparse] at hgraph
      cases hgraph
      rfl
    refine ⟨graph, ?_, Usage.memoized_of_remembers hremembers⟩
    rw [Usage.graph?, hrec.handles, List.getElem?_map, htext]
    exact hkept

/-- A text that is no document: its function does not end. -/
def openText : String := "define void @f() \x7b"

/-- A document is loaded twice, a text that is none in between, and both
handles are asked. -/
def sampleUse : List Operation :=
  [.loadText Document.sampleText, .callees 0 "a", .loadText openText, .callees 0 "p",
    .loadText Document.sampleText, .callees 1 "a", .callees 1 "b"]

theorem serve_of_history_sample :
    let texts : Set String := {Document.sampleText, openText}
    Set.InjOn Digest.sha256 texts ∧
      (∀ op ∈ sampleUse, ∀ text, op.text? = some text → text ∈ texts) ∧
      (Usage.after sampleUse).cache.size = 1 ∧
      ∃ graph, (Usage.after sampleUse).graph? 0 = some graph ∧
        graph.memoized = 2 := by
  have hinj : Set.InjOn Digest.sha256 {Document.sampleText, openText} := by
    rw [Set.injOn_pair]
    intro h
    exact absurd h (by decide +kernel)
  have htexts : ∀ op ∈ sampleUse, ∀ text, op.text? = some text →
      text ∈ ({Document.sampleText, openText} : Set String) := by
    simp [sampleUse, Operation.text?]
  have hloaded : (History.of sampleUse).texts =
      [Document.sampleText, Document.sampleText] := by
    decide +kernel
  have hasked : ((History.of sampleUse).askedOf Document.sampleText).filter
      Document.sample.contains = ["a", "a", "b"] := by
    decide +kernel
  obtain ⟨-, -, hsize, hhandles⟩ := serve_of_history hinj sampleUse htexts
  obtain ⟨-, graph, hgraph, hmemoized⟩ := hhandles 0 Document.sampleText
    Document.sample (by rw [hloaded]; rfl) Document.parse_sampleText
  refine ⟨hinj, htexts, ?_, graph, hgraph, ?_⟩
  · rw [hsize, hloaded]
    rfl
  · rw [hmemoized, hasked]
    rfl

end Cache

end IrExcerpt
