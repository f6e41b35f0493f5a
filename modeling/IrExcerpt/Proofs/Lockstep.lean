import IrExcerpt.Proofs.FailedExtraction
import IrExcerpt.Proofs.Reextraction
import Mathlib.Data.Set.Function

/-!
# Two sessions in lockstep

A session keeps the documents it has loaded, and their call graphs keep the
callees they have been asked for. The invariant is that everything that is kept
could be worked out anew: each graph is that of a text that was loaded, under
the digest of this text, and what the graph remembers is what scanning would
give (`Cache.Sound`). As long as no two texts share a digest, a load then gives
what parsing gives, and a search of a graph that remembers is a search of one
that does not.

From there two runs are compared step by step. `Lockstep` says of two tasks that
in sessions which differ only in what they have cached and told, they leave the
same files, tell the same and end alike, and that the sessions still differ in
nothing else. There is one rule for each way to put tasks together and one lemma
for each task.
-/

namespace IrExcerpt

open Expansion

variable {σ ε α β γ δ : Type}

/-! ## What is kept -/

/-- The graph is that of a text among `texts` with the digest `digest`. -/
structure CallGraph.ReadFrom (graph : CallGraph) (texts : Set String)
    (digest : String) : Prop where
  faithful : graph.Faithful
  text : ∃ text ∈ texts, Digest.sha256 text = digest ∧
    Document.parse text = .ok graph.document

/-- All that is kept could be read again from one of `texts`. -/
def Cache.Sound (texts : Set String) (c : Cache) : Prop :=
  ∀ digest graph, (digest, graph) ∈ c.graphs → graph.ReadFrom texts digest

namespace Cache

variable {texts : Set String} {c : Cache}

theorem sound_empty (texts : Set String) : Sound texts empty := by
  intro digest graph hmem
  cases hmem

theorem Sound.update (h : c.Sound texts) {digest : String} {graph : CallGraph}
    (hgraph : graph.ReadFrom texts digest) :
    (c.update digest graph).Sound texts := by
  intro key kept hmem
  obtain ⟨⟨old, before⟩, hold, heq⟩ := List.mem_map.1 hmem
  dsimp only at heq
  split at heq
  · next hkey =>
      cases heq
      rw [beq_iff_eq.1 hkey]
      exact hgraph
  · cases heq
    exact h _ _ hold

theorem Sound.graph? (h : c.Sound texts) {digest : String} {graph : CallGraph}
    (hkept : c.graph? digest = some graph) : graph.ReadFrom texts digest := by
  obtain ⟨before, behind, hgraphs, -⟩ := List.lookup_eq_some_iff.1 hkept
  exact h digest graph (by rw [hgraphs]; simp)

theorem Sound.load (h : c.Sound texts) {text : String} (htext : text ∈ texts)
    {loaded : Loaded} {later : Cache}
    (hload : c.load text = .ok (loaded, later)) :
    loaded.digest = Digest.sha256 text ∧
      loaded.graph.ReadFrom texts loaded.digest ∧ later.Sound texts := by
  simp only [Cache.load] at hload
  split at hload
  · next graph hkept =>
      cases hload
      exact ⟨rfl, h.graph? hkept, h⟩
  · split at hload
    · cases hload
    · next doc hparse =>
        have hread : (CallGraph.ofDocument doc).ReadFrom texts
            (Digest.sha256 text) :=
          ⟨CallGraph.faithful_ofDocument doc, text, htext, rfl, hparse⟩
        cases hload
        refine ⟨rfl, hread, fun digest graph hmem => ?_⟩
        rcases List.mem_cons.1 hmem with heq | hmem
        · cases heq
          exact hread
        · exact h digest graph hmem

/-- Whether a text is found in the cache or not, a load gives what parsing
gives, if no other text has been loaded under its digest. -/
theorem Sound.load_eq_parse (h : c.Sound texts) {text : String}
    (hdigest : ∀ other ∈ texts,
      Digest.sha256 other = Digest.sha256 text → other = text) :
    (c.load text).map (fun found => found.1.document) =
      Document.parse text := by
  simp only [Cache.load]
  split
  · next graph hkept =>
      obtain ⟨origin, horigin, hsame, hparse⟩ := (h.graph? hkept).text
      rw [← hdigest origin horigin hsame, hparse]
      rfl
  · split
    · next e hparse => exact hparse.symm
    · next doc hparse => exact hparse.symm

end Cache

/-! ## Searching a graph that remembers -/

/-- A search fills the memory of the graph, with nothing false. -/
theorem faithful_rounds (c : Criteria) (left k : Nat) {graph : CallGraph}
    (h : graph.Faithful) (s : Selection) :
    (rounds c left k graph s).graph.Faithful ∧
      (rounds c left k graph s).graph.document = graph.document := by
  induction left generalizing k graph s with
  | zero => exact ⟨h, rfl⟩
  | succ left ih =>
      unfold rounds
      split
      · exact ⟨h, rfl⟩
      · obtain ⟨-, hfaithful, hdoc⟩ :=
          grown_layer (c := c) (k + 1) graph h s (s.atDepth k)
        obtain ⟨hlater, hsame⟩ := ih (k + 1) hfaithful
          (layer c (k + 1) graph s (s.atDepth k)).selection
        exact ⟨hlater, hsame.trans hdoc⟩

theorem CallGraph.ReadFrom.expand {graph : CallGraph} {texts : Set String}
    {digest : String} (h : graph.ReadFrom texts digest) (c : Criteria)
    (s : Selection) (d : Nat) :
    (c.expand graph s d).graph.ReadFrom texts digest := by
  obtain ⟨hfaithful, hdoc⟩ := faithful_rounds c d 0 h.faithful s
  obtain ⟨text, htext, hdigest, hparse⟩ := h.text
  exact ⟨hfaithful, text, htext, hdigest, hparse.trans (congrArg _ hdoc.symm)⟩

/-- What a graph remembers does not show in a search. -/
theorem expand_exchange (c : Criteria) {graph graph' : CallGraph}
    (hnodup : graph.document.names.Nodup) (h : graph.Faithful)
    (h' : graph'.Faithful) (hdoc : graph'.document = graph.document)
    (limit d : Nat) :
    ∃ later : CallGraph,
      c.expand graph' (c.select graph.document limit).1 d =
        { c.expand graph (c.select graph.document limit).1 d with
          graph := later } :=
  rounds_exchange hnodup d h h' rfl hdoc (layered_select c graph.document limit)
    fun _ _ _ _ => ⟨rfl, rfl, fun _ _ _ => rfl⟩

/-! ## Two runs in lockstep -/

/-- What two runs have in common and what each had told at the start. -/
structure Comparison where
  config : Config
  /-- The texts that have been loaded, and those to be loaded. -/
  texts : Set String
  log : List Event
  log' : List Event
  /-- Whether it is one run that is compared with itself. -/
  self : Prop

/-- The sessions differ in what they have cached, and in what they had told at
the start. -/
structure Comparison.Alike (k : Comparison) (u u' : Session) : Prop where
  config : u.config = k.config
  config' : u'.config = k.config
  sound : u.cache.Sound k.texts
  sound' : u'.cache.Sound k.texts
  told : ∃ told, u.events = k.log ++ told ∧ u'.events = k.log' ++ told
  self : k.self → u'.cache = u.cache

theorem Comparison.Alike.setCache {k : Comparison} {u u' : Session}
    (h : k.Alike u u') {c c' : Cache} (hc : c.Sound k.texts)
    (hc' : c'.Sound k.texts) (hself : k.self → c' = c) :
    k.Alike { u with cache := c } { u' with cache := c' } :=
  ⟨h.config, h.config', hc, hc', h.told, hself⟩

/-- Both succeed with related values, or both fail in the same way. -/
inductive Matches (Q : α → β → Prop) : Except ε α → Except ε β → Prop
  | ok {a : α} {b : β} (h : Q a b) : Matches Q (.ok a) (.ok b)
  | error (e : ε) : Matches Q (.error e) (.error e)

/-- Run from the same files in sessions that are alike, the tasks leave the same
files, end alike and leave the sessions alike. `Q` relates the values and the
files they end with. -/
def Lockstep (k : Comparison) (s : σ) (t : Task (StateM σ) ε α)
    (t' : Task (StateM σ) ε β) (Q : α → β → σ → Prop) : Prop :=
  ∀ u u', k.Alike u u' → ∃ x x' v v' s₁,
    t.result u s = ((x, v), s₁) ∧ t'.result u' s = ((x', v'), s₁) ∧
      k.Alike v v' ∧ Matches (Q · · s₁) x x'

namespace Lockstep

variable {k : Comparison} {s : σ} {t : Task (StateM σ) ε α}
  {t' : Task (StateM σ) ε β}

theorem pure {Q : α → β → σ → Prop} {a : α} {b : β} (h : Q a b s) :
    Lockstep k s (Pure.pure a : Task (StateM σ) ε α) (Pure.pure b) Q :=
  fun u u' halike => ⟨.ok a, .ok b, u, u', s, rfl, rfl, halike, .ok h⟩

theorem throw {Q : α → β → σ → Prop} (e : ε) :
    Lockstep k s (MonadExcept.throw e : Task (StateM σ) ε α)
      (MonadExcept.throw e) Q :=
  fun u u' halike =>
    ⟨.error e, .error e, u, u', s, rfl, rfl, halike, .error e⟩

theorem bind {γ' : Type} {Q : α → β → σ → Prop} {R : γ → γ' → σ → Prop}
    {f : α → Task (StateM σ) ε γ} {f' : β → Task (StateM σ) ε γ'}
    (ht : Lockstep k s t t' Q)
    (hf : ∀ a b s₁, Q a b s₁ → Lockstep k s₁ (f a) (f' b) R) :
    Lockstep k s (t >>= f) (t' >>= f') R := by
  intro u u' halike
  obtain ⟨x, x', v, v', s₁, hrun, hrun', halike₁, hends⟩ := ht u u' halike
  cases hends with
  | error e =>
      exact ⟨.error e, .error e, v, v', s₁, Task.result_bind_error hrun f,
        Task.result_bind_error hrun' f', halike₁, .error e⟩
  | ok h =>
      rw [Task.result_bind_ok hrun, Task.result_bind_ok hrun']
      exact hf _ _ _ h v v' halike₁

theorem mono {Q R : α → β → σ → Prop} (h : Lockstep k s t t' Q)
    (hQ : ∀ a b s₁, Q a b s₁ → R a b s₁) : Lockstep k s t t' R := by
  intro u u' halike
  obtain ⟨x, x', v, v', s₁, hrun, hrun', halike₁, hends⟩ := h u u' halike
  refine ⟨x, x', v, v', s₁, hrun, hrun', halike₁, ?_⟩
  cases hends with
  | ok h => exact .ok (hQ _ _ _ h)
  | error e => exact .error e

theorem get : Lockstep k s (MonadState.get : Task (StateM σ) ε Session)
    MonadState.get fun u u' s₁ => k.Alike u u' ∧ s₁ = s :=
  fun u u' halike =>
    ⟨.ok u, .ok u', u, u', s, rfl, rfl, halike, .ok ⟨halike, rfl⟩⟩

theorem modify {f f' : Session → Session}
    (h : ∀ u u', k.Alike u u' → k.Alike (f u) (f' u')) :
    Lockstep k s (modify f : Task (StateM σ) ε Unit) (modify f')
      fun _ _ s₁ => s₁ = s :=
  fun u u' halike =>
    ⟨.ok (), .ok (), f u, f' u', s, rfl, rfl, h u u' halike, .ok rfl⟩

theorem tell (events : List Event) :
    Lockstep k s (Session.tell events : Task (StateM σ) ε Unit)
      (Session.tell events) fun _ _ s₁ => s₁ = s := by
  refine modify fun u u' halike => ?_
  obtain ⟨told, hlog, hlog'⟩ := halike.told
  refine ⟨halike.config, halike.config', halike.sound, halike.sound',
    ⟨told ++ events, ?_, ?_⟩, halike.self⟩
  · rw [hlog, List.append_assoc]
  · rw [hlog', List.append_assoc]

theorem ask (action : StateM σ α) :
    Lockstep k s (Session.ask action : Task (StateM σ) ε α)
      (Session.ask action) fun a b s₁ => b = a ∧ action.run s = (a, s₁) :=
  fun u u' halike => ⟨.ok (action.run s).1, .ok (action.run s).1, u, u',
    (action.run s).2, rfl, rfl, halike, .ok ⟨rfl, rfl⟩⟩

theorem settle (asFailure : δ → Failure) {Q : α → β → Prop}
    {x : Except δ α} {x' : Except δ β} (h : Matches Q x x') :
    Lockstep k s (Session.settle asFailure x : Task (StateM σ) Failure α)
      (Session.settle asFailure x') fun a b s₁ => Q a b ∧ s₁ = s := by
  cases h with
  | ok h => exact pure ⟨h, rfl⟩
  | error e => exact throw _

/-- What does not depend on the session is settled in the same way. -/
theorem settle_same (asFailure : δ → Failure) (x : Except δ α) :
    Lockstep k s (Session.settle asFailure x : Task (StateM σ) Failure α)
      (Session.settle asFailure x)
      fun a b s₁ => (x = .ok a ∧ b = a) ∧ s₁ = s := by
  refine settle asFailure ?_
  cases x with
  | ok a => exact .ok ⟨rfl, rfl⟩
  | error e => exact .error e

end Lockstep

/-- Two runs have loaded the same text, if not from the same place. -/
structure Comparison.SameText (k : Comparison) (l l' : Loaded) : Prop where
  digest : l'.digest = l.digest
  document : l'.document = l.document
  read : l.graph.ReadFrom k.texts l.digest
  read' : l'.graph.ReadFrom k.texts l.digest
  self : k.self → l'.graph = l.graph

/-- The text is among those of the comparison, and no other of these has its
digest, unless it is one run that is compared with itself. -/
def Comparison.Admits (k : Comparison) (text : String) : Prop :=
  text ∈ k.texts ∧ (k.self ∨ ∀ other ∈ k.texts,
    Digest.sha256 other = Digest.sha256 text → other = text)

theorem Comparison.Alike.load {k : Comparison} {u u' : Session}
    (h : k.Alike u u') {text : String} (htext : k.Admits text) :
    Matches (fun found found' => k.SameText found.1 found'.1 ∧
        found.2.Sound k.texts ∧ found'.2.Sound k.texts ∧
        (k.self → found'.2 = found.2))
      (u.cache.load text) (u'.cache.load text) := by
  obtain ⟨hmem, hdigest⟩ := htext
  -- Both loads end as parsing would, or they are the same load.
  have hsame : (u'.cache.load text).map (fun found => found.1.document) =
      (u.cache.load text).map (fun found => found.1.document) := by
    obtain hself | hdigest := hdigest
    · rw [h.self hself]
    · rw [h.sound.load_eq_parse hdigest, h.sound'.load_eq_parse hdigest]
  cases hload : u.cache.load text with
  | error e =>
      cases hload' : u'.cache.load text with
      | error e' =>
          rw [hload, hload'] at hsame
          cases hsame
          exact .error e
      | ok found' =>
          rw [hload, hload'] at hsame
          cases hsame
  | ok found =>
      cases hload' : u'.cache.load text with
      | error e' =>
          rw [hload, hload'] at hsame
          cases hsame
      | ok found' =>
          obtain ⟨hdig, hread, hsound⟩ := h.sound.load hmem hload
          obtain ⟨hdig', hread', hsound'⟩ := h.sound'.load hmem hload'
          have hequal : k.self → found' = found := by
            intro hself
            rw [h.self hself, hload] at hload'
            cases hload'
            rfl
          rw [hload, hload'] at hsame
          refine .ok ⟨⟨hdig'.trans hdig.symm, Except.ok.inj hsame, hread, ?_,
            fun hself => by rw [hequal hself]⟩, hsound, hsound',
            fun hself => by rw [hequal hself]⟩
          rw [hdig, ← hdig']
          exact hread'

namespace Lockstep

variable {k : Comparison} {s : σ}

theorem load [FileAccess (StateM σ)] {input : Path}
    (htext : ∀ text, ((FileAccess.readText input : StateM σ _).run s).1 =
      .ok text → k.Admits text) :
    Lockstep k s (Session.load input : Task (StateM σ) Failure Loaded)
      (Session.load input) fun l l' _ => k.SameText l l' := by
  unfold Session.load
  refine bind (ask _) ?_
  rintro _ answer s₁ ⟨rfl, hread⟩
  refine bind (settle_same _ answer) ?_
  rintro _ text s₁ ⟨⟨rfl, rfl⟩, rfl⟩
  have hadmits : k.Admits text := htext text (by rw [hread])
  refine bind get ?_
  rintro u u' s₁ ⟨halike, rfl⟩
  refine bind (settle _ (halike.load hadmits)) ?_
  rintro ⟨l, c⟩ ⟨l', c'⟩ s₁ ⟨⟨hsame, hsound, hsound', hself⟩, rfl⟩
  exact bind (modify fun _ _ halike => halike.setCache hsound hsound' hself)
    fun _ _ _ _ => pure hsame

theorem select (c : Criteria) {l l' : Loaded} (h : k.SameText l l') :
    Lockstep k s (Session.select c l : Task (StateM σ) Failure Selection)
      (Session.select c l') fun direct direct' _ => direct' = direct ∧
        direct = (c.select l.document k.config.defaults.listLimit).1 := by
  unfold Session.select
  refine bind get ?_
  rintro u u' s₁ ⟨halike, rfl⟩
  rw [halike.config, halike.config', h.document]
  exact bind (tell _) fun _ _ _ _ => pure ⟨rfl, rfl⟩

theorem expand (c : Criteria) {l l' : Loaded} (h : k.SameText l l')
    {direct : Selection}
    (hdirect : direct = (c.select l.document k.config.defaults.listLimit).1)
    (depth : Nat) :
    Lockstep k s (Session.expand c l direct depth :
        Task (StateM σ) Failure Selection)
      (Session.expand c l' direct depth)
      fun selection selection' _ => selection' = selection := by
  obtain ⟨text, -, -, hparse⟩ := h.read.text
  unfold Session.expand
  -- The graphs may remember different callees. All that differs between the
  -- searches is what the graphs remember then.
  obtain ⟨later, hlater⟩ : ∃ later : CallGraph, c.expand l'.graph direct depth =
      { c.expand l.graph direct depth with graph := later } := by
    rw [hdirect]
    exact expand_exchange c (Document.names_nodup hparse) h.read.faithful
      h.read'.faithful h.document _ depth
  have hselection : (c.expand l'.graph direct depth).selection =
      (c.expand l.graph direct depth).selection := by rw [hlater]
  have hevents : (c.expand l'.graph direct depth).events =
      (c.expand l.graph direct depth).events := by rw [hlater]
  dsimp only
  rw [hselection, hevents, h.digest]
  refine bind (tell _) fun _ _ _ _ => bind (modify fun v v' halike => ?_)
    fun _ _ _ _ => pure rfl
  exact halike.setCache
    (halike.sound.update (h.read.expand c direct depth))
    (halike.sound'.update (h.read'.expand c direct depth))
    fun hself => by rw [halike.self hself, h.self hself]

theorem draftReport [FileAccess (StateM σ)] (r : Request) (output : Path)
    {l l' : Loaded} (h : k.SameText l l') (depth : Nat) (selection : Selection) :
    Lockstep k s (Session.draftReport r output l depth selection :
        Task (StateM σ) Failure (Option (Path × String)))
      (Session.draftReport r output l' depth selection)
      fun report report' _ => report' = report := by
  unfold Session.draftReport
  rw [h.digest, h.document]
  split
  · exact pure rfl
  · refine bind (ask _) ?_
    rintro _ time s₁ ⟨rfl, -⟩
    split
    · exact throw _
    · exact pure rfl

end Lockstep

/-- The request, run on files `s`, loads `text`: nothing is wrong with it, and
its input reads so. -/
def Request.Loads [FileAccess (StateM σ)] (r : Request) (defaults : Defaults)
    (s : σ) (text : String) : Prop :=
  (∃ depth, r.depthWith defaults = .ok depth) ∧
    (∃ c, r.criteriaWith defaults = .ok c) ∧
    ((FileAccess.readText r.input : StateM σ _).run s).1 = .ok text

/-- A listing from files `s` loads `text`. -/
def GraphLoads [FileAccess (StateM σ)] (input : Path) (names : List String)
    (s : σ) (text : String) : Prop :=
  (∃ c, Criteria.ofTexts names [] [] [] = .ok c) ∧
    ((FileAccess.readText input : StateM σ _).run s).1 = .ok text

namespace Lockstep

variable {k : Comparison} {s : σ} [FileAccess (StateM σ)]

theorem draft {r : Request}
    (htext : ∀ text, r.Loads k.config.defaults s text → k.Admits text) :
    Lockstep k s (Session.draft r : Task (StateM σ) Failure Draft)
      (Session.draft r) fun d d' _ => d' = d := by
  unfold Session.draft
  refine bind get ?_
  rintro u u' s₁ ⟨halike, rfl⟩
  rw [halike.config, halike.config']
  refine bind (settle_same _ _) ?_
  rintro _ depth s₁ ⟨⟨hdepth, rfl⟩, rfl⟩
  refine bind (settle_same _ _) ?_
  rintro _ c s₁ ⟨⟨hcriteria, rfl⟩, rfl⟩
  refine bind (load fun text hread =>
    htext text ⟨⟨_, hdepth⟩, ⟨_, hcriteria⟩, hread⟩) ?_
  intro l l' s₁ hsame
  refine bind (select c hsame) ?_
  rintro _ direct s₂ ⟨rfl, hdirect⟩
  have hexpand : Lockstep k s₂
      (if depth > 0 then Session.expand c l direct depth else Pure.pure direct :
        Task (StateM σ) Failure Selection)
      (if depth > 0 then Session.expand c l' direct depth else Pure.pure direct)
      fun selection selection' _ => selection' = selection := by
    split
    · exact expand c hsame hdirect depth
    · exact pure rfl
  refine bind hexpand ?_
  rintro _ selection s₃ rfl
  dsimp only
  rw [hsame.document]
  by_cases hempty : selection.isEmpty = true
  · rw [if_pos hempty, if_pos hempty]
    split
    · exact bind (throw _) fun _ _ _ h => absurd h id
    · refine bind (tell _) fun _ _ _ _ => bind (draftReport r _ hsame _ _) ?_
      rintro _ report s₃ rfl
      exact pure rfl
  · rw [if_neg hempty, if_neg hempty]
    refine bind (draftReport r _ hsame _ _) ?_
    rintro _ report s₃ rfl
    exact pure rfl

theorem stageReport (report : Option (Path × String)) :
    Lockstep k s (Session.stageReport report :
        Task (StateM σ) Failure (Option Staged))
      (Session.stageReport report) fun staged staged' _ => staged' = staged := by
  cases report with
  | none => exact pure rfl
  | some report =>
      refine bind (ask _) ?_
      rintro _ made s₁ ⟨rfl, -⟩
      refine bind (settle_same _ made) ?_
      rintro _ staged s₂ ⟨⟨-, rfl⟩, -⟩
      exact pure rfl

theorem commitReport (staged : Option Staged) :
    Lockstep k s (Session.commitReport staged : Task (StateM σ) Failure Unit)
      (Session.commitReport staged) fun a b _ => b = a := by
  cases staged with
  | none => exact pure rfl
  | some staged =>
      refine bind (ask _) ?_
      rintro _ moved s₁ ⟨rfl, -⟩
      exact (settle_same _ moved).mono fun _ _ _ h => h.1.2

theorem dropReport (staged : Option Staged) :
    Lockstep k s (Session.dropReport staged : Task (StateM σ) Failure Unit)
      (Session.dropReport staged) fun a b _ => b = a := by
  cases staged with
  | none => exact pure rfl
  | some staged => exact (ask _).mono fun _ _ _ h => h.1

theorem publish (d : Draft) :
    Lockstep k s (Session.publish d : Task (StateM σ) Failure Outcome)
      (Session.publish d) fun o o' _ => o' = o := by
  unfold Session.publish
  refine bind (stageReport d.report) ?_
  rintro _ report s₁ rfl
  refine bind (ask _) ?_
  rintro _ ⟨written, events⟩ s₂ ⟨rfl, -⟩
  refine bind (tell events) fun _ _ s₃ _ => ?_
  cases written with
  | error e => exact bind (dropReport report) fun _ _ _ _ => throw _
  | ok _ => exact bind (commitReport report) fun _ _ _ _ => pure rfl

theorem extract {r : Request}
    (htext : ∀ text, r.Loads k.config.defaults s text → k.Admits text) :
    Lockstep k s (Session.extract r : Task (StateM σ) Failure Outcome)
      (Session.extract r) fun o o' _ => o' = o := by
  refine bind (draft htext) ?_
  rintro _ d s₁ rfl
  exact publish d

theorem graph {input : Path} {names : List String} (depth : Nat)
    (htext : ∀ text, GraphLoads input names s text → k.Admits text) :
    Lockstep k s (Session.graph input names depth :
        Task (StateM σ) Failure String)
      (Session.graph input names depth)
      fun listed listed' _ => listed' = listed := by
  unfold Session.graph
  refine bind (settle_same _ _) ?_
  rintro _ c s₁ ⟨⟨hcriteria, rfl⟩, rfl⟩
  refine bind (load fun text hread =>
    htext text ⟨⟨_, hcriteria⟩, hread⟩) ?_
  intro l l' s₁ hsame
  refine bind (select c hsame) ?_
  rintro _ direct s₂ ⟨rfl, hdirect⟩
  refine bind (expand c hsame hdirect depth) ?_
  rintro _ selection s₃ rfl
  rw [hsame.document]
  exact pure rfl

end Lockstep

end IrExcerpt
