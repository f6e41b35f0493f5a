import IrExcerpt.Proofs.Preview
import IrExcerpt.Proofs.SameGround

/-!
# Drafts without sessions

What an extraction is about to write is worked out in a session, with documents
that may come from its cache, on a disk with all its files. Little of that
matters. `Request.draftOn` is the same computation without a session and without
a disk: from the request, the defaults, the text of the input and the time. As
long as digests tell texts apart, a session drafts what it gives (`result_draft`).
The time shows in nothing but the report (`exists_draftOn`).

Then the draft is written. `Draft.Lands` is the sequence of writes, and
`Draft.Puts` says what lies where in the end. Whether a draft lands depends on
the ground it is written on and on the paths of its files, not on their texts
(`Draft.Lands.transfer`).
-/

namespace IrExcerpt

/-! ## What is drafted -/

namespace Request

/-- The report on a selection, if one is asked for. -/
def reportOn (r : Request) (output : Path) (digest time : String) (depth : Nat)
    (doc : Document) (s : Selection) : Except Failure (Option (Path × String)) :=
  match r.report with
  | none => .ok none
  | some path =>
    match (Report.ofSelection r.input output digest time depth doc s).text? with
    | none => .error .pathNotText
    | some json => .ok (some (path, json))

/-- What comes of a request once its functions are selected. -/
def draftFrom (r : Request) (defaults : Defaults) (depth : Nat) (digest time : String)
    (doc : Document) (direct selection : Selection) : Except Failure Draft :=
  if selection.isEmpty && r.failOnEmptyWith defaults then .error .emptySelection
  else
    (r.reportOn (r.outputWith defaults) digest time depth doc selection).map
      fun report => {
        output := r.outputWith defaults
        text := Excerpt.render doc selection
        report
        outcome := {
          count := selection.size
          output := r.outputWith defaults
          figures := {
            parsed := doc.functionCount
            selected := direct.size
            expanded := selection.size - direct.size
            external := selection.external.length } } }

/-- What comes of a request if its input reads so and this is the time. -/
def draftOn (r : Request) (defaults : Defaults) (text time : String) :
    Except Failure Draft := do
  let depth ← (r.depthWith defaults).mapError .config
  let c ← (r.criteriaWith defaults).mapError (.config ∘ .criteria)
  let doc ← (Document.parse text).mapError .parse
  let direct := (c.select doc defaults.listLimit).1
  r.draftFrom defaults depth (Digest.sha256 text) time doc direct
    (c.expand (.ofDocument doc) direct depth).selection

end Request

variable {config : Config} {texts : Set String} {u v : Session} {d d' e : Disk}
  {r : Request} {text : String}

theorem result_draftReport (output : Path) (loaded : Loaded) (depth : Nat)
    (s : Selection) :
    ∃ n, (Session.draftReport r output loaded depth s).result u d =
      ((r.reportOn output loaded.digest (d.clock 0) depth loaded.document s, u),
        d.later n) := by
  unfold Session.draftReport Request.reportOn
  cases r.report with
  | none => exact ⟨0, rfl⟩
  | some path =>
      have hnow : (Session.ask FileAccess.now : Task (StateM Disk) Failure String).result u d =
          ((.ok (d.clock 0), u), d.later 1) := rfl
      dsimp only
      rw [Task.result_bind_ok hnow]
      cases (Report.ofSelection r.input output loaded.digest (d.clock 0) depth
        loaded.document s).text? with
      | none => exact ⟨1, rfl⟩
      | some json => exact ⟨1, rfl⟩

theorem result_draftReport_bind (output : Path) (loaded : Loaded) (depth : Nat)
    (s : Selection) (build : Option (Path × String) → Draft) :
    ∃ n, (Session.draftReport r output loaded depth s >>= fun report =>
        Pure.pure (build report)).result u d =
      (((r.reportOn output loaded.digest (d.clock 0) depth loaded.document s).map build,
        u), d.later n) := by
  obtain ⟨n, hreport⟩ := result_draftReport (u := u) (d := d) (r := r) output loaded depth s
  refine ⟨n, ?_⟩
  cases hmade : r.reportOn output loaded.digest (d.clock 0) depth loaded.document s with
  | error fault =>
      rw [hmade] at hreport
      exact Task.result_bind_error hreport _
  | ok report =>
      rw [hmade] at hreport
      exact Task.result_bind_ok hreport _

theorem result_load_error {input : Path} {fault : ParseError}
    (hread : d.readText input = .ok text)
    (hload : u.cache.load text = .error fault) :
    (Session.load input).result u d = ((.error (.parse fault), u), d) := by
  have hask : (FileAccess.readText input : StateM Disk _).run d = (.ok text, d) :=
    congrArg (·, d) hread
  unfold Session.load
  rw [Task.result_bind_ok (Task.result_ask hask),
    Task.result_bind_ok (Task.result_settle rfl _),
    Task.result_bind_ok Task.result_get, hload]
  rfl

/-- What is selected from a document that has been loaded is what would be selected
from the document anew. -/
theorem result_select {loaded : Loaded} (h : loaded.graph.ReadFrom texts loaded.digest)
    (c : Criteria) (depth : Nat) :
    let direct := (c.select loaded.document u.config.defaults.listLimit).1
    ∃ v w, (Session.select c loaded : Task (StateM Disk) Failure Selection).result u d =
        ((.ok direct, v), d) ∧
      (if depth > 0 then Session.expand c loaded direct depth else Pure.pure direct :
          Task (StateM Disk) Failure Selection).result v d =
        ((.ok (c.expand (.ofDocument loaded.document) direct depth).selection, w),
          d) := by
  intro direct
  obtain ⟨origin, -, -, hparse⟩ := h.text
  obtain ⟨later, hlater⟩ := expand_exchange c (Document.names_nodup hparse) h.faithful
    (CallGraph.faithful_ofDocument loaded.document) rfl u.config.defaults.listLimit depth
  have hselection : (c.expand (.ofDocument loaded.document) direct depth).selection =
      (c.expand loaded.graph direct depth).selection := by
    have hsame := congrArg Expansion.selection hlater
    exact hsame
  rw [hselection]
  split
  · exact ⟨_, _, rfl, rfl⟩
  · next hdepth =>
      rw [Nat.eq_zero_of_not_pos hdepth, Criteria.expand_zero]
      exact ⟨_, _, rfl, rfl⟩

/-- What is drafted depends on nothing but the request, the defaults, the text of
the input and the time. On the disk nothing has changed, though a time may have been
told. -/
theorem result_draft (hu : u.Sound config texts) (htext : text ∈ texts)
    (hdigest : ∀ other ∈ texts,
      Digest.sha256 other = Digest.sha256 text → other = text)
    (hread : d.readText r.input = .ok text) :
    ∃ n v, (Session.draft r).result u d =
      ((r.draftOn config.defaults text (d.clock 0), v), d.later n) := by
  obtain ⟨rfl, hcache⟩ := hu
  have hask : (FileAccess.readText r.input : StateM Disk _).run d = (.ok text, d) :=
    congrArg (·, d) hread
  have hparse := hcache.load_eq_parse hdigest
  unfold Session.draft Request.draftOn
  rw [Task.result_bind_ok Task.result_get]
  dsimp only
  cases r.depthWith u.config.defaults with
  | error fault => exact ⟨0, u, rfl⟩
  | ok depth =>
      rw [Task.result_bind_ok (Task.result_settle rfl _)]
      cases r.criteriaWith u.config.defaults with
      | error fault => exact ⟨0, u, rfl⟩
      | ok c =>
          rw [Task.result_bind_ok (Task.result_settle rfl _)]
          cases hload : u.cache.load text with
          | error fault =>
              rw [hload] at hparse
              rw [Task.result_bind_error (result_load_error hread hload), ← hparse]
              exact ⟨0, u, rfl⟩
          | ok found =>
              obtain ⟨loaded, later⟩ := found
              rw [hload] at hparse
              rw [Task.result_bind_ok (Session.result_load hask hload), ← hparse]
              obtain ⟨hkey, hgraph, -⟩ := hcache.load htext hload
              obtain ⟨_, v, hselect, hexpand⟩ := result_select hgraph c depth
              rw [Task.result_bind_ok hselect, Task.result_bind_ok hexpand, ← hkey]
              show ∃ n w, _ = ((r.draftFrom u.config.defaults depth loaded.digest
                (d.clock 0) loaded.document (c.select loaded.document
                  u.config.defaults.listLimit).1 _, w), d.later n)
              generalize (c.expand (.ofDocument loaded.document) _ depth).selection =
                selection
              generalize (c.select loaded.document u.config.defaults.listLimit).1 = direct
              unfold Request.draftFrom
              cases selection.isEmpty with
              | false =>
                  obtain ⟨n, hmade⟩ := result_draftReport_bind _ loaded depth selection _
                  exact ⟨n, v, hmade⟩
              | true =>
                  cases r.failOnEmptyWith u.config.defaults with
                  | true => exact ⟨0, v, rfl⟩
                  | false =>
                      obtain ⟨n, hmade⟩ := result_draftReport_bind _ loaded depth
                        selection _
                      exact ⟨n, { v with events := v.events ++ [.nothingSelected] },
                        hmade⟩

/-! ## The time in a draft -/

/-- The text of a report if it had been made at some time. -/
def Report.textAt? (report : Report) (time : String) : Option String :=
  Report.text? { report with time }

/-- Whether a report can be put into words does not depend on the time. -/
theorem Report.exists_textAt? {report : Report} {time json : String}
    (h : report.textAt? time = some json) (time' : String) :
    ∃ json', report.textAt? time' = some json' := by
  unfold textAt? text? toJson? at h ⊢
  cases hinput : report.input.toString? with
  | none =>
      rw [hinput] at h
      cases h
  | some input =>
      cases houtput : report.output.toString? with
      | none =>
          rw [hinput, houtput] at h
          cases h
      | some output => exact ⟨_, rfl⟩

/-- The drafts differ at most in the times that their reports tell. -/
structure Draft.Retimed (draft draft' : Draft) (time time' : String) : Prop where
  output : draft'.output = draft.output
  text : draft'.text = draft.text
  outcome : draft'.outcome = draft.outcome
  report : (draft.report = none ∧ draft'.report = none) ∨
    ∃ path report json json', draft.report = some (path, json) ∧
      draft'.report = some (path, json') ∧
      Report.textAt? report time = some json ∧
      Report.textAt? report time' = some json'

theorem Draft.Retimed.paths {draft draft' : Draft} {time time' : String}
    (h : draft.Retimed draft' time time') :
    draft'.report.map Prod.fst = draft.report.map Prod.fst := by
  rcases h.report with ⟨hnone, hnone'⟩ | ⟨path, report, json, json', hsome, hsome', -, -⟩
  · rw [hnone, hnone']
  · rw [hsome, hsome']
    rfl

theorem exists_draftFrom {defaults : Defaults} {depth : Nat} {digest time : String}
    {doc : Document} {direct selection : Selection} {draft : Draft}
    (h : r.draftFrom defaults depth digest time doc direct selection = .ok draft)
    (time' : String) :
    ∃ draft', r.draftFrom defaults depth digest time' doc direct selection =
      .ok draft' ∧ draft.Retimed draft' time time' := by
  unfold Request.draftFrom Request.reportOn at h ⊢
  split at h
  · cases h
  · next hsome =>
      rw [if_neg hsome]
      cases hreport : r.report with
      | none =>
          rw [hreport] at h
          cases h
          exact ⟨_, rfl, rfl, rfl, rfl, .inl ⟨rfl, rfl⟩⟩
      | some path =>
          rw [hreport] at h
          dsimp only at h ⊢
          cases hjson : (Report.ofSelection r.input (r.outputWith defaults) digest time
              depth doc selection).text? with
          | none =>
              rw [hjson] at h
              cases h
          | some json =>
              rw [hjson] at h
              cases h
              have hat : Report.textAt? (Report.ofSelection r.input
                (r.outputWith defaults) digest time depth doc selection) time =
                  some json := hjson
              obtain ⟨json', hat'⟩ := Report.exists_textAt? hat time'
              have hjson' : (Report.ofSelection r.input (r.outputWith defaults) digest
                time' depth doc selection).text? = some json' := hat'
              rw [hjson']
              exact ⟨_, rfl, rfl, rfl, rfl,
                .inr ⟨path, _, json, json', rfl, rfl, hat, hat'⟩⟩

theorem mapError_eq_ok_iff {δ ε α : Type} {x : Except δ α} {f : δ → ε} {a : α} :
    x.mapError f = .ok a ↔ x = .ok a := by
  cases x with
  | error fault => simp [Except.mapError]
  | ok found => simp [Except.mapError]

theorem draftOn_eq_ok_iff {defaults : Defaults} {time : String} {draft : Draft} :
    r.draftOn defaults text time = .ok draft ↔ ∃ depth c doc,
      r.depthWith defaults = .ok depth ∧ r.criteriaWith defaults = .ok c ∧
      Document.parse text = .ok doc ∧
      r.draftFrom defaults depth (Digest.sha256 text) time doc
        (c.select doc defaults.listLimit).1
        (c.expand (.ofDocument doc) (c.select doc defaults.listLimit).1
          depth).selection = .ok draft := by
  simp only [Request.draftOn, bind_eq_ok_iff, mapError_eq_ok_iff, ← exists_and_left]

/-- At another time the same is drafted, but for the time in the report. -/
theorem exists_draftOn {defaults : Defaults} {time : String} {draft : Draft}
    (h : r.draftOn defaults text time = .ok draft) (time' : String) :
    ∃ draft', r.draftOn defaults text time' = .ok draft' ∧
      draft.Retimed draft' time time' := by
  obtain ⟨depth, c, doc, hdepth, hcriteria, hparse, hfrom⟩ := draftOn_eq_ok_iff.1 h
  obtain ⟨draft', hfrom', hsame⟩ := exists_draftFrom hfrom time'
  exact ⟨draft', draftOn_eq_ok_iff.2 ⟨depth, c, doc, hdepth, hcriteria, hparse, hfrom'⟩,
    hsame⟩

theorem paths_of_draftOn {defaults : Defaults} {time : String} {draft : Draft}
    (h : r.draftOn defaults text time = .ok draft) :
    draft.output = r.outputWith defaults ∧ draft.report.map Prod.fst = r.report := by
  obtain ⟨depth, c, doc, -, -, -, hfrom⟩ := draftOn_eq_ok_iff.1 h
  unfold Request.draftFrom at hfrom
  split at hfrom
  · cases hfrom
  · unfold Request.reportOn at hfrom
    cases hreport : r.report with
    | none =>
        rw [hreport] at hfrom
        cases hfrom
        exact ⟨rfl, rfl⟩
    | some path =>
        rw [hreport] at hfrom
        dsimp only at hfrom
        split at hfrom
        · cases hfrom
        · cases hfrom
          exact ⟨rfl, rfl⟩

/-! ## Writing a draft -/

namespace Draft

variable {draft draft' : Draft}

/-- On the same ground the draft lands if any draft for the same files does. -/
theorem Lands.transfer (h : draft.Lands d e) (hground : d.SameGround d')
    (houtput : draft'.output = draft.output)
    (hpaths : draft'.report.map Prod.fst = draft.report.map Prod.fst) :
    ∃ e', draft'.Lands d' e' := by
  unfold Lands at h ⊢
  cases hreport : draft.report with
  | none =>
      rw [hreport] at h hpaths
      rw [Option.map_none, Option.map_eq_none_iff] at hpaths
      obtain ⟨events, hreplace⟩ := h
      obtain ⟨e', hreplace', -⟩ := hground.replaceFile hreplace draft'.text
      rw [← houtput] at hreplace'
      rw [hpaths]
      exact ⟨e', _, hreplace'⟩
  | some report =>
      obtain ⟨path, json⟩ := report
      rw [hreport] at h hpaths
      obtain ⟨⟨_, json'⟩, hreport', rfl⟩ := Option.map_eq_some_iff.1 hpaths
      obtain ⟨staged, d₁, d₂, events, hmade, hreplace, hmoved⟩ := h
      obtain ⟨d₁', hmade', hground⟩ := hground.stage hmade json'
      obtain ⟨d₂', hreplace', hground⟩ := hground.replaceFile hreplace draft'.text
      obtain ⟨e', hmoved', -⟩ := hground.commit (Disk.isTemp_of_stage hmade) hmoved
      rw [← houtput] at hreplace'
      rw [hreport']
      exact ⟨e', staged, d₁', d₂', _, hmade', hreplace', hmoved'⟩

theorem Lands.sameSetting (h : draft.Lands d e) : d.SameSetting e := by
  unfold Lands at h
  split at h
  · obtain ⟨events, hreplace⟩ := h
    exact (Disk.KeepsSetting.replaceFile _ _).of_run hreplace
  · obtain ⟨staged, d₁, d₂, events, hmade, hreplace, hmoved⟩ := h
    exact (((Disk.KeepsSetting.stage _ _).of_run hmade).trans
      ((Disk.KeepsSetting.replaceFile _ _).of_run hreplace)).trans
      ((Disk.KeepsSetting.commit _).of_run hmoved)

/-! ## What lies where -/

/-- The path belongs to a file of the draft. -/
def Names (draft : Draft) (path : Path) : Prop :=
  path = draft.output ∨ ∃ json, draft.report = some (path, json)

/-- Written on a disk, the draft leaves `text` at `place`. Where output and report
are one file, the report is written last. -/
inductive Puts (draft : Draft) (d : Disk) (place : Location) : String → Prop
  | report {path : Path} {json : String} (hreport : draft.report = some (path, json))
      (hplace : d.resolve path = .ok place) : Puts draft d place json
  | output (hplace : d.resolve draft.output = .ok place)
      (hno : ∀ path json, draft.report = some (path, json) →
        d.resolve path ≠ .ok place) : Puts draft d place draft.text

theorem Puts.transfer {place : Location} (h : draft.Puts d place text)
    (hsame : d.SameDirectories d') : draft.Puts d' place text := by
  cases h with
  | report hreport hplace => exact .report hreport ((Disk.resolve_iff hsame).2 hplace)
  | output hplace hno =>
      exact .output ((Disk.resolve_iff hsame).2 hplace) fun path json hreport hlast =>
        hno path json hreport ((Disk.resolve_iff hsame).1 hlast)

theorem exists_puts_iff {place : Location} :
    (∃ text, draft.Puts d place text) ↔
      ∃ path, draft.Names path ∧ d.resolve path = .ok place := by
  constructor
  · intro h
    obtain ⟨text, hputs⟩ := h
    cases hputs with
    | report hreport hplace => exact ⟨_, .inr ⟨_, hreport⟩, hplace⟩
    | output hplace hno => exact ⟨_, .inl rfl, hplace⟩
  · intro h
    by_cases hreport : ∃ path json, draft.report = some (path, json) ∧
      d.resolve path = .ok place
    · obtain ⟨path, json, hreport, hplace⟩ := hreport
      exact ⟨json, .report hreport hplace⟩
    · obtain ⟨path, hnames, hplace⟩ := h
      rcases hnames with rfl | ⟨json, hsome⟩
      · exact ⟨draft.text, .output hplace fun path json hsome hresolve =>
          hreport ⟨path, json, hsome, hresolve⟩⟩
      · exact absurd ⟨path, json, hsome, hplace⟩ hreport

/-- No file of a draft lies where a temporary file may lie. -/
theorem Lands.not_temp (h : draft.Lands d e)
    (hplain : ∀ path, draft.Names path → path.Plain) {path : Path} {place : Location}
    (hnames : draft.Names path) (hplace : d.resolve path = .ok place)
    (base : Location) (n : Nat) : place ≠ base ++ [Disk.tempName n] := by
  have hpath := hplain path hnames
  unfold Lands at h
  split at h
  · next hreport =>
      obtain ⟨events, hreplace⟩ := h
      rcases hnames with rfl | ⟨json, hsome⟩
      · exact Disk.not_temp_of_replaceFile hreplace hpath hplace base n
      · rw [hreport] at hsome
        cases hsome
  · next target json hreport =>
      obtain ⟨staged, d₁, d₂, events, hmade, hreplace, hmoved⟩ := h
      have hstaged := (Disk.KeepsSetting.stage _ _).of_run hmade
      have hreplaced := hstaged.trans ((Disk.KeepsSetting.replaceFile _ _).of_run hreplace)
      rcases hnames with rfl | ⟨json', hsome⟩
      · exact Disk.not_temp_of_replaceFile hreplace hpath
          ((Disk.resolve_iff hstaged.toSameDirectories).2 hplace) base n
      · rw [hreport] at hsome
        cases hsome
        obtain ⟨-, rfl, -⟩ := Disk.made_of_stage hmade
        exact Disk.not_temp_of_commit hmoved hpath
          ((Disk.resolve_iff hreplaced.toSameDirectories).2 hplace) base n

theorem Lands.published (h : draft.Lands d e)
    (hplain : ∀ path, draft.Names path → path.Plain) :
    ∃ out, d.resolve draft.output = .ok out ∧ draft.Published d e out := by
  obtain ⟨v, hpublish⟩ := h.publish (.ofConfig .default)
  have hapart : ∀ place, draft.stagingPlace? d = some place →
      d.holdings.place? draft.output ≠ some place := by
    intro place hstaging hplace
    unfold stagingPlace? at hstaging
    split at hstaging
    · cases hstaging
    · split at hstaging
      · next staged d₁ hmade =>
          obtain ⟨directory, n, htemp⟩ := Disk.isTemp_of_stage hmade
          rw [htemp] at hstaging
          obtain ⟨base, rfl⟩ := Disk.resolve_temp (Disk.place?_holdings.1 hstaging)
          exact h.not_temp hplain (.inl rfl) (Disk.place?_holdings.1 hplace) base n rfl
      · cases hstaging
  obtain ⟨-, out, hout, hpublished⟩ := published_of_publish hapart hpublish
  exact ⟨out, Disk.place?_holdings.1 hout, hpublished⟩

/-- After its writes the files of a draft are there, and all others are as they
were. -/
theorem Lands.files (h : draft.Lands d e)
    (hplain : ∀ path, draft.Names path → path.Plain) (place : Location) :
    (∀ text, draft.Puts d place text → e.file? place = some text.toUTF8) ∧
      ((∀ text, ¬ draft.Puts d place text) → e.file? place = d.file? place) := by
  obtain ⟨out, hout, hpublished⟩ := h.published hplain
  unfold Published at hpublished
  cases hreport : draft.report with
  | none =>
      rw [hreport] at hpublished
      have hview : e.holdings = d.holdings.put out (some draft.text.toUTF8) := hpublished
      constructor
      · intro text hputs
        cases hputs with
        | report hsome hplace =>
            rw [hreport] at hsome
            cases hsome
        | output hplace hno =>
            rw [hout] at hplace
            cases hplace
            show e.holdings.files place = _
            rw [hview, Holdings.files_put_self]
      · intro hnone
        have hne : place ≠ out := by
          rintro rfl
          refine hnone _ (.output hout fun path json hsome => ?_)
          rw [hreport] at hsome
          cases hsome
        show e.holdings.files place = _
        rw [hview, Holdings.files_put_of_ne _ hne]
        rfl
  | some report =>
      obtain ⟨path, json⟩ := report
      rw [hreport] at hpublished
      obtain ⟨last, hlast, hfiles⟩ := hpublished
      have hlast : d.resolve path = .ok last := Disk.place?_holdings.1 hlast
      have hview : e.holdings = (d.holdings.put out (some draft.text.toUTF8)).put last
        (some json.toUTF8) := hfiles
      constructor
      · intro text hputs
        show e.holdings.files place = _
        rw [hview]
        cases hputs with
        | report hsome hplace =>
            rw [hreport] at hsome
            cases hsome
            rw [hlast] at hplace
            cases hplace
            exact Holdings.files_put_self ..
        | output hplace hno =>
            rw [hout] at hplace
            cases hplace
            have hne : place ≠ last := by
              rintro rfl
              exact hno path json hreport hlast
            rw [Holdings.files_put_of_ne _ hne, Holdings.files_put_self]
      · intro hnone
        have hne : place ≠ last := by
          rintro rfl
          exact hnone _ (.report hreport hlast)
        have hne' : place ≠ out := by
          rintro rfl
          refine hnone _ (.output hout fun path' json' hsome hplace => ?_)
          rw [hreport] at hsome
          cases hsome
          rw [hlast] at hplace
          cases hplace
          exact hne rfl
        show e.holdings.files place = _
        rw [hview, Holdings.files_put_of_ne _ hne, Holdings.files_put_of_ne _ hne']
        rfl

theorem Lands.sameGround (h : draft.Lands d e)
    (hplain : ∀ path, draft.Names path → path.Plain) : d.SameGround e := by
  refine ⟨h.sameSetting.toSameDirectories, fun base n => ?_⟩
  refine congrArg Option.isSome ((h.files hplain (base ++ [Disk.tempName n])).2 ?_)
  intro text hputs
  obtain ⟨path, hnames, hplace⟩ := exists_puts_iff.1 ⟨text, hputs⟩
  exact h.not_temp hplain hnames hplace base n rfl

end Draft

end IrExcerpt
