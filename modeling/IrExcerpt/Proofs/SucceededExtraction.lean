import IrExcerpt.Proofs.ReportEntries
import IrExcerpt.Proofs.ReportTexts
import IrExcerpt.Proofs.SharedCache

/-!
# What an extraction that succeeds leaves behind

An extraction that succeeds has made three things: an excerpt, a report if one
was asked for, and the figures it returns. They are computed apart from each
other, and they must tell the same story.

They do because all three come from one draft. The first half of this file
takes a successful draft apart, task by task, down to the text that was read;
by then the session does not matter any more, since what it loads is what
parsing gives. The second half follows the draft to the files. The excerpt ends
up at the output, the report behind it, and no other file has changed. There is
one trap: between being staged and being moved, the report lies in a temporary
file, and nothing forbids that the output is this very file. Then the excerpt
would be moved away as the report. So the place where the report waits is named
(`Request.stagingPlace?`), and must not be that of the output.
-/

namespace IrExcerpt

open LawfulFiles (view)

variable {σ ε α β δ : Type}

/-! ## Drafts -/

section Drafts

variable {u v : Session} {s s₁ : σ}

/-- If two tasks succeed one behind the other, both succeed. -/
theorem Task.ok_of_bind {t : Task (StateM σ) ε α}
    {f : α → Task (StateM σ) ε β} {b : β}
    (h : (t >>= f).result u s = ((.ok b, v), s₁)) :
    ∃ a u₁ s₂, t.result u s = ((.ok a, u₁), s₂) ∧
      (f a).result u₁ s₂ = ((.ok b, v), s₁) := by
  obtain ⟨e, u₁, s₂, -, hbind⟩ | ⟨a, u₁, s₂, hrun, hbind⟩ :=
    Task.result_bind_cases t f u s
  · rw [hbind] at h
    cases h
  · rw [hbind] at h
    exact ⟨a, u₁, s₂, hrun, h⟩

theorem Session.ok_of_settle {asFailure : δ → Failure} {x : Except δ α} {a : α}
    (h : (Session.settle asFailure x : Task (StateM σ) Failure α).result u s =
      ((.ok a, v), s₁)) : x = .ok a ∧ v = u ∧ s₁ = s := by
  cases x with
  | error e => cases h
  | ok a =>
      cases h
      exact ⟨rfl, rfl, rfl⟩

theorem Session.ok_of_select {c : Criteria} {loaded : Loaded} {direct : Selection}
    (h : (Session.select c loaded : Task (StateM σ) Failure Selection).result u s =
      ((.ok direct, v), s₁)) :
    direct = (c.select loaded.document u.config.defaults.listLimit).1 := by
  cases h
  rfl

/-- Whether calls are followed up to depth zero or not at all is the same. -/
theorem Session.ok_of_expand {c : Criteria} {loaded : Loaded} {depth : Nat}
    {direct selection : Selection}
    (h : (if depth > 0 then Session.expand c loaded direct depth
        else Pure.pure direct : Task (StateM σ) Failure Selection).result u s =
      ((.ok selection, v), s₁)) :
    selection = (c.expand loaded.graph direct depth).selection := by
  split at h
  · cases h
    rfl
  · next hdepth =>
      cases h
      rw [Nat.eq_zero_of_not_pos hdepth, Criteria.expand_zero]

theorem Session.ok_of_ask {action : StateM σ α} {a : α}
    (h : (Session.ask action : Task (StateM σ) ε α).result u s =
      ((.ok a, v), s₁)) : action.run s = (a, s₁) ∧ v = u := by
  change ((Except.ok (action.run s).1, u), (action.run s).2) = _ at h
  cases h
  exact ⟨rfl, rfl⟩

variable [FileAccess (StateM σ)]

theorem Session.ok_of_load {input : Path} {loaded : Loaded}
    (h : (Session.load input).result u s = ((.ok loaded, v), s₁)) :
    ∃ text later, ((FileAccess.readText input : StateM σ _).run s).1 = .ok text ∧
      u.cache.load text = .ok (loaded, later) ∧ v.config = u.config := by
  unfold Session.load at h
  obtain ⟨answer, _, s₂, hask, h₁⟩ := Task.ok_of_bind h
  obtain ⟨hanswer, rfl⟩ := Session.ok_of_ask hask
  obtain ⟨text, _, _, hsettle, h₂⟩ := Task.ok_of_bind h₁
  obtain ⟨rfl, rfl, rfl⟩ := Session.ok_of_settle hsettle
  obtain ⟨_, _, _, hget, h₃⟩ := Task.ok_of_bind h₂
  cases hget
  obtain ⟨⟨found, later⟩, _, _, hsettle', h₄⟩ := Task.ok_of_bind h₃
  obtain ⟨hload, rfl, rfl⟩ := Session.ok_of_settle hsettle'
  cases h₄
  exact ⟨text, later, by rw [hanswer], hload, rfl⟩

theorem Session.ok_of_draftReport {r : Request} {output : Path}
    {loaded : Loaded} {depth : Nat} {selection : Selection}
    {report : Option (Path × String)}
    (h : (Session.draftReport r output loaded depth selection).result u s =
      ((.ok report, v), s₁)) :
    report.map Prod.fst = r.report ∧ ∀ path json, report = some (path, json) →
      ∃ time, (Report.ofSelection r.input output loaded.digest time depth
        loaded.document selection).text? = some json := by
  unfold Session.draftReport at h
  split at h
  · next hnone =>
      cases h
      exact ⟨hnone.symm, fun _ _ hsome => by cases hsome⟩
  · next path hpath =>
      obtain ⟨time, u₁, s₂, -, h⟩ := Task.ok_of_bind h
      split at h
      · cases h
      · next json hjson =>
          cases h
          refine ⟨hpath.symm, fun _ _ hsome => ?_⟩
          cases hsome
          exact ⟨time, hjson⟩

/-- The draft says what comes of a request: `direct` is selected directly and
`selection` up to `depth`, in the document that has been loaded. -/
structure Draft.Records (d : Draft) (r : Request) (defaults : Defaults)
    (loaded : Loaded) (depth : Nat) (direct selection : Selection) :
    Prop where
  output : d.output = r.outputWith defaults
  text : d.text = Excerpt.render loaded.document selection
  outcome : d.outcome = {
    count := selection.size
    output := r.outputWith defaults
    figures := {
      parsed := loaded.document.functionCount
      selected := direct.size
      expanded := selection.size - direct.size
      external := selection.external.length } }
  report : d.report.map Prod.fst = r.report
  json : ∀ path json, d.report = some (path, json) →
    ∃ time, (Report.ofSelection r.input (r.outputWith defaults) loaded.digest
      time depth loaded.document selection).text? = some json

theorem Session.ok_of_draft {r : Request} {d : Draft}
    (h : (Session.draft r).result u s = ((.ok d, v), s₁)) :
    ∃ depth c text loaded later direct,
      r.depthWith u.config.defaults = .ok depth ∧
      r.criteriaWith u.config.defaults = .ok c ∧
      ((FileAccess.readText r.input : StateM σ _).run s).1 = .ok text ∧
      u.cache.load text = .ok (loaded, later) ∧
      direct = (c.select loaded.document u.config.defaults.listLimit).1 ∧
      d.Records r u.config.defaults loaded depth direct
        (c.expand loaded.graph direct depth).selection := by
  unfold Session.draft at h
  obtain ⟨_, _, _, hget, h₁⟩ := Task.ok_of_bind h
  cases hget
  obtain ⟨depth, _, _, hsettle, h₂⟩ := Task.ok_of_bind h₁
  obtain ⟨hdepth, rfl, rfl⟩ := Session.ok_of_settle hsettle
  obtain ⟨c, _, _, hsettle', h₃⟩ := Task.ok_of_bind h₂
  obtain ⟨hcriteria, rfl, rfl⟩ := Session.ok_of_settle hsettle'
  obtain ⟨loaded, u₁, s₂, hloading, h₄⟩ := Task.ok_of_bind h₃
  obtain ⟨text, later, hread, hload, hconfig⟩ := Session.ok_of_load hloading
  obtain ⟨direct, u₂, s₃, hselect, h₅⟩ := Task.ok_of_bind h₄
  have hdirect := Session.ok_of_select hselect
  rw [hconfig] at hdirect
  obtain ⟨selection, u₃, s₄, hexpand, h₅⟩ := Task.ok_of_bind h₅
  obtain rfl := Session.ok_of_expand hexpand
  refine ⟨depth, c, text, loaded, later, direct, hdepth, hcriteria, hread, hload,
    hdirect, ?_⟩
  dsimp only at h₅
  split at h₅
  · split at h₅
    · obtain ⟨_, _, _, hthrow, -⟩ := Task.ok_of_bind h₅
      cases hthrow
    · obtain ⟨_, _, _, -, h₆⟩ := Task.ok_of_bind h₅
      obtain ⟨report, _, _, hreport, hdraft⟩ := Task.ok_of_bind h₆
      obtain ⟨hpath, hjson⟩ := Session.ok_of_draftReport hreport
      cases hdraft
      exact ⟨rfl, rfl, rfl, hpath, hjson⟩
  · obtain ⟨report, _, _, hreport, hdraft⟩ := Task.ok_of_bind h₅
    obtain ⟨hpath, hjson⟩ := Session.ok_of_draftReport hreport
    cases hdraft
    exact ⟨rfl, rfl, rfl, hpath, hjson⟩

/-- The figures count what the input and the excerpt hold. -/
structure Outcome.Counts (outcome : Outcome) (input excerpt : Document) :
    Prop where
  count : excerpt.functionCount = outcome.count
  sum : outcome.count = outcome.figures.selected + outcome.figures.expanded
  parsed : outcome.figures.parsed = input.functionCount
  count_le : outcome.count ≤ outcome.figures.parsed

/-- What is drafted, counted and reported is one and the same excerpt. -/
theorem agree_of_draft {config : Config} {texts : Set String} {r : Request}
    {d : Draft} {text : String} (hu : u.Sound config texts)
    (htext : text ∈ texts)
    (hdigest : ∀ other ∈ texts,
      Digest.sha256 other = Digest.sha256 text → other = text)
    (hread : ((FileAccess.readText r.input : StateM σ _).run s).1 = .ok text)
    (hreturn : ∀ line ∈ Text.lines text, Text.endsInReturn line = false)
    (h : (Session.draft r).result u s = ((.ok d, v), s₁)) :
    d.output = r.outputWith config.defaults ∧
    d.report.map Prod.fst = r.report ∧
    ∃ input excerpt depth c, Document.parse text = .ok input ∧
      Document.parse d.text = .ok excerpt ∧
      r.depthWith config.defaults = .ok depth ∧
      r.criteriaWith config.defaults = .ok c ∧
      d.outcome.Counts input excerpt ∧
      ∀ path json, d.report = some (path, json) →
        ∃ report : Report, report.text? = some json ∧
          report.Describes text c depth input excerpt d.outcome.figures := by
  obtain ⟨depth, c, text', loaded, later, direct, hdepth, hcriteria, hread',
    hload, hdirect, hd⟩ := Session.ok_of_draft h
  rw [hread] at hread'
  cases hread'
  rw [hu.config] at hdepth hcriteria hdirect hd
  obtain ⟨-, hgraph, -⟩ := hu.cache.load htext hload
  have hparse : Document.parse text = .ok loaded.document := by
    rw [← hu.cache.load_eq_parse hdigest, hload]
    rfl
  have hnodup := Document.names_nodup hparse
  have hzero := layered_select c loaded.document config.defaults.listLimit
  have hgrown := layered_expand hnodup c config.defaults.listLimit
    hgraph.faithful rfl depth
  rw [← hdirect] at hzero hgrown
  obtain ⟨excerpt, hexcerpt, hback⟩ := Document.readBack_render hparse
    (Document.cleanLines_of_parse hparse hreturn)
    (c.expand loaded.graph direct depth).selection
  refine ⟨hd.output, hd.report, loaded.document, excerpt, depth, c, hparse, ?_,
    hdepth, hcriteria, ?_, fun path json hjson => ?_⟩
  · rw [hd.text]
    exact hexcerpt
  · have hsmall := hgrown.size_le hzero hnodup
    have hlarge := hgrown.size_le_functionCount hnodup
    rw [hd.outcome]
    refine ⟨hgrown.functionCount_of_readBack hnodup hback, ?_, rfl, hlarge⟩
    exact (Nat.add_sub_of_le hsmall).symm
  · obtain ⟨time, htime⟩ := hd.json path json hjson
    refine ⟨_, htime, ?_⟩
    rw [hd.outcome]
    exact Report.describes_ofSelection hparse hgrown hzero hback rfl rfl ..

end Drafts

/-! ## Writes -/

section Writes

variable [FileAccess (StateM σ)] {u v : Session} {s s' : σ}

/-- All writes of the draft succeed, and they lead from `s` to `s'`. -/
def Draft.Lands (d : Draft) (s s' : σ) : Prop :=
  match d.report with
  | none => ∃ events, (replaceFile d.output d.text : StateM σ _).run s =
      ((.ok (), events), s')
  | some (path, json) => ∃ staged s₁ s₂ events,
      (stage path json : StateM σ _).run s = (.ok staged, s₁) ∧
      (replaceFile d.output d.text : StateM σ _).run s₁ = ((.ok (), events), s₂) ∧
      (staged.commit : StateM σ _).run s₂ = (.ok (), s')

theorem Draft.lands_of_publish {d : Draft} {outcome : Outcome}
    (h : (Session.publish d).result u s = ((.ok outcome, v), s')) :
    outcome = d.outcome ∧ d.Lands s s' := by
  unfold Session.publish at h
  obtain ⟨waiting, u₁, s₁, hstage, h⟩ := Task.ok_of_bind h
  obtain ⟨⟨written, events⟩, u₂, s₂, hask, h⟩ := Task.ok_of_bind h
  obtain ⟨_, u₃, s₃, htell, h⟩ := Task.ok_of_bind h
  obtain ⟨hreplace, -⟩ := Session.ok_of_ask hask
  cases htell
  cases written with
  | error reason =>
      obtain ⟨_, _, _, -, hthrow⟩ := Task.ok_of_bind h
      cases hthrow
  | ok _ =>
      obtain ⟨_, _, s₄, hcommit, hpure⟩ := Task.ok_of_bind h
      cases hpure
      refine ⟨rfl, ?_⟩
      unfold Draft.Lands
      cases hreport : d.report with
      | none =>
          rw [hreport] at hstage
          cases hstage
          cases hcommit
          exact ⟨events, hreplace⟩
      | some report =>
          obtain ⟨path, json⟩ := report
          rw [hreport] at hstage
          obtain ⟨made, _, _, hask, hstage⟩ := Task.ok_of_bind hstage
          obtain ⟨hmade, -⟩ := Session.ok_of_ask hask
          obtain ⟨staged, _, _, hsettle, hstage⟩ := Task.ok_of_bind hstage
          obtain ⟨rfl, -, rfl⟩ := Session.ok_of_settle hsettle
          cases hstage
          obtain ⟨moved, _, _, hask, hsettle⟩ := Task.ok_of_bind hcommit
          obtain ⟨hmoved, -⟩ := Session.ok_of_ask hask
          obtain ⟨rfl, -, rfl⟩ := Session.ok_of_settle hsettle
          exact ⟨staged, s₁, s₂, events, hmade, hreplace, hmoved⟩

theorem Draft.Lands.publish {d : Draft} (h : d.Lands s s') (u : Session) :
    ∃ v, (Session.publish d).result u s = ((.ok d.outcome, v), s') := by
  unfold Draft.Lands at h
  split at h
  · next hreport =>
      obtain ⟨events, hreplace⟩ := h
      have hstage : (Session.stageReport d.report).result u s = ((.ok none, u), s) := by
        rw [hreport]
        rfl
      rw [result_publish hstage hreplace]
      exact ⟨_, rfl⟩
  · next path json hreport =>
      obtain ⟨staged, s₁, s₂, events, hmade, hreplace, hmoved⟩ := h
      have hstage : (Session.stageReport d.report).result u s =
          ((.ok (some staged), u), s₁) := by
        rw [hreport, result_stageReport_some hmade]
        rfl
      rw [result_publish hstage hreplace]
      exact ⟨_, Task.result_bind_ok (result_commitReport_some hmoved) _⟩

end Writes

/-! ## Files -/

section Files

variable [FileAccess (StateM σ)] [LawfulFiles σ] {u v : Session} {s s₁ s' : σ}

/-- Where the report lies while the excerpt is written. -/
def Draft.stagingPlace? (d : Draft) (s : σ) : Option Location :=
  match d.report with
  | none => none
  | some (path, json) =>
    match (stage path json : StateM σ _).run s with
    | (.ok staged, _) => (view s).place? staged.temp
    | (.error _, _) => none

/-- The files of a draft that has been written. -/
def Draft.Published (d : Draft) (s s' : σ) (out : Location) : Prop :=
  match d.report with
  | none => view s' = (view s).put out (some d.text.toUTF8)
  | some (path, json) => ∃ place, (view s).place? path = some place ∧
      view s' = ((view s).put out (some d.text.toUTF8)).put place
        (some json.toUTF8)

/-- What lies where, if output and report are different files. -/
structure Draft.Written (d : Draft) (s s' : σ) (out : Location) : Prop where
  text : (view s').files out = some d.text.toUTF8
  report : ∀ path json, d.report = some (path, json) →
    ∃ place, (view s).place? path = some place ∧
      (view s').files place = some json.toUTF8
  others : ∀ place, place ≠ out →
    (∀ path json, d.report = some (path, json) →
      (view s).place? path ≠ some place) →
    (view s').files place = (view s).files place

theorem Draft.Published.written {d : Draft} {out : Location}
    (h : d.Published s s' out)
    (hapart : ∀ path json, d.report = some (path, json) →
      (view s).place? path ≠ some out) : d.Written s s' out := by
  cases hreport : d.report with
  | none =>
      rw [Draft.Published, hreport] at h
      refine ⟨?_, fun path json hsome => ?_, fun place hne _ => ?_⟩
      · rw [h, Holdings.files_put_self]
      · rw [hreport] at hsome
        cases hsome
      · rw [h, Holdings.files_put_of_ne _ hne]
  | some report =>
      obtain ⟨path, json⟩ := report
      rw [Draft.Published, hreport] at h
      obtain ⟨place, hplace, h⟩ := h
      have hne : out ≠ place := by
        rintro rfl
        exact hapart path json hreport hplace
      refine ⟨?_, fun path' json' hsome => ?_, fun other hother hno => ?_⟩
      · rw [h, Holdings.files_put_of_ne _ hne, Holdings.files_put_self]
      · rw [hreport] at hsome
        cases hsome
        exact ⟨place, hplace, by rw [h, Holdings.files_put_self]⟩
      · have hother' : other ≠ place := by
          rintro rfl
          exact hno path json hreport hplace
        rw [h, Holdings.files_put_of_ne _ hother',
          Holdings.files_put_of_ne _ hother]

/-- A report that is moved takes nothing along but the trace of its waiting. -/
theorem view_of_commit_staged {staged : Staged} {json : String}
    {temp out : Location} {text : ByteArray} {s₂ : σ}
    (hholds : staged.Holds json s s₁ temp) (hne : temp ≠ out)
    (hview : view s₂ = (view s₁).put out (some text))
    (h : (staged.commit : StateM σ _).run s₂ = (.ok (), s')) :
    ∃ place, (view s).place? staged.target = some place ∧
      view s' = ((view s).put out (some text)).put place
        (some json.toUTF8) := by
  rw [hholds.view] at hview
  have hcontent : (view s₂).files temp = some json.toUTF8 := by
    rw [hview, Holdings.put_comm _ hne, Holdings.files_put_self]
  have hcommit := view_of_commit h (by rw [hview]; exact hholds.place)
  obtain ⟨place, hplace, hview'⟩ := hcommit _ hcontent
  rw [hview] at hplace hview'
  have hfree : ((view s).put out (some text)).files temp = none := by
    rw [Holdings.files_put_of_ne _ hne]
    exact hholds.free
  refine ⟨place, hplace, ?_⟩
  rw [hview', Holdings.put_comm _ hne, Holdings.put_put_none hfree]

theorem published_of_publish {d : Draft} {outcome : Outcome}
    (hapart : ∀ place, d.stagingPlace? s = some place →
      (view s).place? d.output ≠ some place)
    (h : (Session.publish d).result u s = ((.ok outcome, v), s')) :
    outcome = d.outcome ∧ ∃ out, (view s).place? d.output = some out ∧
      d.Published s s' out := by
  obtain ⟨houtcome, hlands⟩ := Draft.lands_of_publish h
  refine ⟨houtcome, ?_⟩
  unfold Draft.Lands at hlands
  cases hreport : d.report with
  | none =>
      rw [hreport] at hlands
      obtain ⟨events, hreplace⟩ := hlands
      obtain ⟨out, hout, hview⟩ := replaced_replaceFile hreplace
      refine ⟨out, hout, ?_⟩
      rw [Draft.Published, hreport]
      exact hview
  | some report =>
      obtain ⟨path, json⟩ := report
      rw [hreport] at hlands
      obtain ⟨staged, s₁, s₂, events, hmade, hreplace, hmoved⟩ := hlands
      obtain ⟨htarget, temp, hholds⟩ := view_of_stage hmade
      obtain ⟨out, hout, hview⟩ := replaced_replaceFile hreplace
      have hplace : (view s).place? d.output = some out := by
        rw [hholds.view] at hout
        exact hout
      have hstaging : d.stagingPlace? s = some temp := by
        simp only [Draft.stagingPlace?, hreport, hmade]
        exact hholds.place
      -- The report waits apart from the output, so it is still there when the
      -- excerpt is in place.
      have hne : temp ≠ out := by
        rintro rfl
        exact hapart temp hstaging hplace
      refine ⟨out, hplace, ?_⟩
      rw [Draft.Published, hreport]
      obtain ⟨place, htarget', hview'⟩ := view_of_commit_staged hholds hne hview hmoved
      rw [htarget] at htarget'
      exact ⟨place, htarget', hview'⟩

/-- Where the report of a request lies while the excerpt is written. -/
def Request.stagingPlace? (r : Request) (u : Session) (s : σ) :
    Option Location :=
  match (Session.draft r).result u s with
  | ((.ok d, _), s₁) => d.stagingPlace? s₁
  | ((.error _, _), _) => none

/-- Output, report and figures describe the same extraction. Let an extraction
succeed in a session that may have been used before, but not for another text
with the digest of the one that is read now. Let no line of this text end in a
carriage return, let output and report be different files, and let the report not
wait in the place of the output. Then the output is a document with as many
functions as were counted; what is read from the report file lists them in order,
with the lines of the text that they consist of; and no other file has changed. -/
theorem agree_of_extract {config : Config} {texts : Set String} {r : Request}
    {outcome : Outcome} {text : String} (hused : Used σ config texts u)
    (h : (Session.extract r).result u s = ((.ok outcome, v), s'))
    (hread : ((FileAccess.readText r.input : StateM σ _).run s).1 = .ok text)
    (hdigest : ∀ other ∈ texts,
      Digest.sha256 other = Digest.sha256 text → other = text)
    (hreturn : ∀ line ∈ Text.lines text, Text.endsInReturn line = false)
    (hreport : ∀ path, r.report = some path → (view s).place? path ≠
      (view s).place? (r.outputWith config.defaults))
    (hstaging : ∀ place, r.stagingPlace? u s = some place →
      (view s).place? (r.outputWith config.defaults) ≠ some place) :
    ∃ input excerpt written depth c out,
      Document.parse text = .ok input ∧
      r.depthWith config.defaults = .ok depth ∧
      r.criteriaWith config.defaults = .ok c ∧
      (view s).place? (r.outputWith config.defaults) = some out ∧
      (view s').files out = some (String.toUTF8 written) ∧
      Document.parse written = .ok excerpt ∧
      outcome.Counts input excerpt ∧
      (∀ path, r.report = some path → ∃ (place : Location) (report : Report)
        (json : String), (view s).place? path = some place ∧
          (view s').files place = some json.toUTF8 ∧
          Report.read? json = some report ∧ report.text? = some json ∧
          report.Describes text c depth input excerpt outcome.figures) ∧
      ∀ place, place ≠ out →
        (∀ path, r.report = some path →
          (view s).place? path ≠ some place) →
        (view s').files place = (view s).files place := by
  have hu : u.Sound config (insert text texts) :=
    hused.sound (Set.subset_insert text texts)
  unfold Session.extract at h
  obtain ⟨d, u₁, s₁, hdraft, hpublish⟩ := Task.ok_of_bind h
  have hview := view_of_draft hdraft
  obtain ⟨houtput, hpath, input, excerpt, depth, c, hinput, hexcerpt, hdepth,
    hcriteria, hcounts, hdescribes⟩ :=
    agree_of_draft hu (Set.mem_insert text texts)
      (fun other hother hsame => hother.elim id fun hother =>
        hdigest other hother hsame) hread hreturn hdraft
  obtain ⟨houtcome, out, hout, hpublished⟩ := published_of_publish
    (fun place hplace => by
      rw [hview, houtput]
      exact hstaging place (by rw [Request.stagingPlace?, hdraft]; exact hplace))
    hpublish
  have hpaths : ∀ {path}, r.report = some path ↔
      ∃ json, d.report = some (path, json) := by
    intro path
    rw [← hpath, Option.map_eq_some_iff]
    simp
  rw [hview, houtput] at hout
  have hwritten : d.Written s₁ s' out := by
    refine hpublished.written fun path json hjson => ?_
    rw [hview, ← hout]
    exact hreport path (hpaths.2 ⟨json, hjson⟩)
  rw [← houtcome] at hcounts hdescribes
  refine ⟨input, excerpt, d.text, depth, c, out, hinput, hdepth, hcriteria, hout,
    hwritten.text, hexcerpt, hcounts, fun path hsome => ?_,
    fun place hne hno => ?_⟩
  · obtain ⟨json, hjson⟩ := hpaths.1 hsome
    obtain ⟨report, hreport, hdescribed⟩ := hdescribes path json hjson
    obtain ⟨place, hplace, hfile⟩ := hwritten.report path json hjson
    rw [hview] at hplace
    exact ⟨place, report, json, hplace, hfile, Report.read?_of_text? hreport,
      hreport, hdescribed⟩
  · rw [← hview] at hno ⊢
    exact hwritten.others place hne fun path json hjson =>
      hno path (hpaths.2 ⟨json, hjson⟩)

end Files

/-! ## An extraction with a report -/

/-- A function that calls another one, which calls what is nowhere defined. -/
def chainText : String :=
  "define void @a() \x7b\n  call void @b()\n\x7d\n" ++
  "define void @b() \x7b\n  call void @p()\n\x7d\n"

theorem agree_of_extract_sample :
    let r := { reportRequest with depth := some 2 }
    let u := ((Session.graph r.input ["a"] 0).result (.ofConfig .default)
      (diskWith plainText)).1.2
    let s := diskWith chainText
    let run := (Session.extract r).result u s
    run.1.1.toOption = some ⟨2, .ofString "out.ll", ⟨2, 1, 1, 1⟩⟩ ∧
      ∃ (written json : String) (excerpt : Document) (report : Report),
        (view run.2).files (.named "out.ll") = some written.toUTF8 ∧
        Document.parse written = .ok excerpt ∧ excerpt.functionCount = 2 ∧
        (view run.2).files (.named "out.json") = some json.toUTF8 ∧
        Report.read? json = some report ∧ report.text? = some json ∧
        (report.functions.filter fun e => e.depth == 0).length = 1 ∧
        (view run.2).files (.named "in.ll") = some chainText.toUTF8 := by
  intro r u s run
  have hused : Used Disk .default _ u :=
    Used.new.graph r.input ["a"] 0 (diskWith plainText)
  have hrun : run.1.1.toOption =
        some ⟨2, .ofString "out.ll", ⟨2, 1, 1, 1⟩⟩ ∧
      r.stagingPlace? u s ≠ (view s).place? (.ofString "out.ll") := by
    decide +kernel
  have hplaces : (view s).place? (.ofString "out.ll") =
        some (.named "out.ll") ∧
      (view s).place? (.ofString "out.json") = some (.named "out.json") := by
    decide +kernel
  have hread : (s.readText r.input).toOption = some chainText := by
    decide +kernel
  have hearlier : ((diskWith plainText).readText r.input).toOption =
      some plainText := by
    decide +kernel
  have hreturn : ∀ line ∈ Text.lines chainText,
      Text.endsInReturn line = false := by
    decide +kernel
  have hdigest : Digest.sha256 plainText ≠ Digest.sha256 chainText := by
    decide +kernel
  have hextract : run =
      ((.ok ⟨2, .ofString "out.ll", ⟨2, 1, 1, 1⟩⟩, run.1.2), run.2) := by
    rw [← ok_of_toOption hrun.1]
  have hapart : ∀ path, r.report = some path →
      (view s).place? path ≠ (view s).place? (.ofString "out.ll") := by
    rintro _ ⟨⟩
    rw [hplaces.1, hplaces.2]
    decide +kernel
  have hothers : ∀ other ∈ (∅ ∪ {text | GraphLoads r.input ["a"]
        (diskWith plainText) text} : Set String),
      Digest.sha256 other = Digest.sha256 chainText → other = chainText := by
    rintro other (hnone | ⟨-, hloads⟩) hsame
    · cases hnone
    · have hother : Except.ok plainText = Except.ok other :=
        (ok_of_toOption hearlier).symm.trans hloads
      cases hother
      exact absurd hsame hdigest
  obtain ⟨input, excerpt, written, depth, c, out, -, -, -, hout, hwritten,
      hexcerpt, hcounts, hreports, hrest⟩ :=
    agree_of_extract hused hextract (ok_of_toOption hread) hothers hreturn hapart
      fun place hplace hout => hrun.2 (hplace.trans hout.symm)
  obtain ⟨place, report, json, hplace, hjson, hback, htext, hdescribes⟩ :=
    hreports (.ofString "out.json") rfl
  have hout : some (Location.named "out.ll") = some out :=
    hplaces.1.symm.trans hout
  cases hout
  rw [hplaces.2] at hplace
  cases hplace
  refine ⟨hrun.1, written, json, excerpt, report, hwritten, hexcerpt,
    hcounts.count, hjson, hback, htext, hdescribes.direct, ?_⟩
  have hsame := hrest (.named "in.ll") (by decide +kernel) (by
    rintro _ ⟨⟩
    rw [hplaces.2]
    decide +kernel)
  rw [hsame]
  decide +kernel

end IrExcerpt
