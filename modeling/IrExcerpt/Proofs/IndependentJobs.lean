import IrExcerpt.Proofs.Drafts
import IrExcerpt.Proofs.Jobs

/-!
# Independent jobs

Jobs are run one after the other on one disk, with one cache, and each could spoil
what the next one finds. Jobs are independent if none of them writes a file that
another one reads or writes; the disk on which they start tells, because
directories stay.

A run is compared with the disk on which it started. If independent jobs succeed
one after the other, then each would have succeeded on that disk as well, as the
first of them (`succeed_of_mapM_runJob`). And jobs that succeed there succeed one
after the other in any order (`mapM_runJob_of_succeed`). Both go by induction on
the jobs, with the same invariant: the ground is the one of the start, and the
inputs of the jobs to come have not changed. `JobsLead` collects what the jobs
have left, place by place, and the order does not appear in it. The clock goes on
while jobs are run, so every job has a time of its own, and in another order it may
have another one; but times show in nothing but reports.
-/

namespace IrExcerpt

variable {config : Config} {defaults : Defaults} {texts : Set String}
  {u v : Session} {d d' d₁ e : Disk} {r : Request} {text : String} {outcome : Outcome}

/-! ## Reading -/

namespace Disk

theorem readText_eq_ok_iff {p : Path} :
    d.readText p = .ok text ↔ ∃ place content, d.resolve p = .ok place ∧
      d.file? place = some content ∧ String.fromUTF8? content = some text := by
  unfold readText
  rw [bind_eq_ok_iff]
  refine exists_congr fun place => ?_
  constructor
  · intro h
    obtain ⟨hplace, h⟩ := h
    split at h
    · cases h
    · cases h
    · next content hcontent =>
        split at h
        · next found hfound =>
            cases h
            exact ⟨content, hplace, files_holdings.2 hcontent, hfound⟩
        · cases h
  · intro h
    obtain ⟨content, hplace, hcontent, htext⟩ := h
    refine ⟨hplace, ?_⟩
    rw [files_holdings.1 hcontent]
    dsimp only
    rw [htext]
    rfl

/-- What is read depends on no other file. -/
theorem readText_iff (h : SameDirectories d d') {p : Path}
    (hfile : ∀ place, d.resolve p = .ok place → d'.file? place = d.file? place) :
    d'.readText p = .ok text ↔ d.readText p = .ok text := by
  rw [readText_eq_ok_iff, readText_eq_ok_iff]
  refine exists_congr fun place => exists_congr fun content => ?_
  rw [resolve_iff h]
  refine and_congr_right fun hplace => ?_
  rw [hfile place hplace]

end Disk

/-! ## A request that succeeds -/

/-- Nothing is in the way of the request on this disk: its input reads so, and
what is drafted from it can be written, whatever the time. -/
structure Request.Succeeds (r : Request) (defaults : Defaults) (d : Disk)
    (text : String) (outcome : Outcome) : Prop where
  read : d.readText r.input = .ok text
  lands : ∀ time, ∃ draft e, r.draftOn defaults text time = .ok draft ∧
    draft.outcome = outcome ∧ draft.Lands d e

theorem Request.Succeeds.transfer (h : r.Succeeds defaults d text outcome)
    (hground : d.SameGround d') (hread : d'.readText r.input = .ok text) :
    r.Succeeds defaults d' text outcome := by
  refine ⟨hread, fun time => ?_⟩
  obtain ⟨draft, e, hdraft, houtcome, hlands⟩ := h.lands time
  obtain ⟨e', hlands'⟩ := hlands.transfer hground rfl rfl
  exact ⟨draft, e', hdraft, houtcome, hlands'⟩

theorem succeeds_of_extract (hinj : Set.InjOn Digest.sha256 texts)
    (hu : u.Sound config texts)
    (htexts : ∀ text, r.Loads config.defaults d text → text ∈ texts)
    (h : (Session.extract r).result u d = ((.ok outcome, v), e)) :
    ∃ text ∈ texts, r.Succeeds config.defaults d text outcome := by
  unfold Session.extract at h
  obtain ⟨draft, u₁, d₁, hdraft, hpublish⟩ := Task.ok_of_bind h
  obtain ⟨depth, c, text, -, -, -, hdepth, hcriteria, hread, -⟩ :=
    Session.ok_of_draft hdraft
  rw [hu.config] at hdepth hcriteria
  have htext := htexts text ⟨⟨depth, hdepth⟩, ⟨c, hcriteria⟩, hread⟩
  obtain ⟨n, v, hresult⟩ := result_draft hu htext
    (fun other hother => hinj hother htext) hread
  rw [hdraft] at hresult
  obtain ⟨hfirst, rfl⟩ := Prod.mk.inj hresult
  obtain ⟨hmade, -⟩ := Prod.mk.inj hfirst
  obtain ⟨rfl, hlands⟩ := Draft.lands_of_publish hpublish
  refine ⟨text, htext, hread, fun time => ?_⟩
  obtain ⟨draft', hdraft', hsame⟩ := exists_draftOn hmade.symm time
  obtain ⟨e', hlands'⟩ :=
    hlands.transfer (d.sameGround_later n).symm hsame.output hsame.paths
  exact ⟨draft', e', hdraft', hsame.outcome, hlands'⟩

theorem extract_of_succeeds (hinj : Set.InjOn Digest.sha256 texts)
    (hu : u.Sound config texts) (htext : text ∈ texts)
    (h : r.Succeeds config.defaults d text outcome) :
    ∃ n v e draft, (Session.extract r).result u d = ((.ok outcome, v), e) ∧
      v.Sound config texts ∧ r.draftOn config.defaults text (d.clock 0) = .ok draft ∧
      draft.Lands (d.later n) e := by
  obtain ⟨draft, e₀, hdraft, rfl, hlands⟩ := h.lands (d.clock 0)
  obtain ⟨n, u₁, hresult⟩ := result_draft hu htext
    (fun other hother => hinj hother htext) h.read
  obtain ⟨e, hlands⟩ := hlands.transfer (d.sameGround_later n) rfl rfl
  obtain ⟨v, hpublish⟩ := hlands.publish u₁
  have hrun : (Session.extract r).result u d = ((.ok draft.outcome, v), e) := by
    rw [hdraft] at hresult
    unfold Session.extract
    rw [Task.result_bind_ok hresult]
    exact hpublish
  have hsound := hu.extract (s := d) (r := r) fun other hloads => by
    have hother : Except.ok text = Except.ok other := h.read.symm.trans hloads.2.2
    cases hother
    exact htext
  rw [hrun] at hsound
  exact ⟨n, v, e, draft, hrun, hsound, hdraft, hlands⟩

/-! ## Jobs and their files -/

namespace Job

/-- Where paths of a job lead. -/
def places (job : Job) (d : Disk) (paths : Request → List Path) : List Location :=
  match Request.ofJob job with
  | .error _ => []
  | .ok r => (paths r).filterMap fun path => (d.resolve path).toOption

/-- The files that the job reads. -/
def reads (job : Job) (d : Disk) : List Location := job.places d fun r => [r.input]

/-- Where the job puts its report. -/
def reports (job : Job) (d : Disk) : List Location :=
  job.places d fun r => r.report.toList

/-- The files that the job writes: its excerpt and its report. -/
def writes (job : Job) (defaults : Defaults) (d : Disk) : List Location :=
  job.places d fun r => r.outputWith defaults :: r.report.toList

theorem mem_places {job : Job} {paths : Request → List Path} {place : Location}
    (hjob : Request.ofJob job = .ok r) :
    place ∈ job.places d paths ↔ ∃ path ∈ paths r, d.resolve path = .ok place := by
  simp only [places, hjob, List.mem_filterMap]
  refine exists_congr fun path => and_congr_right fun _ => ?_
  cases d.resolve path with
  | error reason => simp [Except.toOption]
  | ok found => simp [Except.toOption]

theorem mem_reads {job : Job} {place : Location} (hjob : Request.ofJob job = .ok r) :
    place ∈ job.reads d ↔ d.resolve r.input = .ok place := by
  rw [reads, mem_places hjob]
  simp

theorem mem_reports {job : Job} {place : Location} (hjob : Request.ofJob job = .ok r) :
    place ∈ job.reports d ↔ ∃ path, r.report = some path ∧
      d.resolve path = .ok place := by
  rw [reports, mem_places hjob]
  simp

/-- Run on a disk at some time, the job leaves `text` at `place`. -/
def Leaves (job : Job) (defaults : Defaults) (d : Disk) (time : String)
    (place : Location) (text : String) : Prop :=
  ∃ r input draft, Request.ofJob job = .ok r ∧ d.readText r.input = .ok input ∧
    r.draftOn defaults input time = .ok draft ∧ draft.Puts d place text

/-- The job succeeds on a disk with an input among `texts`. -/
def Succeeds (job : Job) (defaults : Defaults) (texts : Set String) (d : Disk)
    (outcome : Outcome) : Prop :=
  ∃ r, Request.ofJob job = .ok r ∧ ∃ text ∈ texts,
    r.Succeeds defaults d text outcome

end Job

/-- No file that one of the jobs writes is read or written by another one. -/
def Independent (jobs : List Job) (defaults : Defaults) (d : Disk) : Prop :=
  ∀ a ∈ jobs, ∀ b ∈ jobs, a ≠ b → ∀ place ∈ a.writes defaults d,
    place ∉ b.reads d ∧ place ∉ b.writes defaults d

instance (jobs : List Job) (defaults : Defaults) (d : Disk) :
    Decidable (Independent jobs defaults d) :=
  inferInstanceAs (Decidable (∀ a ∈ jobs, ∀ b ∈ jobs, a ≠ b →
    ∀ place ∈ a.writes defaults d, place ∉ b.reads d ∧ place ∉ b.writes defaults d))

variable {job : Job} {jobs : List Job}

theorem names_iff_writes {time : String} {draft : Draft} {place : Location}
    (hjob : Request.ofJob job = .ok r)
    (hdraft : r.draftOn defaults text time = .ok draft) :
    (∃ path, draft.Names path ∧ d.resolve path = .ok place) ↔
      place ∈ job.writes defaults d := by
  obtain ⟨houtput, hreport⟩ := paths_of_draftOn hdraft
  rw [Job.writes, Job.mem_places hjob]
  refine exists_congr fun path => and_congr_left fun _ => ?_
  rw [Draft.Names, List.mem_cons, houtput, ← hreport]
  simp

theorem plain_of_draftOn {time : String} {draft : Draft}
    (hjob : Request.ofJob job = .ok r)
    (hdraft : r.draftOn defaults text time = .ok draft) :
    ∀ path, draft.Names path → path.Plain := by
  obtain ⟨houtput, hreport⟩ := paths_of_draftOn hdraft
  obtain ⟨hplain, hplain'⟩ := Request.plain_of_ofJob hjob defaults
  rintro path (rfl | ⟨json, hjson⟩)
  · rw [houtput]
    exact hplain
  · rw [hjson] at hreport
    exact hplain' path hreport.symm

/-! ## Jobs one after the other -/

/-- What jobs do to a disk if their inputs are those of the disk `d₀`: from `d` they
lead to `e`. The clock goes on, and every job has its time. -/
structure JobsLead (jobs : List Job) (defaults : Defaults) (d₀ d e : Disk) : Prop where
  ground : d.SameGround e
  clock : ∃ n, ∀ k, e.clock k = d.clock (k + n)
  left : ∀ job ∈ jobs, ∃ n, ∀ place text,
    job.Leaves defaults d₀ (d.clock n) place text → e.file? place = some text.toUTF8
  others : ∀ place, (∀ job ∈ jobs, place ∉ job.writes defaults d₀) →
    e.file? place = d.file? place

theorem runJob_of_succeeds (hinj : Set.InjOn Digest.sha256 texts)
    (hu : u.Sound config texts) {d₀ : Disk}
    (h : job.Succeeds config.defaults texts d₀ outcome) (hground : d₀.SameGround d)
    (hreads : ∀ place ∈ job.reads d₀, d.file? place = d₀.file? place) :
    ∃ v e, (Session.runJob job).result u d = ((.ok outcome, v), e) ∧
      v.Sound config texts ∧ JobsLead [job] config.defaults d₀ d e := by
  obtain ⟨r, hjob, text, htext, hsucceeds⟩ := h
  have hread : d.readText r.input = .ok text :=
    (Disk.readText_iff hground.toSameDirectories fun place hplace =>
      hreads place ((Job.mem_reads hjob).2 hplace)).2 hsucceeds.read
  obtain ⟨n, v, e, draft, hrun, hsound, hdraft, hlands⟩ :=
    extract_of_succeeds hinj hu htext (hsucceeds.transfer hground hread)
  have hplain := plain_of_draftOn hjob hdraft
  have hground := hground.trans (d.sameGround_later n)
  refine ⟨v, e, result_runJob hjob hrun, hsound,
    (d.sameGround_later n).trans (hlands.sameGround hplain),
    ⟨n, congrFun hlands.sameSetting.clock⟩, fun other hother => ⟨0, ?_⟩,
    fun place hno => ?_⟩
  · intro place left hleaves
    rw [List.mem_singleton.1 hother] at hleaves
    obtain ⟨r', input, draft', hjob', hinput, hdraft', hleft⟩ := hleaves
    rw [hjob] at hjob'
    cases hjob'
    rw [hsucceeds.read] at hinput
    cases hinput
    rw [hdraft] at hdraft'
    cases hdraft'
    exact (hlands.files hplain place).1 left (hleft.transfer hground.toSameDirectories)
  · refine (hlands.files hplain place).2 fun left hleft => ?_
    refine hno job (List.mem_singleton.2 rfl) ?_
    rw [← names_iff_writes hjob hdraft, ← Draft.exists_puts_iff]
    exact ⟨left, hleft.transfer hground.toSameDirectories.symm⟩

theorem extract_of_runJob
    (h : (Session.runJob job).result u d = ((.ok outcome, v), e)) :
    ∃ r, Request.ofJob job = .ok r ∧
      (Session.extract r).result u d = ((.ok outcome, v), e) := by
  cases hjob : Request.ofJob job with
  | error fault =>
      unfold Session.runJob at h
      rw [hjob] at h
      cases h
  | ok r =>
      obtain ⟨⟨⟨x, v'⟩, e'⟩, hrun⟩ : ∃ y, (Session.extract r).result u d = y := ⟨_, rfl⟩
      rw [result_runJob hjob hrun] at h
      cases x with
      | error fault => cases h
      | ok found =>
          cases h
          exact ⟨r, rfl, hrun⟩

/-- What one job leaves stays if the others do not write there. -/
theorem JobsLead.cons {d₀ : Disk} (h : JobsLead [job] defaults d₀ d d₁)
    (hlater : JobsLead jobs defaults d₀ d₁ e)
    (hapart : ∀ place ∈ job.writes defaults d₀,
      ∀ other ∈ jobs, place ∉ other.writes defaults d₀) :
    JobsLead (job :: jobs) defaults d₀ d e := by
  obtain ⟨n, hclock⟩ := h.clock
  obtain ⟨n', hclock'⟩ := hlater.clock
  refine ⟨h.ground.trans hlater.ground, ⟨n' + n, fun k => ?_⟩, fun other hother => ?_,
    fun place hno => ?_⟩
  · rw [hclock', hclock, Nat.add_assoc]
  · rcases List.mem_cons.1 hother with rfl | hother
    · obtain ⟨m, hleft⟩ := h.left other (List.mem_singleton.2 rfl)
      refine ⟨m, fun place text hleaves => ?_⟩
      have hwrites : place ∈ other.writes defaults d₀ := by
        obtain ⟨r, input, draft, hjob, -, hdraft, hputs⟩ := hleaves
        rw [← names_iff_writes hjob hdraft, ← Draft.exists_puts_iff]
        exact ⟨text, hputs⟩
      rw [hlater.others place (hapart place hwrites)]
      exact hleft place text hleaves
    · obtain ⟨m, hleft⟩ := hlater.left other hother
      rw [hclock] at hleft
      exact ⟨m + n, hleft⟩
  · rw [hlater.others place fun other hother => hno other (List.mem_cons_of_mem _ hother)]
    refine h.others place fun other hother => ?_
    rw [List.mem_singleton.1 hother]
    exact hno job List.mem_cons_self

/-- Behind a job of independent ones, the others still find their inputs. -/
theorem Independent.reads {d₀ : Disk} (h : Independent (job :: jobs) defaults d₀)
    (hnew : job ∉ jobs) (hlead : JobsLead [job] defaults d₀ d d₁)
    (hreads : ∀ other ∈ jobs, ∀ place ∈ other.reads d₀,
      d.file? place = d₀.file? place) :
    ∀ other ∈ jobs, ∀ place ∈ other.reads d₀,
      d₁.file? place = d₀.file? place := by
  intro other hother place hread
  rw [← hreads other hother place hread]
  refine hlead.others place fun first hfirst hwrites => ?_
  rw [List.mem_singleton.1 hfirst] at hwrites
  have hne : job ≠ other := fun heq => hnew (heq ▸ hother)
  exact (h job List.mem_cons_self other (List.mem_cons_of_mem _ hother) hne place
    hwrites).1 hread

theorem Independent.of_cons (h : Independent (job :: jobs) defaults d) :
    Independent jobs defaults d :=
  fun a ha b hb => h a (List.mem_cons_of_mem _ ha) b (List.mem_cons_of_mem _ hb)

theorem Independent.perm {jobs' : List Job} (h : Independent jobs defaults d)
    (hperm : jobs'.Perm jobs) : Independent jobs' defaults d :=
  fun a ha b hb => h a (hperm.mem_iff.1 ha) b (hperm.mem_iff.1 hb)

/-- Independent jobs that all succeed on one disk succeed one after the other,
from any disk on the same ground with the same inputs. -/
theorem mapM_runJob_of_succeed (hinj : Set.InjOn Digest.sha256 texts)
    (hu : u.Sound config texts) {d₀ : Disk} {outcome : Job → Outcome}
    (hdistinct : jobs.Nodup) (hapart : Independent jobs config.defaults d₀)
    (hsucceed : ∀ job ∈ jobs, job.Succeeds config.defaults texts d₀ (outcome job))
    (hground : d₀.SameGround d)
    (hreads : ∀ job ∈ jobs, ∀ place ∈ job.reads d₀,
      d.file? place = d₀.file? place) :
    ∃ v e, (jobs.mapM Session.runJob).result u d = ((.ok (jobs.map outcome), v), e) ∧
      JobsLead jobs config.defaults d₀ d e := by
  induction jobs generalizing u d with
  | nil =>
      exact ⟨u, d, rfl, .refl d, ⟨0, fun _ => rfl⟩,
        fun _ hjob => absurd hjob List.not_mem_nil, fun _ _ => rfl⟩
  | cons job jobs ih =>
      obtain ⟨hnew, hrest⟩ := List.nodup_cons.1 hdistinct
      obtain ⟨u₁, d₁, hrun, hu₁, hlead⟩ := runJob_of_succeeds hinj hu
        (hsucceed job List.mem_cons_self) hground (hreads job List.mem_cons_self)
      obtain ⟨v, e, hlater, hleads⟩ := ih hu₁ hrest hapart.of_cons
        (fun other hother => hsucceed other (List.mem_cons_of_mem _ hother))
        (hground.trans hlead.ground)
        (hapart.reads hnew hlead fun other hother =>
          hreads other (List.mem_cons_of_mem _ hother))
      refine ⟨v, e, ?_, hlead.cons hleads fun place hwrites other hother => ?_⟩
      · rw [List.mapM_cons, Task.result_bind_ok hrun, Task.result_bind_ok hlater]
        rfl
      · have hne : job ≠ other := fun heq => hnew (heq ▸ hother)
        exact (hapart job List.mem_cons_self other (List.mem_cons_of_mem _ hother) hne
          place hwrites).2

/-- If independent jobs succeed one after the other, each of them would have
succeeded as the first. -/
theorem succeed_of_mapM_runJob (hinj : Set.InjOn Digest.sha256 texts)
    (hu : u.Sound config texts) {d₀ : Disk} {outcomes : List Outcome}
    (hdistinct : jobs.Nodup) (hapart : Independent jobs config.defaults d₀)
    (hground : d₀.SameGround d)
    (hreads : ∀ job ∈ jobs, ∀ place ∈ job.reads d₀,
      d.file? place = d₀.file? place)
    (htexts : ∀ text, JobsLoad jobs u d text → text ∈ texts)
    (hrun : (jobs.mapM Session.runJob).result u d = ((.ok outcomes, v), e)) :
    ∀ job ∈ jobs, ∃ outcome, job.Succeeds config.defaults texts d₀ outcome := by
  induction jobs generalizing u d v e outcomes with
  | nil =>
      intro job hjob
      cases hjob
  | cons job jobs ih =>
      obtain ⟨hnew, hrest⟩ := List.nodup_cons.1 hdistinct
      rw [List.mapM_cons] at hrun
      obtain ⟨first, u₁, d₁, hfirst, hrun⟩ := Task.ok_of_bind hrun
      obtain ⟨later, u₂, d₂, hlater, -⟩ := Task.ok_of_bind hrun
      obtain ⟨r, hjob, hextract⟩ := extract_of_runJob hfirst
      have hsucceeds : job.Succeeds config.defaults texts d₀ first := by
        obtain ⟨text, htext, hs⟩ := succeeds_of_extract hinj hu (fun text hloads =>
          htexts text ⟨r, hjob, .inl (by rw [hu.config]; exact hloads)⟩) hextract
        refine ⟨r, hjob, text, htext, hs.transfer hground.symm ?_⟩
        exact (Disk.readText_iff hground.toSameDirectories fun place hplace =>
          hreads job List.mem_cons_self place ((Job.mem_reads hjob).2 hplace)).1 hs.read
      obtain ⟨u₁', d₁', hfirst', hu₁, hlead⟩ := runJob_of_succeeds hinj hu hsucceeds hground
        (hreads job List.mem_cons_self)
      rw [hfirst] at hfirst'
      cases hfirst'
      have hothers := ih hu₁ hrest hapart.of_cons (hground.trans hlead.ground)
        (hapart.reads hnew hlead fun other hother =>
          hreads other (List.mem_cons_of_mem _ hother))
        (fun text hloads =>
          htexts text ⟨r, hjob, .inr ⟨first, u₁, d₁, hextract, hloads⟩⟩) hlater
      intro other hother
      rcases List.mem_cons.1 hother with rfl | hother
      · exact ⟨first, hsucceeds⟩
      · exact hothers other hother

theorem jobs_ne_nil_of_runJobs {outcomes : List Outcome} (hu : u.config = config)
    (h : (Session.runJobs none).result u d = ((.ok outcomes, v), e)) :
    config.jobs ≠ [] := by
  intro hempty
  unfold Session.runJobs at h
  rw [Task.result_bind_ok Task.result_get, hu] at h
  simp only [Session.jobs, hempty, List.isEmpty_nil, if_true] at h
  cases h

/-! ## Any order -/

/-- A draft that is made at another time puts the same at every place, but for the
time in its report. -/
theorem Draft.Retimed.puts {draft draft' : Draft} {time time' : String}
    {place : Location} (h : draft.Retimed draft' time time')
    (hputs : draft.Puts d place text) :
    draft'.Puts d place text ∨ ∃ path report text',
      draft.report.map Prod.fst = some path ∧ d.resolve path = .ok place ∧
      Report.textAt? report time = some text ∧
      Report.textAt? report time' = some text' ∧ draft'.Puts d place text' := by
  cases hputs with
  | report hreport hplace =>
      rcases h.report with ⟨hnone, -⟩ | ⟨path, report, json, json', hjson, hjson', hat, hat'⟩
      · rw [hreport] at hnone
        cases hnone
      · rw [hreport] at hjson
        cases hjson
        exact .inr ⟨_, report, json', by rw [hreport]; rfl, hplace, hat, hat',
          .report hjson' hplace⟩
  | output hplace hno =>
      left
      rw [← h.text]
      refine .output (by rw [h.output]; exact hplace) fun path json hreport => ?_
      have hpaths := h.paths
      rw [hreport, Option.map_some, eq_comm, Option.map_eq_some_iff] at hpaths
      obtain ⟨⟨_, json'⟩, hsome, rfl⟩ := hpaths
      exact hno _ json' hsome

/-- The disk with another clock. -/
def Disk.at (d : Disk) (clock : Nat → String) : Disk := { d with clock }

theorem Disk.sameGround_at (d : Disk) (clock : Nat → String) : d.SameGround (d.at clock) :=
  ⟨⟨rfl, fun _ => Iff.rfl⟩, fun _ _ => rfl⟩

/-- Both are texts of one report, but for the time that it tells. -/
def SameReport (time time' : String) (content content' : Option ByteArray) : Prop :=
  ∃ report json json', Report.textAt? report time = some json ∧
    Report.textAt? report time' = some json' ∧ content = some json.toUTF8 ∧
    content' = some json'.toUTF8

/-- Jobs that write the same places at different times leave the same files, but
for the times that reports tell. -/
theorem files_of_lead {jobs' : List Job} {e' : Disk} {clock : Nat → String}
    {outcome : Job → Outcome}
    (hsucceed : ∀ job ∈ jobs, job.Succeeds defaults texts d (outcome job))
    (hmem : ∀ job, job ∈ jobs' ↔ job ∈ jobs) (hlead : JobsLead jobs defaults d d e)
    (hlead' : JobsLead jobs' defaults d (d.at clock) e') (place : Location) :
    e'.file? place = e.file? place ∨ (∃ job ∈ jobs, place ∈ job.reports d) ∧
      ∃ n n', SameReport (d.clock n) (clock n') (e.file? place) (e'.file? place) := by
  by_cases hwrites : ∃ job ∈ jobs, place ∈ job.writes defaults d
  · obtain ⟨job, hjob, hwrites⟩ := hwrites
    obtain ⟨r, hrequest, input, -, hs⟩ := hsucceed job hjob
    obtain ⟨n, hleft⟩ := hlead.left job hjob
    obtain ⟨n', hleft'⟩ := hlead'.left job ((hmem job).2 hjob)
    obtain ⟨draft, _, hdraft, -⟩ := hs.lands (d.clock n)
    obtain ⟨draft', hdraft', hsame⟩ := exists_draftOn hdraft (clock n')
    obtain ⟨left, hputs⟩ :=
      Draft.exists_puts_iff.2 ((names_iff_writes hrequest hdraft).2 hwrites)
    have hleft := hleft place left ⟨r, input, draft, hrequest, hs.read, hdraft, hputs⟩
    have hleft' : ∀ text, draft'.Puts d place text →
        e'.file? place = some text.toUTF8 := fun text hputs' =>
      hleft' place text ⟨r, input, draft', hrequest, hs.read, hdraft', hputs'⟩
    rcases hsame.puts hputs with hputs' | ⟨path, report, left', hpath, hplace, hat, hat',
      hputs'⟩
    · left
      rw [hleft, hleft' left hputs']
    · right
      rw [(paths_of_draftOn hdraft).2] at hpath
      exact ⟨⟨job, hjob, (Job.mem_reports hrequest).2 ⟨path, hpath, hplace⟩⟩, n, n',
        report, left, left', hat, hat', hleft, hleft' left' hputs'⟩
  · have hno : ∀ job ∈ jobs, place ∉ job.writes defaults d :=
      fun job hjob hjobs => hwrites ⟨job, hjob, hjobs⟩
    left
    rw [hlead.others place hno,
      hlead'.others place fun job hjob => hno job ((hmem job).1 hjob)]
    rfl

/-- Independent jobs commute. Let a configuration be valid, and let all its jobs
succeed in the order that they have there, in a session that may have been used
before. Let digests tell all texts apart that have been loaded, and let no job
write a file that another one reads or writes. Then the jobs succeed in any
other order as well, whatever times the clock tells them, and each of them with the
same outcome. The files are the same in the end, but for the times in reports. -/
theorem runJobs_perm {texts' : Set String} {u' : Session} {outcomes : List Outcome}
    (hvalid : config.validate = .ok ()) (hperm : jobs.Perm config.jobs)
    (hused : Used Disk config texts u) (hused' : Used Disk { config with jobs } texts' u')
    (hdigest : Set.InjOn Digest.sha256
      (texts ∪ texts' ∪ {text | JobsLoad config.jobs u d text}))
    (hapart : Independent config.jobs config.defaults d)
    (hrun : (Session.runJobs none).result u d = ((.ok outcomes, v), e))
    (clock : Nat → String) :
    ∃ (outcome : Job → Outcome) (v' : Session) (e' : Disk),
      outcomes = config.jobs.map outcome ∧
      (Session.runJobs none).result u' (d.at clock) =
        ((.ok (jobs.map outcome), v'), e') ∧
      ∀ place, e'.file? place = e.file? place ∨
        (∃ job ∈ config.jobs, place ∈ job.reports d) ∧ ∃ n n',
          SameReport (d.clock n) (clock n') (e.file? place) (e'.file? place) := by
  obtain ⟨all, htexts, htexts', hloads, hdigest⟩ : ∃ all : Set String,
      texts ⊆ all ∧ texts' ⊆ all ∧ {text | JobsLoad config.jobs u d text} ⊆ all ∧
        Set.InjOn Digest.sha256 all :=
    ⟨_, fun _ h => .inl (.inl h), fun _ h => .inl (.inr h), fun _ h => .inr h, hdigest⟩
  have hu := hused.sound htexts
  have hu' := hused'.sound htexts'
  have hne := jobs_ne_nil_of_runJobs hu.config hrun
  have hne' : jobs ≠ [] := by
    intro hempty
    rw [hempty] at hperm
    exact hne hperm.nil_eq.symm
  have hdistinct : config.jobs.Nodup :=
    List.Nodup.of_map _ (Config.checked_of_validate hvalid).names
  rw [result_runJobs_all hne hu.config] at hrun
  -- Each job would have succeeded as the first one, so all have outcomes of their
  -- own, and what the run did can be told from these.
  have halone := succeed_of_mapM_runJob hdigest hu hdistinct hapart (.refl d)
    (fun _ _ _ _ => rfl) (fun _ hload => hloads hload) hrun
  have hnonempty : Nonempty Outcome := ⟨⟨0, ⟨[]⟩, ⟨0, 0, 0, 0⟩⟩⟩
  choose! outcome hsucceed using halone
  obtain ⟨_, _, hrun₁, hlead⟩ := mapM_runJob_of_succeed hdigest hu hdistinct hapart
    hsucceed (.refl d) fun _ _ _ _ => rfl
  rw [hrun] at hrun₁
  cases hrun₁
  obtain ⟨v', e', hrun', hlead'⟩ := mapM_runJob_of_succeed hdigest hu'
    (hperm.nodup_iff.2 hdistinct) (hapart.perm hperm)
    (fun job hjob => hsucceed job (hperm.mem_iff.1 hjob)) (d.sameGround_at clock)
    fun _ _ _ _ => rfl
  refine ⟨outcome, v', e', rfl, ?_,
    files_of_lead hsucceed (fun _ => hperm.mem_iff) hlead hlead'⟩
  rw [result_runJobs_all hne' hu'.config]
  exact hrun'

/-- Two jobs that take functions from one input, and the first one reports. -/
def reportingJob : Job where
  name := "1"
  input := "in.ll"
  output := some "1.ll"
  functions := ["a"]
  report := some "1.json"

def silentJob : Job where
  name := "2"
  input := "in.ll"
  output := some "2.ll"
  functions := ["b"]

def pairConfig : Config where
  defaults := ⟨"out.ll", 0, [], true, 10⟩
  jobs := [reportingJob, silentJob]

theorem runJobs_perm_sample :
    let d := diskWith chainText
    let jobs := pairConfig.jobs.reverse
    let run := (Session.runJobs none).result (.ofConfig pairConfig) d
    let again := (Session.runJobs none).result (.ofConfig { pairConfig with jobs })
      (d.at fun n => "later " ++ toString n)
    run.1.1.toOption = some [⟨1, .ofString "1.ll", ⟨2, 1, 0, 0⟩⟩,
        ⟨1, .ofString "2.ll", ⟨2, 1, 0, 0⟩⟩] ∧
      again.1.1.toOption = some [⟨1, .ofString "2.ll", ⟨2, 1, 0, 0⟩⟩,
        ⟨1, .ofString "1.ll", ⟨2, 1, 0, 0⟩⟩] ∧
      again.2.file? (.named "1.ll") = run.2.file? (.named "1.ll") ∧
      again.2.file? (.named "2.ll") = run.2.file? (.named "2.ll") ∧
      run.2.file? (.named "2.ll") =
        some (String.toUTF8 "define void @b() \x7b\n  call void @p()\n\x7d\n") := by
  intro d jobs run again
  have hrun : run.1.1.toOption = some [⟨1, .ofString "1.ll", ⟨2, 1, 0, 0⟩⟩,
        ⟨1, .ofString "2.ll", ⟨2, 1, 0, 0⟩⟩] ∧
      run.2.file? (.named "2.ll") =
        some (String.toUTF8 "define void @b() \x7b\n  call void @p()\n\x7d\n") := by
    decide +kernel
  have hapart : Independent pairConfig.jobs pairConfig.defaults d := by
    decide +kernel
  have hreports : ∀ job ∈ pairConfig.jobs, Location.named "1.ll" ∉ job.reports d ∧
      Location.named "2.ll" ∉ job.reports d := by
    decide +kernel
  have hread : (d.readText (.ofString "in.ll")).toOption = some chainText ∧
      (match Request.ofJob reportingJob with
        | .error _ => none
        | .ok r => (((Session.extract r).result (.ofConfig pairConfig) d).2.readText
            (.ofString "in.ll")).toOption) = some chainText := by
    decide +kernel
  -- Both jobs load the input, the second one behind the first.
  have hloads : ∀ text, JobsLoad pairConfig.jobs (.ofConfig pairConfig) d text →
      text = chainText := by
    rintro text ⟨r, hjob, ⟨-, -, hload⟩ | ⟨_, _, d₁, hextract, _, hjob',
      ⟨-, -, hload⟩ | ⟨_, _, _, -, hnone⟩⟩⟩
    · cases hjob
      exact Except.ok.inj (hload.symm.trans (ok_of_toOption hread.1))
    · have hread₁ := hread.2
      simp only [hjob, hextract] at hread₁
      cases hjob'
      exact Except.ok.inj (hload.symm.trans (ok_of_toOption hread₁))
    · exact hnone.elim
  have hdigest : Set.InjOn Digest.sha256 (∅ ∪ ∅ ∪
      {text | JobsLoad pairConfig.jobs (.ofConfig pairConfig) d text}) := by
    rw [Set.empty_union, Set.empty_union]
    exact (Set.injOn_singleton _ chainText).mono hloads
  have hsucceeds : run = ((.ok [⟨1, .ofString "1.ll", ⟨2, 1, 0, 0⟩⟩,
      ⟨1, .ofString "2.ll", ⟨2, 1, 0, 0⟩⟩], run.1.2), run.2) := by
    rw [← ok_of_toOption hrun.1]
  obtain ⟨outcome, v', e', houtcomes, hagain, hfiles⟩ := runJobs_perm
    (by decide +kernel) (List.reverse_perm pairConfig.jobs) .new .new hdigest hapart
    hsucceeds fun n => "later " ++ toString n
  rw [List.map_reverse, ← houtcomes] at hagain
  have hsame : ∀ name, (∀ job ∈ pairConfig.jobs, Location.named name ∉ job.reports d) →
      again.2.file? (.named name) = run.2.file? (.named name) := by
    intro name hname
    have hagain' : again.2 = e' := congrArg Prod.snd hagain
    rw [hagain']
    refine (hfiles (.named name)).resolve_right fun hreport => ?_
    obtain ⟨⟨job, hjob, hmem⟩, -⟩ := hreport
    exact hname job hjob hmem
  refine ⟨hrun.1, ?_, hsame "1.ll" fun job hjob => (hreports job hjob).1,
    hsame "2.ll" fun job hjob => (hreports job hjob).2, hrun.2⟩
  exact congrArg (fun result => result.1.1.toOption) hagain

end IrExcerpt
