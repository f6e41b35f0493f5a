import IrExcerpt.Extraction.Session
import IrExcerpt.Proofs.DiskLaws

/-!
# What a failed extraction leaves behind

An extraction is worked out before anything is written. Of the writes that
follow, the report is staged first and moved last, and the excerpt is replaced
in between. So there is one point behind which a failure is too late: when the
excerpt is in place and the report cannot be moved to where it belongs. A
failure at any other point leaves every file as it was. A failure at this one
leaves the new excerpt, and all else as it was.

The argument is about files only through the laws of `FileLaws.lean`, so it
holds whatever the operations fail for.
-/

namespace IrExcerpt

open LawfulFiles (view)

variable {σ ε α β : Type}

/-! ## Tasks, run on files -/

/-- Where a task leads: what comes of it, the session and the files. -/
def Task.result (t : Task (StateM σ) ε α) (session : Session) (s : σ) :
    (Except ε α × Session) × σ :=
  ((ExceptT.run t).run session).run s

namespace Task

variable {t : Task (StateM σ) ε α} {session session₁ : Session} {s s₁ : σ}

theorem result_bind_ok {a : α} (h : t.result session s = ((.ok a, session₁), s₁))
    (f : α → Task (StateM σ) ε β) :
    (t >>= f).result session s = (f a).result session₁ s₁ := by
  unfold result at h ⊢
  rw [ExceptT.run_bind, StateT.run_bind, StateT.run_bind, h]
  rfl

theorem result_bind_error {e : ε}
    (h : t.result session s = ((.error e, session₁), s₁))
    (f : α → Task (StateM σ) ε β) :
    (t >>= f).result session s = ((.error e, session₁), s₁) := by
  unfold result at h ⊢
  rw [ExceptT.run_bind, StateT.run_bind, StateT.run_bind, h]
  rfl

/-- A task behind another ends with its failure, or goes on from its result. -/
theorem result_bind_cases (t : Task (StateM σ) ε α)
    (f : α → Task (StateM σ) ε β) (session : Session) (s : σ) :
    (∃ e session₁ s₁, t.result session s = ((.error e, session₁), s₁) ∧
      (t >>= f).result session s = ((.error e, session₁), s₁)) ∨
    ∃ a session₁ s₁, t.result session s = ((.ok a, session₁), s₁) ∧
      (t >>= f).result session s = (f a).result session₁ s₁ := by
  obtain ⟨⟨⟨outcome, session₁⟩, s₁⟩, hrun⟩ : ∃ r, t.result session s = r :=
    ⟨_, rfl⟩
  cases outcome with
  | error e => exact .inl ⟨e, session₁, s₁, hrun, result_bind_error hrun f⟩
  | ok a => exact .inr ⟨a, session₁, s₁, hrun, result_bind_ok hrun f⟩

theorem result_ask {action : StateM σ α} {a : α} (h : action.run s = (a, s₁)) :
    (Session.ask action : Task (StateM σ) ε α).result session s =
      ((.ok a, session), s₁) := by
  change ((Except.ok (action.run s).1, session), (action.run s).2) = _
  rw [h]

theorem result_tell (events : List Event) :
    (Session.tell events : Task (StateM σ) ε Unit).result session s =
      ((.ok (), { session with events := session.events ++ events }), s) :=
  rfl

theorem result_get :
    (MonadState.get : Task (StateM σ) ε Session).result session s =
      ((.ok session, session), s) :=
  rfl

theorem result_settle {δ : Type} {x : Except δ α} {a : α} (h : x = .ok a)
    (asFailure : δ → Failure) :
    (Session.settle asFailure x : Task (StateM σ) Failure α).result session s =
      ((.ok a, session), s) := by
  rw [h]
  rfl

/-! ## Tasks that leave files alone -/

variable [FileAccess (StateM σ)] [LawfulFiles σ]

/-- However the task ends, files and places are what they were. -/
def LeavesFiles (t : Task (StateM σ) ε α) : Prop :=
  ∀ session s, view (t.result session s).2 = view s

namespace LeavesFiles

theorem pure (a : α) : LeavesFiles (Pure.pure a : Task (StateM σ) ε α) :=
  fun _ _ => rfl

theorem throw (e : ε) :
    LeavesFiles (MonadExcept.throw e : Task (StateM σ) ε α) :=
  fun _ _ => rfl

theorem get : LeavesFiles (MonadState.get : Task (StateM σ) ε Session) :=
  fun _ _ => rfl

theorem modify (f : Session → Session) :
    LeavesFiles (modify f : Task (StateM σ) ε Unit) :=
  fun _ _ => rfl

theorem bind {f : α → Task (StateM σ) ε β} (ht : LeavesFiles t)
    (hf : ∀ a, LeavesFiles (f a)) : LeavesFiles (t >>= f) := by
  intro session s
  have hfirst := ht session s
  obtain ⟨e, session₁, s₁, hrun, hbind⟩ | ⟨a, session₁, s₁, hrun, hbind⟩ :=
    result_bind_cases t f session s
  · rw [hrun] at hfirst
    rw [hbind]
    exact hfirst
  · rw [hrun] at hfirst
    rw [hbind]
    exact (hf a session₁ s₁).trans hfirst

theorem settle {δ : Type} (asFailure : δ → Failure) (x : Except δ α) :
    LeavesFiles (Session.settle asFailure x : Task (StateM σ) Failure α) := by
  cases x with
  | error e => exact throw _
  | ok a => exact pure a

theorem ask {action : StateM σ α}
    (h : ∀ s, view (action.run s).2 = view s) :
    LeavesFiles (Session.ask action : Task (StateM σ) ε α) :=
  fun _ s => h s

theorem load (input : Path) :
    LeavesFiles (Session.load input : Task (StateM σ) Failure Loaded) :=
  bind (ask (LawfulFiles.readText input)) fun _ =>
    bind (settle _ _) fun _ => bind get fun _ => bind (settle _ _) fun _ =>
      bind (modify _) fun _ => pure _

theorem select (c : Criteria) (loaded : Loaded) :
    LeavesFiles (Session.select c loaded : Task (StateM σ) Failure Selection) :=
  bind get fun _ => bind (modify _) fun _ => pure _

theorem expand (c : Criteria) (loaded : Loaded) (direct : Selection)
    (depth : Nat) :
    LeavesFiles (Session.expand c loaded direct depth :
      Task (StateM σ) Failure Selection) :=
  bind (modify _) fun _ => bind (modify _) fun _ => pure _

theorem draftReport (r : Request) (output : Path) (loaded : Loaded)
    (depth : Nat) (selection : Selection) :
    LeavesFiles (Session.draftReport r output loaded depth selection :
      Task (StateM σ) Failure (Option (Path × String))) := by
  unfold Session.draftReport
  split
  · exact pure _
  · refine bind (ask LawfulFiles.now) fun time => ?_
    split
    · exact throw _
    · exact pure _

theorem draft (r : Request) :
    LeavesFiles (Session.draft r : Task (StateM σ) Failure Draft) := by
  unfold Session.draft
  refine bind get fun session => bind (settle _ _) fun depth =>
    bind (settle _ _) fun c => bind (load r.input) fun loaded =>
      bind (select c loaded) fun direct => bind ?_ fun selection => ?_
  · split
    · exact expand c loaded direct depth
    · exact pure direct
  dsimp only
  split
  · split
    · exact bind (throw _) fun _ => bind (modify _) fun _ =>
        bind (draftReport _ _ _ _ _) fun _ => pure _
    · exact bind (modify _) fun _ => bind (draftReport _ _ _ _ _) fun _ => pure _
  · exact bind (draftReport _ _ _ _ _) fun _ => pure _

end LeavesFiles

end Task

/-! ## Writing, step by step -/

section Writing

variable [FileAccess (StateM σ)] {session session' : Session} {s s' : σ}

theorem result_stageReport_some {path : Path} {text : String}
    {made : Except IoError Staged}
    (h : (stage path text : StateM σ _).run s = (made, s')) :
    (Session.stageReport (some (path, text))).result session s =
      (((made.map some).mapError .io, session), s') := by
  change (Session.ask (stage path text) >>= _).result session s = _
  rw [Task.result_bind_ok (Task.result_ask h)]
  cases made with
  | error e => rfl
  | ok staged => rfl

theorem result_commitReport_some {staged : Staged}
    {moved : Except IoError Unit}
    (h : (staged.commit : StateM σ _).run s = (moved, s')) :
    (Session.commitReport (some staged)).result session s =
      ((moved.mapError .io, session), s') := by
  change (Session.ask staged.commit >>= _).result session s = _
  rw [Task.result_bind_ok (Task.result_ask h)]
  cases moved with
  | error e => rfl
  | ok _ => rfl

/-- Behind a staged report, writing goes on with the excerpt. -/
theorem result_publish {d : Draft} {report : Option Staged} {s₁ s₂ : σ}
    {written : Except IoError Unit} {events : List Event}
    (hstage : (Session.stageReport d.report).result session s =
      ((.ok report, session), s₁))
    (hreplace : (replaceFile d.output d.text : StateM σ _).run s₁ =
      ((written, events), s₂)) :
    (Session.publish d).result session s =
      (Session.conclude d report written).result
        { session with events := session.events ++ events } s₂ := by
  unfold Session.publish
  rw [Task.result_bind_ok hstage, Task.result_bind_ok (Task.result_ask hreplace),
    Task.result_bind_ok (Task.result_tell events)]

/-- With its excerpt in place, an extraction fails only if its report cannot be
moved. -/
theorem commit_of_conclude {d : Draft} {staged : Staged} {e : Failure}
    (h : (Session.conclude d (some staged) (.ok ())).result session s =
      ((.error e, session'), s')) :
    ∃ reason, (staged.commit : StateM σ _).run s = (.error reason, s') := by
  obtain ⟨⟨moved, s₁⟩, hmoved⟩ : ∃ r, (staged.commit :
    StateM σ _).run s = r := ⟨_, rfl⟩
  unfold Session.conclude at h
  cases moved with
  | ok _ =>
      rw [Task.result_bind_ok (result_commitReport_some hmoved)] at h
      cases h
  | error reason =>
      rw [Task.result_bind_error (result_commitReport_some hmoved)] at h
      cases h
      exact ⟨reason, hmoved⟩

/-- Writing fails behind the excerpt: the report is staged, the excerpt is moved
into place, and then the report is not. -/
def Draft.FailsLate (d : Draft) (s : σ) (staged : Staged) (reason : IoError)
    (s' : σ) : Prop :=
  ∃ path text events s₁ s₂, d.report = some (path, text) ∧
    (stage path text : StateM σ _).run s = (.ok staged, s₁) ∧
    (replaceFile d.output d.text : StateM σ _).run s₁ = ((.ok (), events), s₂) ∧
    (staged.commit : StateM σ _).run s₂ = (.error reason, s')

theorem publish_of_failsLate {d : Draft} {staged : Staged} {reason : IoError}
    (h : d.FailsLate s staged reason s') (session : Session) :
    ∃ session', (Session.publish d).result session s =
      ((.error (.io reason), session'), s') := by
  obtain ⟨path, text, events, s₁, s₂, hreport, hstage, hreplace, hcommit⟩ := h
  have hstaged : (Session.stageReport d.report).result session s =
      ((.ok (some staged), session), s₁) := by
    rw [hreport, result_stageReport_some hstage]
    rfl
  refine ⟨{ session with events := session.events ++ events }, ?_⟩
  rw [result_publish hstaged hreplace]
  exact Task.result_bind_error (result_commitReport_some hcommit) _

end Writing

/-! ## Failures -/

section Failures

variable [FileAccess (StateM σ)] [LawfulFiles σ] {session session' : Session}
  {s s' : σ}

/-- What stands where after a failure behind the excerpt. -/
theorem Draft.FailsLate.view {d : Draft} {staged : Staged} {reason : IoError}
    (h : d.FailsLate s staged reason s') :
    ∃ temp out, (view s).place? staged.temp = some temp ∧
      (view s).files temp = none ∧ (view s).place? d.output = some out ∧
      view s' = ((view s).put out (some d.text.toUTF8)).put temp none := by
  obtain ⟨path, text, events, s₁, s₂, -, hstage, hreplace, hcommit⟩ := h
  obtain ⟨-, temp, hholds⟩ := view_of_stage hstage
  obtain ⟨out, hout, hview₂⟩ := replaced_replaceFile hreplace
  rw [hholds.view] at hout hview₂
  have hview := view_of_commit hcommit (by rw [hview₂]; exact hholds.place)
  rw [hview₂] at hview
  refine ⟨temp, out, hholds.place, hholds.free, hout, hview.trans ?_⟩
  by_cases hsame : out = temp
  · rw [hsame, Holdings.put_put, Holdings.put_put, Holdings.put_put]
  · rw [Holdings.put_comm _ (Ne.symm hsame), Holdings.put_put]

/-- What a report that waits to be moved has changed. -/
def Waiting (report : Option (Path × String)) (s s' : σ) :
    Option Staged → Prop
  | none => report = none ∧ view s' = view s
  | some staged => ∃ path text temp, report = some (path, text) ∧
      (stage path text : StateM σ _).run s = (.ok staged, s') ∧
      staged.Holds text s s' temp

theorem waiting_of_stageReport {report : Option (Path × String)}
    {session₁ : Session} {s₁ : σ} {waiting : Except Failure (Option Staged)}
    (h : (Session.stageReport report).result session s =
      ((waiting, session₁), s₁)) :
    session₁ = session ∧ match waiting with
      | .error _ => view s₁ = view s
      | .ok staged => Waiting report s s₁ staged := by
  cases report with
  | none =>
      cases h
      exact ⟨rfl, rfl, rfl⟩
  | some report =>
      obtain ⟨path, text⟩ := report
      obtain ⟨⟨made, s₂⟩, hmade⟩ : ∃ r, (stage path text :
        StateM σ _).run s = r := ⟨_, rfl⟩
      have hstage := view_of_stage hmade
      rw [result_stageReport_some hmade] at h
      cases made with
      | error e =>
          cases h
          exact ⟨rfl, hstage⟩
      | ok staged =>
          cases h
          obtain ⟨-, temp, hholds⟩ := hstage
          exact ⟨rfl, path, text, temp, rfl, hmade, hholds⟩

/-- Without its excerpt in place, an extraction takes its report back. -/
theorem view_of_conclude_error {report : Option (Path × String)}
    {waiting : Option Staged} {s₁ s₂ : σ} (hwaiting : Waiting report s s₁ waiting)
    (hview : view s₂ = view s₁) (d : Draft) (e : IoError) :
    view ((Session.conclude d waiting (.error e)).result session s₂).2 =
      view s := by
  cases waiting with
  | none => exact hview.trans hwaiting.2
  | some staged =>
      obtain ⟨path, text, temp, -, -, hholds⟩ := hwaiting
      rw [hholds.view] at hview
      have hplace : (view s₂).place? staged.temp = some temp := by
        rw [hview]
        exact hholds.place
      refine (LawfulFiles.discard hplace).trans ?_
      rw [hview, Holdings.put_put_none hholds.free]

/-- Writing leaves no other trace when it fails. -/
theorem publish_failed {d : Draft} {e : Failure}
    (h : (Session.publish d).result session s = ((.error e, session'), s')) :
    view s' = view s ∨ ∃ staged reason, d.FailsLate s staged reason s' := by
  obtain ⟨⟨⟨staging, session₁⟩, s₁⟩, hstage⟩ : ∃ r,
    (Session.stageReport d.report).result session s = r := ⟨_, rfl⟩
  obtain ⟨rfl, hwaiting⟩ := waiting_of_stageReport hstage
  cases staging with
  | error e =>
      unfold Session.publish at h
      rw [Task.result_bind_error hstage] at h
      cases h
      exact .inl hwaiting
  | ok waiting =>
      obtain ⟨⟨⟨written, events⟩, s₂⟩, hreplace⟩ : ∃ r, (replaceFile d.output
        d.text : StateM σ _).run s₁ = r := ⟨_, rfl⟩
      have hreplaced := replaced_replaceFile hreplace
      rw [result_publish hstage hreplace] at h
      cases written with
      | error e =>
          left
          rw [← view_of_conclude_error hwaiting hreplaced d e, h]
      | ok _ =>
          cases waiting with
          | none => cases h
          | some staged =>
              obtain ⟨path, text, temp, hreport, hmade, -⟩ := hwaiting
              obtain ⟨reason, hmoved⟩ := commit_of_conclude h
              exact .inr ⟨staged, reason, path, text, events, s₁, s₂, hreport,
                hmade, hreplace, hmoved⟩

/-- An extraction from `s` that is worked out as `draft` and fails behind its
excerpt, its report staged as `staged`. -/
def Request.FailsLate (r : Request) (session : Session) (s : σ) (draft : Draft)
    (staged : Staged) (reason : IoError) : Prop :=
  ∃ session₁ s₁ s₂,
    (Session.draft r).result session s = ((.ok draft, session₁), s₁) ∧
    draft.FailsLate s₁ staged reason s₂

variable {r : Request} {e : Failure}

theorem view_of_draft {session₁ : Session} {s₁ : σ}
    {drafted : Except Failure Draft}
    (h : (Session.draft r).result session s = ((drafted, session₁), s₁)) :
    view s₁ = view s := by
  have hkeep := Task.LeavesFiles.draft r session s
  rwa [h] at hkeep

theorem Request.FailsLate.view {draft : Draft} {staged : Staged}
    {reason : IoError}
    (hlate : r.FailsLate session s draft staged reason)
    (h : (Session.extract r).result session s = ((.error e, session'), s')) :
    e = .io reason ∧ ∃ temp out, (view s).place? staged.temp = some temp ∧
      (view s).files temp = none ∧ (view s).place? draft.output = some out ∧
      view s' = ((view s).put out (some draft.text.toUTF8)).put temp none := by
  obtain ⟨session₁, s₁, s₂, hdraft, hlate⟩ := hlate
  obtain ⟨session₂, hpublish⟩ := publish_of_failsLate hlate session₁
  unfold Session.extract at h
  rw [Task.result_bind_ok hdraft, hpublish] at h
  cases h
  have hview := hlate.view
  rw [view_of_draft hdraft] at hview
  exact ⟨rfl, hview⟩

theorem extract_failed
    (h : (Session.extract r).result session s = ((.error e, session'), s')) :
    view s' = view s ∨
      ∃ draft staged reason, r.FailsLate session s draft staged reason := by
  unfold Session.extract at h
  obtain ⟨e, session₁, s₁, hdraft, hbind⟩ |
      ⟨draft, session₁, s₁, hdraft, hbind⟩ :=
    Task.result_bind_cases (Session.draft r) Session.publish session s
  · rw [hbind] at h
    cases h
    exact .inl (view_of_draft hdraft)
  · rw [hbind] at h
    obtain hsame | ⟨staged, reason, hlate⟩ := publish_failed h
    · exact .inl (hsame.trans (view_of_draft hdraft))
    · exact .inr ⟨draft, staged, reason, session₁, s₁, s', hdraft, hlate⟩

/-- An extraction that fails leaves every file as it was, unless it fails behind
its excerpt. Then the failure is that of moving the report, and the files are
those from before with the excerpt at its place. This shows unless the same text
was there already, or the place is the one where the report was staged. -/
theorem files_of_failed_extract
    (h : (Session.extract r).result session s = ((.error e, session'), s')) :
    ((view s').files = (view s).files ↔
      ∀ draft staged reason out, r.FailsLate session s draft staged reason →
        (view s).place? draft.output = some out →
        (view s).place? staged.temp = some out ∨
          (view s).files out = some draft.text.toUTF8) ∧
    ∀ draft staged reason, r.FailsLate session s draft staged reason →
      e = .io reason ∧ ∃ temp out, (view s).place? staged.temp = some temp ∧
        (view s).files temp = none ∧ (view s).place? draft.output = some out ∧
        (view s').files = Function.update (Function.update (view s).files out
          (some draft.text.toUTF8)) temp none := by
  refine ⟨⟨fun hsame draft staged reason out hlate hout => ?_, fun hno => ?_⟩,
    fun draft staged reason hlate => ?_⟩
  · obtain ⟨-, temp, place, htemp, hfree, hplace, hview⟩ := hlate.view h
    rw [hplace] at hout
    cases hout
    rw [hview, Holdings.files_put_put_none_iff hfree] at hsame
    rw [htemp, Option.some.injEq]
    exact hsame
  · obtain hview | ⟨draft, staged, reason, hlate⟩ := extract_failed h
    · rw [hview]
    · obtain ⟨-, temp, out, htemp, hfree, hout, hview⟩ := hlate.view h
      have hhidden := hno draft staged reason out hlate hout
      rw [htemp, Option.some.injEq] at hhidden
      rw [hview, Holdings.files_put_put_none_iff hfree]
      exact hhidden
  · obtain ⟨he, temp, out, htemp, hfree, hout, hview⟩ := hlate.view h
    exact ⟨he, temp, out, htemp, hfree, hout, congrArg Holdings.files hview⟩

end Failures

/-! ## A late failure -/

/-- The place of a file in the root directory. -/
def Location.named (name : String) : Location := [name.toUTF8.toList]

/-- One function, asked for by name, and a directory where the report should go. -/
def lateDisk : Disk where
  entries := [
    (.named "in.ll", .file (String.toUTF8 "define void @f() \x7b\n\x7d\n")),
    (.named "rep", .directory)]
  here := []
  clock _ := ""

def lateRequest : Request where
  input := .ofString "in.ll"
  output := some (.ofString "out.ll")
  functions := ["f"]
  functionPatterns := []
  linePatterns := []
  ignorePatterns := []
  depth := some 0
  failOnEmpty := none
  report := some (.ofString "rep")

theorem files_of_failed_extract_late :
    let session := Session.ofConfig .default
    let run := (Session.extract lateRequest).result session lateDisk
    run.1.1 = .error (.io .isDirectory) ∧
      (view lateDisk).files (.named "out.ll") = none ∧
      (view run.2).files (.named "out.ll") =
        some (String.toUTF8 "define void @f() \x7b\n\x7d\n") ∧
      ∃ draft staged reason,
        lateRequest.FailsLate session lateDisk draft staged reason := by
  intro session run
  have hfails : run.1.1 = .error (.io .isDirectory) := by
    have hfailure : (match run.1.1 with
        | .error e => some e
        | .ok _ => none) = some (.io .isDirectory) := by
      decide +kernel
    split at hfailure
    · next e he =>
      cases hfailure
      exact he
    · cases hfailure
  have hbefore : (view lateDisk).files (.named "out.ll") = none := by
    decide +kernel
  have hafter : (view run.2).files (.named "out.ll") =
      some (String.toUTF8 "define void @f() \x7b\n\x7d\n") := by
    decide +kernel
  refine ⟨hfails, hbefore, hafter, ?_⟩
  have hrun : run = ((.error (.io .isDirectory), run.1.2), run.2) := by
    rw [← hfails]
  -- If it were not a late failure, nothing would have changed.
  by_contra hnone
  have hsame := (files_of_failed_extract hrun).1.2 fun draft staged reason _
    hlate => absurd ⟨draft, staged, reason, hlate⟩ hnone
  rw [hsame, hbefore] at hafter
  cases hafter

end IrExcerpt
