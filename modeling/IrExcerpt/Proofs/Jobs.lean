import IrExcerpt.Config.File
import IrExcerpt.Proofs.SharedCache

/-!
# Running all jobs is running each by name

A job is found by its name, and the first that has the name is taken. In a
configuration that has been loaded all names differ, so what is found is the job
itself. The configuration stays with the session whatever the jobs do, and so
the next name is looked up where the first one was. Running all jobs is then the
same as calling them by their names in turn, up to the first that fails, and the
two agree in all there is: the result, the session and the files.

That depths have been checked when the configuration was loaded shows in what
can go wrong. `Task.Obeys` follows a task and says how it may fail, and that it
leaves the configuration alone. No way is left that has to do with a negative
depth.
-/

namespace IrExcerpt

variable {σ ε α β δ : Type}

/-! ## Configurations that have been loaded -/

/-- What a check establishes: depths can be used, and names tell jobs apart. -/
structure Config.Checked (config : Config) : Prop where
  depth : ∃ depth, Depth.ofSetting config.defaults.depth = .ok depth
  depths : ∀ job ∈ config.jobs, ∃ depth, Depth.ofSetting? job.depth = .ok depth
  names : (config.jobs.map Job.name).Nodup

theorem Config.checkJobs_ok {seen : List String} {jobs : List Job}
    (h : checkJobs seen jobs = .ok ()) :
    (∀ job ∈ jobs, job.name ∉ seen) ∧
      (∀ job ∈ jobs, ∃ depth, Depth.ofSetting? job.depth = .ok depth) ∧
      (jobs.map Job.name).Nodup := by
  induction jobs generalizing seen with
  | nil => simp
  | cons job jobs ih =>
      unfold checkJobs at h
      split at h
      · cases h
      · split at h
        · cases h
        · next hseen =>
            split at h
            · cases h
            · next depth hdepth =>
                obtain ⟨hfresh, hdepths, hnodup⟩ := ih h
                have hnew : job.name ∉ seen := by simpa using hseen
                refine ⟨?_, ?_, List.nodup_cons.2 ⟨fun hmem => ?_, hnodup⟩⟩
                · intro other hother
                  rcases List.mem_cons.1 hother with rfl | hother
                  · exact hnew
                  · exact fun hmem =>
                      hfresh other hother (List.mem_cons_of_mem _ hmem)
                · intro other hother
                  rcases List.mem_cons.1 hother with rfl | hother
                  · exact ⟨depth, hdepth⟩
                  · exact hdepths other hother
                · obtain ⟨other, hother, hname⟩ := List.mem_map.1 hmem
                  exact hfresh other hother (hname ▸ List.mem_cons_self)

theorem Config.checked_of_validate {config : Config}
    (h : config.validate = .ok ()) : config.Checked := by
  unfold validate at h
  split at h
  · cases h
  · next depth hdepth =>
      split at h
      · cases h
      · obtain ⟨-, hdepths, hnames⟩ := checkJobs_ok h
        exact ⟨⟨depth, hdepth⟩, hdepths, hnames⟩

theorem Config.checked_of_ofText {text : String} {config : Config}
    (h : ofText text = .ok config) : config.Checked := by
  unfold ofText at h
  split at h
  · cases h
  · split at h
    · cases h
    · next hvalid =>
        cases h
        exact checked_of_validate hvalid

theorem Config.checked_of_load [FileAccess (StateM σ)] {path : Path} {s : σ}
    {config : Config}
    (h : ((Config.load path : StateM σ _).run s).1 = .ok config) :
    config.Checked := by
  obtain ⟨⟨answer, s₁⟩, hread⟩ :
    ∃ r, (FileAccess.readText path : StateM σ _).run s = r := ⟨_, rfl⟩
  unfold Config.load at h
  rw [StateT.run_bind, hread] at h
  cases answer with
  | error e => cases h
  | ok text =>
      change (ofText text).mapError Failure.config = .ok config at h
      cases htext : ofText text with
      | error fault =>
          rw [htext] at h
          cases h
      | ok found =>
          rw [htext] at h
          cases h
          exact checked_of_ofText htext

/-- A job is found by its name. -/
theorem Config.Checked.job? {config : Config} (h : config.Checked) {job : Job}
    (hjob : job ∈ config.jobs) : config.job? job.name = some job := by
  have hnames := h.names
  rw [Config.job?]
  generalize config.jobs = jobs at hjob hnames
  induction jobs with
  | nil => cases hjob
  | cons first jobs ih =>
      obtain ⟨hnew, hrest⟩ := List.nodup_cons.1 hnames
      rcases List.mem_cons.1 hjob with rfl | hjob
      · simp
      · have hne : first.name ≠ job.name := fun heq =>
          hnew (heq ▸ List.mem_map_of_mem hjob)
        rw [List.find?_cons, beq_eq_false_iff_ne.2 hne]
        exact ih hjob hrest

theorem Config.Checked.ofJob {config : Config} (h : config.Checked) {job : Job}
    (hjob : job ∈ config.jobs) : ∃ r, Request.ofJob job = .ok r := by
  obtain ⟨depth, hdepth⟩ := h.depths job hjob
  unfold Request.ofJob
  rw [hdepth]
  exact ⟨_, rfl⟩

theorem Config.Checked.depthWith {config : Config} (h : config.Checked)
    (r : Request) : ∃ depth, r.depthWith config.defaults = .ok depth := by
  unfold Request.depthWith
  split
  · exact ⟨_, rfl⟩
  · exact h.depth

/-- Jobs that are found are jobs of the configuration. -/
theorem Session.jobs_cases (config : Config) (only : Option String) :
    (∃ fault, Session.jobs config only = .error fault ∧
      ∀ value, fault ≠ .depthNumber value) ∨
    ∃ jobs, Session.jobs config only = .ok jobs ∧
      ∀ job ∈ jobs, job ∈ config.jobs := by
  cases only with
  | none =>
      cases hempty : config.jobs.isEmpty with
      | true =>
          exact .inl ⟨.noJobs, by simp [Session.jobs, hempty], fun _ => by simp⟩
      | false =>
          exact .inr ⟨config.jobs, by simp [Session.jobs, hempty],
            fun _ hjob => hjob⟩
  | some name =>
      cases hfind : config.job? name with
      | none =>
          exact .inl ⟨.noSuchJob name, by simp [Session.jobs, hfind],
            fun _ => by simp⟩
      | some job =>
          refine .inr ⟨[job], by simp [Session.jobs, hfind],
            fun job' hjob' => ?_⟩
          rw [List.mem_singleton.1 hjob']
          exact List.mem_of_find?_eq_some hfind

/-! ## How tasks may fail -/

/-- In a session with this configuration the task leaves the configuration as it
is, and if it fails, it fails in an allowed way. -/
def Task.Obeys (t : Task (StateM σ) ε α) (config : Config)
    (allowed : ε → Prop) : Prop :=
  ∀ u s, u.config = config → (t.result u s).1.2.config = config ∧
    ∀ e, (t.result u s).1.1 = .error e → allowed e

/-- The failure is not that of a negative depth. -/
def Failure.SparesDepth (e : Failure) : Prop :=
  ∀ value, e ≠ .config (.depthNumber value)

namespace Task.Obeys

variable {config : Config} {allowed : ε → Prop} {t : Task (StateM σ) ε α}

theorem pure (a : α) :
    Obeys (Pure.pure a : Task (StateM σ) ε α) config allowed :=
  fun _ _ hu => ⟨hu, fun _ he => by cases he⟩

theorem throw {e : ε} (he : allowed e) :
    Obeys (MonadExcept.throw e : Task (StateM σ) ε α) config allowed :=
  fun _ _ hu => ⟨hu, fun _ h => by cases h; exact he⟩

theorem modify {f : Session → Session} (hf : ∀ u, (f u).config = u.config) :
    Obeys (modify f : Task (StateM σ) ε Unit) config allowed :=
  fun u _ hu => ⟨(hf u).trans hu, fun _ he => by cases he⟩

theorem ask (action : StateM σ α) :
    Obeys (Session.ask action : Task (StateM σ) ε α) config allowed :=
  fun _ _ hu => ⟨hu, fun _ he => by cases he⟩

theorem bind {f : α → Task (StateM σ) ε β} (ht : Obeys t config allowed)
    (hf : ∀ a, Obeys (f a) config allowed) :
    Obeys (t >>= f) config allowed := by
  intro u s hu
  obtain ⟨hconfig, hfail⟩ := ht u s hu
  obtain ⟨e, u₁, s₁, hrun, hbind⟩ | ⟨a, u₁, s₁, hrun, hbind⟩ :=
    Task.result_bind_cases t f u s
  · rw [hrun] at hconfig hfail
    rw [hbind]
    refine ⟨hconfig, fun e' he' => ?_⟩
    cases he'
    exact hfail e rfl
  · rw [hrun] at hconfig
    rw [hbind]
    exact hf a u₁ s₁ hconfig

/-- What is asked of the session is told of one with this configuration. -/
theorem get_bind {f : Session → Task (StateM σ) ε β}
    (hf : ∀ u, u.config = config → Obeys (f u) config allowed) :
    Obeys (MonadState.get >>= f) config allowed := by
  intro u s hu
  rw [Task.result_bind_ok Task.result_get]
  exact hf u hu u s hu

theorem settle {asFailure : δ → Failure} {x : Except δ α}
    {allowed : Failure → Prop}
    (h : ∀ e, x = .error e → allowed (asFailure e)) :
    Obeys (Session.settle asFailure x : Task (StateM σ) Failure α) config
      allowed := by
  cases x with
  | error e => exact throw (h e rfl)
  | ok a => exact pure a

theorem adapt (h : Obeys t config allowed) (f : ε → δ) {later : δ → Prop}
    (hf : ∀ e, allowed e → later (f e)) :
    Obeys (ExceptT.adapt f t : Task (StateM σ) δ α) config later := by
  intro u s hu
  obtain ⟨hconfig, hfail⟩ := h u s hu
  obtain ⟨⟨⟨x, v⟩, s₁⟩, hrun⟩ : ∃ r, t.result u s = r := ⟨_, rfl⟩
  rw [hrun] at hconfig hfail
  rw [Task.result_adapt hrun]
  refine ⟨hconfig, fun e he => ?_⟩
  cases x with
  | ok a => cases he
  | error e' =>
      cases he
      exact hf e' (hfail e' rfl)

theorem mapM {f : δ → Task (StateM σ) ε α} {ds : List δ}
    (h : ∀ d ∈ ds, Obeys (f d) config allowed) :
    Obeys (ds.mapM f) config allowed := by
  induction ds with
  | nil => exact pure []
  | cons d ds ih =>
      rw [List.mapM_cons]
      exact bind (h d List.mem_cons_self) fun _ =>
        bind (ih fun d' hd' => h d' (List.mem_cons_of_mem _ hd')) fun _ =>
          pure _

variable [FileAccess (StateM σ)]

theorem load (input : Path) :
    Obeys (Session.load input : Task (StateM σ) Failure Loaded) config
      Failure.SparesDepth :=
  bind (ask _) fun _ => bind (settle fun _ _ _ => by simp) fun _ =>
    get_bind fun _ _ => bind (settle fun _ _ _ => by simp) fun _ =>
      bind (modify fun _ => rfl) fun _ => pure _

omit [FileAccess (StateM σ)] in
theorem select (c : Criteria) (loaded : Loaded) :
    Obeys (Session.select c loaded : Task (StateM σ) Failure Selection) config
      Failure.SparesDepth :=
  get_bind fun _ _ => bind (modify fun _ => rfl) fun _ => pure _

omit [FileAccess (StateM σ)] in
theorem expand (c : Criteria) (loaded : Loaded) (direct : Selection)
    (depth : Nat) :
    Obeys (Session.expand c loaded direct depth :
      Task (StateM σ) Failure Selection) config Failure.SparesDepth :=
  bind (modify fun _ => rfl) fun _ => bind (modify fun _ => rfl) fun _ => pure _

theorem draftReport (r : Request) (output : Path) (loaded : Loaded)
    (depth : Nat) (selection : Selection) :
    Obeys (Session.draftReport r output loaded depth selection :
      Task (StateM σ) Failure (Option (Path × String))) config
      Failure.SparesDepth := by
  unfold Session.draftReport
  split
  · exact pure _
  · refine bind (ask _) fun time => ?_
    split
    · exact throw fun _ => by simp
    · exact pure _

theorem draft {r : Request} {depth : Nat}
    (hdepth : r.depthWith config.defaults = .ok depth) :
    Obeys (Session.draft r : Task (StateM σ) Failure Draft) config
      Failure.SparesDepth := by
  unfold Session.draft
  refine get_bind fun u hu => ?_
  rw [hu]
  refine bind (settle fun e he => by rw [hdepth] at he; cases he) fun depth =>
    bind (settle fun _ _ _ => by simp) fun c => bind (load r.input)
      fun loaded => bind (select c loaded) fun direct =>
        bind ?_ fun selection => ?_
  · split
    · exact expand c loaded direct depth
    · exact pure direct
  dsimp only
  split
  · split
    · exact bind (throw fun _ => by simp) fun _ => bind (modify fun _ => rfl)
        fun _ => bind (draftReport _ _ _ _ _) fun _ => pure _
    · exact bind (modify fun _ => rfl) fun _ =>
        bind (draftReport _ _ _ _ _) fun _ => pure _
  · exact bind (draftReport _ _ _ _ _) fun _ => pure _

theorem stageReport (report : Option (Path × String)) :
    Obeys (Session.stageReport report :
      Task (StateM σ) Failure (Option Staged)) config
      Failure.SparesDepth := by
  cases report with
  | none => exact pure none
  | some report =>
      exact bind (ask _) fun _ => bind (settle fun _ _ _ => by simp) fun _ =>
        pure _

theorem conclude (d : Draft) (report : Option Staged)
    (written : Except IoError Unit) :
    Obeys (Session.conclude d report written :
      Task (StateM σ) Failure Outcome) config Failure.SparesDepth := by
  cases written with
  | error e =>
      refine bind ?_ fun _ => throw fun _ => by simp
      cases report with
      | none => exact pure ()
      | some staged => exact ask _
  | ok _ =>
      refine bind ?_ fun _ => pure _
      cases report with
      | none => exact pure ()
      | some staged => exact bind (ask _) fun _ => settle fun _ _ _ => by simp

theorem extract {r : Request} {depth : Nat}
    (hdepth : r.depthWith config.defaults = .ok depth) :
    Obeys (Session.extract r : Task (StateM σ) Failure Outcome) config
      Failure.SparesDepth :=
  bind (draft hdepth) fun d => bind (stageReport d.report) fun report =>
    bind (ask _) fun (written, _) => bind (modify fun _ => rfl) fun _ =>
      conclude d report written

theorem runJob (h : config.Checked) {job : Job} (hjob : job ∈ config.jobs) :
    Obeys (Session.runJob job : Task (StateM σ) Abort Outcome) config
      fun e => e.failure.SparesDepth := by
  obtain ⟨r, hr⟩ := h.ofJob hjob
  obtain ⟨depth, hdepth⟩ := h.depthWith r
  unfold Session.runJob
  rw [hr]
  exact (extract hdepth).adapt _ fun _ he => he

theorem runJobs (h : config.Checked) (only : Option String) :
    Obeys (Session.runJobs only : Task (StateM σ) Abort (List Outcome)) config
      fun e => e.failure.SparesDepth := by
  unfold Session.runJobs
  refine get_bind fun u hu => ?_
  rw [hu]
  obtain ⟨fault, hfault, hspares⟩ | ⟨jobs, hjobs, hmem⟩ :=
    Session.jobs_cases config only
  · rw [hfault]
    exact throw fun value heq => hspares value (Failure.config.inj heq)
  · rw [hjobs]
    exact mapM fun job hjob => runJob h (hmem job hjob)

end Task.Obeys

/-! ## Jobs in turn -/

section InTurn

variable [FileAccess (StateM σ)]

/-- Calls jobs by their names, one behind the other, up to the first that fails.
The outcomes of all calls are put together. -/
def Session.runInTurn : List String → Session → σ →
    (Except Abort (List Outcome) × Session) × σ
  | [], u, s => ((.ok [], u), s)
  | name :: names, u, s =>
    match (Session.runJobs (some name)).result u s with
    | ((.error e, v), s₁) => ((.error e, v), s₁)
    | ((.ok outcomes, v), s₁) =>
      let ((later, w), s₂) := Session.runInTurn names v s₁
      ((later.map (outcomes ++ ·), w), s₂)

variable {config : Config} {u v w : Session} {s s₁ s₂ : σ}

theorem runInTurn_cons_error {name : String} {e : Abort}
    (h : (Session.runJobs (some name)).result u s = ((.error e, v), s₁))
    (names : List String) :
    Session.runInTurn (name :: names) u s = ((.error e, v), s₁) := by
  rw [Session.runInTurn, h]

theorem runInTurn_cons_ok {name : String} {names : List String}
    {outcomes : List Outcome} {later : Except Abort (List Outcome)}
    (h : (Session.runJobs (some name)).result u s = ((.ok outcomes, v), s₁))
    (hlater : Session.runInTurn names v s₁ = ((later, w), s₂)) :
    Session.runInTurn (name :: names) u s =
      ((later.map (outcomes ++ ·), w), s₂) := by
  simp only [Session.runInTurn, h, hlater]

/-- A job that is called by its name is the only one that runs. -/
theorem result_runJobs_some (h : config.Checked) (hu : u.config = config)
    {job : Job} (hjob : job ∈ config.jobs) (s : σ) :
    (Session.runJobs (some job.name)).result u s =
      (Session.runJob job >>= fun outcome =>
        Pure.pure [outcome]).result u s := by
  have hjobs : Session.jobs u.config (some job.name) = .ok [job] := by
    simp only [Session.jobs, hu, h.job? hjob]
  unfold Session.runJobs
  rw [Task.result_bind_ok Task.result_get, hjobs]
  simp only [List.mapM_cons, List.mapM_nil, pure_bind]

/-- Jobs that run together run in turn. -/
theorem result_mapM_runJob (h : config.Checked) (hu : u.config = config)
    {jobs : List Job} (hjobs : ∀ job ∈ jobs, job ∈ config.jobs) (s : σ) :
    (jobs.mapM Session.runJob).result u s =
      Session.runInTurn (jobs.map Job.name) u s := by
  induction jobs generalizing u s with
  | nil => rfl
  | cons job jobs ih =>
      have hjob := hjobs job List.mem_cons_self
      have hcalled := result_runJobs_some h hu hjob s
      obtain ⟨⟨⟨x, v⟩, s₁⟩, hrun⟩ :
        ∃ r, (Session.runJob job : Task (StateM σ) _ _).result u s = r :=
        ⟨_, rfl⟩
      rw [List.mapM_cons, List.map_cons]
      cases x with
      | error e =>
          rw [Task.result_bind_error hrun] at hcalled ⊢
          exact (runInTurn_cons_error hcalled _).symm
      | ok outcome =>
          rw [Task.result_bind_ok hrun] at hcalled ⊢
          -- The configuration is still there for the jobs that follow.
          have hv : v.config = config := by
            have hkept := (Task.Obeys.runJob h hjob u s hu).1
            rwa [hrun] at hkept
          have hlater := ih hv
            (fun job' hjob' => hjobs job' (List.mem_cons_of_mem _ hjob')) s₁
          obtain ⟨⟨⟨y, w⟩, s₂⟩, hrest⟩ :
            ∃ r, (jobs.mapM Session.runJob).result v s₁ = r := ⟨_, rfl⟩
          rw [runInTurn_cons_ok hcalled (hlater.symm.trans hrest)]
          cases y with
          | error e => exact Task.result_bind_error hrest _
          | ok later => exact Task.result_bind_ok hrest _

theorem result_runJobs_all (hjobs : config.jobs ≠ []) (hu : u.config = config)
    (s : σ) :
    (Session.runJobs none).result u s =
      (config.jobs.mapM Session.runJob).result u s := by
  have hall : Session.jobs u.config none = .ok config.jobs := by
    simp only [Session.jobs, hu, List.isEmpty_iff, hjobs]
    rfl
  unfold Session.runJobs
  rw [Task.result_bind_ok Task.result_get, hall]

theorem result_runJobs_none (h : config.Checked) (hjobs : config.jobs ≠ [])
    (hu : u.config = config) (s : σ) :
    (Session.runJobs none).result u s =
      Session.runInTurn (config.jobs.map Job.name) u s := by
  rw [result_runJobs_all hjobs hu s]
  exact result_mapM_runJob h hu (fun _ hjob => hjob) s

/-- Calls in turn can be cut anywhere: the later ones go on from where the
earlier ones have led. -/
theorem runInTurn_append {before names : List String} {outcomes : List Outcome}
    {later : Except Abort (List Outcome)}
    (h : Session.runInTurn before u s = ((.ok outcomes, v), s₁))
    (hlater : Session.runInTurn names v s₁ = ((later, w), s₂)) :
    Session.runInTurn (before ++ names) u s =
      ((later.map (outcomes ++ ·), w), s₂) := by
  induction before generalizing u s outcomes with
  | nil =>
      cases h
      rw [List.nil_append, hlater]
      cases later <;> rfl
  | cons name before ih =>
      obtain ⟨⟨⟨x, u₁⟩, s₃⟩, hrun⟩ :
        ∃ r, (Session.runJobs (some name) :
          Task (StateM σ) _ _).result u s = r := ⟨_, rfl⟩
      cases x with
      | error e =>
          rw [runInTurn_cons_error hrun] at h
          cases h
      | ok first =>
          obtain ⟨⟨⟨y, u₂⟩, s₄⟩, hrest⟩ :
            ∃ r, Session.runInTurn before u₁ s₃ = r := ⟨_, rfl⟩
          rw [runInTurn_cons_ok hrun hrest] at h
          cases y with
          | error e => cases h
          | ok rest =>
              cases h
              rw [List.cons_append, runInTurn_cons_ok hrun (ih hrest)]
              cases later with
              | error e => rfl
              | ok later => simp only [Except.map, List.append_assoc]

/-- If calls in turn fail, one of them does and those before it succeed. -/
theorem exists_call_of_runInTurn_error {names : List String} {e : Abort}
    (h : Session.runInTurn names u s = ((.error e, w), s₂)) :
    ∃ before name after outcomes v s₁, names = before ++ name :: after ∧
      Session.runInTurn before u s = ((.ok outcomes, v), s₁) ∧
      (Session.runJobs (some name)).result v s₁ = ((.error e, w), s₂) := by
  induction names generalizing u s with
  | nil => cases h
  | cons first names ih =>
      obtain ⟨⟨⟨x, u₁⟩, s₃⟩, hrun⟩ :
        ∃ r, (Session.runJobs (some first) :
          Task (StateM σ) _ _).result u s = r := ⟨_, rfl⟩
      cases x with
      | error e' =>
          rw [runInTurn_cons_error hrun] at h
          cases h
          exact ⟨[], first, names, [], u, s, rfl, rfl, hrun⟩
      | ok outcomes =>
          obtain ⟨⟨⟨later, u₂⟩, s₄⟩, hlater⟩ :
            ∃ r, Session.runInTurn names u₁ s₃ = r := ⟨_, rfl⟩
          rw [runInTurn_cons_ok hrun hlater] at h
          cases later with
          | ok later => cases h
          | error e' =>
              cases h
              obtain ⟨before, name, after, others, v, s₁, rfl, hbefore,
                hfails⟩ := ih hlater
              exact ⟨first :: before, name, after, outcomes ++ others, v, s₁,
                rfl, runInTurn_cons_ok hrun hbefore, hfails⟩

/-- Calling jobs in turn fails as the first call that fails, and where it
does. -/
theorem runInTurn_eq_error_iff {names : List String} {e : Abort} :
    Session.runInTurn names u s = ((.error e, w), s₂) ↔
      ∃ before name after outcomes v s₁, names = before ++ name :: after ∧
        Session.runInTurn before u s = ((.ok outcomes, v), s₁) ∧
        (Session.runJobs (some name)).result v s₁ = ((.error e, w), s₂) := by
  constructor
  · exact exists_call_of_runInTurn_error
  · rintro ⟨before, name, after, outcomes, v, s₁, rfl, hbefore, hfails⟩
    exact runInTurn_append hbefore (runInTurn_cons_error hfails after)

/-- Running all jobs is running each by name. Let a session have a configuration
that can be loaded and has jobs. Running all of them leads where calling them by
their names leads, in the order of the configuration and up to the first that
fails: to the same outcomes or failure, the same session and the same files. It
fails exactly if some call does behind others that succeed, with the failure of
this call and the files that it leaves. And no job fails for a negative
depth. -/
theorem runJobs_in_turn {path : Path} {s₀ : σ}
    (hload : ((Config.load path : StateM σ _).run s₀).1 = .ok config)
    (hjobs : config.jobs ≠ []) (hu : u.config = config) (s : σ) :
    (Session.runJobs none).result u s =
      Session.runInTurn (config.jobs.map Job.name) u s ∧
    (∀ e w s₂, (Session.runJobs none).result u s = ((.error e, w), s₂) ↔
      ∃ before job after outcomes v s₁,
        config.jobs = before ++ job :: after ∧
        Session.runInTurn (before.map Job.name) u s =
          ((.ok outcomes, v), s₁) ∧
        (Session.runJobs (some job.name)).result v s₁ =
          ((.error e, w), s₂)) ∧
    ∀ only e w s₂, (Session.runJobs only).result u s = ((.error e, w), s₂) →
      ∀ value, e.failure ≠ .config (.depthNumber value) := by
  have h := Config.checked_of_load hload
  have hall := result_runJobs_none h hjobs hu s
  refine ⟨hall, fun e w s₂ => ?_, fun only e w s₂ hrun => ?_⟩
  · rw [hall, runInTurn_eq_error_iff]
    constructor
    · rintro ⟨names, name, names', outcomes, v, s₁, hsplit, hbefore, hfails⟩
      obtain ⟨before, rest, hsplit', rfl, hrest⟩ :=
        List.map_eq_append_iff.1 hsplit
      obtain ⟨job, after, rfl, rfl, rfl⟩ := List.map_eq_cons_iff.1 hrest
      exact ⟨before, job, after, outcomes, v, s₁, hsplit', hbefore, hfails⟩
    · rintro ⟨before, job, after, outcomes, v, s₁, hsplit, hbefore, hfails⟩
      refine ⟨before.map Job.name, job.name, after.map Job.name, outcomes, v,
        s₁, ?_, hbefore, hfails⟩
      rw [hsplit, List.map_append, List.map_cons]
  · refine (Task.Obeys.runJobs h only u s hu).2 e ?_
    rw [hrun]

end InTurn

/-! ## Jobs that feed each other -/

open LawfulFiles (view)

/-- The second job takes what the first one makes, and does not find there what
it asks for. -/
def chainConfig : Config where
  defaults := ⟨"out.ll", 0, [], true, 10⟩
  jobs := [
    { name := "1", input := "in.ll", output := some "mid.ll",
      functions := ["a"] },
    { name := "2", input := "mid.ll", output := some "2.ll",
      functions := ["b"] },
    { name := "3", input := "mid.ll", output := some "3.ll",
      functions := ["a"] }]

def chainDisk : Disk where
  entries := [
    (.named "jobs.toml", .file (String.toUTF8 (
      "defaults = [\"out.ll\", 0, [], true]\n" ++
      "jobs = [" ++
        "[\"1\", \"in.ll\", \"mid.ll\", [\"a\"]]," ++
        "[\"2\", \"mid.ll\", \"2.ll\", [\"b\"]]," ++
        "[\"3\", \"mid.ll\", \"3.ll\", [\"a\"]]]\n"))),
    (.named "in.ll", .file (String.toUTF8
      "define void @a() \x7b\n\x7d\ndefine void @b() \x7b\n\x7d\n"))]
  here := []
  clock _ := ""

/-- Where running all of them leads. -/
def chainRun : (Except Abort (List Outcome) × Session) × Disk :=
  (Session.runJobs none).result (.ofConfig chainConfig) chainDisk

theorem runJobs_in_turn_sample :
    ((Config.load (.ofString "jobs.toml") : StateM Disk _).run chainDisk).1 =
        .ok chainConfig ∧
      (chainRun.1.1 = .error (.during (.runningJob "2") .emptySelection) ∧
        (view chainRun.2).files (.named "mid.ll") =
          some (String.toUTF8 "define void @a() \x7b\n\x7d\n") ∧
        (view chainRun.2).files (.named "3.ll") = none) ∧
      chainRun = Session.runInTurn ["1", "2", "3"] (.ofConfig chainConfig)
        chainDisk ∧
      ∃ before job after outcomes v s₁,
        chainConfig.jobs = before ++ job :: after ∧
        Session.runInTurn (before.map Job.name) (.ofConfig chainConfig)
          chainDisk = ((.ok outcomes, v), s₁) ∧
        (Session.runJobs (some job.name)).result v s₁ = chainRun := by
  have hload : ((Config.load (.ofString "jobs.toml") :
      StateM Disk _).run chainDisk).1 = .ok chainConfig := by
    decide +kernel
  have hleft : chainRun.1.1 =
        .error (.during (.runningJob "2") .emptySelection) ∧
      (view chainRun.2).files (.named "mid.ll") =
        some (String.toUTF8 "define void @a() \x7b\n\x7d\n") ∧
      (view chainRun.2).files (.named "3.ll") = none := by
    decide +kernel
  have hrun : chainRun = ((.error (.during (.runningJob "2") .emptySelection),
      chainRun.1.2), chainRun.2) :=
    Prod.ext (Prod.ext hleft.1 rfl) rfl
  obtain ⟨hturn, hfirst, -⟩ :=
    runJobs_in_turn hload (by decide) (u := .ofConfig chainConfig) rfl
      chainDisk
  obtain ⟨before, job, after, outcomes, v, s₁, hsplit, hbefore, hcalled⟩ :=
    (hfirst _ _ _).1 hrun
  exact ⟨hload, hleft, hturn, before, job, after, outcomes, v, s₁, hsplit,
    hbefore, hcalled.trans hrun.symm⟩

end IrExcerpt
