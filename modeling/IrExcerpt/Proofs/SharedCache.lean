import IrExcerpt.Proofs.Lockstep

/-!
# The cache does not show

A call in a session that has been used must end as it would end in a new one,
whatever calls there have been and whatever has happened to the files in between.
Two things are needed for that. A session that has been used still keeps nothing
false, and a call in such a session goes in lockstep with the same call in a new
one. The first follows from the second: a call that is compared with itself
leaves the session as the comparison wants it. Jobs are the one case with
something to do, since where a job starts depends on how the one before it
ended.

The texts that have been loaded are collected on the way (`Used`), because the
digest has to tell them apart.
-/

namespace IrExcerpt

variable {σ ε α δ : Type}

/-! ## Sessions that have been used -/

/-- The session has this configuration, and everything it keeps is from one of
these texts. -/
structure Session.Sound (u : Session) (config : Config) (texts : Set String) :
    Prop where
  config : u.config = config
  cache : u.cache.Sound texts

variable {config : Config} {texts : Set String} {u v : Session} {s s₁ : σ}

/-- A task in lockstep with itself keeps the invariant. -/
theorem Lockstep.sound {t : Task (StateM σ) ε α} {Q : α → α → σ → Prop}
    (h : Lockstep ⟨config, texts, u.events, u.events, True⟩ s t t Q)
    (hu : u.Sound config texts) : (t.result u s).1.2.Sound config texts := by
  obtain ⟨x, x', v, v', s₁, hrun, -, halike, -⟩ := h u u
    ⟨hu.config, hu.config, hu.cache, hu.cache, ⟨[], by simp, by simp⟩,
      fun _ => rfl⟩
  rw [hrun]
  exact ⟨halike.config, halike.sound⟩

/-- The task ends as it does in a new session, tells the same on top of what has
been told, and leaves the same files. -/
structure Task.EndsAsNew (t : Task (StateM σ) ε α) (config : Config)
    (u : Session) (s : σ) : Prop where
  outcome : (t.result u s).1.1 = (t.result (.ofConfig config) s).1.1
  told : (t.result u s).1.2.events =
    u.events ++ (t.result (.ofConfig config) s).1.2.events
  files : (t.result u s).2 = (t.result (.ofConfig config) s).2

theorem Lockstep.endsAsNew {t : Task (StateM σ) ε α}
    (h : Lockstep ⟨config, texts, u.events, [], False⟩ s t t
      fun a b _ => b = a)
    (hu : u.Sound config texts) : t.EndsAsNew config u s := by
  obtain ⟨x, x', v, v', s₁, hrun, hnew, halike, hends⟩ :=
    h u (.ofConfig config)
      ⟨hu.config, rfl, hu.cache, Cache.sound_empty texts,
        ⟨[], by simp, rfl⟩, False.elim⟩
  obtain ⟨told, hlog, hlog'⟩ := halike.told
  refine ⟨?_, ?_, ?_⟩
  · rw [hrun, hnew]
    cases hends with
    | ok h => rw [h]
    | error e => rfl
  · rw [hrun, hnew]
    exact hlog.trans (congrArg _ hlog'.symm)
  · rw [hrun, hnew]

theorem Task.result_adapt {t : Task (StateM σ) ε α} {x : Except ε α}
    (h : t.result u s = ((x, v), s₁)) (f : ε → δ) :
    Task.result (ExceptT.adapt f t) u s = ((x.mapError f, v), s₁) := by
  change (((t.result u s).1.1.mapError f, (t.result u s).1.2),
    (t.result u s).2) = _
  rw [h]

theorem Task.session_bind_pure (t : Task (StateM σ) ε α) (f : α → δ) :
    ((t >>= fun a => Pure.pure (f a)).result u s).1.2 = (t.result u s).1.2 := by
  obtain ⟨e, v, s₁, hrun, hbind⟩ | ⟨a, v, s₁, hrun, hbind⟩ :=
    Task.result_bind_cases t (fun a => Pure.pure (f a)) u s
  · rw [hbind, hrun]
  · rw [hbind, hrun]
    rfl

section Used

variable [FileAccess (StateM σ)]

/-- Jobs that are run one after the other, from files `s`, load `text`. Behind
a job that fails none is run. -/
def JobsLoad : List Job → Session → σ → String → Prop
  | [], _, _, _ => False
  | job :: jobs, u, s, text => ∃ r, Request.ofJob job = .ok r ∧
      (r.Loads u.config.defaults s text ∨ ∃ outcome v s₁,
        (Session.extract r).result u s = ((.ok outcome, v), s₁) ∧
          JobsLoad jobs v s₁ text)

variable (σ) in
/-- The session has come from a new one by calls, each on whatever files it
found, and `texts` have been loaded on the way. -/
inductive Used (config : Config) : Set String → Session → Prop
  | new : Used config ∅ (Session.ofConfig config)
  | extract {texts : Set String} {u : Session} (h : Used config texts u)
      (r : Request) (s : σ) :
      Used config (texts ∪ {text | r.Loads u.config.defaults s text})
        ((Session.extract r).result u s).1.2
  | runJobs {texts : Set String} {u : Session} (h : Used config texts u)
      (only : Option String) (s : σ) :
      Used config (texts ∪ {text | ∃ jobs,
          Session.jobs u.config only = .ok jobs ∧ JobsLoad jobs u s text})
        ((Session.runJobs only).result u s).1.2
  | graph {texts : Set String} {u : Session} (h : Used config texts u)
      (input : Path) (names : List String) (depth : Nat) (s : σ) :
      Used config (texts ∪ {text | GraphLoads input names s text})
        ((Session.graph input names depth).result u s).1.2

theorem Session.Sound.extract (hu : u.Sound config texts) {r : Request}
    (htext : ∀ text, r.Loads u.config.defaults s text → text ∈ texts) :
    ((Session.extract r).result u s).1.2.Sound config texts := by
  rw [hu.config] at htext
  refine Lockstep.sound (Lockstep.extract fun text hloads => ?_) hu
  exact ⟨htext text hloads, .inl trivial⟩

theorem Session.Sound.graph (hu : u.Sound config texts) {input : Path}
    {names : List String} (depth : Nat)
    (htext : ∀ text, GraphLoads input names s text → text ∈ texts) :
    ((Session.graph input names depth).result u s).1.2.Sound config texts :=
  Lockstep.sound (Lockstep.graph depth fun text hloads =>
    ⟨htext text hloads, .inl trivial⟩) hu

theorem result_runJob {job : Job} {r : Request} {x : Except Failure Outcome}
    (hjob : Request.ofJob job = .ok r)
    (h : (Session.extract r).result u s = ((x, v), s₁)) :
    (Session.runJob job).result u s =
      ((x.mapError (.during (.runningJob job.name)), v), s₁) := by
  unfold Session.runJob
  rw [hjob]
  exact Task.result_adapt h _

/-- Jobs keep the invariant, up to the first that fails. -/
theorem Session.Sound.mapM_runJob (hu : u.Sound config texts) {jobs : List Job}
    (htext : ∀ text, JobsLoad jobs u s text → text ∈ texts) :
    ((jobs.mapM Session.runJob).result u s).1.2.Sound config texts := by
  induction jobs generalizing u s with
  | nil => exact hu
  | cons job jobs ih =>
      rw [List.mapM_cons]
      cases hjob : Request.ofJob job with
      | error fault =>
          have hfirst : (Session.runJob job).result u s =
              ((.error (.of (.config fault)), u), s) := by
            unfold Session.runJob
            rw [hjob]
            rfl
          rw [Task.result_bind_error hfirst]
          exact hu
      | ok r =>
          have hkept := hu.extract (s := s) fun text hloads =>
            htext text ⟨r, hjob, .inl hloads⟩
          obtain ⟨⟨⟨x, v⟩, s₁⟩, hrun⟩ :
              ∃ e, (Session.extract r).result u s = e := ⟨_, rfl⟩
          have hfirst := result_runJob hjob hrun
          rw [hrun] at hkept
          -- Only a job that succeeds has others run behind it.
          cases x with
          | error e =>
              rw [Task.result_bind_error hfirst]
              exact hkept
          | ok outcome =>
              rw [Task.result_bind_ok hfirst, Task.session_bind_pure]
              exact ih hkept fun text hloads =>
                htext text ⟨r, hjob, .inr ⟨outcome, v, s₁, hrun, hloads⟩⟩

theorem Session.Sound.runJobs (hu : u.Sound config texts) {only : Option String}
    (htext : ∀ text jobs, Session.jobs u.config only = .ok jobs →
      JobsLoad jobs u s text → text ∈ texts) :
    ((Session.runJobs only).result u s).1.2.Sound config texts := by
  unfold Session.runJobs
  rw [Task.result_bind_ok Task.result_get]
  cases hjobs : Session.jobs u.config only with
  | error fault => exact hu
  | ok jobs => exact hu.mapM_runJob fun text => htext text jobs hjobs

theorem Used.sound (h : Used σ config texts u) {all : Set String}
    (hall : texts ⊆ all) : u.Sound config all := by
  induction h with
  | new => exact ⟨rfl, Cache.sound_empty all⟩
  | extract h r s ih =>
      rw [Set.union_subset_iff] at hall
      exact (ih hall.1).extract fun text hloads => hall.2 hloads
  | runJobs h only s ih =>
      rw [Set.union_subset_iff] at hall
      exact (ih hall.1).runJobs fun text jobs hjobs hloads =>
        hall.2 ⟨jobs, hjobs, hloads⟩
  | graph h input names depth s ih =>
      rw [Set.union_subset_iff] at hall
      exact (ih hall.1).graph depth fun text hloads => hall.2 hloads

/-- The cache does not show. Let a session have come from a new one by any
calls, on files that may have changed in any way in between, and let digests tell
the texts apart that have been loaded. Then a call that extracts or lists ends
with the same result or failure as in a new session, tells the same and leaves
the same files. -/
theorem endsAsNew_of_used (h : Used σ config texts u) (s : σ) :
    (∀ r : Request,
      Set.InjOn Digest.sha256
        (texts ∪ {text | r.Loads config.defaults s text}) →
      (Session.extract r).EndsAsNew config u s) ∧
    ∀ (input : Path) (names : List String) (depth : Nat),
      Set.InjOn Digest.sha256 (texts ∪ {text | GraphLoads input names s text}) →
      (Session.graph input names depth).EndsAsNew config u s := by
  refine ⟨fun r hdigest => ?_, fun input names depth hdigest => ?_⟩
  · have hu : u.Sound config (texts ∪ {text | r.Loads config.defaults s text}) :=
      h.sound Set.subset_union_left
    refine Lockstep.endsAsNew (Lockstep.extract fun text hloads => ?_) hu
    exact ⟨.inr hloads, .inr fun other hother hsame =>
      hdigest hother (.inr hloads) hsame⟩
  · have hu : u.Sound config (texts ∪ {text | GraphLoads input names s text}) :=
      h.sound Set.subset_union_left
    refine Lockstep.endsAsNew (Lockstep.graph depth fun text hloads => ?_) hu
    exact ⟨.inr hloads, .inr fun other hother hsame =>
      hdigest hother (.inr hloads) hsame⟩

end Used

/-! ## A session that has been used -/

/-- A function with a call, and the same function without it. -/
def callingText : String := "define void @a() \x7b\n  call void @b()\n\x7d\n"

def plainText : String := "define void @a() \x7b\n\x7d\n"

/-- A disk with one file. -/
def diskWith (text : String) : Disk where
  entries := [(.named "in.ll", .file text.toUTF8)]
  here := []
  clock _ := "now"

def reportRequest : Request where
  input := .ofString "in.ll"
  output := some (.ofString "out.ll")
  functions := ["a"]
  functionPatterns := []
  linePatterns := []
  ignorePatterns := []
  depth := some 1
  failOnEmpty := none
  report := some (.ofString "out.json")

theorem endsAsNew_of_used_sample :
    let first := diskWith callingText
    let second := diskWith plainText
    let u := ((Session.extract reportRequest).result (.ofConfig .default)
      first).1.2
    let v := ((Session.graph reportRequest.input ["a"] 1).result u second).1.2
    v.cache.size = 2 ∧
      (Session.extract reportRequest).EndsAsNew .default v first ∧
      (Session.graph reportRequest.input ["a"] 1).EndsAsNew .default v
        first := by
  intro first second u v
  have hused : Used Disk .default _ v :=
    (Used.new.extract reportRequest first).graph reportRequest.input ["a"] 1
      second
  have hread : ∀ (disk : Disk) (content : String),
      (disk.readText reportRequest.input).toOption = some content →
      ∀ text, disk.readText reportRequest.input = .ok text →
        text = content := by
    intro disk content hcontent text hread
    rw [ok_of_toOption hcontent] at hread
    exact (Except.ok.inj hread).symm
  have hfirst := hread first callingText (by decide +kernel)
  have hsecond := hread second plainText (by decide +kernel)
  have hdigest : Set.InjOn Digest.sha256 {callingText, plainText} := by
    rw [Set.injOn_pair]
    exact fun hsame => absurd hsame (by decide +kernel)
  obtain ⟨hextract, hgraph⟩ := endsAsNew_of_used hused first
  refine ⟨by decide +kernel, hextract reportRequest (hdigest.mono ?_),
    hgraph reportRequest.input ["a"] 1 (hdigest.mono ?_)⟩
  · rintro text (((hnone | hloads) | hloads) | hloads)
    · cases hnone
    · exact .inl (hfirst text hloads.2.2)
    · exact .inr (hsecond text hloads.2)
    · exact .inl (hfirst text hloads.2.2)
  · rintro text (((hnone | hloads) | hloads) | hloads)
    · cases hnone
    · exact .inl (hfirst text hloads.2.2)
    · exact .inr (hsecond text hloads.2)
    · exact .inl (hfirst text hloads.2)

end IrExcerpt
