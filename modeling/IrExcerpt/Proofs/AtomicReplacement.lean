import IrExcerpt.Proofs.DiskLaws

/-!
# Replacing a file is atomic

Replacing a file is a sequence of calls on the file system, and whoever looks at
the target between two of them must find the old file or the whole new one. A
run of the program alone does not show what lies between its calls. So it is run
on a file system that keeps a record: `Watched` does what the file system below
it does, and notes every call with its answer and with the state it led to.

Of the recorded calls there is a grammar, `Attempts`: at most two attempts, the
second one behind a failure of the first and a look at the directory. Of the
recorded states there is an invariant, `Moment`: nothing has changed but for a
temporary file, or the new text is in place. Failures are whatever the laws of
files leave open, which is when an operation fails, and what a write that fails
leaves in its temporary file. A write that is still under way looks like one
that fails at this point, so its inner states are among those of a failure.
-/

namespace IrExcerpt

open LawfulFiles (view)

/-! ## A file system that keeps a record -/

/-- A call on the file system, with its answer. -/
inductive Call where
  | readText (p : Path) (answer : Except IoError String)
  | exists? (p : Path) (answer : Bool)
  | isDirectory (p : Path) (answer : Bool)
  | createTemp (directory : Path) (answer : Except IoError Path)
  | writeTemp (temp : Path) (text : String) (answer : Except IoError Unit)
  | syncTemp (temp : Path) (answer : Except IoError Unit)
  | rename (source target : Path) (answer : Except IoError Unit)
  | discard (temp : Path)
  | writeText (p : Path) (text : String) (answer : Except IoError Unit)
  | now (answer : String)

/-- A file system and its history. -/
structure Watched (σ : Type) where
  now : σ
  /-- The calls so far with the states they led to, the first call first. -/
  past : List (Call × σ)

namespace Watched

variable {σ α β : Type}

/-- Nothing has happened yet. -/
def start (s : σ) : Watched σ := ⟨s, []⟩

/-- Does something and notes the call. -/
def note (call : α → Call) (action : StateM σ α) : StateM (Watched σ) α := fun w =>
  let (a, s) := action.run w.now
  (a, ⟨s, w.past ++ [(call a, s)]⟩)

instance [FileAccess (StateM σ)] : FileAccess (StateM (Watched σ)) where
  readText p := note (.readText p) (FileAccess.readText p)
  exists? p := note (.exists? p) (FileAccess.exists? p)
  isDirectory p := note (.isDirectory p) (FileAccess.isDirectory p)
  createTemp p := note (.createTemp p) (FileAccess.createTemp p)
  writeTemp p text := note (.writeTemp p text) (FileAccess.writeTemp p text)
  syncTemp p := note (.syncTemp p) (FileAccess.syncTemp p)
  rename p q := note (.rename p q) (FileAccess.rename p q)
  discard p := note (fun _ => .discard p) (FileAccess.discard p)
  writeText p text := note (.writeText p text) (FileAccess.writeText p text)
  now := note .now FileAccess.now

theorem of_note {call : α → Call} {action : StateM σ α} {w w' : Watched σ}
    {a : α} (h : (note call action).run w = (a, w')) :
    action.run w.now = (a, w'.now) ∧ w'.past = w.past ++ [(call a, w'.now)] := by
  cases h
  exact ⟨rfl, rfl⟩

/-- The laws of files are about what is there now. -/
instance [FileAccess (StateM σ)] [LawfulFiles σ] : LawfulFiles (Watched σ) where
  view w := view w.now
  readText p w := LawfulFiles.readText p w.now
  isDirectory p w := LawfulFiles.isDirectory p w.now
  now w := LawfulFiles.now w.now
  syncTemp temp w := LawfulFiles.syncTemp temp w.now
  createTemp_error h := LawfulFiles.createTemp_error (of_note h).1
  createTemp_ok h := LawfulFiles.createTemp_ok (of_note h).1
  writeTemp h := LawfulFiles.writeTemp (of_note h).1
  rename_error h := LawfulFiles.rename_error (of_note h).1
  rename_ok h := LawfulFiles.rename_ok (of_note h).1
  discard := LawfulFiles.discard (σ := σ)

/-! ## Being watched changes nothing -/

/-- The watched program does what the program does. -/
def Mirrors (x : StateM σ α) (y : StateM (Watched σ) α) : Prop :=
  ∀ w, ((y.run w).1, (y.run w).2.now) = x.run w.now

namespace Mirrors

theorem pure (a : α) :
    Mirrors (Pure.pure a : StateM σ α) (Pure.pure a) := fun _ => rfl

theorem note (call : α → Call) (action : StateM σ α) :
    Mirrors action (Watched.note call action) := fun _ => rfl

theorem bind {x : StateM σ α} {y : StateM (Watched σ) α} (h : Mirrors x y)
    {f : α → StateM σ β} {g : α → StateM (Watched σ) β}
    (hf : ∀ a, Mirrors (f a) (g a)) : Mirrors (x >>= f) (y >>= g) := by
  intro w
  have hnow := h w
  change _ = (f (x.run w.now).1).run (x.run w.now).2
  rw [← hnow]
  exact hf _ _

variable [FileAccess (StateM σ)]

theorem abandon (temp : Path) (e : IoError) :
    Mirrors (abandon temp e : StateM σ (Except IoError α))
      (IrExcerpt.abandon temp e) :=
  (note _ _).bind fun _ => pure _

theorem stage (target : Path) (text : String) :
    Mirrors (stage target text : StateM σ _) (IrExcerpt.stage target text) := by
  unfold IrExcerpt.stage
  refine (note _ _).bind fun here => ?_
  cases here with
  | false => exact pure _
  | true =>
      refine (note _ _).bind fun made => ?_
      cases made with
      | error e => exact pure _
      | ok temp =>
          refine (note _ _).bind fun written => ?_
          cases written with
          | error e => exact abandon temp e
          | ok _ =>
              refine (note _ _).bind fun synced => ?_
              cases synced with
              | error e => exact abandon temp e
              | ok _ => exact pure _

theorem commit (staged : Staged) :
    Mirrors (staged.commit : StateM σ _) staged.commit := by
  unfold Staged.commit
  refine (note _ _).bind fun moved => ?_
  cases moved with
  | error e => exact abandon _ e
  | ok _ => exact pure _

theorem replaceOnce (target : Path) (text : String) :
    Mirrors (replaceOnce target text : StateM σ _)
      (IrExcerpt.replaceOnce target text) := by
  refine (stage target text).bind fun made => ?_
  cases made with
  | error e => exact pure _
  | ok staged => exact commit staged

theorem replaceFile (target : Path) (text : String) :
    Mirrors (replaceFile target text : StateM σ _)
      (IrExcerpt.replaceFile target text) := by
  refine (replaceOnce target text).bind fun first => ?_
  cases first with
  | ok _ => exact pure _
  | error e =>
      refine (note _ _).bind fun here => ?_
      cases here with
      | false => exact pure _
      | true => exact (replaceOnce target text).bind fun _ => pure _

end Mirrors

end Watched

/-! ## The calls -/

/-- The calls of one attempt to put a text at a path, and how it ends. -/
inductive Attempt (target : Path) (text : String) :
    List Call → Except IoError Unit → Prop
  | noDirectory : Attempt target text [.isDirectory target.directory false]
      (.error (.noOutputDirectory target.directory.display))
  | notMade (e : IoError) : Attempt target text
      [.isDirectory target.directory true,
        .createTemp target.directory (.error e)] (.error e)
  | notWritten (temp : Path) (e : IoError) : Attempt target text
      [.isDirectory target.directory true,
        .createTemp target.directory (.ok temp),
        .writeTemp temp text (.error e), .discard temp] (.error e)
  | notSynced (temp : Path) (e : IoError) : Attempt target text
      [.isDirectory target.directory true,
        .createTemp target.directory (.ok temp), .writeTemp temp text (.ok ()),
        .syncTemp temp (.error e), .discard temp] (.error e)
  | notMoved (temp : Path) (e : IoError) : Attempt target text
      [.isDirectory target.directory true,
        .createTemp target.directory (.ok temp), .writeTemp temp text (.ok ()),
        .syncTemp temp (.ok ()), .rename temp target (.error e), .discard temp]
      (.error e)
  | moved (temp : Path) : Attempt target text
      [.isDirectory target.directory true,
        .createTemp target.directory (.ok temp), .writeTemp temp text (.ok ()),
        .syncTemp temp (.ok ()), .rename temp target (.ok ())] (.ok ())

/-- The calls of a replacement and how it ends: one attempt that succeeds; one
that fails, and no directory to try again in; or a second one behind one that
has failed, with the directory there. -/
inductive Attempts (target : Path) (text : String) :
    List Call → Except IoError Unit → Prop
  | once {calls : List Call} (h : Attempt target text calls (.ok ())) :
      Attempts target text calls (.ok ())
  | givenUp {calls : List Call} {e : IoError}
      (h : Attempt target text calls (.error e)) :
      Attempts target text (calls ++ [.isDirectory target.directory false])
        (.error e)
  | again {first second : List Call} {e : IoError}
      {result : Except IoError Unit}
      (h : Attempt target text first (.error e))
      (h' : Attempt target text second result) :
      Attempts target text
        (first ++ .isDirectory target.directory true :: second) result

variable {target : Path} {text : String} {calls : List Call}
  {result : Except IoError Unit}

theorem Attempt.ok_iff (h : Attempt target text calls result) :
    result = .ok () ↔ ∃ temp, .rename temp target (.ok ()) ∈ calls := by
  cases h <;> simp

/-- Success is a move that succeeds. -/
theorem Attempts.ok_iff (h : Attempts target text calls result) :
    result = .ok () ↔ ∃ temp, .rename temp target (.ok ()) ∈ calls := by
  cases h with
  | once h => exact h.ok_iff
  | givenUp h =>
      have hnone := h.ok_iff
      simp at hnone
      simp [hnone]
  | again h h' =>
      have hnone := h.ok_iff
      simp at hnone
      simp [hnone, h'.ok_iff]

/-! ## The moments -/

/-- Among the calls a temporary file was made at `temp`. -/
def MadeTemp (calls : List Call) (temp : Path) : Prop :=
  ∃ directory, .createTemp directory (.ok temp) ∈ calls

/-- What may be seen at a moment `m` of a replacement that began in `s`: the
files from before; those and a temporary file where nothing lay; or those with
the new text at its place. -/
inductive Moment {σ : Type} [FileAccess (StateM σ)] [LawfulFiles σ]
    (target : Path) (text : String) (calls : List Call) (s m : σ) : Prop
  | untouched (h : view m = view s)
  | waiting {temp : Path} {place : Location} {content : ByteArray}
      (hmade : MadeTemp calls temp)
      (hplace : (view s).place? temp = some place)
      (hfree : (view s).files place = none)
      (h : view m = (view s).put place (some content))
  | replaced {place : Location}
      (hplace : (view s).place? target = some place)
      (h : view m = (view s).put place (some text.toUTF8))

section Moments

variable {σ : Type} [FileAccess (StateM σ)] [LawfulFiles σ]

theorem Moment.mono {calls' : List Call} {s m : σ}
    (h : Moment target text calls s m) (hsub : calls ⊆ calls') :
    Moment target text calls' s m := by
  cases h with
  | untouched h => exact .untouched h
  | waiting hmade hplace hfree h =>
      obtain ⟨directory, hcall⟩ := hmade
      exact .waiting ⟨directory, hsub hcall⟩ hplace hfree h
  | replaced hplace h => exact .replaced hplace h

/-- A replacement begins anew where everything is as it was. -/
theorem Moment.of_view {s s' m : σ} (h : Moment target text calls s' m)
    (hview : view s' = view s) : Moment target text calls s m := by
  cases h with
  | untouched h => exact .untouched (h.trans hview)
  | waiting hmade hplace hfree h =>
      rw [hview] at hplace hfree h
      exact .waiting hmade hplace hfree h
  | replaced hplace h =>
      rw [hview] at hplace h
      exact .replaced hplace h

/-- Some calls lead from `w` to `w'`, and they have left `record`. -/
structure Recorded (target : Path) (text : String) (w w' : Watched σ)
    (record : List (Call × σ)) : Prop where
  past : w'.past = w.past ++ record
  moments : ∀ entry ∈ record,
    Moment target text (record.map Prod.fst) w.now entry.2

namespace Recorded

variable {w w' w'' : Watched σ} {record later : List (Call × σ)}

theorem start (w : Watched σ) : Recorded target text w w [] where
  past := (List.append_nil _).symm
  moments _ h := absurd h List.not_mem_nil

/-- One more call, which leads to a moment that may be seen. -/
theorem note {α : Type} {call : α → Call} {action : StateM σ α} {a : α}
    (h : Recorded target text w w' record)
    (hrun : (Watched.note call action).run w' = (a, w''))
    (hmoment : Moment target text (record.map Prod.fst ++ [call a]) w.now
      w''.now) :
    Recorded target text w w'' (record ++ [(call a, w''.now)]) where
  past := by rw [(Watched.of_note hrun).2, h.past, List.append_assoc]
  moments := by
    intro entry hentry
    rw [List.map_append]
    rcases List.mem_append.1 hentry with hentry | hentry
    · exact (h.moments entry hentry).mono (List.subset_append_left _ _)
    · rw [List.mem_singleton.1 hentry]
      exact hmoment

/-- Calls behind others that have changed nothing in the end. -/
theorem append (h : Recorded target text w w' record)
    (hview : view w'.now = view w.now)
    (h' : Recorded target text w' w'' later) :
    Recorded target text w w'' (record ++ later) where
  past := by rw [h'.past, h.past, List.append_assoc]
  moments := by
    intro entry hentry
    rw [List.map_append]
    rcases List.mem_append.1 hentry with hentry | hentry
    · exact (h.moments entry hentry).mono (List.subset_append_left _ _)
    · exact ((h'.moments entry hentry).of_view hview).mono
        (List.subset_append_right _ _)

end Recorded

open Watched (of_note)

variable {w w' : Watched σ}

/-- Giving up on a temporary file is one more call. -/
theorem recorded_abandon {α : Type} {w₁ : Watched σ} {temp : Path}
    {e : IoError} {place : Location} {content : ByteArray}
    {outcome : Except IoError α} {record : List (Call × σ)}
    (h : (abandon temp e : StateM (Watched σ) _).run w₁ = (outcome, w'))
    (hrecord : Recorded target text w w₁ record)
    (hplace : (view w.now).place? temp = some place)
    (hfree : (view w.now).files place = none)
    (hview : view w₁.now = (view w.now).put place (some content)) :
    outcome = .error e ∧ view w'.now = view w.now ∧
      ∃ m, Recorded target text w w' (record ++ [(.discard temp, m)]) := by
  obtain ⟨hresult, hgone⟩ := view_of_undone (s := w) h hplace hfree hview
  obtain ⟨_, w₂, hrun, h⟩ := run_of_run_bind h
  obtain ⟨-, rfl⟩ := Prod.mk.inj h
  have hnoted : (Watched.note (fun _ => .discard temp)
      (FileAccess.discard temp)).run w₁ = ((), w₂) := hrun
  have hrecord' := hrecord.note hnoted (.untouched hgone)
  exact ⟨hresult, hgone, _, hrecord'⟩

theorem recorded_stage {made : Except IoError Staged}
    (h : (stage target text : StateM (Watched σ) _).run w = (made, w')) :
    ∃ record, Recorded target text w w' record ∧
      match made with
      | .error e => Attempt target text (record.map Prod.fst) (.error e)
      | .ok staged => staged.target = target ∧ record.map Prod.fst =
          [.isDirectory target.directory true,
            .createTemp target.directory (.ok staged.temp),
            .writeTemp staged.temp text (.ok ()),
            .syncTemp staged.temp (.ok ())] := by
  unfold stage at h
  obtain ⟨here, w₁, hdir, h⟩ := run_of_run_bind h
  have hview₁ := view_of_isDirectory (of_note hdir).1
  have hstart : Recorded target text w w [] := .start w
  have hrecord₁ := hstart.note hdir (.untouched hview₁)
  cases here with
  | false =>
      obtain ⟨rfl, rfl⟩ := Prod.mk.inj h
      exact ⟨_, hrecord₁, .noDirectory⟩
  | true =>
      rw [if_pos rfl] at h
      obtain ⟨made, w₂, hmade, h⟩ := run_of_run_bind h
      cases made with
      | error e =>
          obtain ⟨rfl, rfl⟩ := Prod.mk.inj h
          have hview₂ := LawfulFiles.createTemp_error (of_note hmade).1
          exact ⟨_, hrecord₁.note hmade (.untouched (hview₂.trans hview₁)),
            .notMade e⟩
      | ok temp =>
          obtain ⟨place, hplace, hfree, hview₂⟩ :=
            LawfulFiles.createTemp_ok (of_note hmade).1
          rw [hview₁] at hplace hfree hview₂
          have hrecord₂ := hrecord₁.note hmade
            (.waiting ⟨target.directory, by simp⟩ hplace hfree hview₂)
          obtain ⟨written, w₃, hwritten, h⟩ := run_of_run_bind h
          obtain ⟨content, hview₃, -⟩ := LawfulFiles.writeTemp
            (of_note hwritten).1 (by rw [hview₂]; exact hplace)
            (by rw [hview₂, Holdings.files_put_self])
          rw [hview₂, Holdings.put_put] at hview₃
          have hrecord₃ := hrecord₂.note hwritten
            (.waiting ⟨target.directory, by simp⟩ hplace hfree hview₃)
          cases written with
          | error e =>
              obtain ⟨rfl, -, m, hrecord⟩ :=
                recorded_abandon h hrecord₃ hplace hfree hview₃
              exact ⟨_, hrecord, .notWritten temp e⟩
          | ok _ =>
              obtain ⟨synced, w₄, hsynced, h⟩ := run_of_run_bind h
              have hview₄ := (view_of_syncTemp (of_note hsynced).1).trans hview₃
              have hrecord₄ := hrecord₃.note hsynced
                (.waiting ⟨target.directory, by simp⟩ hplace hfree hview₄)
              cases synced with
              | error e =>
                  obtain ⟨rfl, -, m, hrecord⟩ :=
                    recorded_abandon h hrecord₄ hplace hfree hview₄
                  exact ⟨_, hrecord, .notSynced temp e⟩
              | ok _ =>
                  obtain ⟨rfl, rfl⟩ := Prod.mk.inj h
                  exact ⟨_, hrecord₄, rfl, rfl⟩

theorem recorded_replaceOnce {result : Except IoError Unit}
    (h : (replaceOnce target text : StateM (Watched σ) _).run w = (result, w')) :
    ∃ record, Recorded target text w w' record ∧
      Attempt target text (record.map Prod.fst) result := by
  have hreplaced := replaced_replaceOnce h
  unfold replaceOnce at h
  obtain ⟨made, w₁, hmade, hrest⟩ := run_of_run_bind h
  obtain ⟨record, hrecord, hcalls⟩ := recorded_stage hmade
  have hstage := view_of_stage hmade
  cases made with
  | error e =>
      obtain ⟨rfl, rfl⟩ := Prod.mk.inj hrest
      exact ⟨record, hrecord, hcalls⟩
  | ok staged =>
      obtain ⟨rfl, hcalls⟩ := hcalls
      obtain ⟨-, place, hholds⟩ := hstage
      obtain ⟨moved, w₂, hmoved, hend⟩ := run_of_run_bind hrest
      cases moved with
      | error e =>
          have hview₂ := (LawfulFiles.rename_error (of_note hmoved).1).trans
            hholds.view
          have hrecord₂ := hrecord.note hmoved (.waiting
            ⟨staged.target.directory, by rw [hcalls]; simp⟩ hholds.place
            hholds.free hview₂)
          obtain ⟨rfl, -, m, hrecord⟩ := recorded_abandon hend hrecord₂
            hholds.place hholds.free hview₂
          refine ⟨_, hrecord, ?_⟩
          rw [List.map_append, List.map_append, hcalls]
          exact .notMoved staged.temp e
      | ok _ =>
          obtain ⟨rfl, rfl⟩ := Prod.mk.inj hend
          obtain ⟨out, hout, hview⟩ := hreplaced
          refine ⟨_, hrecord.note hmoved (.replaced hout hview), ?_⟩
          rw [List.map_append, hcalls]
          exact .moved staged.temp

theorem recorded_replaceFile {result : Except IoError Unit}
    {events : List Event}
    (h : (replaceFile target text : StateM (Watched σ) _).run w =
      ((result, events), w')) :
    ∃ record, Recorded target text w w' record ∧
      Attempts target text (record.map Prod.fst) result := by
  unfold replaceFile at h
  obtain ⟨first, w₁, hfirst, h⟩ := run_of_run_bind h
  have hreplaced := replaced_replaceOnce hfirst
  obtain ⟨record, hrecord, hcalls⟩ := recorded_replaceOnce hfirst
  cases first with
  | ok _ =>
      obtain ⟨hresult, rfl⟩ := Prod.mk.inj h
      obtain ⟨rfl, rfl⟩ := Prod.mk.inj hresult
      exact ⟨record, hrecord, .once hcalls⟩
  | error e =>
      obtain ⟨here, w₂, hdir, h⟩ := run_of_run_bind h
      have hview₂ := (view_of_isDirectory (of_note hdir).1).trans hreplaced
      have hrecord₂ := hrecord.note hdir (.untouched hview₂)
      cases here with
      | false =>
          obtain ⟨hresult, rfl⟩ := Prod.mk.inj h
          obtain ⟨rfl, rfl⟩ := Prod.mk.inj hresult
          refine ⟨_, hrecord₂, ?_⟩
          rw [List.map_append]
          exact .givenUp hcalls
      | true =>
          rw [if_pos rfl] at h
          obtain ⟨second, w₃, hsecond, h⟩ := run_of_run_bind h
          obtain ⟨hresult, rfl⟩ := Prod.mk.inj h
          obtain ⟨rfl, rfl⟩ := Prod.mk.inj hresult
          obtain ⟨later, hlater, hcalls'⟩ := recorded_replaceOnce hsecond
          refine ⟨_, hrecord₂.append hview₂ hlater, ?_⟩
          rw [List.map_append, List.map_append, List.append_assoc]
          exact .again hcalls hcalls'

/-- Replacing a file is atomic. At every moment of it the target is what it was
or holds the whole new text; if nothing lay there, this takes that no temporary
file was made at this very place. In the end the target holds the new text, put
there by a move that succeeded, or there was no such move, the replacement has
failed and everything is as it was; no other file has changed in either case.
There are at most two attempts, the second one behind a failure of the first and
with the directory there. Being watched changes nothing. -/
theorem replaceFile_atomic (target : Path) (text : String) (s : σ) :
    let run := (replaceFile target text : StateM (Watched σ) _).run (.start s)
    let calls := run.2.past.map Prod.fst
    (replaceFile target text : StateM σ _).run s = (run.1, run.2.now) ∧
    Attempts target text calls run.1.1 ∧
    (run.1.1 = .ok () ↔ ∃ temp, .rename temp target (.ok ()) ∈ calls) ∧
    Replaced target text s run.2.now run.1.1 ∧
    ∀ place, (view s).place? target = some place →
      ((view s).files place = none → ∀ temp, MadeTemp calls temp →
        (view s).place? temp ≠ some place) →
      ∀ call m, (call, m) ∈ run.2.past →
        (view m).files place = (view s).files place ∨
          (view m).files place = some text.toUTF8 := by
  intro run calls
  have hrun : (replaceFile target text : StateM (Watched σ) _).run (.start s) =
      ((run.1.1, run.1.2), run.2) := rfl
  obtain ⟨record, hrecord, hcalls⟩ := recorded_replaceFile hrun
  have hpast : run.2.past = record := hrecord.past
  have hattempts : Attempts target text calls run.1.1 := by
    rw [show calls = record.map Prod.fst by rw [← hpast]]
    exact hcalls
  refine ⟨(Watched.Mirrors.replaceFile target text (.start s)).symm, hattempts,
    hattempts.ok_iff, ?_, ?_⟩
  · have hreplaced := replaced_replaceFile hrun
    generalize run.1.1 = result at hreplaced ⊢
    cases result with
    | error e => exact hreplaced
    | ok _ => exact hreplaced
  · intro place hplace hother call m hm
    rw [hpast] at hm
    cases hrecord.moments _ hm with
    | untouched h => exact .inl (by rw [h]; rfl)
    | waiting hmade htemp hfree h =>
        left
        rw [h]
        refine Holdings.files_put_of_ne _ (fun heq => ?_) _
        subst heq
        rw [← hpast] at hmade
        exact hother hfree _ hmade htemp
    | replaced hout h =>
        right
        have hsame := hout.symm.trans hplace
        cases hsame
        rw [h, Holdings.files_put_self]

end Moments

/-! ## A disk that fails as planned -/

/-- A disk with a plan of failures: each operation takes the next entry, and
fails with the error that stands there. A write that fails leaves the first half
of its text, and a directory that cannot be looked at is taken for none. -/
structure FaultyDisk where
  disk : Disk
  plan : List (Option IoError)

namespace FaultyDisk

/-- What is planned for the next operation. -/
def fault? (d : FaultyDisk) : Option IoError := d.plan.head?.join

/-- Does something on the disk, unless a failure is planned; then `instead`. -/
def planned (operation : StateM Disk α) (instead : IoError → StateM Disk α) :
    StateM FaultyDisk α := fun d =>
  let action := match d.fault? with
    | none => operation
    | some e => instead e
  let (a, disk) := action.run d.disk
  (a, ⟨disk, d.plan.tail⟩)

/-- Does something on the disk that no plan can stop. -/
def unplanned (operation : StateM Disk α) : StateM FaultyDisk α := fun d =>
  let (a, disk) := operation.run d.disk
  (a, ⟨disk, d.plan⟩)

/-- Fails and leaves the disk as it is. -/
def refuse (e : IoError) : StateM Disk (Except IoError α) := pure (.error e)

/-- Fails with half of a text written. -/
def breakOff (temp : Path) (text : String) (e : IoError) :
    StateM Disk (Except IoError Unit) := do
  let half := String.ofList (text.toList.take (text.length / 2))
  let _ ← (FileAccess.writeTemp temp half : StateM Disk _)
  return .error e

instance : FileAccess (StateM FaultyDisk) where
  readText p := planned (FileAccess.readText p) refuse
  exists? p := planned (FileAccess.exists? p) fun _ => pure false
  isDirectory p := planned (FileAccess.isDirectory p) fun _ => pure false
  createTemp p := planned (FileAccess.createTemp p) refuse
  writeTemp p text := planned (FileAccess.writeTemp p text) (breakOff p text)
  syncTemp p := planned (FileAccess.syncTemp p) refuse
  rename p q := planned (FileAccess.rename p q) refuse
  discard p := unplanned (FileAccess.discard p)
  writeText p text := planned (FileAccess.writeText p text) refuse
  now := unplanned FileAccess.now

theorem of_planned {α : Type} {operation : StateM Disk α}
    {instead : IoError → StateM Disk α} {d d' : FaultyDisk} {a : α}
    (h : (planned operation instead).run d = (a, d')) :
    operation.run d.disk = (a, d'.disk) ∨
      ∃ e, (instead e).run d.disk = (a, d'.disk) := by
  unfold planned at h
  cases hfault : d.fault? with
  | none =>
      left
      simp only [StateT.run, hfault] at h
      cases h
      rfl
  | some e =>
      right
      simp only [StateT.run, hfault] at h
      cases h
      exact ⟨e, rfl⟩

theorem of_refuse {α : Type} {e : IoError} {answer : Except IoError α}
    {d d' : Disk} (h : (refuse e).run d = (answer, d')) :
    answer = .error e ∧ d' = d := by
  cases h
  exact ⟨rfl, rfl⟩

theorem view_planned {α : Type} {operation : StateM Disk α}
    {instead : IoError → StateM Disk α}
    (hkeep : ∀ d, view (operation.run d).2 = view d)
    (hinstead : ∀ e d, ((instead e).run d).2 = d) (d : FaultyDisk) :
    view ((planned operation instead).run d).2.disk = view d.disk := by
  obtain h | ⟨e, h⟩ := of_planned
    (show (planned operation instead).run d = (_, _) from rfl)
  · have hview := hkeep d.disk
    rwa [h] at hview
  · have hsame := hinstead e d.disk
    rw [h] at hsame
    exact congrArg view hsame

/-- The laws hold whatever is planned. -/
instance : LawfulFiles FaultyDisk where
  view d := view d.disk
  readText p := view_planned (LawfulFiles.readText p) fun _ _ => rfl
  isDirectory p := view_planned (LawfulFiles.isDirectory p) fun _ _ => rfl
  now d := LawfulFiles.now d.disk
  syncTemp temp := view_planned (LawfulFiles.syncTemp temp) fun _ _ => rfl
  createTemp_error h := by
    obtain h | ⟨e, h⟩ := of_planned h
    · exact LawfulFiles.createTemp_error h
    · exact congrArg view (of_refuse h).2
  createTemp_ok h := by
    obtain h | ⟨e, h⟩ := of_planned h
    · exact LawfulFiles.createTemp_ok h
    · cases (of_refuse h).1
  writeTemp h hplace hfile := by
    obtain h | ⟨e, h⟩ := of_planned h
    · exact LawfulFiles.writeTemp h hplace hfile
    · obtain ⟨written, d₁, hwritten, h⟩ := run_of_run_bind h
      obtain ⟨content, hview, -⟩ := LawfulFiles.writeTemp hwritten hplace hfile
      cases h
      exact ⟨content, hview, fun hok => by cases hok⟩
  rename_error h := by
    obtain h | ⟨e, h⟩ := of_planned h
    · exact LawfulFiles.rename_error h
    · exact congrArg view (of_refuse h).2
  rename_ok h hplace hfile := by
    obtain h | ⟨e, h⟩ := of_planned h
    · exact LawfulFiles.rename_ok h hplace hfile
    · cases (of_refuse h).1
  discard := LawfulFiles.discard (σ := Disk)

end FaultyDisk

/-- A file, and a plan by which the first move fails. -/
def retryDisk : FaultyDisk where
  disk := ⟨[(["out".toUTF8.toList], .file "old".toUTF8)], [], fun _ => ""⟩
  plan := [none, none, none, none, some .busy]

theorem replaceFile_atomic_retried :
    let run := (replaceFile (.ofString "out") "new" :
      StateM (Watched FaultyDisk) _).run (.start retryDisk)
    let out : Location := ["out".toUTF8.toList]
    run.2.past.length = 12 ∧
      (∃ temp, .rename temp (.ofString "out") (.ok ()) ∈
        run.2.past.map Prod.fst) ∧
      (view run.2.now).files out = some "new".toUTF8 ∧
      ∀ call m, (call, m) ∈ run.2.past →
        (view m).files out = some "old".toUTF8 ∨
          (view m).files out = some "new".toUTF8 := by
  intro run out
  have hplace : (view retryDisk).place? (.ofString "out") = some out := by
    decide +kernel
  have hold : (view retryDisk).files out = some "old".toUTF8 := by
    decide +kernel
  have hlength : run.2.past.length = 12 := by
    decide +kernel
  have hdone : run.1.1.toOption = some () := by
    decide +kernel
  obtain ⟨-, -, hmoved, hreplaced, hmoments⟩ :=
    replaceFile_atomic (.ofString "out") "new" retryDisk
  obtain hok : run.1.1 = .ok () := by
    cases hresult : run.1.1 with
    | ok _ => rfl
    | error e =>
        rw [hresult] at hdone
        cases hdone
  rw [hok] at hreplaced
  obtain ⟨place, hsame, hview⟩ := hreplaced
  rw [hplace] at hsame
  cases hsame
  refine ⟨hlength, hmoved.1 hok, ?_, fun call m hm => ?_⟩
  · rw [hview, Holdings.files_put_self]
  · rw [← hold]
    refine hmoments out hplace (fun hnone => ?_) call m hm
    rw [hold] at hnone
    cases hnone

end IrExcerpt
