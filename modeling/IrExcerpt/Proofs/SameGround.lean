import IrExcerpt.Proofs.TemporaryFiles

/-!
# Writing on the same ground

Whether a file can be written depends on the directories, and on the names that
are left for the temporary file. It does not depend on what other files there are
or what they hold. So two disks are said to be on the same ground if they have
the same directories and the same places taken by temporary files. On the same
ground a text is staged if any text is, under the same name; it is moved if any
text is; and a file is replaced if it could be replaced by any text. After each
of these the disks are on the same ground again.

Only success is compared. Why a write fails may well depend on other files.
-/

namespace IrExcerpt

namespace Disk

variable {d d' e e' : Disk}

/-! ## The same ground -/

/-- Files of temporary names lie in the same places. -/
def SameTemps (h h' : Holdings) : Prop :=
  ∀ base n, (h'.files (base ++ [tempName n])).isSome =
    (h.files (base ++ [tempName n])).isSome

/-- A file that is put in one place on both sides, or taken away from it. -/
theorem SameTemps.put {h h' : Holdings} (hsame : SameTemps h h') (place : Location)
    {content content' : Option ByteArray}
    (hcontent : content'.isSome = content.isSome) :
    SameTemps (h.put place content) (h'.put place content') := by
  intro base n
  by_cases hplace : base ++ [tempName n] = place
  · rw [hplace, Holdings.files_put_self, Holdings.files_put_self, hcontent]
  · rw [Holdings.files_put_of_ne _ hplace, Holdings.files_put_of_ne _ hplace]
    exact hsame base n

/-- The disks have the same directories, and files of temporary names in the same
places. That is all that writing depends on. -/
structure SameGround (d d' : Disk) : Prop extends SameDirectories d d' where
  temps : SameTemps d.holdings d'.holdings

theorem SameDirectories.refl (d : Disk) : SameDirectories d d :=
  ⟨rfl, fun _ => Iff.rfl⟩

theorem SameDirectories.symm (h : SameDirectories d d') : SameDirectories d' d :=
  ⟨h.here.symm, fun loc => (h.directory loc).symm⟩

theorem SameDirectories.trans (h : SameDirectories d d')
    (h' : SameDirectories d' e) : SameDirectories d e :=
  ⟨h'.here.trans h.here, fun loc => (h'.directory loc).trans (h.directory loc)⟩

theorem SameGround.refl (d : Disk) : SameGround d d := ⟨.refl d, fun _ _ => rfl⟩

theorem sameGround_later (d : Disk) (n : Nat) : SameGround d (d.later n) :=
  ⟨⟨rfl, fun _ => Iff.rfl⟩, fun _ _ => rfl⟩

theorem SameGround.symm (h : SameGround d d') : SameGround d' d :=
  ⟨h.toSameDirectories.symm, fun base n => (h.temps base n).symm⟩

theorem SameGround.trans (h : SameGround d d') (h' : SameGround d' e) :
    SameGround d e :=
  ⟨h.toSameDirectories.trans h'.toSameDirectories,
    fun base n => (h'.temps base n).trans (h.temps base n)⟩

theorem occupant?_isSome_iff {loc : Location} :
    (d.occupant? loc).isSome ↔
      d.occupant? loc = some .directory ∨ (d.file? loc).isSome := by
  unfold file?
  split
  · next content hcontent => simp [hcontent]
  · next hno =>
      cases hentry : d.occupant? loc with
      | none => simp
      | some entry =>
          cases entry with
          | directory => simp
          | file content => exact absurd hentry (hno content)

theorem SameGround.find?_temp (h : SameGround d d') (directory : Path) (n : Nat) :
    (d'.find? (directory.join ⟨tempName n⟩)).isSome =
      (d.find? (directory.join ⟨tempName n⟩)).isSome := by
  rw [Bool.eq_iff_iff]
  have hfind : ∀ disk : Disk, (disk.find? (directory.join ⟨tempName n⟩)).isSome ↔
      ∃ place, disk.resolve (directory.join ⟨tempName n⟩) = .ok place ∧
        (disk.occupant? place).isSome := by
    intro disk
    unfold find?
    split <;> simp_all
  rw [hfind, hfind]
  refine exists_congr fun place => ?_
  rw [resolve_iff h.toSameDirectories]
  refine and_congr_right fun hplace => ?_
  obtain ⟨base, rfl⟩ := resolve_temp hplace
  have htemps : (d'.file? (base ++ [tempName n])).isSome =
      (d.file? (base ++ [tempName n])).isSome := h.temps base n
  rw [occupant?_isSome_iff, occupant?_isSome_iff, h.directory, htemps]

/-! ## What writing keeps -/

/-- The disks have the same directories and will tell the same times. -/
structure SameSetting (d d' : Disk) : Prop extends SameDirectories d d' where
  clock : d'.clock = d.clock

theorem SameSetting.refl (d : Disk) : SameSetting d d := ⟨.refl d, rfl⟩

theorem SameSetting.trans (h : SameSetting d d') (h' : SameSetting d' e) :
    SameSetting d e :=
  ⟨h.toSameDirectories.trans h'.toSameDirectories, h'.clock.trans h.clock⟩

/-- However the action ends, only files have changed. -/
def KeepsSetting {α : Type} (x : StateM Disk α) : Prop :=
  ∀ d, SameSetting d (x.run d).2

namespace KeepsSetting

variable {α β : Type}

theorem pure (a : α) : KeepsSetting (Pure.pure a : StateM Disk α) :=
  SameSetting.refl

theorem bind {x : StateM Disk α} {f : α → StateM Disk β}
    (hx : KeepsSetting x) (hf : ∀ a, KeepsSetting (f a)) :
    KeepsSetting (x >>= f) :=
  fun d => (hx d).trans (hf _ _)

theorem attempt {operation : Disk → Except IoError (α × Disk)}
    (h : ∀ d a e, operation d = .ok (a, e) → SameSetting d e) :
    KeepsSetting (Disk.attempt operation) := by
  intro d
  simp only [Disk.attempt, StateT.run]
  split
  · next a e hok => exact h d a e hok
  · exact .refl d

theorem createTemp (directory : Path) :
    KeepsSetting (FileAccess.createTemp directory : StateM Disk _) := by
  refine attempt fun d temp e h => ?_
  obtain ⟨place, -, hfree, rfl⟩ := createTemp_eq_ok h
  exact ⟨sameDirectories_set (by rw [hfree]; simp) _, rfl⟩

theorem writeTemp (temp : Path) (text : String) :
    KeepsSetting (FileAccess.writeTemp temp text : StateM Disk _) := by
  refine attempt fun d _ e h => ?_
  obtain ⟨_, hwrite, heq⟩ := bind_eq_ok_iff.1 h
  cases heq
  obtain ⟨place, old, -, hold, rfl⟩ := writeTemp_eq_ok hwrite
  exact ⟨sameDirectories_set (by rw [hold]; simp) _, rfl⟩

theorem rename (source target : Path) :
    KeepsSetting (FileAccess.rename source target : StateM Disk _) := by
  refine attempt fun d _ e h => ?_
  obtain ⟨_, hrename, heq⟩ := bind_eq_ok_iff.1 h
  cases heq
  obtain ⟨origin, content, place, -, hcontent, -, hplace, rfl⟩ :=
    rename_eq_ok hrename
  have herase : SameDirectories d (d.erase origin) :=
    sameDirectories_erase (by rw [hcontent]; simp)
  refine ⟨herase.trans (sameDirectories_set ?_ _), rfl⟩
  rw [Ne, herase.directory]
  exact hplace

theorem discard (temp : Path) :
    KeepsSetting (FileAccess.discard temp : StateM Disk _) := by
  intro d
  show SameSetting d (d.discard temp)
  unfold Disk.discard
  split
  · exact .refl d
  · next place hplace =>
      split
      · next content hcontent =>
          exact ⟨sameDirectories_erase (by rw [hcontent]; simp), rfl⟩
      · exact .refl d

theorem isDirectory (p : Path) :
    KeepsSetting (FileAccess.isDirectory p : StateM Disk _) :=
  SameSetting.refl

theorem stage (target : Path) (text : String) :
    KeepsSetting (IrExcerpt.stage target text : StateM Disk _) := by
  unfold IrExcerpt.stage
  refine bind (isDirectory _) fun here => ?_
  split
  · refine bind (createTemp _) fun made => ?_
    split
    · exact pure _
    · refine bind (writeTemp _ _) fun written => ?_
      split
      · exact bind (discard _) fun _ => pure _
      · refine bind (pure _) fun synced => ?_
        split
        · exact bind (discard _) fun _ => pure _
        · exact pure _
  · exact pure _

theorem commit (staged : Staged) :
    KeepsSetting (staged.commit : StateM Disk _) := by
  unfold Staged.commit
  refine bind (rename _ _) fun moved => ?_
  split
  · exact bind (discard _) fun _ => pure _
  · exact pure _

theorem replaceOnce (target : Path) (text : String) :
    KeepsSetting (IrExcerpt.replaceOnce target text : StateM Disk _) := by
  unfold IrExcerpt.replaceOnce
  refine bind (stage target text) fun made => ?_
  split
  · exact pure _
  · exact commit _

theorem replaceFile (target : Path) (text : String) :
    KeepsSetting (IrExcerpt.replaceFile target text : StateM Disk _) := by
  unfold IrExcerpt.replaceFile
  refine bind (replaceOnce target text) fun first => ?_
  split
  · exact pure _
  · refine bind (isDirectory _) fun here => ?_
    split
    · exact bind (replaceOnce target text) fun _ => pure _
    · exact pure _

theorem of_run {x : StateM Disk α} (h : KeepsSetting x) {a : α}
    (hrun : x.run d = (a, e)) : SameSetting d e := by
  have hkeep := h d
  rwa [hrun] at hkeep

end KeepsSetting

/-! ## Writing on the same ground -/

theorem SameGround.of_holdings (hkeep : SameSetting d e)
    (hview : e.holdings = d.holdings) : SameGround d e :=
  ⟨hkeep.toSameDirectories, fun _ _ => by rw [hview]⟩

/-- Disks that have been written to are on the same ground if their temporary
files are. -/
theorem SameGround.after (h : SameGround d d') (hkeep : SameSetting d e)
    (hkeep' : SameSetting d' e')
    (htemps : SameTemps e.holdings e'.holdings) : SameGround e e' :=
  ⟨(hkeep.toSameDirectories.symm.trans h.toSameDirectories).trans
    hkeep'.toSameDirectories, htemps⟩

theorem SameGround.place? (h : SameGround d d') :
    d'.holdings.place? = d.holdings.place? :=
  place?_eq_of_sameDirectories h.toSameDirectories

theorem isDirectory_iff {p : Path} :
    d.isDirectory p = true ↔
      ∃ loc, d.resolve p = .ok loc ∧ d.occupant? loc = some .directory := by
  unfold isDirectory find?
  rw [any_isDirectory_iff]
  cases d.resolve p with
  | error reason => simp
  | ok loc => simp

theorem destination_iff (h : SameDirectories d d') {p : Path} {t : Destination} :
    d'.destination p = .ok t ↔ d.destination p = .ok t := by
  have hstart : d'.start p = d.start p := by
    unfold start
    rw [h.here]
  unfold destination
  simp only [bind_eq_ok_iff, hstart, foldlM_step_iff h, checkDirectory_iff,
    h.directory]

theorem run_attempt {α : Type} {operation : Disk → Except IoError (α × Disk)}
    {a : α} (h : operation d = .ok (a, e)) :
    (attempt operation).run d = (.ok a, e) := by
  simp only [attempt, StateT.run, h]

theorem run_bind_of_run {α β : Type} {x : StateM Disk α} {a : α}
    (h : x.run d = (a, e)) (f : α → StateM Disk β) :
    (x >>= f).run d = (f a).run e := by
  rw [StateT.run_bind, h]
  rfl

theorem run_stage {target temp : Path} {text : String}
    (hhere : d.isDirectory target.directory = true)
    (hmade : d.createTemp target.directory = .ok (temp, d'))
    (hwritten : d'.writeTemp temp text = .ok e) :
    (stage target text : StateM Disk _).run d = (.ok ⟨temp, target⟩, e) := by
  have hanswer : (FileAccess.isDirectory target.directory : StateM Disk _).run d =
      (true, d) := congrArg (·, d) hhere
  have hcreate : (FileAccess.createTemp target.directory : StateM Disk _).run d =
      (.ok temp, d') := run_attempt hmade
  have hwrite : (FileAccess.writeTemp temp text : StateM Disk _).run d' =
      (.ok (), e) := run_attempt (by rw [hwritten]; rfl)
  unfold stage
  rw [run_bind_of_run hanswer, if_pos rfl, run_bind_of_run hcreate]
  dsimp only
  rw [run_bind_of_run hwrite]
  rfl

theorem made_of_stage {target : Path} {text : String} {staged : Staged}
    (h : (stage target text : StateM Disk _).run d = (.ok staged, e)) :
    d.isDirectory target.directory = true ∧ staged.target = target ∧
      ∃ d', d.createTemp target.directory = .ok (staged.temp, d') := by
  unfold stage at h
  obtain ⟨here, d₁, hhere, h⟩ := run_of_run_bind h
  obtain ⟨rfl, rfl⟩ : d.isDirectory target.directory = here ∧ d = d₁ :=
    Prod.mk.inj hhere
  split at h
  · next hdirectory =>
      obtain ⟨made, d₁, hmade, h⟩ := run_of_run_bind h
      cases made with
      | error reason => cases h
      | ok temp =>
          obtain ⟨written, d₂, -, h⟩ := run_of_run_bind h
          cases written with
          | error reason => cases h
          | ok _ =>
              cases h
              exact ⟨hdirectory, rfl, d₁, attempt_ok hmade⟩
  · cases h

theorem SameGround.createTemp (h : SameGround d d') {directory temp : Path}
    (hmade : d.createTemp directory = .ok (temp, e)) :
    ∃ e', d'.createTemp directory = .ok (temp, e') := by
  obtain ⟨⟨loc, hloc, hdirectory⟩, n, place, rfl, htaken, hfree, hplace, -⟩ :=
    createTemp_eq_ok_iff.1 hmade
  have hfree' : d'.find? (directory.join ⟨tempName n⟩) = none := by
    rw [← Option.not_isSome_iff_eq_none, h.find?_temp, hfree]
    exact Bool.false_ne_true
  refine ⟨_, createTemp_eq_ok_iff.2 ⟨⟨loc, (resolve_iff h.toSameDirectories).2 hloc,
    (h.directory loc).2 hdirectory⟩, n, place, rfl, fun m hm => ?_, hfree',
    (resolve_iff h.toSameDirectories).2 hplace, rfl⟩⟩
  rw [h.find?_temp]
  exact htaken m hm

/-- A temporary file can be filled. -/
theorem writeTemp_of_createTemp {directory temp : Path}
    (h : d.createTemp directory = .ok (temp, e)) (text : String) :
    ∃ e', e.writeTemp temp text = .ok e' := by
  obtain ⟨place, hplace, hfree, rfl⟩ := createTemp_eq_ok h
  have hnot : d.occupant? place ≠ some .directory := by rw [hfree]; simp
  have hresolve := (resolve_iff (sameDirectories_set hnot ByteArray.empty)).2 hplace
  have hfile : (d.set place (.file ByteArray.empty)).occupant? place =
      some (.file ByteArray.empty) := by
    rw [occupant?_set (ne_root hnot), if_pos rfl]
  refine ⟨(d.set place (.file ByteArray.empty)).set place (.file text.toUTF8), ?_⟩
  unfold writeTemp
  refine bind_eq_ok_iff.2 ⟨place, hresolve, ?_⟩
  rw [hfile]
  rfl

theorem isTemp_of_createTemp {directory temp : Path}
    (h : d.createTemp directory = .ok (temp, e)) : IsTemp temp := by
  obtain ⟨-, n, -, rfl, -⟩ := createTemp_eq_ok_iff.1 h
  exact ⟨directory, n, rfl⟩

theorem isTemp_of_stage {target : Path} {text : String} {staged : Staged}
    (h : (stage target text : StateM Disk _).run d = (.ok staged, e)) :
    IsTemp staged.temp := by
  obtain ⟨-, -, _, hmade⟩ := made_of_stage h
  exact isTemp_of_createTemp hmade

/-- Whether a text can be staged, and where, does not depend on the text or on
other files. -/
theorem SameGround.stage (h : SameGround d d') {target : Path} {text : String}
    {staged : Staged}
    (hrun : (IrExcerpt.stage target text : StateM Disk _).run d = (.ok staged, e))
    (text' : String) :
    ∃ e', (IrExcerpt.stage target text' : StateM Disk _).run d' = (.ok staged, e') ∧
      SameGround e e' := by
  obtain ⟨hhere, rfl, d₁, hmade⟩ := made_of_stage hrun
  obtain ⟨d₁', hmade'⟩ := h.createTemp hmade
  obtain ⟨e', hwritten⟩ := writeTemp_of_createTemp hmade' text'
  have hhere' : d'.isDirectory staged.target.directory = true := by
    obtain ⟨loc, hloc, hdirectory⟩ := isDirectory_iff.1 hhere
    exact isDirectory_iff.2 ⟨loc, (resolve_iff h.toSameDirectories).2 hloc,
      (h.directory loc).2 hdirectory⟩
  have hrun' : (IrExcerpt.stage staged.target text' : StateM Disk _).run d' =
      (.ok staged, e') := run_stage hhere' hmade' hwritten
  refine ⟨e', hrun', ?_⟩
  obtain ⟨-, place, hholds⟩ := view_of_stage hrun
  obtain ⟨-, place', hholds'⟩ := view_of_stage hrun'
  have hplace : d.holdings.place? staged.temp = some place := hholds.place
  have hplace' : d'.holdings.place? staged.temp = some place' := hholds'.place
  rw [h.place?, hplace] at hplace'
  cases hplace'
  have hview : e.holdings = d.holdings.put place _ := hholds.view
  have hview' : e'.holdings = d'.holdings.put place _ := hholds'.view
  refine h.after ((KeepsSetting.stage _ _).of_run hrun)
    ((KeepsSetting.stage _ _).of_run hrun') ?_
  rw [hview, hview']
  exact h.temps.put place rfl

/-! ## Moving -/

theorem isSome_file?_iff {loc : Location} :
    (d.file? loc).isSome ↔ ∃ content, d.occupant? loc = some (.file content) := by
  simp only [Option.isSome_iff_exists]
  exact exists_congr fun content => files_holdings

theorem SameGround.rename (h : SameGround d d') {source target : Path}
    (hsource : IsTemp source) (hmoved : d.rename source target = .ok e) :
    ∃ e', d'.rename source target = .ok e' := by
  obtain ⟨origin, content, t, horigin, hcontent, ht, hnamed, hlength, hslashed,
    hdirectory, -⟩ := rename_eq_ok_iff.1 hmoved
  obtain ⟨content', hcontent'⟩ :
      ∃ content', d'.occupant? origin = some (.file content') := by
    obtain ⟨directory, n, rfl⟩ := hsource
    obtain ⟨base, rfl⟩ := resolve_temp horigin
    rw [← isSome_file?_iff]
    exact (h.temps base n).trans (isSome_file?_iff.2 ⟨content, hcontent⟩)
  exact ⟨_, rename_eq_ok_iff.2 ⟨origin, content', t,
    (resolve_iff h.toSameDirectories).2 horigin, hcontent',
    (destination_iff h.toSameDirectories).2 ht, hnamed, hlength, hslashed,
    mt (h.directory _).1 hdirectory, rfl⟩⟩

theorem commit_eq_ok_iff {staged : Staged} :
    (staged.commit : StateM Disk _).run d = (.ok (), e) ↔
      d.rename staged.temp staged.target = .ok e := by
  unfold Staged.commit
  constructor
  · intro h
    obtain ⟨moved, d₁, hmoved, h⟩ := run_of_run_bind h
    cases moved with
    | error reason => cases h
    | ok _ =>
        cases h
        exact attempt_unit hmoved
  · intro h
    have hmoved : (FileAccess.rename staged.temp staged.target :
        StateM Disk _).run d = (.ok (), e) := run_attempt (by rw [h]; rfl)
    rw [run_bind_of_run hmoved]
    rfl

theorem holdings_of_commit {staged : Staged}
    (h : (staged.commit : StateM Disk _).run d = (.ok (), e)) :
    ∃ origin place content, d.holdings.place? staged.temp = some origin ∧
      d.holdings.place? staged.target = some place ∧
      e.holdings = (d.holdings.put origin none).put place (some content) := by
  obtain ⟨origin, content, -, horigin, hcontent, -⟩ :=
    rename_eq_ok (commit_eq_ok_iff.1 h)
  have horigin' := place?_holdings.2 horigin
  obtain ⟨place, hplace, hview⟩ :=
    view_of_commit h horigin' content (files_holdings.2 hcontent)
  exact ⟨origin, place, content, horigin', hplace, hview⟩

/-- Whether a staged text can be moved depends on no file but its own. -/
theorem SameGround.commit (h : SameGround d d') {staged : Staged}
    (htemp : IsTemp staged.temp)
    (hrun : (staged.commit : StateM Disk _).run d = (.ok (), e)) :
    ∃ e', (staged.commit : StateM Disk _).run d' = (.ok (), e') ∧
      SameGround e e' := by
  obtain ⟨e', hmoved⟩ := h.rename htemp (commit_eq_ok_iff.1 hrun)
  have hrun' := commit_eq_ok_iff.2 hmoved
  obtain ⟨origin, place, content, horigin, hplace, hview⟩ := holdings_of_commit hrun
  obtain ⟨origin', place', content', horigin', hplace', hview'⟩ :=
    holdings_of_commit hrun'
  rw [h.place?, horigin] at horigin'
  rw [h.place?, hplace] at hplace'
  cases horigin'
  cases hplace'
  refine ⟨e', hrun', h.after ((KeepsSetting.commit _).of_run hrun)
    ((KeepsSetting.commit _).of_run hrun') ?_⟩
  rw [hview, hview']
  exact (h.temps.put origin rfl).put place rfl

/-! ## Replacing -/

theorem SameGround.replaceOnce (h : SameGround d d') {target : Path} {text : String}
    (hrun : (IrExcerpt.replaceOnce target text : StateM Disk _).run d = (.ok (), e))
    (text' : String) :
    ∃ e', (IrExcerpt.replaceOnce target text' : StateM Disk _).run d' =
      (.ok (), e') ∧ SameGround e e' := by
  unfold IrExcerpt.replaceOnce at hrun
  obtain ⟨made, d₁, hstage, hrun⟩ := run_of_run_bind hrun
  cases made with
  | error reason => cases hrun
  | ok staged =>
      obtain ⟨d₁', hstage', h₁⟩ := h.stage hstage text'
      obtain ⟨e', hcommit, hsame⟩ := h₁.commit (isTemp_of_stage hstage) hrun
      refine ⟨e', ?_, hsame⟩
      unfold IrExcerpt.replaceOnce
      rw [run_bind_of_run hstage']
      exact hcommit

/-- Of two attempts to replace a file one succeeds, and the one before it has left
the ground as it was. -/
theorem replaceOnce_of_replaceFile {target : Path} {text : String}
    {events : List Event}
    (h : (replaceFile target text : StateM Disk _).run d = ((.ok (), events), e)) :
    ∃ d', SameGround d d' ∧
      (replaceOnce target text : StateM Disk _).run d' = (.ok (), e) := by
  unfold replaceFile at h
  obtain ⟨first, d₁, hfirst, h⟩ := run_of_run_bind h
  cases first with
  | ok _ =>
      cases h
      exact ⟨d, .refl d, hfirst⟩
  | error reason =>
      obtain ⟨here, d₂, hhere, h⟩ := run_of_run_bind h
      cases hhere
      split at h
      · obtain ⟨second, d₃, hsecond, h⟩ := run_of_run_bind h
        cases h
        exact ⟨d₁, .of_holdings ((KeepsSetting.replaceOnce _ _).of_run hfirst)
          (replaced_replaceOnce hfirst), hsecond⟩
      · cases h

/-- Whether a file can be replaced does not depend on texts. -/
theorem SameGround.replaceFile (h : SameGround d d') {target : Path} {text : String}
    {events : List Event}
    (hrun : (IrExcerpt.replaceFile target text : StateM Disk _).run d =
      ((.ok (), events), e)) (text' : String) :
    ∃ e', (IrExcerpt.replaceFile target text' : StateM Disk _).run d' =
      ((.ok (), []), e') ∧ SameGround e e' := by
  obtain ⟨d₁, h₁, honce⟩ := replaceOnce_of_replaceFile hrun
  obtain ⟨e', honce', hsame⟩ := (h₁.symm.trans h).replaceOnce honce text'
  refine ⟨e', ?_, hsame⟩
  unfold IrExcerpt.replaceFile
  rw [run_bind_of_run honce']
  rfl

/-! ## Places that are not temporary -/

theorem not_temp_of_commit {staged : Staged}
    (h : (staged.commit : StateM Disk _).run d = (.ok (), e))
    (hplain : staged.target.Plain) {place : Location}
    (hplace : d.resolve staged.target = .ok place) (base : Location) (n : Nat) :
    place ≠ base ++ [tempName n] :=
  not_temp_of_rename (commit_eq_ok_iff.1 h) hplain hplace base n

theorem not_temp_of_replaceFile {target : Path} {text : String} {events : List Event}
    (h : (replaceFile target text : StateM Disk _).run d = ((.ok (), events), e))
    (hplain : target.Plain) {place : Location}
    (hplace : d.resolve target = .ok place) (base : Location) (n : Nat) :
    place ≠ base ++ [tempName n] := by
  obtain ⟨d₁, hsame, honce⟩ := replaceOnce_of_replaceFile h
  unfold replaceOnce at honce
  obtain ⟨made, d₂, hstage, hcommit⟩ := run_of_run_bind honce
  cases made with
  | error reason => cases hcommit
  | ok staged =>
      obtain ⟨-, rfl, -⟩ := made_of_stage hstage
      have hkeep := ((KeepsSetting.stage _ _).of_run hstage).toSameDirectories
      refine not_temp_of_commit hcommit hplain ?_ base n
      exact (resolve_iff (hsame.toSameDirectories.trans hkeep)).2 hplace

end Disk

end IrExcerpt
