import IrExcerpt.Storage.Disk
import IrExcerpt.Storage.Replace
import Mathlib.Logic.Function.Basic

/-!
# What replacing a file does to the files

Replacing a file is a dozen calls on the file system, and any of them may fail.
What can be said of it depends on little: reading changes no file, a temporary
file is made where nothing lay, only that file is written to, a move happens as
a whole or not at all, and a file that is given up is gone. `LawfulFiles` asks
for that much of a file system and leaves open when an operation fails.

From there a staged text and a replaced file have one specification each, with
two outcomes. A failure leaves every file as it was. A success leaves the whole
new text at the target, and every other file as it was.
-/

namespace IrExcerpt

/-- Which files lie where, and where paths lead. -/
structure Holdings where
  files : Location → Option ByteArray
  place? : Path → Option Location

namespace Holdings

/-- Other content at a place, or none. -/
def put (h : Holdings) (place : Location) (content : Option ByteArray) :
    Holdings :=
  { h with files := Function.update h.files place content }

@[simp] theorem files_put_self (h : Holdings) (place : Location)
    (content : Option ByteArray) : (h.put place content).files place = content :=
  Function.update_self ..

theorem files_put_of_ne (h : Holdings) {place other : Location}
    (hne : other ≠ place) (content : Option ByteArray) :
    (h.put place content).files other = h.files other :=
  Function.update_of_ne hne ..

@[simp] theorem put_put (h : Holdings) (place : Location)
    (first second : Option ByteArray) :
    (h.put place first).put place second = h.put place second := by
  rw [put, put, put, Function.update_idem]

theorem put_files (h : Holdings) (place : Location) :
    h.put place (h.files place) = h := by
  rw [put, Function.update_eq_self]

theorem put_comm (h : Holdings) {p q : Location} (hne : p ≠ q)
    (a b : Option ByteArray) : (h.put p a).put q b = (h.put q b).put p a := by
  rw [put, put, put, put, Function.update_comm hne]

/-- A file that was not there and is gone again leaves no trace. -/
theorem put_put_none {h : Holdings} {place : Location}
    (hfree : h.files place = none) (content : Option ByteArray) :
    (h.put place content).put place none = h := by
  rw [put_put, ← hfree, put_files]

/-- A new content does not show if it was there before, or is gone again. -/
theorem files_put_put_none_iff {h : Holdings} {temp : Location}
    (hfree : h.files temp = none) (place : Location) (content : ByteArray) :
    ((h.put place (some content)).put temp none).files = h.files ↔
      temp = place ∨ h.files place = some content := by
  by_cases hsame : temp = place
  · subst hsame
    rw [put_put_none hfree]
    simp
  · have hkeep : (h.put place (some content)).put temp none =
        h.put place (some content) := by
      rw [put_comm _ (Ne.symm hsame), ← hfree, put_files]
    rw [hkeep, put, Function.update_eq_self_iff]
    simp [hsame, eq_comm]

end Holdings

/-- A file system whose operations do to files what their names say, whenever
they do not fail. -/
class LawfulFiles (σ : Type) [FileAccess (StateM σ)] where
  view : σ → Holdings
  readText : ∀ (p : Path) (s : σ),
    view ((FileAccess.readText p : StateM σ _).run s).2 = view s
  isDirectory : ∀ (p : Path) (s : σ),
    view ((FileAccess.isDirectory p : StateM σ _).run s).2 = view s
  now : ∀ s : σ, view ((FileAccess.now : StateM σ _).run s).2 = view s
  syncTemp : ∀ (temp : Path) (s : σ),
    view ((FileAccess.syncTemp temp : StateM σ _).run s).2 = view s
  createTemp_error : ∀ {directory : Path} {s s' : σ} {e : IoError},
    (FileAccess.createTemp directory : StateM σ _).run s = (.error e, s') →
    view s' = view s
  createTemp_ok : ∀ {directory temp : Path} {s s' : σ},
    (FileAccess.createTemp directory : StateM σ _).run s = (.ok temp, s') →
    ∃ place, (view s).place? temp = some place ∧
      (view s).files place = none ∧
      view s' = (view s).put place (some ByteArray.empty)
  /-- A write that fails may leave anything in the file it was to fill. -/
  writeTemp : ∀ {temp : Path} {text : String} {place : Location}
    {old : ByteArray} {s s' : σ} {result : Except IoError Unit},
    (FileAccess.writeTemp temp text : StateM σ _).run s = (result, s') →
    (view s).place? temp = some place → (view s).files place = some old →
    ∃ content, view s' = (view s).put place (some content) ∧
      (result = .ok () → content = text.toUTF8)
  rename_error : ∀ {source target : Path} {s s' : σ} {e : IoError},
    (FileAccess.rename source target : StateM σ _).run s = (.error e, s') →
    view s' = view s
  rename_ok : ∀ {source target : Path} {origin : Location}
    {content : ByteArray} {s s' : σ},
    (FileAccess.rename source target : StateM σ _).run s = (.ok (), s') →
    (view s).place? source = some origin →
    (view s).files origin = some content →
    ∃ place, (view s).place? target = some place ∧
      view s' = ((view s).put origin none).put place (some content)
  discard : ∀ {temp : Path} {place : Location} {s : σ},
    (view s).place? temp = some place →
    view ((FileAccess.discard temp : StateM σ _).run s).2 =
      (view s).put place none

open LawfulFiles (view)

/-- The second of two actions starts where the first one ended. -/
theorem run_of_run_bind {σ α β : Type} {x : StateM σ α} {f : α → StateM σ β}
    {s : σ} {r : β × σ} (h : (x >>= f).run s = r) :
    ∃ a s₁, x.run s = (a, s₁) ∧ (f a).run s₁ = r :=
  ⟨(x.run s).1, (x.run s).2, rfl, h⟩

variable {σ : Type} [FileAccess (StateM σ)] [LawfulFiles σ] {s s' : σ}

/-! ## Staging and moving -/

theorem view_of_isDirectory {p : Path} {answer : Bool}
    (h : (FileAccess.isDirectory p : StateM σ _).run s = (answer, s')) :
    view s' = view s := by
  have hkeep := LawfulFiles.isDirectory p s
  rwa [h] at hkeep

theorem view_of_syncTemp {temp : Path} {result : Except IoError Unit}
    (h : (FileAccess.syncTemp temp : StateM σ _).run s = (result, s')) :
    view s' = view s := by
  have hkeep := LawfulFiles.syncTemp temp s
  rwa [h] at hkeep

theorem view_of_abandon {α : Type} {temp : Path} {e : IoError}
    {result : Except IoError α} {place : Location}
    (h : (abandon temp e : StateM σ (Except IoError α)).run s = (result, s'))
    (hplace : (view s).place? temp = some place) :
    result = .error e ∧ view s' = (view s).put place none := by
  have hrun : (.error e, ((FileAccess.discard temp : StateM σ _).run s).2) =
      (result, s') := h
  obtain ⟨rfl, rfl⟩ := Prod.mk.inj hrun
  exact ⟨rfl, LawfulFiles.discard hplace⟩

/-- Giving up on a temporary file undoes everything done to it. -/
theorem view_of_undone {α : Type} {temp : Path} {e : IoError} {s₁ : σ}
    {result : Except IoError α} {place : Location}
    {content : Option ByteArray}
    (h : (abandon temp e : StateM σ (Except IoError α)).run s₁ = (result, s'))
    (hplace : (view s).place? temp = some place)
    (hfree : (view s).files place = none)
    (hview : view s₁ = (view s).put place content) :
    result = .error e ∧ view s' = view s := by
  obtain ⟨hresult, hview'⟩ := view_of_abandon h (by rw [hview]; exact hplace)
  rw [hview, Holdings.put_put_none hfree] at hview'
  exact ⟨hresult, hview'⟩

/-- A staged text lies where nothing was, and nothing else has changed. -/
structure Staged.Holds (staged : Staged) (text : String) (s s' : σ)
    (temp : Location) : Prop where
  place : (view s).place? staged.temp = some temp
  free : (view s).files temp = none
  view : view s' = (view s).put temp (some text.toUTF8)

theorem view_of_stage {target : Path} {text : String}
    {result : Except IoError Staged}
    (h : (stage target text : StateM σ _).run s = (result, s')) :
    match result with
    | .error _ => view s' = view s
    | .ok staged => staged.target = target ∧
        ∃ temp, staged.Holds text s s' temp := by
  unfold stage at h
  obtain ⟨here, s₁, hdir, h⟩ := run_of_run_bind h
  have hview₁ := view_of_isDirectory hdir
  cases here with
  | false =>
      obtain ⟨rfl, rfl⟩ := Prod.mk.inj h
      exact hview₁
  | true =>
      rw [if_pos rfl] at h
      obtain ⟨made, s₂, hmade, h⟩ := run_of_run_bind h
      cases made with
      | error e =>
          obtain ⟨rfl, rfl⟩ := Prod.mk.inj h
          exact (LawfulFiles.createTemp_error hmade).trans hview₁
      | ok temp =>
          obtain ⟨place, hplace, hfree, hview₂⟩ :=
            LawfulFiles.createTemp_ok hmade
          rw [hview₁] at hplace hfree hview₂
          obtain ⟨written, s₃, hwritten, h⟩ := run_of_run_bind h
          obtain ⟨content, hview₃, hcontent⟩ := LawfulFiles.writeTemp
            hwritten (by rw [hview₂]; exact hplace)
            (by rw [hview₂, Holdings.files_put_self])
          rw [hview₂, Holdings.put_put] at hview₃
          cases written with
          | error e =>
              obtain ⟨rfl, hview⟩ := view_of_undone h hplace hfree hview₃
              exact hview
          | ok _ =>
              obtain ⟨synced, s₄, hsynced, h⟩ := run_of_run_bind h
              have hview₄ := (view_of_syncTemp hsynced).trans hview₃
              cases synced with
              | error e =>
                  obtain ⟨rfl, hview⟩ := view_of_undone h hplace hfree hview₄
                  exact hview
              | ok _ =>
                  obtain ⟨rfl, rfl⟩ := Prod.mk.inj h
                  rw [hcontent rfl] at hview₄
                  exact ⟨rfl, place, hplace, hfree, hview₄⟩

theorem view_of_commit {staged : Staged} {result : Except IoError Unit}
    {origin : Location} (h : (staged.commit : StateM σ _).run s = (result, s'))
    (hplace : (view s).place? staged.temp = some origin) :
    match result with
    | .error _ => view s' = (view s).put origin none
    | .ok () => ∀ content, (view s).files origin = some content →
        ∃ place, (view s).place? staged.target = some place ∧
          view s' = ((view s).put origin none).put place (some content) := by
  unfold Staged.commit at h
  obtain ⟨moved, s₁, hmoved, h⟩ := run_of_run_bind h
  cases moved with
  | error e =>
      have hview₁ := LawfulFiles.rename_error hmoved
      rw [← hview₁] at hplace ⊢
      obtain ⟨rfl, hview⟩ := view_of_abandon h hplace
      exact hview
  | ok _ =>
      obtain ⟨rfl, rfl⟩ := Prod.mk.inj h
      exact fun content hfile => LawfulFiles.rename_ok hmoved hplace hfile

/-! ## Replacing -/

/-- How an attempt to put a text at a path ends: either nothing has changed, or
the text is there and nothing else has changed. -/
def Replaced (target : Path) (text : String) (s s' : σ) :
    Except IoError Unit → Prop
  | .error _ => view s' = view s
  | .ok () => ∃ place, (view s).place? target = some place ∧
      view s' = (view s).put place (some text.toUTF8)

theorem replaced_replaceOnce {target : Path} {text : String}
    {result : Except IoError Unit}
    (h : (replaceOnce target text : StateM σ _).run s = (result, s')) :
    Replaced target text s s' result := by
  unfold replaceOnce at h
  obtain ⟨made, s₁, hmade, hrest⟩ := run_of_run_bind h
  have hstage := view_of_stage hmade
  cases made with
  | error e =>
      obtain ⟨rfl, rfl⟩ := Prod.mk.inj hrest
      exact hstage
  | ok staged =>
      obtain ⟨rfl, temp, hholds⟩ := hstage
      have hcommit := view_of_commit hrest
        (by rw [hholds.view]; exact hholds.place)
      rw [hholds.view, Holdings.put_put_none hholds.free] at hcommit
      cases result with
      | error e => exact hcommit
      | ok _ => exact hcommit _ (Holdings.files_put_self ..)

theorem replaced_replaceFile {target : Path} {text : String}
    {result : Except IoError Unit} {events : List Event}
    (h : (replaceFile target text : StateM σ _).run s =
      ((result, events), s')) :
    Replaced target text s s' result := by
  unfold replaceFile at h
  obtain ⟨first, s₁, hfirst, h⟩ := run_of_run_bind h
  have hreplaced := replaced_replaceOnce hfirst
  cases first with
  | ok _ =>
      obtain ⟨hresult, rfl⟩ := Prod.mk.inj h
      obtain ⟨rfl, rfl⟩ := Prod.mk.inj hresult
      exact hreplaced
  | error e =>
      obtain ⟨here, s₂, hdir, h⟩ := run_of_run_bind h
      have hview₂ := (view_of_isDirectory hdir).trans hreplaced
      cases here with
      | false =>
          obtain ⟨hresult, rfl⟩ := Prod.mk.inj h
          obtain ⟨rfl, rfl⟩ := Prod.mk.inj hresult
          exact hview₂
      | true =>
          rw [if_pos rfl] at h
          obtain ⟨second, s₃, hsecond, h⟩ := run_of_run_bind h
          have hagain := replaced_replaceOnce hsecond
          obtain ⟨hresult, rfl⟩ := Prod.mk.inj h
          obtain ⟨rfl, rfl⟩ := Prod.mk.inj hresult
          unfold Replaced at hagain ⊢
          rw [hview₂] at hagain
          exact hagain

end IrExcerpt
