import IrExcerpt.Proofs.FileLaws
import IrExcerpt.Text.Association
import Mathlib.Tactic.SplitIfs

/-!
# A disk keeps the laws of files

The laws speak of places, and a path finds its place by way of directories. No
operation makes, moves or removes a directory, so what a path leads to stays the
same whatever happens to files: this is `resolve_iff`. Apart from that, a disk
is a list of entries, and putting one somewhere is looked up as it was put.
-/

namespace IrExcerpt

/-- A step behind another succeeds if both do. -/
theorem bind_eq_ok_iff {ε α β : Type} {x : Except ε α}
    {f : α → Except ε β} {b : β} :
    x >>= f = .ok b ↔ ∃ a, x = .ok a ∧ f a = .ok b := by
  cases x with
  | error e => simp [bind, Except.bind]
  | ok a => simp [bind, Except.bind]

namespace Disk

variable {d d' : Disk}

/-! ## Entries -/

theorem occupant?_of_ne_root {l : Location} (hl : l ≠ []) :
    d.occupant? l = d.entries.lookup l := by
  rw [occupant?, if_neg (by simpa using hl)]

theorem occupant?_erase {loc : Location} (hloc : loc ≠ []) (l : Location) :
    (d.erase loc).occupant? l = if l = loc then none else d.occupant? l := by
  by_cases hl : l = []
  · subst hl
    rw [if_neg (Ne.symm hloc)]
    rfl
  · rw [occupant?_of_ne_root hl, occupant?_of_ne_root hl, erase,
      lookup_filter_key (· != loc)]
    by_cases heq : l = loc
    · simp [heq]
    · simp [heq]

theorem occupant?_set {loc : Location} (hloc : loc ≠ []) (e : Entry)
    (l : Location) :
    (d.set loc e).occupant? l = if l = loc then some e else d.occupant? l := by
  by_cases hl : l = []
  · subst hl
    rw [if_neg (Ne.symm hloc)]
    rfl
  · rw [occupant?_of_ne_root hl, occupant?_of_ne_root hl, set, List.lookup_cons,
      lookup_filter_key (· != loc)]
    by_cases heq : l = loc
    · simp [heq]
    · simp [heq, beq_false_of_ne heq]

/-- The root is a directory, so no file lies there. -/
theorem ne_root {loc : Location} (h : d.occupant? loc ≠ some .directory) :
    loc ≠ [] := by
  intro hroot
  subst hroot
  exact h rfl

/-! ## Directories -/

/-- The disks start paths at the same place and have the same directories. -/
structure SameDirectories (d d' : Disk) : Prop where
  here : d'.here = d.here
  directory : ∀ loc,
    d'.occupant? loc = some .directory ↔ d.occupant? loc = some .directory

theorem sameDirectories_set {loc : Location}
    (h : d.occupant? loc ≠ some .directory) (content : ByteArray) :
    SameDirectories d (d.set loc (.file content)) where
  here := rfl
  directory l := by
    rw [occupant?_set (ne_root h)]
    split
    · next hl => subst hl; simp [h]
    · exact Iff.rfl

theorem sameDirectories_erase {loc : Location}
    (h : d.occupant? loc ≠ some .directory) : SameDirectories d (d.erase loc) where
  here := rfl
  directory l := by
    rw [occupant?_erase (ne_root h)]
    split
    · next hl => subst hl; simp [h]
    · exact Iff.rfl

theorem checkDirectory_iff {loc : Location} {u : Unit} :
    d.checkDirectory loc = .ok u ↔ d.occupant? loc = some .directory := by
  unfold checkDirectory
  split <;> simp_all

theorem step_iff (h : SameDirectories d d') {loc r : Location}
    {segment : List UInt8} :
    d'.step loc segment = .ok r ↔ d.step loc segment = .ok r := by
  unfold step
  rw [bind_eq_ok_iff, bind_eq_ok_iff]
  simp only [checkDirectory_iff, h.directory]

theorem foldlM_step_iff (h : SameDirectories d d')
    {segments : List (List UInt8)} {loc r : Location} :
    segments.foldlM d'.step loc = .ok r ↔
      segments.foldlM d.step loc = .ok r := by
  induction segments generalizing loc with
  | nil => rfl
  | cons segment segments ih =>
      rw [List.foldlM_cons, List.foldlM_cons, bind_eq_ok_iff,
        bind_eq_ok_iff]
      simp only [step_iff h, ih]

theorem resolve_iff (h : SameDirectories d d') {p : Path} {loc : Location} :
    d'.resolve p = .ok loc ↔ d.resolve p = .ok loc := by
  have hstart : d'.start p = d.start p := by
    unfold start
    rw [h.here]
  unfold resolve
  rw [bind_eq_ok_iff, bind_eq_ok_iff, hstart]
  simp only [foldlM_step_iff h]

/-! ## Files -/

/-- The file at a place. -/
def file? (d : Disk) (loc : Location) : Option ByteArray :=
  match d.occupant? loc with
  | some (.file content) => some content
  | _ => none

/-- The files of a disk, and where its paths lead. -/
def holdings (d : Disk) : Holdings := ⟨d.file?, fun p => (d.resolve p).toOption⟩

theorem place?_holdings {p : Path} {loc : Location} :
    d.holdings.place? p = some loc ↔ d.resolve p = .ok loc := by
  change (d.resolve p).toOption = some loc ↔ _
  cases d.resolve p with
  | error e => simp [Except.toOption]
  | ok r => simp [Except.toOption]

theorem files_holdings {loc : Location} {content : ByteArray} :
    d.holdings.files loc = some content ↔
      d.occupant? loc = some (.file content) := by
  change d.file? loc = some content ↔ _
  unfold file?
  split <;> simp_all

theorem place?_eq_of_sameDirectories (h : SameDirectories d d') :
    d'.holdings.place? = d.holdings.place? := by
  funext p
  refine Option.ext fun loc => ?_
  rw [place?_holdings, place?_holdings, resolve_iff h]

theorem holdings_set {loc : Location} (h : d.occupant? loc ≠ some .directory)
    (content : ByteArray) : (d.set loc (.file content)).holdings =
      d.holdings.put loc (some content) := by
  refine congrArg₂ Holdings.mk ?_
    (place?_eq_of_sameDirectories (sameDirectories_set h content))
  funext l
  rw [file?, occupant?_set (ne_root h), Function.update_apply]
  by_cases hl : l = loc
  · rw [if_pos hl, if_pos hl]
  · rw [if_neg hl, if_neg hl]
    rfl

theorem holdings_erase {loc : Location}
    (h : d.occupant? loc ≠ some .directory) :
    (d.erase loc).holdings = d.holdings.put loc none := by
  refine congrArg₂ Holdings.mk ?_
    (place?_eq_of_sameDirectories (sameDirectories_erase h))
  funext l
  rw [file?, occupant?_erase (ne_root h), Function.update_apply]
  by_cases hl : l = loc
  · rw [if_pos hl, if_pos hl]
  · rw [if_neg hl, if_neg hl]
    rfl

/-! ## Operations -/

theorem createTemp_eq_ok {directory temp : Path}
    (h : d.createTemp directory = .ok (temp, d')) :
    ∃ place, d.resolve temp = .ok place ∧ d.occupant? place = none ∧
      d' = d.set place (.file ByteArray.empty) := by
  unfold createTemp at h
  obtain ⟨loc, -, h⟩ := bind_eq_ok_iff.1 h
  obtain ⟨_, -, h⟩ := bind_eq_ok_iff.1 h
  dsimp only at h
  split at h
  · next n hfound =>
    obtain ⟨place, hplace, h⟩ := bind_eq_ok_iff.1 h
    cases h
    have hfree := List.find?_some hfound
    rw [find?, hplace] at hfree
    exact ⟨place, hplace, Option.isNone_iff_eq_none.1 hfree, rfl⟩
  · cases h

theorem writeTemp_eq_ok {temp : Path} {text : String}
    (h : d.writeTemp temp text = .ok d') :
    ∃ place old, d.resolve temp = .ok place ∧
      d.occupant? place = some (.file old) ∧
      d' = d.set place (.file text.toUTF8) := by
  unfold writeTemp at h
  obtain ⟨place, hplace, h⟩ := bind_eq_ok_iff.1 h
  split at h
  · next old hold =>
    cases h
    exact ⟨place, old, hplace, hold, rfl⟩
  · cases h
  · cases h

theorem holdings_discard {temp : Path} {place : Location}
    (h : d.resolve temp = .ok place) :
    (d.discard temp).holdings = d.holdings.put place none := by
  simp only [discard, h]
  split
  · next content hcontent =>
    refine holdings_erase ?_
    rw [hcontent]
    simp
  · next hno =>
    have hfree : d.holdings.files place = none := by
      refine Option.eq_none_iff_forall_ne_some.2 fun content hcontent => ?_
      exact hno content (files_holdings.1 hcontent)
    rw [← hfree, Holdings.put_files]

theorem step_name {loc : Location} {u : Unit} {name : List UInt8}
    (hdirectory : d.checkDirectory loc = .ok u)
    (hnamed : Path.idle name = false ∧ (name == upward) = false)
    (hlength : name.length ≤ longestName) :
    d.step loc name = .ok (loc ++ [name]) := by
  rw [step, hdirectory]
  change (if Path.idle name then _ else _) = _
  rw [if_neg (by rw [hnamed.1]; exact Bool.false_ne_true),
    if_neg (by simpa using hnamed.2), if_neg (by omega)]
  rfl

/-- A path that can take a file leads to where it would put it. -/
theorem resolve_of_destination {p : Path} {t : Destination}
    (h : d.destination p = .ok t) (hnamed : t.unnamed = false)
    (hlength : t.name.length ≤ longestName) (hslashed : t.slashed = false) :
    d.resolve p = .ok t.location := by
  obtain ⟨segments, hsegments⟩ : ∃ segments,
    (Path.split p.bytes).reverse = segments := ⟨_, rfl⟩
  unfold destination at h
  simp only [hsegments] at h
  obtain ⟨start, hstart, h⟩ := bind_eq_ok_iff.1 h
  obtain ⟨directory, hdirectory, h⟩ := bind_eq_ok_iff.1 h
  obtain ⟨_, hcheck, h⟩ := bind_eq_ok_iff.1 h
  cases h
  -- No slash stands behind the name, so no segment was passed over.
  have hall : segments.dropWhile List.isEmpty = segments := by
    refine (List.dropWhile_suffix _).eq_of_length_le ?_
    simpa using hslashed
  rw [hall] at hdirectory hnamed hlength
  rw [hall]
  cases segments with
  | nil => cases hnamed
  | cons name before =>
      have hsplit : Path.split p.bytes = before.reverse ++ [name] := by
        rw [← List.reverse_reverse (Path.split p.bytes), hsegments,
          List.reverse_cons]
      have hlast : d.step directory name = .ok (directory ++ [name]) :=
        step_name hcheck (Bool.or_eq_false_iff.1 hnamed) hlength
      rw [List.tail_cons] at hdirectory
      rw [resolve, hstart]
      change List.foldlM d.step start (Path.split p.bytes) = _
      rw [hsplit, List.foldlM_append, hdirectory]
      change List.foldlM d.step directory [name] = _
      rw [List.foldlM_cons, hlast]
      rfl

theorem any_isDirectory_iff {entry : Option Entry} :
    entry.any Entry.isDirectory = true ↔ entry = some .directory := by
  cases entry with
  | none => simp
  | some entry => cases entry <;> simp [Entry.isDirectory]

/-- When a file can be moved, and what a move does. -/
theorem rename_eq_ok_iff {source target : Path} :
    d.rename source target = .ok d' ↔ ∃ origin content t,
      d.resolve source = .ok origin ∧
      d.occupant? origin = some (.file content) ∧
      d.destination target = .ok t ∧ t.unnamed = false ∧
      t.name.length ≤ longestName ∧ t.slashed = false ∧
      d.occupant? t.location ≠ some .directory ∧
      d' = (d.erase origin).set t.location (.file content) := by
  unfold rename
  rw [bind_eq_ok_iff]
  refine exists_congr fun origin => ?_
  constructor
  · rintro ⟨horigin, h⟩
    split at h
    · cases h
    · cases h
    · next content hcontent =>
      obtain ⟨t, ht, h⟩ := bind_eq_ok_iff.1 h
      split_ifs at h with hnamed hlength hslashed hdirectory
      cases h
      exact ⟨content, t, horigin, hcontent, ht, by simpa using hnamed, by omega,
        by simpa using hslashed, mt any_isDirectory_iff.2 hdirectory, rfl⟩
  · rintro ⟨content, t, horigin, hcontent, ht, hnamed, hlength, hslashed,
      hdirectory, rfl⟩
    refine ⟨horigin, ?_⟩
    rw [hcontent]
    refine bind_eq_ok_iff.2 ⟨t, ht, ?_⟩
    rw [hnamed, hslashed, if_neg Bool.false_ne_true, if_neg (by omega),
      if_neg Bool.false_ne_true, if_neg (mt any_isDirectory_iff.1 hdirectory)]
    rfl

/-- What a move does, if it does anything. -/
theorem rename_eq_ok {source target : Path} (h : d.rename source target = .ok d') :
    ∃ origin content place, d.resolve source = .ok origin ∧
      d.occupant? origin = some (.file content) ∧
      d.resolve target = .ok place ∧ d.occupant? place ≠ some .directory ∧
      d' = (d.erase origin).set place (.file content) := by
  obtain ⟨origin, content, t, horigin, hcontent, ht, hnamed, hlength, hslashed,
    hdirectory, rfl⟩ := rename_eq_ok_iff.1 h
  exact ⟨origin, content, t.location, horigin, hcontent,
    resolve_of_destination ht hnamed hlength hslashed, hdirectory, rfl⟩
/-! ## The laws -/

theorem attempt_ok {α : Type} {operation : Disk → Except IoError (α × Disk)}
    {a : α} (h : (attempt operation).run d = (.ok a, d')) :
    operation d = .ok (a, d') := by
  simp only [attempt, StateT.run] at h
  split at h
  · next hop =>
    obtain ⟨hres, rfl⟩ := Prod.mk.inj h
    cases hres
    exact hop
  · cases h

theorem attempt_error {α : Type} {operation : Disk → Except IoError (α × Disk)}
    {e : IoError} (h : (attempt operation).run d = (.error e, d')) :
    d' = d := by
  simp only [attempt, StateT.run] at h
  split at h
  · cases h
  · exact (Prod.mk.inj h).2.symm

theorem attempt_unit {operation : Disk → Except IoError Disk}
    (h : (attempt fun d => do return ((), ← operation d)).run d = (.ok (), d')) :
    operation d = .ok d' := by
  obtain ⟨_, hop, heq⟩ := bind_eq_ok_iff.1 (attempt_ok h)
  cases heq
  exact hop

instance : LawfulFiles Disk where
  view := holdings
  readText _ _ := rfl
  isDirectory _ _ := rfl
  now _ := rfl
  syncTemp _ _ := rfl
  createTemp_error h := congrArg holdings (attempt_error h)
  createTemp_ok h := by
    obtain ⟨place, hplace, hfree, rfl⟩ := createTemp_eq_ok (attempt_ok h)
    refine ⟨place, place?_holdings.2 hplace, ?_, holdings_set ?_ _⟩
    · refine Option.eq_none_iff_forall_ne_some.2 fun content hcontent => ?_
      rw [files_holdings, hfree] at hcontent
      cases hcontent
    · rw [hfree]
      simp
  writeTemp := by
    intro temp text place old d d' result h hplace hfile
    cases result with
    | error e =>
        cases attempt_error h
        refine ⟨old, ?_, fun hok => by cases hok⟩
        rw [← hfile, Holdings.put_files]
    | ok _ =>
        obtain ⟨loc, content, hloc, hcontent, rfl⟩ :=
          writeTemp_eq_ok (attempt_unit h)
        rw [place?_holdings, hloc] at hplace
        cases hplace
        refine ⟨text.toUTF8, holdings_set ?_ _, fun _ => rfl⟩
        rw [hcontent]
        simp
  rename_error h := congrArg holdings (attempt_error h)
  rename_ok := by
    intro source target origin content d d' h hplace hfile
    obtain ⟨from', bytes, place, hfrom, hbytes, htarget, hdirectory, rfl⟩ :=
      rename_eq_ok (attempt_unit h)
    rw [place?_holdings, hfrom] at hplace
    cases hplace
    rw [files_holdings, hbytes] at hfile
    cases hfile
    have horigin : d.occupant? origin ≠ some .directory := by
      rw [hbytes]
      simp
    refine ⟨place, place?_holdings.2 htarget, ?_⟩
    rw [holdings_set ?_, holdings_erase horigin]
    exact fun hentry =>
      hdirectory (((sameDirectories_erase horigin).directory place).1 hentry)
  discard h := holdings_discard (place?_holdings.1 h)

end Disk

end IrExcerpt
