import IrExcerpt.Config.File
import IrExcerpt.Proofs.DiskLaws
import IrExcerpt.Proofs.WrittenTables

/-!
# Saved configurations are loaded again

A configuration is written as a table and read from one. The text in between is
settled by `Toml.read?_write`; what is left is that each setting is found under
the name it was written with, that an option which is not given is not found and
stays so, and that no default comes in where a setting was written. An empty list
of jobs is the one thing with a form of its own: it stands in front of the tables,
since no table would show it.

On the way through a file nothing may happen to the text. `StoresTexts` asks for
that much of a file system, and a disk keeps it.
-/

namespace IrExcerpt

open Toml (Value Plain Flat Bare)
open Toml.Number (integerBound)

namespace Config

/-! ## Settings can be written -/

theorem flat_textsValue (texts : List String) : Flat (textsValue texts) := by
  refine .array fun v hv => ?_
  obtain ⟨text, -, rfl⟩ := List.mem_map.1 hv
  exact .string text

theorem flat_given {α : Type} {name : String} {as : α → Value} (h : ∀ a, Flat (as a))
    {o : Option α} {p : String × Value} (hp : p ∈ given name as o) : Flat p.2 := by
  cases o with
  | none => cases hp
  | some a =>
      rw [List.mem_singleton.1 hp]
      exact h a

theorem plain_defaults (d : Defaults) : Plain (defaultsSection d).pairs where
  bare := by
    simp only [defaultsSection, List.forall_mem_cons]
    decide
  flat := by
    simp only [defaultsSection, List.forall_mem_cons]
    exact ⟨.scalar (.string _), .scalar (.integer _), flat_textsValue _,
      .scalar (.boolean _), .scalar (.integer _), by simp⟩
  distinct := by
    simp [defaultsSection]

/-- The names of the settings of a job. -/
def jobNames : List String :=
  ["name", "input", "output", "functions", "function_patterns", "line_patterns",
    "ignore_patterns", "recursion_depth", "fail_on_empty", "report"]

theorem map_fst_given {α : Type} (name : String) (as : α → Value) (o : Option α) :
    ((given name as o).map Prod.fst).Sublist [name] := by
  cases o with
  | none => exact List.nil_sublist _
  | some a => exact List.Sublist.refl _

theorem jobNames_sublist (job : Job) :
    ((jobSection job).pairs.map Prod.fst).Sublist jobNames := by
  simp only [jobSection, List.map_append]
  exact (((((List.Sublist.refl ["name", "input"]).append (map_fst_given ..)).append
    (.refl _)).append (map_fst_given ..)).append (map_fst_given ..)).append (map_fst_given ..)

theorem plain_job (job : Job) : Plain (jobSection job).pairs where
  bare := by
    have hnames : ∀ name ∈ jobNames, Bare name := by decide
    exact fun p hp => hnames _ ((jobNames_sublist job).subset (List.mem_map_of_mem hp))
  flat := by
    intro p hp
    simp only [jobSection, List.mem_append] at hp
    rcases hp with ((((hp | hp) | hp) | hp) | hp) | hp
    · simp only [List.mem_cons, List.not_mem_nil, or_false] at hp
      rcases hp with rfl | rfl <;> exact .scalar (.string _)
    · exact flat_given (fun a => .scalar (.string a)) hp
    · simp only [List.mem_cons, List.not_mem_nil, or_false] at hp
      rcases hp with rfl | rfl | rfl | rfl <;> exact flat_textsValue _
    · exact flat_given (fun a => .scalar (.integer a)) hp
    · exact flat_given (fun a => .scalar (.boolean a)) hp
    · exact flat_given (fun a => .scalar (.string a)) hp
  distinct := (jobNames_sublist job).nodup (by decide)

/-! ## Settings are found again -/

@[simp] theorem text?_string (text : String) : text? (.string text) = some text := rfl

@[simp] theorem number?_integer (v : Int64) : number? (.integer v) = some v := rfl

@[simp] theorem flag?_boolean (b : Bool) : flag? (.boolean b) = some b := rfl

@[simp] theorem texts?_textsValue (texts : List String) :
    texts? (textsValue texts) = some texts := by
  rw [textsValue, texts?]
  induction texts with
  | nil => rfl
  | cons text texts ih =>
      rw [List.map_cons, List.mapM_cons, ih]
      rfl

theorem lookup_given {α : Type} (name key : String) (as : α → Value) (o : Option α) :
    (given name as o).lookup key = if key = name then o.map as else none := by
  cases o with
  | none => simp [given]
  | some a =>
      by_cases h : key = name
      · simp [given, h]
      · have hbeq : (key == name) = false := by simpa using h
        simp [given, h, List.lookup_cons, hbeq]

theorem count?_ofNat {n : Nat} (h : n < integerBound) :
    count? (.integer (Int64.ofNat n)) = some n := by
  unfold integerBound at h
  have hnonneg : ¬ Int64.ofNat n < 0 := by
    rw [Int64.lt_iff_toInt_lt, Int64.toInt_ofNat_of_lt h]
    simp
  rw [count?, if_neg hnonneg, Int64.toNatClampNeg_ofNat_of_lt h]

section Reading

variable {α : Type} {fields : List (String × Value)} {place : Nat} {name : String}
  {as : Value → Option α}

theorem read_of_lookup {fallback a : α} {v : Value} (h : fields.lookup name = some v)
    (hv : as v = some a) :
    (Settings.named fields).read place name as fallback = some a := by
  rw [Settings.read, Settings.get?, h]
  exact hv

theorem read?_of_lookup {o : Option α} (value : α → Value)
    (h : fields.lookup name = o.map value) (hvalue : ∀ a, as (value a) = some a) :
    (Settings.named fields).read? place name as = some o := by
  rw [Settings.read?, Settings.read, Settings.get?, h]
  cases o with
  | none => rfl
  | some a => simp [hvalue]

end Reading

/-- What is found under the names of a job's settings. -/
theorem lookup_job (job : Job) :
    let find := fun name => (jobSection job).pairs.lookup name
    find "name" = some (.string job.name) ∧
    find "input" = some (.string job.input) ∧
    find "output" = job.output.map .string ∧
    find "functions" = some (textsValue job.functions) ∧
    find "function_patterns" = some (textsValue job.functionPatterns) ∧
    find "line_patterns" = some (textsValue job.linePatterns) ∧
    find "ignore_patterns" = some (textsValue job.ignorePatterns) ∧
    find "recursion_depth" = job.depth.map .integer ∧
    find "fail_on_empty" = job.failOnEmpty.map .boolean ∧
    find "report" = job.report.map .string := by
  simp [jobSection, List.lookup_cons, List.lookup_append, lookup_given]

theorem jobOf?_section (job : Job) :
    jobOf? (.table (jobSection job).pairs) = some job := by
  obtain ⟨hname, hinput, houtput, hfunctions, hbyName, hbyLine, hignored, hdepth, hfail,
    hreport⟩ := lookup_job job
  simp only [jobOf?, settings?, Option.bind_eq_bind, Option.bind_some,
    read_of_lookup hname (text?_string _), read_of_lookup hinput (text?_string _),
    read?_of_lookup .string houtput text?_string,
    read_of_lookup hfunctions (texts?_textsValue _),
    read_of_lookup hbyName (texts?_textsValue _),
    read_of_lookup hbyLine (texts?_textsValue _),
    read_of_lookup hignored (texts?_textsValue _),
    read?_of_lookup .integer hdepth number?_integer,
    read?_of_lookup .boolean hfail flag?_boolean,
    read?_of_lookup .string hreport text?_string]
  rfl

theorem defaults?_section {d : Defaults} (h : d.listLimit < integerBound) :
    defaults? (.table (defaultsSection d).pairs) = some d := by
  simp [defaults?, settings?, Settings.read, Settings.get?, defaultsSection,
    List.lookup_cons, count?_ofNat h]

theorem jobsOf?_sections (jobs : List Job) :
    jobsOf? (.array (jobs.map fun job => .table (jobSection job).pairs)) = some jobs := by
  rw [jobsOf?]
  induction jobs with
  | nil => rfl
  | cons job jobs ih =>
      rw [List.map_cons, List.mapM_cons, ih, jobOf?_section]
      rfl

/-! ## Whole configurations -/

/-- The list of jobs, if it is empty. -/
def emptyJobs (c : Config) : List (String × Value) :=
  if c.jobs.isEmpty then [("jobs", .array [])] else []

theorem map_fst_emptyJobs (c : Config) :
    c.emptyJobs.map Prod.fst = if c.jobs = [] then ["jobs"] else [] := by
  unfold emptyJobs
  cases c.jobs <;> rfl

theorem plain_emptyJobs (c : Config) : Plain c.emptyJobs := by
  unfold emptyJobs
  split
  · exact ⟨by decide, by simpa using Flat.array (by simp), by decide⟩
  · exact ⟨by simp, by simp, by simp⟩

/-- The table that a configuration is written as. -/
def table (c : Config) : List (String × Value) :=
  c.emptyJobs ++ ("defaults", .table (defaultsSection c.defaults).pairs) ::
    if c.jobs = [] then []
    else [("jobs", .array (c.jobs.map fun job => .table (jobSection job).pairs))]

theorem ofTable?_table {c : Config} (h : c.defaults.listLimit < integerBound) :
    ofTable? c.table = some c := by
  have hdefaults : c.table.lookup "defaults" =
      some (.table (defaultsSection c.defaults).pairs) := by
    unfold table emptyJobs
    split <;> simp [List.lookup_cons]
  have hjobs : c.table.lookup "jobs" =
      some (.array (c.jobs.map fun job => .table (jobSection job).pairs)) := by
    unfold table emptyJobs
    cases c.jobs <;> simp [List.lookup_cons]
  simp only [ofTable?, read_of_lookup hdefaults (defaults?_section h),
    read_of_lookup hjobs (jobsOf?_sections c.jobs), Option.bind_eq_bind, Option.bind_some]
  rfl

theorem exists_text {c : Config} (h : c.defaults.listLimit < integerBound) :
    ∃ text, c.text = .ok text ∧ Toml.read? text = some c.table := by
  have hlisted : ∀ t ∈ c.jobs.map jobSection,
      Bare "jobs" ∧ t.listed = true ∧ t.name = "jobs" ∧ Plain t.pairs := by
    intro t ht
    obtain ⟨job, -, rfl⟩ := List.mem_map.1 ht
    exact ⟨by decide, rfl, rfl, plain_job job⟩
  have hname : Bare "defaults" := by decide
  have hnew : "defaults" ∉ c.emptyJobs.map Prod.fst := by
    rw [map_fst_emptyJobs]
    split <;> decide
  have hkey : c.jobs.map jobSection ≠ [] →
      "jobs" ∉ c.emptyJobs.map Prod.fst ∧ "jobs" ≠ "defaults" := by
    intro hjobs
    rw [map_fst_emptyJobs, if_neg (by simpa using hjobs)]
    decide
  rw [text, if_neg (by omega)]
  refine ⟨Toml.write c.emptyJobs _, rfl, ?_⟩
  rw [Toml.read?_write (plain_emptyJobs c) hname (plain_defaults c.defaults) rfl hnew
    hlisted hkey]
  simp only [table, List.map_eq_nil_iff, List.map_map]
  rfl

/-- What is written is read as the configuration, if it is valid. -/
theorem ofText_of_text {c : Config} (h : c.defaults.listLimit < integerBound) :
    ∃ text, c.text = .ok text ∧ ofText text = c.validate.map fun _ => c := by
  obtain ⟨text, htext, hread⟩ := exists_text h
  refine ⟨text, htext, ?_⟩
  rw [ofText, hread, Option.bind_some, ofTable?_table h]
  dsimp only
  cases c.validate <;> rfl

end Config

/-! ## Files -/

theorem fromUTF8?_toUTF8 (text : String) : String.fromUTF8? text.toUTF8 = some text := by
  have hvalid : text.toUTF8.IsValidUTF8 := text.isValidUTF8
  rw [String.fromUTF8?, dif_pos hvalid]
  rfl

namespace Disk

variable {d d' : Disk}

theorem writeText_eq_ok_iff {p : Path} {text : String} :
    d.writeText p text = .ok d' ↔ ∃ t, d.destination p = .ok t ∧
      t.unnamed = false ∧ t.slashed = false ∧ t.name.length ≤ longestName ∧
      d.occupant? t.location ≠ some .directory ∧
      d' = d.set t.location (.file text.toUTF8) := by
  unfold writeText
  rw [bind_eq_ok_iff]
  refine exists_congr fun t => and_congr_right fun _ => ?_
  constructor
  · intro h
    split_ifs at h with hnamed hlength hdirectory
    cases h
    rw [Bool.or_eq_true, not_or, Bool.not_eq_true, Bool.not_eq_true] at hnamed
    exact ⟨hnamed.1, hnamed.2, by omega, mt any_isDirectory_iff.2 hdirectory, rfl⟩
  · rintro ⟨hnamed, hslashed, hlength, hdirectory, rfl⟩
    rw [hnamed, hslashed, Bool.or_false, if_neg Bool.false_ne_true, if_neg (by omega),
      if_neg (mt any_isDirectory_iff.1 hdirectory)]
    rfl

theorem readText_of_writeText {p : Path} {text : String}
    (h : d.writeText p text = .ok d') : d'.readText p = .ok text := by
  obtain ⟨t, ht, hnamed, hslashed, hlength, hdirectory, rfl⟩ := writeText_eq_ok_iff.1 h
  have hplace := (resolve_iff (sameDirectories_set hdirectory text.toUTF8)).2
    (resolve_of_destination ht hnamed hlength hslashed)
  have hfile : (d.set t.location (.file text.toUTF8)).occupant? t.location =
      some (.file text.toUTF8) := by
    rw [occupant?_set (ne_root hdirectory), if_pos rfl]
  rw [readText, hplace]
  simp only [bind, Except.bind, hfile, fromUTF8?_toUTF8]
  rfl

/-- Whether a path can be written to does not depend on the text. -/
theorem writable_of_writeText {p : Path} {text : String}
    (h : (d.writeText p text).toOption.isSome) (other : String) :
    ((FileAccess.writeText p other : StateM Disk _).run d).1 = .ok () := by
  obtain ⟨d₁, hwrite⟩ : ∃ d₁, d.writeText p text = .ok d₁ := by
    cases hwrite : d.writeText p text with
    | error e =>
        rw [hwrite] at h
        cases h
    | ok d₁ => exact ⟨d₁, rfl⟩
  obtain ⟨t, ht, hnamed, hslashed, hlength, hdirectory, -⟩ := writeText_eq_ok_iff.1 hwrite
  have hother : d.writeText p other = .ok (d.set t.location (.file other.toUTF8)) :=
    writeText_eq_ok_iff.2 ⟨t, ht, hnamed, hslashed, hlength, hdirectory, rfl⟩
  show (attempt (fun d => do return ((), ← d.writeText p other)) d).1 = _
  rw [attempt, hother]
  rfl

end Disk

/-- A file system where a text that has been put somewhere can be read there. -/
class StoresTexts (σ : Type) [FileAccess (StateM σ)] : Prop where
  readText : ∀ {path : Path} {text : String} {s s' : σ},
    (FileAccess.writeText path text : StateM σ _).run s = (.ok (), s') →
      ((FileAccess.readText path : StateM σ _).run s').1 = .ok text

instance : StoresTexts Disk where
  readText h := Disk.readText_of_writeText (Disk.attempt_unit h)

/-- A saved configuration is loaded as it was. Where a path can be written to,
saving there succeeds, and what is then loaded from it is the configuration, if it
is valid, and otherwise the fault that makes it invalid. -/
theorem Config.load_save {σ : Type} [FileAccess (StateM σ)] [StoresTexts σ]
    (c : Config) (hlimit : c.defaults.listLimit < integerBound) (path : Path) (s : σ)
    (hwritable : ∀ text,
      ((FileAccess.writeText path text : StateM σ _).run s).1 = .ok ()) :
    let saved := (c.save path : StateM σ _).run s
    saved.1 = .ok () ∧
      ((load path : StateM σ _).run saved.2).1 =
        match c.validate with
        | .ok () => .ok c
        | .error fault => .error (.config fault) := by
  obtain ⟨text, htext, hread⟩ := ofText_of_text hlimit
  obtain ⟨s', hwrite⟩ : ∃ s', (FileAccess.writeText path text : StateM σ _).run s =
      (.ok (), s') := ⟨_, Prod.ext (hwritable text) rfl⟩
  have hsaved : (c.save path : StateM σ _).run s =
      (((FileAccess.writeText path text : StateM σ _).run s).1.mapError .io,
        ((FileAccess.writeText path text : StateM σ _).run s).2) := by
    rw [save, htext]
    rfl
  have hloaded : ((load path : StateM σ _).run s').1 =
      (ofText text).mapError .config := by
    obtain ⟨s'', hrun⟩ : ∃ s'', (FileAccess.readText path : StateM σ _).run s' =
        (.ok text, s'') := ⟨_, Prod.ext (StoresTexts.readText hwrite) rfl⟩
    rw [load, StateT.run_bind, hrun]
    rfl
  rw [hwrite] at hsaved
  rw [hsaved]
  refine ⟨rfl, ?_⟩
  rw [hloaded, hread]
  cases c.validate <;> rfl

/-- Settings with quotes, line ends and numbers that are hard to write. -/
def Config.awkward : Config where
  defaults := ⟨"'''\"\"\"\n\t\\\r\x00", 0, ["\"", ""], true, integerBound - 1⟩
  jobs := [{ name := "'\n", input := "a\\b", depth := some Int64.maxValue }]

theorem Config.load_save_awkward :
    let d := Disk.empty [] ""
    let path := Path.ofString "c.toml"
    let saved := (awkward.save path : StateM Disk _).run d
    awkward.defaults.listLimit < integerBound ∧ saved.1 = .ok () ∧
      ((load path : StateM Disk _).run saved.2).1 = .ok awkward := by
  have hlimit : awkward.defaults.listLimit < integerBound := by decide
  have hvalid : awkward.validate = .ok () := rfl
  have hwritable : ∀ text, ((FileAccess.writeText (Path.ofString "c.toml") text :
      StateM Disk _).run (Disk.empty [] "")).1 = .ok () :=
    Disk.writable_of_writeText (show ((Disk.empty [] "").writeText _ "").toOption.isSome by
      decide +kernel)
  have hloaded := load_save awkward hlimit _ _ hwritable
  rw [hvalid] at hloaded
  exact ⟨hlimit, hloaded⟩

end IrExcerpt
