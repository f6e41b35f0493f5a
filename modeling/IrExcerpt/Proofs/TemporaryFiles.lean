import IrExcerpt.Extraction.Request
import IrExcerpt.Proofs.DiskLaws
import IrExcerpt.Proofs.TextBytes
import Mathlib.Data.List.Nodup
import Mathlib.Data.List.Perm.Subperm
import Mathlib.Data.List.Range

/-!
# Temporary files

A temporary file gets the first name in its directory that is free. There always
is one: every name that is taken belongs to an entry of the disk, and different
numbers make different names (`createTemp_eq_ok_iff`).

No text leads to such a name, because it holds a byte that no text has. The
paths of a job are texts, or are put together from texts, so no job can write to
a place where a temporary file may lie.
-/

namespace IrExcerpt

/-! ## Segments -/

namespace Path

theorem split_ne_nil (bytes : List UInt8) : split bytes ≠ [] := by
  cases bytes with
  | nil => exact List.cons_ne_nil _ _
  | cons b rest =>
      unfold split
      split
      · exact List.cons_ne_nil _ _
      · split <;> exact List.cons_ne_nil _ _

theorem split_append_slash (as bs : List UInt8) :
    split (as ++ slash :: bs) = split as ++ split bs := by
  induction as with
  | nil => rfl
  | cons a as ih =>
      rw [List.cons_append, split, split, ih]
      split
      · rfl
      · cases hsplit : split as with
        | nil => exact absurd hsplit (split_ne_nil as)
        | cons segment more => rfl

theorem split_of_slash_not_mem {bytes : List UInt8} (h : slash ∉ bytes) :
    split bytes = [bytes] := by
  induction bytes with
  | nil => rfl
  | cons b rest ih =>
      rw [List.mem_cons, not_or] at h
      rw [split, if_neg (Ne.symm h.1), ih h.2]

theorem mem_of_mem_split {bytes segment : List UInt8}
    (h : segment ∈ split bytes) {b : UInt8} (hb : b ∈ segment) : b ∈ bytes := by
  induction bytes generalizing segment with
  | nil =>
      rw [split, List.mem_singleton] at h
      rw [h] at hb
      cases hb
  | cons a rest ih =>
      rw [split] at h
      split at h
      · rcases List.mem_cons.1 h with rfl | h
        · cases hb
        · exact List.mem_cons_of_mem _ (ih h hb)
      · cases hsplit : split rest with
        | nil => exact absurd hsplit (split_ne_nil rest)
        | cons first more =>
            rw [hsplit] at h ih
            rcases List.mem_cons.1 h with rfl | h
            · rcases List.mem_cons.1 hb with rfl | hb
              · exact List.mem_cons_self
              · exact List.mem_cons_of_mem _ (ih List.mem_cons_self hb)
            · exact List.mem_cons_of_mem _ (ih (List.mem_cons_of_mem _ h) hb)

/-- The last segment of a joined path is the name that was joined. -/
theorem split_join (p : Path) :
    ∃ front, ∀ name : List UInt8, slash ∉ name →
      split (p.join ⟨name⟩).bytes = front ++ [name] := by
  have hjoin : ∀ name : List UInt8, slash ∉ name →
      (p.join ⟨name⟩).bytes =
        if p.bytes.isEmpty || p.bytes.getLast? == some slash
        then p.bytes ++ name else p.bytes ++ slash :: name := by
    intro name hname
    have hrelative : isAbsolute ⟨name⟩ = false := by
      cases name with
      | nil => rfl
      | cons b name =>
          rw [isAbsolute, List.head?_cons, beq_eq_false_iff_ne]
          intro heq
          exact hname (Option.some.inj heq ▸ List.mem_cons_self)
    rw [join, hrelative, if_neg Bool.false_ne_true]
    split <;> rfl
  rcases List.eq_nil_or_concat p.bytes with hempty | ⟨init, last, hlast⟩
  · refine ⟨[], fun name hname => ?_⟩
    rw [hjoin name hname, hempty]
    exact split_of_slash_not_mem hname
  · by_cases hslash : last = slash
    · refine ⟨split init, fun name hname => ?_⟩
      rw [hjoin name hname, hlast, hslash, List.concat_eq_append,
        if_pos (by simp), List.append_assoc, List.singleton_append,
        split_append_slash, split_of_slash_not_mem hname]
    · refine ⟨split p.bytes, fun name hname => ?_⟩
      rw [hjoin name hname, if_neg (by simp [hlast, hslash]), split_append_slash,
        split_of_slash_not_mem hname]

/-! ## Paths of text -/

/-- The path holds no byte that marks temporary names. -/
def Plain (p : Path) : Prop := 0xFF ∉ p.bytes

theorem plain_ofString (text : String) : (ofString text).Plain := by
  intro hmem
  exact absurd (Text.mem_toUTF8 hmem).1 (by decide)

theorem Plain.join {p q : Path} (hp : p.Plain) (hq : q.Plain) : (p.join q).Plain := by
  unfold Path.join
  split
  · exact hq
  · split
    · exact fun hmem => (List.mem_append.1 hmem).elim hp hq
    · intro hmem
      rcases List.mem_append.1 hmem with hmem | hmem
      · exact hp hmem
      · rcases List.mem_cons.1 hmem with hslash | hmem
        · exact absurd hslash (by decide)
        · exact hq hmem

theorem mem_unsplit {segments : List (List UInt8)} {b : UInt8}
    (h : b ∈ unsplit segments) : b = slash ∨ ∃ segment ∈ segments, b ∈ segment := by
  induction segments with
  | nil => cases h
  | cons segment more ih =>
      cases more with
      | nil => exact .inr ⟨segment, List.mem_cons_self, h⟩
      | cons next more =>
          rw [unsplit, List.mem_append, List.mem_cons] at h
          rcases h with h | h | h
          · exact .inr ⟨segment, List.mem_cons_self, h⟩
          · exact .inl h
          · rcases ih h with h | ⟨other, hother, hb⟩
            · exact .inl h
            · exact .inr ⟨other, List.mem_cons_of_mem _ hother, hb⟩
          · intro hnil
            cases hnil

theorem mem_lead {bytes : List UInt8} {b : UInt8} (h : b ∈ lead bytes) :
    b = slash ∨ b = dot := by
  unfold lead at h
  split at h
  · split_ifs at h
    · exact .inl (List.mem_singleton.1 h)
    · exact .inr (List.mem_singleton.1 h)
    · cases h
  · cases h

theorem Plain.parent? {p parent : Path} (hp : p.Plain)
    (h : p.parent? = some parent) : parent.Plain := by
  unfold Path.parent? at h
  dsimp only at h
  split at h
  · next last before hbefore =>
      cases h
      intro hmem
      rcases List.mem_append.1 hmem with hmem | hmem
      · rcases mem_lead hmem with hb | hb
        · exact absurd hb (by decide)
        · exact absurd hb (by decide)
      · rcases mem_unsplit hmem with hb | ⟨segment, hsegment, hb⟩
        · exact absurd hb (by decide)
        · have hrest : segment ∈ last :: before :=
            List.mem_cons_of_mem _
              ((List.dropWhile_suffix _).mem (List.mem_reverse.1 hsegment))
          rw [← hbefore] at hrest
          have hsplit := List.mem_reverse.1 ((List.dropWhile_suffix _).mem hrest)
          exact hp (List.mem_of_mem_drop (mem_of_mem_split hsplit hb))
  · split at h
    · cases h
      exact List.not_mem_nil
    · cases h

end Path

theorem Defaults.plain_outputFor (defaults : Defaults) {input : Path}
    (h : input.Plain) : (defaults.outputFor input).Plain := by
  unfold outputFor
  split
  · next parent hparent => exact (h.parent? hparent).join (Path.plain_ofString _)
  · exact Path.plain_ofString _

/-- The files that a job writes have paths of text. -/
theorem Request.plain_of_ofJob {job : Job} {r : Request} (h : Request.ofJob job = .ok r)
    (defaults : Defaults) :
    (r.outputWith defaults).Plain ∧ ∀ path, r.report = some path → path.Plain := by
  unfold Request.ofJob at h
  obtain ⟨depth, -, h⟩ := bind_eq_ok_iff.1 h
  cases h
  constructor
  · unfold Request.outputWith
    cases job.output with
    | none => exact defaults.plain_outputFor (Path.plain_ofString _)
    | some output => exact Path.plain_ofString _
  · intro path hpath
    obtain ⟨report, -, rfl⟩ := Option.map_eq_some_iff.1 hpath
    exact Path.plain_ofString _

namespace Disk

variable {d d' e e' : Disk}

/-! ## Names -/

theorem toUTF8_toList_injective {a b : String}
    (h : a.toUTF8.toList = b.toUTF8.toList) : a = b := by
  rcases lt_trichotomy a b with hlt | heq | hgt
  · exact absurd (h ▸ Text.lt_iff_toUTF8_lt.1 hlt) (List.lt_irrefl _)
  · exact heq
  · exact absurd (h ▸ Text.lt_iff_toUTF8_lt.1 hgt) (List.lt_irrefl _)

theorem tempName_injective : Function.Injective tempName := by
  intro m n h
  have htext := toUTF8_toList_injective (List.append_cancel_right h)
  have hdigits : Nat.toDigits 10 m = Nat.toDigits 10 n := by
    have hchars := congrArg String.toList htext
    rw [String.toList_append, String.toList_append] at hchars
    have hrepr := List.append_cancel_left hchars
    change (Nat.repr m).toList = (Nat.repr n).toList at hrepr
    rwa [Nat.toList_repr, Nat.toList_repr] at hrepr
  rw [← Nat.ofDigitChars_ten_toDigits (n := m), hdigits,
    Nat.ofDigitChars_ten_toDigits]

theorem slash_not_mem_tempName (n : Nat) : Path.slash ∉ tempName n := by
  intro hmem
  have hfront : ∀ c ∈ ".tmp".toList, Path.slash.toNat ≠ c.toNat := by
    simp [Path.slash]
  rcases List.mem_append.1 hmem with hmem | hmem
  · obtain ⟨c, hc, hslash⟩ := (Text.mem_toUTF8 hmem).2 (by decide)
    rw [String.toList_append] at hc
    rcases List.mem_append.1 hc with hc | hc
    · exact hfront c hc hslash
    · change c ∈ (Nat.repr n).toList at hc
      rw [Nat.toList_repr] at hc
      have hdigit := Nat.isDigit_of_mem_toDigits (by decide) (by decide) hc
      rw [Char.isDigit, Bool.and_eq_true, decide_eq_true_iff, decide_eq_true_iff]
        at hdigit
      have hfirst : 48 ≤ c.toNat := hdigit.1
      have hvalue : (47 : Nat) = c.toNat := hslash
      omega
  · rw [List.mem_replicate] at hmem
    exact absurd hmem.2 (by decide)

/-- No text holds this byte. -/
theorem mem_tempName (n : Nat) : 0xFF ∈ tempName n :=
  List.mem_append_right _ (by decide)

theorem tempName_is_name (n : Nat) :
    Path.idle (tempName n) = false ∧ tempName n ≠ upward := by
  have hmem := mem_tempName n
  constructor
  · rw [Path.idle, Bool.or_eq_false_iff]
    constructor
    · rw [List.isEmpty_eq_false_iff]
      exact List.ne_nil_of_mem hmem
    · rw [beq_eq_false_iff_ne]
      intro heq
      rw [heq] at hmem
      exact absurd hmem (by decide)
  · intro heq
    rw [heq] at hmem
    exact absurd hmem (by decide)

/-- A path to a temporary file. -/
def IsTemp (p : Path) : Prop := ∃ directory n, p = Path.join directory ⟨tempName n⟩

theorem step_eq_ok {loc place : Location} {name : List UInt8}
    (hidle : Path.idle name = false) (hup : name ≠ upward)
    (h : d.step loc name = .ok place) : place = loc ++ [name] := by
  unfold step at h
  obtain ⟨_, -, h⟩ := bind_eq_ok_iff.1 h
  rw [hidle, if_neg Bool.false_ne_true, if_neg hup] at h
  split at h
  · cases h
  · cases h
    rfl

/-- A path that ends in a name leads to something of this name. -/
theorem resolve_of_split {p : Path} {front : List (List UInt8)} {name : List UInt8}
    {place : Location} (hsplit : Path.split p.bytes = front ++ [name])
    (hidle : Path.idle name = false) (hup : name ≠ upward)
    (h : d.resolve p = .ok place) : ∃ base, place = base ++ [name] := by
  unfold resolve at h
  obtain ⟨start, -, h⟩ := bind_eq_ok_iff.1 h
  rw [hsplit, List.foldlM_append] at h
  obtain ⟨base, -, h⟩ := bind_eq_ok_iff.1 h
  rw [List.foldlM_cons] at h
  obtain ⟨last, hlast, h⟩ := bind_eq_ok_iff.1 h
  cases h
  exact ⟨base, step_eq_ok hidle hup hlast⟩

theorem resolve_temp {directory : Path} {n : Nat} {place : Location}
    (h : d.resolve (directory.join ⟨tempName n⟩) = .ok place) :
    ∃ base, place = base ++ [tempName n] := by
  obtain ⟨front, hsplit⟩ := Path.split_join directory
  obtain ⟨hidle, hup⟩ := tempName_is_name n
  exact resolve_of_split (hsplit _ (slash_not_mem_tempName n)) hidle hup h

/-! ## A free name -/

/-- There are at least as many entries as names that are taken. -/
theorem le_length_of_taken {directory : Path} {n : Nat}
    (h : ∀ m < n, (d.find? (directory.join ⟨tempName m⟩)).isSome) :
    n ≤ d.entries.length := by
  have hnodup : ((List.range n).map tempName).Nodup :=
    List.Nodup.map tempName_injective List.nodup_range
  have hsubset : (List.range n).map tempName ⊆
      (d.entries.map Prod.fst).filterMap List.getLast? := by
    intro name hname
    obtain ⟨m, hm, rfl⟩ := List.mem_map.1 hname
    have htaken := h m (List.mem_range.1 hm)
    unfold find? at htaken
    split at htaken
    · next place hplace =>
        obtain ⟨base, rfl⟩ := resolve_temp hplace
        rw [occupant?_of_ne_root (by simp), List.lookup_isSome_iff] at htaken
        refine List.mem_filterMap.2 ⟨base ++ [tempName m], ?_, by simp⟩
        simpa using htaken
    · cases htaken
  have hlength := (hnodup.subperm hsubset).length_le
  rw [List.length_map, List.length_range] at hlength
  calc n ≤ _ := hlength
    _ ≤ (d.entries.map Prod.fst).length := List.length_filterMap_le _ _
    _ = d.entries.length := List.length_map _

/-- A temporary file has the first name that is free. -/
theorem createTemp_eq_ok_iff {directory temp : Path} :
    d.createTemp directory = .ok (temp, e) ↔
      (∃ loc, d.resolve directory = .ok loc ∧ d.occupant? loc = some .directory) ∧
      ∃ n place, temp = directory.join ⟨tempName n⟩ ∧
        (∀ m < n, (d.find? (directory.join ⟨tempName m⟩)).isSome) ∧
        d.find? temp = none ∧ d.resolve temp = .ok place ∧
        e = d.set place (.file ByteArray.empty) := by
  unfold createTemp
  rw [bind_eq_ok_iff]
  constructor
  · rintro ⟨loc, hloc, h⟩
    obtain ⟨_, hcheck, h⟩ := bind_eq_ok_iff.1 h
    refine ⟨⟨loc, hloc, checkDirectory_iff.1 hcheck⟩, ?_⟩
    dsimp only at h
    split at h
    · next n hfound =>
        obtain ⟨hfree, -, htaken⟩ := List.find?_range_eq_some.1 hfound
        obtain ⟨place, hplace, h⟩ := bind_eq_ok_iff.1 h
        cases h
        exact ⟨n, place, rfl, fun m hm => by simpa using htaken m hm,
          Option.isNone_iff_eq_none.1 hfree, hplace, rfl⟩
    · cases h
  · rintro ⟨⟨loc, hloc, hdirectory⟩, n, place, rfl, htaken, hfree, hplace, rfl⟩
    have hfound : (List.range (d.entries.length + 1)).find?
        (fun n => (d.find? (directory.join ⟨tempName n⟩)).isNone) = some n := by
      rw [List.find?_range_eq_some, hfree]
      refine ⟨rfl, ?_, fun m hm => by simpa using htaken m hm⟩
      rw [List.mem_range, Nat.lt_succ_iff]
      exact le_length_of_taken htaken
    refine ⟨loc, hloc, ?_⟩
    have hcheck : d.checkDirectory loc = .ok () := checkDirectory_iff.2 hdirectory
    simp only [hcheck, hfound, hplace]
    rfl

/-! ## Places that are not temporary -/

theorem destination_name {p : Path} {t : Destination}
    (h : d.destination p = .ok t) (hnamed : t.unnamed = false) :
    t.name ∈ Path.split p.bytes := by
  unfold destination at h
  obtain ⟨start, -, h⟩ := bind_eq_ok_iff.1 h
  obtain ⟨directory, -, h⟩ := bind_eq_ok_iff.1 h
  obtain ⟨_, -, h⟩ := bind_eq_ok_iff.1 h
  cases h
  have hsuffix := List.dropWhile_suffix (l := (Path.split p.bytes).reverse) List.isEmpty
  generalize (Path.split p.bytes).reverse.dropWhile List.isEmpty = named
    at hsuffix hnamed
  cases named with
  | nil => cases hnamed
  | cons name before => exact List.mem_reverse.1 (hsuffix.mem List.mem_cons_self)

/-- A path of text takes no file to a temporary place. -/
theorem not_temp_of_rename {source target : Path}
    (h : d.rename source target = .ok e) (hplain : target.Plain)
    {place : Location} (hplace : d.resolve target = .ok place) (base : Location)
    (n : Nat) : place ≠ base ++ [tempName n] := by
  obtain ⟨-, -, t, -, -, ht, hnamed, hlength, hslashed, -, -⟩ := rename_eq_ok_iff.1 h
  rw [resolve_of_destination ht hnamed hlength hslashed] at hplace
  cases hplace
  intro heq
  have hname : t.name = tempName n :=
    List.singleton_inj.1 (List.append_inj_right' heq rfl)
  exact hplain (Path.mem_of_mem_split (destination_name ht hnamed)
    (hname ▸ mem_tempName n))

end Disk

end IrExcerpt
