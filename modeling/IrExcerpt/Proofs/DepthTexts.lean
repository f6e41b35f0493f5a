import IrExcerpt.Config.Basic
import IrExcerpt.Unicode.Lookup
import Mathlib.Algebra.Group.Nat.Defs
import Mathlib.Data.List.TakeWhile

/-!
# Depths as texts

A text is a depth if, without the white space around it, it is a numeral of a
number that 64 bits hold. What a numeral is can be said without reading it:
`Spells` gives the sign and the digits, and the number is that of the digits.

The digits are read one by one in 64 bits. A step gives the number with one more
digit exactly or fails, and which of the two is decided by comparing words that
may have wrapped around (`appendDigit?_eq_some_iff`). Since more digits never
make a number smaller, a step that fails cannot be made up for, and so the
reading fails exactly if the number of all the digits is too large. Zeros in
front leave the number at zero, and there may be any number of them.
-/

namespace IrExcerpt

/-! ## White space -/

/-- To look through ordered ranges up to the first that begins behind the code
point is to look through all of them. -/
theorem CharSet.holds_eq_any {ranges : List (Nat × Nat)} (n : Nat)
    (h : ranges.Pairwise fun a b => a.1 < b.1) :
    holds n ranges = ranges.any fun r => r.1 ≤ n && n ≤ r.2 := by
  induction ranges with
  | nil => rfl
  | cons r ranges ih =>
      obtain ⟨hbehind, hrest⟩ := List.pairwise_cons.1 h
      rw [List.any_cons, holds]
      split
      · next hbefore =>
          have hlater : (ranges.any fun r => r.1 ≤ n && n ≤ r.2) = false := by
            rw [List.any_eq_false]
            intro r' hr'
            have hstart := hbehind r' hr'
            simp only [Bool.and_eq_true, decide_eq_true_eq]
            omega
          simp [hlater, Nat.not_le.2 hbefore]
      · next hlo =>
          rw [Nat.not_lt] at hlo
          split
          · next hhi => simp [hlo, hhi]
          · next hhi => simp [hhi, ih hrest]

namespace Text

/-- The ranges of the property White_Space. -/
def blankRanges : List (Nat × Nat) :=
  [(9, 13), (32, 32), (133, 133), (160, 160), (5760, 5760), (8192, 8202),
    (8232, 8233), (8239, 8239), (8287, 8287), (12288, 12288)]

theorem find?_whitespace :
    Unicode.find? Unicode.properties "whitespace" = some ⟨blankRanges⟩ := by
  decide +kernel

theorem blanks_eq : Unicode.blanks = ⟨blankRanges⟩ := by
  show CharSet.normalize (([Unicode.find? Unicode.properties "whitespace"].filterMap
    id).flatMap CharSet.ranges) = _
  rw [find?_whitespace]
  show CharSet.normalize blankRanges = _
  rw [CharSet.normalize, List.mergeSort_of_pairwise (by decide)]
  rfl

/-- A character is blank if it has the property White_Space. -/
theorem isBlank_eq_contains_blanks (c : Char) :
    isBlank c = Unicode.blanks.contains c := by
  rw [blanks_eq, CharSet.contains, CharSet.holds_eq_any _ (by decide), isBlank,
    Bool.eq_iff_iff]
  simp [blankRanges]
  omega

/-! ## Trimming -/

theorem trimStart_append {lead cs : List Char} (hlead : ∀ c ∈ lead, isBlank c = true)
    (hcs : ∀ c ∈ cs.head?, isBlank c = false) : trimStart (lead ++ cs) = cs := by
  rw [trimStart, List.dropWhile_append_of_pos hlead]
  cases cs with
  | nil => rfl
  | cons c cs => exact List.dropWhile_cons_of_neg (by simp [hcs c rfl])

theorem trimEnd_append {cs trail : List Char} (htrail : ∀ c ∈ trail, isBlank c = true)
    (hcs : ∀ c ∈ cs.getLast?, isBlank c = false) : trimEnd (cs ++ trail) = cs := by
  have hreverse : trimStart (trail.reverse ++ cs.reverse) = cs.reverse :=
    trimStart_append (by simpa using htrail) (by simpa using hcs)
  rw [trimEnd, List.reverse_append, ← trimStart, hreverse, List.reverse_reverse]

/-- Blanks around a text without blanks leave no trace. -/
theorem trim_append {lead cs trail : List Char} (hne : cs ≠ [])
    (hlead : ∀ c ∈ lead, isBlank c = true) (htrail : ∀ c ∈ trail, isBlank c = true)
    (hcs : ∀ c ∈ cs, isBlank c = false) : trim (lead ++ cs ++ trail) = cs := by
  obtain ⟨c, rest, rfl⟩ := List.exists_cons_of_ne_nil hne
  rw [trim, List.append_assoc, trimStart_append hlead, trimEnd_append htrail]
  · exact fun d hd => hcs d (List.mem_of_getLast? hd)
  · intro d hd
    cases hd
    exact hcs c List.mem_cons_self

/-- Only blanks are taken off. -/
theorem exists_trim (cs : List Char) : ∃ lead trail, cs = lead ++ trim cs ++ trail ∧
    ∀ c ∈ lead ++ trail, isBlank c = true := by
  refine ⟨cs.takeWhile isBlank, ((trimStart cs).reverse.takeWhile isBlank).reverse,
    ?_, ?_⟩
  · rw [trim, trimEnd, List.append_assoc, ← List.reverse_append,
      List.takeWhile_append_dropWhile, List.reverse_reverse, trimStart,
      List.takeWhile_append_dropWhile]
  · intro c hc
    rw [List.mem_append, List.mem_reverse] at hc
    rcases hc with hc | hc
    · exact List.mem_takeWhile_imp hc
    · exact List.mem_takeWhile_imp hc

end Text

namespace Depth

open Text

/-- The characters are a numeral of `n`: decimal digits, with one plus sign in
front of them or none. -/
def Spells (cs : List Char) (n : Nat) : Prop :=
  ∃ sign digits, cs = sign ++ digits ∧ (sign = [] ∨ sign = ['+']) ∧ digits ≠ [] ∧
    (∀ c ∈ digits, '0' ≤ c ∧ c ≤ '9') ∧ Nat.ofDigitChars 10 digits 0 = n

/-- The text is a numeral of `n` with white space around it. -/
def Writes (text : String) (n : Nat) : Prop :=
  ∃ lead numeral trail, text.toList = lead ++ numeral ++ trail ∧
    (∀ c ∈ lead ++ trail, Unicode.blanks.contains c = true) ∧ Spells numeral n

/-! ## Digits in 64 bits -/

theorem isDigit_iff {c : Char} : c.isDigit = true ↔ '0' ≤ c ∧ c ≤ '9' := by
  simp [Char.isDigit, Char.le_def]

/-- A step gives the number with one more digit, whenever it gives one. -/
theorem appendDigit?_eq_some_iff {n : UInt64} {c : Char} (hc : c.isDigit = true)
    (m : UInt64) :
    appendDigit? n c = some m ↔ m.toNat = 10 * n.toNat + (c.toNat - '0'.toNat) := by
  have hdigit : c.toNat - '0'.toNat ≤ 9 :=
    Nat.sub_le_iff_le_add.2 (Char.isDigit_iff_toNat.1 hc).2
  have hquotient : (largest / 10).toNat = 1844674407370955161 := by decide
  have hm := m.toNat_lt
  unfold appendDigit?
  generalize c.toNat - '0'.toNat = digit at hdigit
  split
  · next hlarge =>
      rw [UInt64.lt_iff_toNat_lt, hquotient] at hlarge
      refine iff_of_false nofun ?_
      omega
  · next hsmall =>
      rw [UInt64.lt_iff_toNat_lt, hquotient] at hsmall
      have htens : (n * 10).toNat = 10 * n.toNat := by
        rw [UInt64.toNat_mul]
        show n.toNat * 10 % 2 ^ 64 = 10 * n.toNat
        omega
      have hsum : (n * 10 + UInt64.ofNat digit).toNat =
          (10 * n.toNat + digit) % 2 ^ 64 := by
        rw [UInt64.toNat_add, htens, UInt64.toNat_ofNat', Nat.add_mod_mod]
      simp only
      split
      · next hwrapped =>
          rw [UInt64.lt_iff_toNat_lt, hsum, htens] at hwrapped
          refine iff_of_false nofun ?_
          omega
      · next hheld =>
          rw [UInt64.lt_iff_toNat_lt, hsum, htens] at hheld
          rw [Option.some.injEq, ← UInt64.toNat_inj, hsum]
          omega

theorem le_ofDigitChars (n : Nat) (digits : List Char) :
    n ≤ Nat.ofDigitChars 10 digits n := by
  induction digits generalizing n with
  | nil => exact Nat.le_refl n
  | cons c digits ih =>
      have hrest := ih (10 * n + (c.toNat - '0'.toNat))
      rw [Nat.ofDigitChars_cons]
      omega

/-- All steps together give the number of the digits, whenever they give one. -/
theorem foldlM_appendDigit?_eq_some_iff {digits : List Char}
    (hdigits : ∀ c ∈ digits, c.isDigit = true) {n m : UInt64} :
    digits.foldlM appendDigit? n = some m ↔
      m.toNat = Nat.ofDigitChars 10 digits n.toNat := by
  induction digits generalizing n with
  | nil =>
      show some n = some m ↔ m.toNat = n.toNat
      rw [Option.some.injEq, ← UInt64.toNat_inj, eq_comm]
  | cons c digits ih =>
      have hstep := appendDigit?_eq_some_iff (n := n) (hdigits c List.mem_cons_self)
      rw [List.foldlM_cons, Nat.ofDigitChars_cons]
      cases hnext : appendDigit? n c with
      | some next =>
          rw [← (hstep next).1 hnext]
          exact ih fun d hd => hdigits d (List.mem_cons_of_mem c hd)
      | none =>
          -- The number is too large here already, and more digits do not help.
          refine iff_of_false nofun ?_
          have hlarge : 2 ^ 64 ≤ 10 * n.toNat + (c.toNat - '0'.toNat) := by
            by_contra hsmall
            have hsome := (hstep (UInt64.ofNat _)).2
              (UInt64.toNat_ofNat_of_lt' (Nat.not_le.1 hsmall))
            rw [hnext] at hsome
            cases hsome
          have hrest := le_ofDigitChars (10 * n.toNat + (c.toNat - '0'.toNat)) digits
          have hm := m.toNat_lt
          omega

/-! ## Numerals -/

theorem exists_dropPlus (cs : List Char) :
    ∃ sign, cs = sign ++ dropPlus cs ∧ (sign = [] ∨ sign = ['+']) := by
  unfold dropPlus
  split
  · exact ⟨['+'], rfl, .inr rfl⟩
  · exact ⟨[], rfl, .inl rfl⟩

theorem dropPlus_append {sign digits : List Char} (hsign : sign = [] ∨ sign = ['+'])
    (hdigits : ∀ c ∈ digits, c.isDigit = true) : dropPlus (sign ++ digits) = digits := by
  rcases hsign with rfl | rfl
  · rw [List.nil_append]
    unfold dropPlus
    split
    · exact absurd (hdigits '+' List.mem_cons_self) (by decide)
    · rfl
  · rfl

/-- What is read as a number is a numeral of it, and any numeral is read whose
number 64 bits hold. -/
theorem unsigned?_eq_some_iff {cs : List Char} {n : Nat} :
    unsigned? cs = some n ↔ Spells cs n ∧ n < 2 ^ 64 := by
  simp only [Spells, ← isDigit_iff]
  constructor
  · intro h
    obtain ⟨sign, hcs, hsign⟩ := exists_dropPlus cs
    simp only [unsigned?] at h
    split at h
    · cases h
    · next hform =>
        simp only [Bool.or_eq_true, List.isEmpty_iff, Bool.not_eq_true', not_or,
          Bool.not_eq_false, List.all_eq_true] at hform
        obtain ⟨m, hm, rfl⟩ := Option.map_eq_some_iff.1 h
        have hvalue := (foldlM_appendDigit?_eq_some_iff hform.2).1 hm
        exact ⟨⟨sign, dropPlus cs, hcs, hsign, hform.1, hform.2, hvalue.symm⟩,
          m.toNat_lt⟩
  · intro h
    obtain ⟨⟨sign, digits, hcs, hsign, hne, hdigits, hvalue⟩, hbound⟩ := h
    have hrun : digits.foldlM appendDigit? 0 = some (UInt64.ofNat n) := by
      rw [foldlM_appendDigit?_eq_some_iff hdigits, UInt64.toNat_ofNat_of_lt' hbound]
      exact hvalue.symm
    have hform : ¬ (digits.isEmpty || !digits.all Char.isDigit) = true := by
      simpa [hne] using hdigits
    simp only [unsigned?]
    rw [hcs, dropPlus_append hsign hdigits, if_neg hform, hrun, Option.map_some,
      UInt64.toNat_ofNat_of_lt' hbound]

example : unsigned? "+0018446744073709551615".toList = some (2 ^ 64 - 1) ∧
    unsigned? "18446744073709551616".toList = none := by
  decide +kernel

theorem isBlank_of_isDigit {c : Char} (hc : c.isDigit = true) : isBlank c = false := by
  rw [Char.isDigit_iff_toNat] at hc
  have hlow : 48 ≤ c.toNat := hc.1
  have hhigh : c.toNat ≤ 57 := hc.2
  rw [isBlank, Bool.eq_false_iff]
  simp
  omega

/-- There is no white space in a numeral. -/
theorem Spells.isBlank {cs : List Char} {n : Nat} (h : Spells cs n) :
    cs ≠ [] ∧ ∀ c ∈ cs, isBlank c = false := by
  obtain ⟨sign, digits, rfl, hsign, hne, hdigits, -⟩ := h
  refine ⟨by simp [hne], fun c hc => ?_⟩
  rcases List.mem_append.1 hc with hc | hc
  · rcases hsign with rfl | rfl
    · cases hc
    · cases List.mem_singleton.1 hc
      rfl
  · exact isBlank_of_isDigit (isDigit_iff.2 (hdigits c hc))

theorem ofText?_eq_some_iff {text : String} {n : Nat} :
    ofText? text = some n ↔ Writes text n ∧ n < 2 ^ 64 := by
  rw [ofText?, unsigned?_eq_some_iff]
  simp only [Writes, ← isBlank_eq_contains_blanks]
  refine and_congr_left fun _ => ⟨fun h => ?_, fun h => ?_⟩
  · obtain ⟨lead, trail, htext, hblank⟩ := exists_trim text.toList
    exact ⟨lead, trim text.toList, trail, htext, hblank, h⟩
  · obtain ⟨lead, numeral, trail, htext, hblank, h⟩ := h
    rw [htext, trim_append h.isBlank.1
      (fun c hc => hblank c (List.mem_append_left _ hc))
      (fun c hc => hblank c (List.mem_append_right _ hc)) h.isBlank.2]
    exact h

/-! ## Printed numbers -/

theorem spells_toDigits (n : Nat) : Spells (Nat.toDigits 10 n) n :=
  ⟨[], Nat.toDigits 10 n, rfl, .inl rfl, Nat.toDigits_ne_nil,
    fun _ hc => isDigit_iff.1 (Nat.isDigit_of_mem_toDigits (by decide) (by decide) hc),
    Nat.ofDigitChars_ten_toDigits⟩

theorem writes_toString (n : Nat) : Writes (toString n) n :=
  ⟨[], Nat.toDigits 10 n, [], by simp, nofun, spells_toDigits n⟩

/-- Which characters a written number consists of. -/
theorem Writes.of_mem {text : String} {n : Nat} (h : Writes text n) {c : Char}
    (hc : c ∈ text.toList) : isBlank c = true ∨ c = '+' ∨ c.isDigit = true := by
  obtain ⟨lead, numeral, trail, htext, hblank, sign, digits, rfl, hsign, -, hdigits, -⟩ := h
  rw [htext, List.mem_append, List.mem_append, List.mem_append] at hc
  simp only [← isBlank_eq_contains_blanks] at hblank
  rcases hc with (hc | hc | hc) | hc
  · exact .inl (hblank c (List.mem_append_left _ hc))
  · rcases hsign with rfl | rfl
    · cases hc
    · exact .inr (.inl (List.mem_singleton.1 hc))
  · exact .inr (.inr (isDigit_iff.2 (hdigits c hc)))
  · exact .inl (hblank c (List.mem_append_right _ hc))

/-- A number with a minus sign is not written as a depth, not even zero. -/
theorem not_writes_minus (text : String) (n : Nat) : ¬ Writes ("-" ++ text) n := by
  intro h
  have hminus : '-' ∈ ("-" ++ text).toList := by simp
  exact absurd (h.of_mem hminus) (by decide)

/-- A signed number is the same depth as its text. -/
theorem ofText?_toString (v : Int64) : ofText? (toString v) = ofInt? v := by
  have htext : toString v = toString v.toInt := rfl
  have hsign : v < 0 ↔ v.toInt < 0 := Int64.lt_iff_toInt_lt
  rw [htext, ofInt?]
  cases hv : v.toInt with
  | ofNat n =>
      have hbound := v.toInt_lt
      rw [hv, Int.ofNat_eq_natCast] at hsign hbound
      rw [if_neg (mt hsign.1 (Int.not_lt.2 (Int.natCast_nonneg n))),
        Int64.toNatClampNeg, hv]
      show ofText? (toString n) = some n
      exact ofText?_eq_some_iff.2 ⟨writes_toString n, by omega⟩
  | negSucc n =>
      rw [hv] at hsign
      rw [if_pos (hsign.2 (Int.negSucc_lt_zero n)), Option.eq_none_iff_forall_ne_some]
      intro m hm
      exact not_writes_minus _ m (ofText?_eq_some_iff.1 hm).1

/-- Depths are read exactly. A text gives a number if it is a numeral of it,
digits behind a plus sign or not, with white space around, and if 64 bits hold the
number; any other text is refused, with the text in the fault. In particular
every number of 64 bits is read from its digits, and a signed number of 64 bits
is a depth exactly if its text is, and the same one. -/
theorem ofText_exactly :
    (∀ text n, ofText text = .ok n ↔ Writes text n ∧ n < 2 ^ 64) ∧
    (∀ text fault, ofText text = .error fault ↔
      fault = .depthText text ∧ ¬ ∃ n, Writes text n ∧ n < 2 ^ 64) ∧
    (∀ n : UInt64, ofText (toString n) = .ok n.toNat) ∧
    ∀ v : Int64, (ofText (toString v)).toOption = (ofSetting v).toOption := by
  have hok : ∀ text n, ofText text = .ok n ↔ Writes text n ∧ n < 2 ^ 64 := by
    intro text n
    rw [← ofText?_eq_some_iff, ofText]
    cases ofText? text <;> simp
  refine ⟨hok, fun text fault => ?_, fun n => ?_, fun v => ?_⟩
  · simp only [← ofText?_eq_some_iff, ← Option.isSome_iff_exists, ofText]
    cases ofText? text <;> simp [eq_comm]
  · exact (hok _ _).2 ⟨writes_toString n.toNat, n.toNat_lt⟩
  · rw [ofText, ofSetting, ofText?_toString]
    cases ofInt? v <;> rfl

end Depth

end IrExcerpt
