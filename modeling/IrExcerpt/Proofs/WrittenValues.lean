import IrExcerpt.Proofs.QuotedTexts
import IrExcerpt.Toml.Printer
import IrExcerpt.Toml.Reader

/-!
# Written values are read back

A value is read up to what cannot belong to it any more. What the printer puts
behind a value is always one of three things, `Closed`, and at each of them a
text, a number and a list are complete. A number in addition must not be taken
for something else that starts with digits: a date or a time goes on with a dash
or a colon behind some digits, a number to another base has its mark behind a
zero, a fraction has its point, and a written number has none of these.

Settings are single values or lists of single values, `Flat`; nothing else is
written.
-/

namespace IrExcerpt.Toml

/-- What may come behind a value: the end of its line, a comma or a closing
bracket. -/
inductive Closed : List Char → Prop where
  | line (rest : List Char) : Closed ('\n' :: rest)
  | comma (rest : List Char) : Closed (',' :: rest)
  | bracket (rest : List Char) : Closed (']' :: rest)

/-- A character that the text of a value may start with. -/
inductive Opens : Char → Prop where
  | quote {q : Char} (h : q = '"' ∨ q = '\'') : Opens q
  | minus : Opens '-'
  | digit {c : Char} (h : c.isDigit = true) : Opens c
  | yes : Opens 't'
  | no : Opens 'f'

namespace Number

/-! ## Digits -/

/-- Only zero starts with a zero. -/
theorem exists_toDigits {n : Nat} (h : 0 < n) :
    ∃ c cs, Nat.toDigits 10 n = c :: cs ∧ c ≠ '0' := by
  induction n using Nat.strongRecOn with
  | ind n ih =>
      by_cases hn : n < 10
      · rw [Nat.toDigits_of_lt_base hn]
        refine ⟨_, [], rfl, ?_⟩
        have hdigit : ∀ n < 10, 0 < n → n.digitChar ≠ '0' := by decide
        exact hdigit n hn h
      · obtain ⟨c, cs, hcs, hc⟩ := ih (n / 10) (by omega) (by omega)
        rw [Nat.toDigits_of_base_le (by omega) (by omega), hcs]
        exact ⟨c, _, rfl, hc⟩

theorem isDigit_of_mem_toDigits {n : Nat} {c : Char}
    (h : c ∈ Nat.toDigits 10 n) : c.isDigit = true :=
  Nat.isDigit_of_mem_toDigits (by omega) (by omega) h

theorem hexValue?_of_isDigit {c : Char} (h : c.isDigit = true) :
    Quoted.hexValue? c = some (c.toNat - 48) := by
  have hle : '0' ≤ c ∧ c ≤ '9' := by
    simpa [Char.isDigit, Char.le_def] using h
  simp [Quoted.hexValue?, hle]

theorem foldl_digits {ds : List Char} (h : ∀ c ∈ ds, c.isDigit = true) (n : Nat) :
    ds.foldl (fun acc c => acc * 10 + (Quoted.hexValue? c).getD 0) n =
      Nat.ofDigitChars 10 ds n := by
  induction ds generalizing n with
  | nil => rfl
  | cons c ds ih =>
      rw [List.foldl_cons, hexValue?_of_isDigit (h c List.mem_cons_self),
        Nat.mul_comm n 10, Nat.ofDigitChars_cons]
      exact ih (fun d hd => h d (List.mem_cons_of_mem c hd)) _

theorem valueOf_toDigits (n : Nat) : valueOf 10 (Nat.toDigits 10 n) = n := by
  rw [valueOf, foldl_digits fun c => isDigit_of_mem_toDigits]
  exact Nat.ofDigitChars_ten_toDigits

variable {rest : List Char}

theorem moreDigits_append {ds : List Char} (h : ∀ c ∈ ds, c.isDigit = true)
    (hrest : Closed rest) :
    moreDigits Char.isDigit (ds ++ rest) = some (ds, rest) := by
  induction ds with
  | nil => cases hrest <;> simp [moreDigits]
  | cons c ds ih =>
      have hc := h c List.mem_cons_self
      have hmark : c ≠ '_' := by
        rintro rfl
        cases hc
      rw [List.cons_append, moreDigits, if_pos hc,
        ih fun d hd => h d (List.mem_cons_of_mem c hd)]
      · rfl
      · exact fun d ds heq => absurd heq hmark

theorem decimal_toDigits (n : Nat) (hrest : Closed rest) :
    decimal (Nat.toDigits 10 n ++ rest) = some (Nat.toDigits 10 n, rest) := by
  rcases Nat.eq_zero_or_pos n with rfl | hn
  · rfl
  · have hdigits := fun c => @isDigit_of_mem_toDigits n c
    obtain ⟨c, cs, hcs, hc⟩ := exists_toDigits hn
    rw [hcs] at hdigits ⊢
    rw [List.cons_append, decimal, digits, if_pos (hdigits c List.mem_cons_self),
      moreDigits_append (fun d hd => hdigits d (List.mem_cons_of_mem c hd)) hrest]
    · rfl
    · exact fun cs' heq => hc (List.cons.inj heq).1

/-! ## No dates -/

theorem field?_digits {count least most n : Nat} {ds cs : List Char}
    (hds : ∀ c ∈ ds, c.isDigit = true) (hrest : Closed rest)
    (h : field? count least most (ds ++ rest) = some (n, cs)) :
    ∃ ds', (∀ c ∈ ds', c.isDigit = true) ∧ cs = ds' ++ rest := by
  unfold field? at h
  dsimp only at h
  split at h
  · next hfield =>
      cases h
      simp only [Bool.and_eq_true, decide_eq_true_eq, List.all_eq_true] at hfield
      obtain ⟨⟨⟨-, hall⟩, -⟩, -⟩ := hfield
      by_cases hcount : count ≤ ds.length
      · refine ⟨ds.drop count, fun c hc => hds c (List.mem_of_mem_drop hc), ?_⟩
        rw [List.drop_append_of_le_length hcount]
      · -- A field that is longer than the digits would hold what closes them.
        exfalso
        obtain ⟨k, hk⟩ : ∃ k, count - ds.length = k + 1 :=
          ⟨count - ds.length - 1, by omega⟩
        have hmem : ∀ c ∈ rest.take (k + 1), c.isDigit = true := by
          intro c hc
          refine hall c ?_
          rw [List.take_append, hk]
          exact List.mem_append_right _ hc
        cases hrest <;> exact absurd (hmem _ List.mem_cons_self) (by decide)
  · cases h

theorem expect?_digits {c : Char} {ds : List Char}
    (hds : ∀ c ∈ ds, c.isDigit = true) (hrest : Closed rest)
    (hc : c.isDigit = false) (hc' : c ≠ '\n' ∧ c ≠ ',' ∧ c ≠ ']') :
    expect? c (ds ++ rest) = none := by
  cases ds with
  | nil => cases hrest <;> simp [expect?, hc'.1.symm, hc'.2.1.symm, hc'.2.2.symm]
  | cons d ds =>
      have hne : d ≠ c := by
        rintro rfl
        rw [hds d List.mem_cons_self] at hc
        cases hc
      rw [List.cons_append, expect?, if_neg hne]

/-- A number is not taken for the first part of a date or a time. -/
theorem dateTime?_digits {ds : List Char} (hds : ∀ c ∈ ds, c.isDigit = true)
    (hrest : Closed rest) : dateTime? (ds ++ rest) = none := by
  have hdate : date? (ds ++ rest) = none := by
    unfold date?
    cases hfield : field? 4 0 9999 (ds ++ rest) with
    | none => rfl
    | some found =>
        obtain ⟨ds', hds', hcs⟩ := field?_digits hds hrest hfield
        simp [hcs, expect?_digits hds' hrest (c := '-') rfl (by decide)]
  have htime : time? (ds ++ rest) = none := by
    unfold time?
    cases hfield : field? 2 0 23 (ds ++ rest) with
    | none => rfl
    | some found =>
        obtain ⟨ds', hds', hcs⟩ := field?_digits hds hrest hfield
        simp [hcs, expect?_digits hds' hrest (c := ':') rfl (by decide)]
  rw [dateTime?, hdate, htime]

theorem dateTime?_minus (cs : List Char) : dateTime? ('-' :: cs) = none := by
  have hfield : ∀ count least most : Nat, 0 < count →
      field? count least most ('-' :: cs) = none := by
    intro count least most hcount
    obtain ⟨k, rfl⟩ : ∃ k, count = k + 1 := ⟨count - 1, by omega⟩
    simp [field?]
  simp [dateTime?, date?, time?, hfield]

/-! ## Integers -/

theorem fraction_closed (hrest : Closed rest) :
    fraction rest = some ([], rest) := by
  cases hrest <;> rfl

theorem exponent_closed (hrest : Closed rest) :
    exponent rest = some (none, rest) := by
  cases hrest <;> rfl

theorem sign_toDigits (n : Nat) (rest : List Char) :
    sign (Nat.toDigits 10 n ++ rest) = (none, Nat.toDigits 10 n ++ rest) := by
  obtain ⟨c, cs, hcs⟩ := List.exists_cons_of_ne_nil (@Nat.toDigits_ne_nil n 10)
  have hc := @isDigit_of_mem_toDigits n c (by simp [hcs])
  rw [hcs, List.cons_append, sign.eq_def]
  split
  · next heq =>
      cases heq
      cases hc
  · next heq =>
      cases heq
      cases hc
  · rfl

theorem decimal?_of_sign {cs : List Char} {minus : Option Bool} {n : Nat}
    (hsign : sign cs = (minus, Nat.toDigits 10 n ++ rest))
    (hrest : Closed rest) :
    decimal? cs = (integer? (minus = some true) n).map fun v => (v, rest) := by
  obtain ⟨c, ds, hds⟩ := List.exists_cons_of_ne_nil (@Nat.toDigits_ne_nil n 10)
  have hc := @isDigit_of_mem_toDigits n c (by simp [hds])
  have hfirst : ∀ d cs', Nat.toDigits 10 n ++ rest = d :: cs' → d.isDigit = true := by
    intro d cs' heq
    rw [hds] at heq
    rwa [← (List.cons.inj heq).1]
  unfold decimal?
  rw [hsign]
  dsimp only
  split
  · next heq => cases hfirst _ _ heq
  · next heq => cases hfirst _ _ heq
  · rw [decimal_toDigits n hrest]
    simp only [Option.bind_eq_bind, Option.bind_some, fraction_closed hrest,
      exponent_closed hrest, valueOf_toDigits]
    cases integer? (minus = some true) n <;> rfl

theorem read_toDigits (n : Nat) (hrest : Closed rest) :
    read (Nat.toDigits 10 n ++ rest) =
      (integer? false n).map fun v => (v, rest) := by
  have hmark : ∀ c cs, Nat.toDigits 10 n ++ rest = '0' :: c :: cs →
      c ≠ 'x' ∧ c ≠ 'o' ∧ c ≠ 'b' := by
    intro c cs heq
    rcases Nat.eq_zero_or_pos n with rfl | hn
    · -- The zero is the whole number, so no mark comes behind it.
      have hrest' : rest = c :: cs := (List.cons.inj heq).2
      subst hrest'
      cases hrest <;> decide
    · obtain ⟨d, ds, hds, hd⟩ := exists_toDigits hn
      rw [hds] at heq
      exact absurd (List.cons.inj heq).1 hd
  rw [read, dateTime?_digits (fun c => isDigit_of_mem_toDigits) hrest]
  · exact decimal?_of_sign (sign_toDigits n rest) hrest
  · exact fun cs heq => (hmark _ cs heq).1 rfl
  · exact fun cs heq => (hmark _ cs heq).2.1 rfl
  · exact fun cs heq => (hmark _ cs heq).2.2 rfl

theorem read_minus (n : Nat) (hrest : Closed rest) :
    read ('-' :: (Nat.toDigits 10 n ++ rest)) =
      (integer? true n).map fun v => (v, rest) := by
  have hsign : sign ('-' :: (Nat.toDigits 10 n ++ rest)) =
      (some true, Nat.toDigits 10 n ++ rest) := rfl
  rw [read, dateTime?_minus]
  · exact decimal?_of_sign hsign hrest
  · exact fun cs heq => by cases heq
  · exact fun cs heq => by cases heq
  · exact fun cs heq => by cases heq

/-- A written integer is read back. -/
theorem read_integer (v : Int64) (hrest : Closed rest) :
    read ((toString v.toInt).toList ++ rest) = some (.integer v, rest) := by
  have hlow := v.le_toInt
  have hhigh := v.toInt_lt
  show read (v.toInt.repr.toList ++ rest) = _
  rw [Int.repr_eq_if]
  split
  · next hv =>
      have hvalue : integer? false v.toInt.toNat = some (.integer v) := by
        have hsame : Int64.ofNat v.toInt.toNat = v := by
          rw [← Int64.ofInt_eq_ofNat, Int.toNat_of_nonneg hv, Int64.ofInt_toInt]
        rw [integer?, if_neg (by decide), if_pos, hsame]
        unfold integerBound
        omega
      rw [Nat.toList_repr, read_toDigits _ hrest, hvalue]
      rfl
  · next hv =>
      have hvalue : integer? true (-v.toInt).toNat = some (.integer v) := by
        have hsame : Int64.ofInt (-((-v.toInt).toNat : Int)) = v := by
          rw [Int.toNat_of_nonneg (by omega), Int.neg_neg, Int64.ofInt_toInt]
        rw [integer?, if_pos rfl, if_pos, hsame]
        unfold integerBound
        omega
      rw [String.toList_append, Nat.toList_repr]
      show read ('-' :: (Nat.toDigits 10 (-v.toInt).toNat ++ rest)) = _
      rw [read_minus _ hrest, hvalue]
      rfl

theorem exists_integer (v : Int64) :
    ∃ c cs, (toString v.toInt).toList = c :: cs ∧ (c = '-' ∨ c.isDigit = true) := by
  show ∃ c cs, v.toInt.repr.toList = c :: cs ∧ _
  rw [Int.repr_eq_if]
  split
  · obtain ⟨c, cs, hcs⟩ :=
      List.exists_cons_of_ne_nil (@Nat.toDigits_ne_nil v.toInt.toNat 10)
    rw [Nat.toList_repr]
    exact ⟨c, cs, hcs, .inr (isDigit_of_mem_toDigits (hcs ▸ List.mem_cons_self))⟩
  · rw [String.toList_append]
    exact ⟨'-', _, rfl, .inl rfl⟩

end Number

/-! ## Single values -/

/-- A value that holds no other values and is computed with. -/
inductive Scalar : Value → Prop where
  | string (text : String) : Scalar (.string text)
  | integer (v : Int64) : Scalar (.integer v)
  | boolean (b : Bool) : Scalar (.boolean b)

theorem Scalar.exists_text {v : Value} (h : Scalar v) :
    ∃ c cs, v.text.toList = c :: cs ∧ Opens c := by
  cases h with
  | string text =>
      obtain ⟨q, cs, hcs, hq⟩ := Quoted.exists_write text.toList
      exact ⟨q, cs, by simp [Value.text, hcs], .quote hq⟩
  | integer v =>
      obtain ⟨c, cs, hcs, hc⟩ := Number.exists_integer v
      refine ⟨c, cs, by simpa [Value.text] using hcs, ?_⟩
      rcases hc with rfl | hc
      · exact .minus
      · exact .digit hc
  | boolean b =>
      cases b with
      | true => exact ⟨'t', _, rfl, .yes⟩
      | false => exact ⟨'f', _, rfl, .no⟩

variable {rest : List Char}

theorem scalar?_string (text : String) (hrest : Closed rest) :
    scalar? (Quoted.write text.toList ++ rest) = some (.string text, rest) := by
  have hread : Quoted.read (Quoted.write text.toList ++ rest) =
      some (text.toList, rest) := by
    apply Quoted.read_write
    · rintro cs rfl
      cases hrest
    · rintro cs rfl
      cases hrest
  have hquoted : scalar? (Quoted.write text.toList ++ rest) =
      (Quoted.read (Quoted.write text.toList ++ rest)).map fun found =>
        (.string (String.ofList found.1), found.2) := by
    obtain ⟨q, cs, hcs, rfl | rfl⟩ := Quoted.exists_write text.toList
    · rw [hcs]
      rfl
    · rw [hcs]
      rfl
  rw [hquoted, hread]
  simp

theorem scalar?_integer (v : Int64) (hrest : Closed rest) :
    scalar? ((toString v.toInt).toList ++ rest) = some (.integer v, rest) := by
  have hread := Number.read_integer v hrest
  obtain ⟨c, cs, hcs, hc⟩ := Number.exists_integer v
  rw [hcs, List.cons_append] at hread ⊢
  have hfirst : c ≠ 't' ∧ c ≠ 'f' ∧ c ≠ '"' ∧ c ≠ '\'' := by
    refine ⟨?_, ?_, ?_, ?_⟩ <;> rintro rfl <;> simp at hc
  rw [scalar?.eq_def]
  split <;> simp_all

theorem scalar?_text {v : Value} (h : Scalar v) (hrest : Closed rest) :
    scalar? (v.text.toList ++ rest) = some (v, rest) := by
  cases h with
  | string text => simpa [Value.text] using scalar?_string text hrest
  | integer v => simpa [Value.text] using scalar?_integer v hrest
  | boolean b => cases b <;> rfl

/-- A value is no list and no table, unless it starts as one does. -/
theorem value?_of_opens {c : Char} (hc : Opens c) (room : Nat) (cs : List Char) :
    value? room (c :: cs) = scalar? (c :: cs) := by
  have hne : c ≠ '[' ∧ c ≠ '\x7b' := by
    constructor <;> rintro rfl <;> cases hc <;> simp_all
  cases room with
  | zero => rw [value?]
  | succ room =>
      rw [value?.eq_def]
      dsimp only
      split <;> simp_all

theorem value?_scalar {v : Value} (h : Scalar v) (room : Nat)
    (hrest : Closed rest) : value? room (v.text.toList ++ rest) = some (v, rest) := by
  obtain ⟨c, cs, hcs, hc⟩ := h.exists_text
  rw [← scalar?_text h hrest, hcs]
  exact value?_of_opens hc room _

/-! ## Lists -/

theorem isBlank_of_opens {c : Char} (hc : Opens c) : isBlank c = false := by
  cases hc with
  | quote h => rcases h with rfl | rfl <;> rfl
  | digit h =>
      rw [← Bool.not_eq_true]
      intro hblank
      simp only [isBlank, Bool.or_eq_true, decide_eq_true_eq] at hblank
      rcases hblank with rfl | rfl <;> cases h
  | minus => rfl
  | yes => rfl
  | no => rfl

theorem skipGaps_of_opens {c : Char} (hc : Opens c) (cs : List Char) :
    skipGaps false (c :: cs) = c :: cs := by
  have hne : c ≠ '\n' ∧ c ≠ '\r' ∧ c ≠ '#' := by
    refine ⟨?_, ?_, ?_⟩ <;> rintro rfl <;> cases hc <;> simp_all
  rw [skipGaps]
  · simp [hne, isBlank_of_opens hc]
  · exact fun rest heq => absurd heq hne.2.1

theorem items?_single {v : Value} (h : Scalar v) (room fuel : Nat) :
    items? (value? room) (fuel + 1) (v.text.toList ++ ']' :: rest) =
      some ([v], rest) := by
  obtain ⟨c, cs, hcs, hc⟩ := h.exists_text
  have hread := value?_scalar h room (.bracket rest)
  rw [hcs, List.cons_append] at hread ⊢
  rw [items?, skipGaps_of_opens hc]
  split
  · next heq =>
      cases heq
      cases hc <;> simp_all
  · rw [hread]
    rfl

/-- Items on lines of their own, from behind the bracket or the comma that ends
the line before. -/
theorem items?_itemLines {items : List Value} (h : ∀ v ∈ items, Scalar v)
    (room : Nat) {fuel : Nat} (hfuel : items.length < fuel) :
    items? (value? room) fuel ('\n' :: ((itemLines items).toList ++ ']' :: rest)) =
      some (items, rest) := by
  induction items generalizing fuel with
  | nil =>
      obtain ⟨fuel, rfl⟩ : ∃ n, fuel = n + 1 := ⟨fuel - 1, by omega⟩
      rfl
  | cons v items ih =>
      obtain ⟨fuel, rfl⟩ : ∃ n, fuel = n + 1 := ⟨fuel - 1, by omega⟩
      obtain ⟨c, cs, hcs, hc⟩ := (h v List.mem_cons_self).exists_text
      have hread := value?_scalar (h v List.mem_cons_self) room
        (.comma ('\n' :: ((itemLines items).toList ++ ']' :: rest)))
      have hlater := ih (fun w hw => h w (List.mem_cons_of_mem v hw))
        (show items.length < fuel by rw [List.length_cons] at hfuel; omega)
      have htext : '\n' :: ((itemLines (v :: items)).toList ++ ']' :: rest) =
          '\n' :: ' ' :: ' ' :: ' ' :: ' ' :: (v.text.toList ++
            ',' :: '\n' :: ((itemLines items).toList ++ ']' :: rest)) := by
        simp [itemLines]
      -- The line end and the blanks in front of an item are passed over.
      have hgap : skipGaps false ('\n' :: ((itemLines (v :: items)).toList ++ ']' :: rest)) =
          v.text.toList ++ ',' :: '\n' :: ((itemLines items).toList ++ ']' :: rest) := by
        rw [htext, hcs]
        exact skipGaps_of_opens hc _
      rw [items?, hgap]
      split
      · next heq =>
          rw [hcs] at heq
          cases heq
          cases hc <;> simp_all
      · rw [hread]
        simp only [Option.bind_eq_bind, Option.bind_some]
        show (items? (value? room) fuel _).bind _ = _
        rw [hlater]
        rfl

theorem length_le_itemLines (items : List Value) :
    items.length ≤ (itemLines items).toList.length := by
  induction items with
  | nil => exact Nat.zero_le _
  | cons v items ih =>
      rw [itemLines]
      simp only [String.toList_append, List.length_append, List.length_cons]
      have hmark : 0 < ",\n".toList.length := by decide
      omega

/-- A value that can be a setting: a single one or a list of such. -/
inductive Flat : Value → Prop where
  | scalar {v : Value} (h : Scalar v) : Flat v
  | array {items : List Value} (h : ∀ v ∈ items, Scalar v) : Flat (.array items)

theorem value?_array {items : List Value} (h : ∀ v ∈ items, Scalar v)
    (room : Nat) :
    value? (room + 1) ((Value.array items).text.toList ++ rest) =
      some (.array items, rest) := by
  match items, h with
  | [], _ => rfl
  | [v], h =>
      have htext : (Value.array [v]).text.toList ++ rest =
          '[' :: (v.text.toList ++ ']' :: rest) := by
        simp [Value.text]
      rw [htext, value?, List.length_append, List.length_cons, ← Nat.add_assoc,
        items?_single (h v List.mem_cons_self)]
      rfl
  | v :: w :: items, h =>
      have htext : (Value.array (v :: w :: items)).text.toList ++ rest =
          '[' :: '\n' :: ((itemLines (v :: w :: items)).toList ++ ']' :: rest) := by
        simp [Value.text]
      have hlength := length_le_itemLines (v :: w :: items)
      rw [htext, value?, items?_itemLines h]
      · rfl
      · simp only [List.length_cons, List.length_append] at hlength ⊢
        omega

/-- A written setting is read back. -/
theorem value?_text {v : Value} (h : Flat v) (room : Nat) (hrest : Closed rest) :
    value? (room + 1) (v.text.toList ++ rest) = some (v, rest) := by
  cases h with
  | scalar h => exact value?_scalar h (room + 1) hrest
  | array h => exact value?_array h room

theorem Flat.exists_text {v : Value} (h : Flat v) :
    ∃ c cs, v.text.toList = c :: cs ∧ isBlank c = false := by
  cases h with
  | scalar h =>
      obtain ⟨c, cs, hcs, hc⟩ := h.exists_text
      exact ⟨c, cs, hcs, isBlank_of_opens hc⟩
  | @array items h =>
      match items with
      | [] => exact ⟨'[', _, rfl, rfl⟩
      | [v] => exact ⟨'[', v.text.toList ++ [']'], by simp [Value.text], rfl⟩
      | v :: w :: items =>
          exact ⟨'[', '\n' :: ((itemLines (v :: w :: items)).toList ++ [']']),
            by simp [Value.text], rfl⟩

end IrExcerpt.Toml
