import IrExcerpt.Proofs.WrittenValues
import IrExcerpt.Text.JsonReader

/-!
# Written JSON is read back

The text of a value is read as the value, at every level of indentation and
whatever comes behind it, as long as that is no further digit. Indentation is a
blank in front of a word and is passed over there, so nothing has to be known
about it.

The items of a list and the fields of an object are written alike, so one lemma
speaks of both: `Reads` says of a reader that it takes a text for a certain item,
and readers that do so for each item of a list do so for the list. How deep
values lie in each other does not matter, since the text of a part is shorter
than that of the whole, and a reader allows for as many levels as there are
characters.
-/

namespace IrExcerpt.Json

open Toml.Quoted (more numbered? hexValue?)

/-! ## Quoted texts -/

theorem numbered?_hexDigit : ∀ n < 32,
    numbered? ['0', '0', hexDigit (n / 16), hexDigit (n % 16)] =
      some (Char.ofNat n) := by
  decide

/-- A character is written as an escape that stands for it, or as it is. -/
theorem escape_cases (c : Char) :
    (∃ e, escape c = ['\\', e] ∧ e ≠ 'u' ∧ escaped? e = some c) ∨
    (∃ h l, escape c = ['\\', 'u', '0', '0', h, l] ∧
      numbered? ['0', '0', h, l] = some c) ∨
    (escape c = [c] ∧ c ≠ '"' ∧ c ≠ '\\' ∧ ¬ c.toNat < 32) := by
  unfold escape
  split
  · next h => exact .inl ⟨_, rfl, by decide, by rw [h]; rfl⟩
  split
  · next h => exact .inl ⟨_, rfl, by decide, by rw [h]; rfl⟩
  split
  · next h => exact .inl ⟨_, rfl, by decide, by rw [h]; rfl⟩
  split
  · next h => exact .inl ⟨_, rfl, by decide, by rw [h]; rfl⟩
  split
  · next h => exact .inl ⟨_, rfl, by decide, by rw [h]; rfl⟩
  split
  · next h => exact .inl ⟨_, rfl, by decide, by rw [h]; rfl⟩
  split
  · next h => exact .inl ⟨_, rfl, by decide, by rw [h]; rfl⟩
  split
  · next h =>
      have hx := numbered?_hexDigit _ h
      rw [Char.ofNat_toNat] at hx
      exact .inr (.inl ⟨_, _, rfl, hx⟩)
  · next hquote hslash _ _ _ _ _ h => exact .inr (.inr ⟨rfl, hquote, hslash, h⟩)

theorem quoted?_escape (c : Char) (rest : List Char) :
    quoted? (escape c ++ rest) = more c (quoted? rest) := by
  rcases escape_cases c with ⟨e, he, hu, hc⟩ | ⟨h, l, he, hc⟩ | ⟨he, hplain⟩
  · rw [he]
    show quoted? ('\\' :: e :: rest) = _
    rw [quoted?, hc]
    · rfl
    · exact fun _ _ _ _ _ heq => absurd heq hu
  · rw [he]
    show quoted? ('\\' :: 'u' :: '0' :: '0' :: h :: l :: rest) = _
    rw [quoted?, hc]
    rfl
  · obtain ⟨hquote, hslash, hlarge⟩ := hplain
    rw [he, List.singleton_append, quoted?, if_neg hlarge]
    · exact fun heq => absurd heq hquote
    · exact fun _ _ _ _ _ heq => absurd heq hslash
    · exact fun _ _ heq => absurd heq hslash

/-- A text between quotes is read up to its last quote. -/
theorem quoted?_flatMap (cs rest : List Char) :
    quoted? (cs.flatMap escape ++ '"' :: rest) = some (cs, rest) := by
  induction cs with
  | nil => rfl
  | cons c cs ih =>
      rw [List.flatMap_cons, List.append_assoc, quoted?_escape, ih]
      rfl

theorem toList_quote (text : String) :
    (quote text).toList = '"' :: (text.toList.flatMap escape ++ ['"']) := by
  simp [quote]

/-! ## Numbers and blanks -/

/-- What may come behind a value: no further digit. -/
def Apart (rest : List Char) : Prop :=
  ∀ c cs, rest = c :: cs → c.isDigit = false

theorem Apart.nil : Apart [] := by
  intro c cs heq
  cases heq

theorem Apart.cons {c : Char} (h : c.isDigit = false) (cs : List Char) :
    Apart (c :: cs) := by
  intro d ds heq
  rw [← (List.cons.inj heq).1]
  exact h

theorem number?_toDigits (n : Nat) {rest : List Char} (h : Apart rest) :
    number? (Nat.toDigits 10 n ++ rest) = some (n, rest) := by
  have hdigits : ∀ c ∈ Nat.toDigits 10 n, c.isDigit = true :=
    fun c => Toml.Number.isDigit_of_mem_toDigits
  have htake : rest.takeWhile Char.isDigit = [] ∧
      rest.dropWhile Char.isDigit = rest := by
    cases rest with
    | nil => exact ⟨rfl, rfl⟩
    | cons c cs => simp [h c cs rfl]
  rw [number?, List.takeWhile_append_of_pos hdigits,
    List.dropWhile_append_of_pos hdigits, htake.1, htake.2, List.append_nil]
  have hvalue : Nat.ofDigitChars 10 (Nat.toDigits 10 n) 0 = n :=
    Nat.ofDigitChars_ten_toDigits
  split
  · next hnil => exact absurd hnil Nat.toDigits_ne_nil
  · next hzero =>
      -- Only the number zero starts with a zero.
      rcases Nat.eq_zero_or_pos n with rfl | hn
      · cases hzero
      · obtain ⟨c, cs, hcs, hc⟩ := Toml.Number.exists_toDigits hn
        rw [hcs] at hzero
        exact absurd (List.cons.inj hzero).1 hc
  · rw [hvalue]

theorem skipBlanks_cons {c : Char} (h : isBlank c = false) (cs : List Char) :
    skipBlanks (c :: cs) = c :: cs := by
  rw [skipBlanks, List.dropWhile_cons_of_neg (by simp [h])]

theorem toList_newline (level : Nat) :
    (newline level).toList = '\n' :: List.replicate (2 * level) ' ' := by
  simp [newline]

theorem skipBlanks_newline (level : Nat) (rest : List Char) :
    skipBlanks ((newline level).toList ++ rest) = skipBlanks rest := by
  refine List.dropWhile_append_of_pos fun c hc => ?_
  rw [toList_newline] at hc
  rcases List.mem_cons.1 hc with rfl | hc
  · rfl
  · rw [List.eq_of_mem_replicate hc]
    rfl

theorem isBlank_of_isDigit {c : Char} (h : c.isDigit = true) :
    isBlank c = false := by
  rw [← Bool.not_eq_true]
  intro hblank
  simp only [isBlank, Bool.or_eq_true, decide_eq_true_eq] at hblank
  rcases hblank with ((rfl | rfl) | rfl) | rfl <;> cases h

/-! ## Lists -/

/-- A character that can be the first one of an item. -/
structure Opens (c : Char) : Prop where
  word : isBlank c = false
  bracket : c ≠ ']'
  brace : c ≠ '\x7d'

theorem Opens.of_isDigit {c : Char} (h : c.isDigit = true) : Opens c := by
  refine ⟨isBlank_of_isDigit h, ?_, ?_⟩
  · rintro rfl
    cases h
  · rintro rfl
    cases h

/-- The text of an item: it starts with a word, and behind the blanks in front of
it the reader takes it for `x`. -/
structure Reads {α : Type} (item : Reader α) (text : List Char) (x : α) :
    Prop where
  opens : ∃ c cs, text = c :: cs ∧ Opens c
  reads : ∀ cs behind, skipBlanks cs = text ++ behind → Apart behind →
    item cs = some (x, behind)

/-- The bracket behind a list. -/
def Closes (c : Char) : Prop := c = ']' ∨ c = '\x7d'

theorem Closes.word {c : Char} (h : Closes c) : isBlank c = false := by
  rcases h with rfl | rfl <;> rfl

theorem Opens.ne_of_closes {c d : Char} (h : Opens c) (hd : Closes d) : c ≠ d := by
  rcases hd with rfl | rfl
  · exact h.bracket
  · exact h.brace

/-- Items behind commas, each one on a line of its own. -/
def lined {α : Type} (text : α → List Char) (level : Nat) (xs : List α) :
    List Char :=
  xs.flatMap fun x => ',' :: ((newline level).toList ++ text x)

/-- What is written behind the opening bracket of a list. -/
def listed {α : Type} (close : Char) (text : α → List Char) (level : Nat) :
    List α → List Char
  | [] => [close]
  | x :: xs => (newline (level + 1)).toList ++ (text x ++
      (lined text (level + 1) xs ++ ((newline level).toList ++ [close])))

section Lists

variable {α : Type} {item : Reader α} {text : α → List Char} {x : α} {xs : List α}
  {close : Char} {outer level : Nat} {rest behind : List Char}

theorem Reads.skipBlanks_append {written : List Char} (h : Reads item written x) :
    skipBlanks (written ++ behind) = written ++ behind := by
  obtain ⟨c, cs, hcs, hc⟩ := h.opens
  rw [hcs, List.cons_append, skipBlanks_cons hc.word]

theorem apart_lined (text : α → List Char) (level outer : Nat) (xs : List α)
    (rest : List Char) :
    Apart (lined text level xs ++ ((newline outer).toList ++ rest)) := by
  cases xs with
  | nil =>
      show Apart ((newline outer).toList ++ rest)
      rw [toList_newline]
      exact Apart.cons rfl _
  | cons x xs => exact Apart.cons (c := ',') rfl _

theorem length_le_lined (text : α → List Char) (level : Nat) (xs : List α) :
    xs.length ≤ (lined text level xs).length := by
  induction xs with
  | nil => exact Nat.zero_le _
  | cons x xs ih =>
      rw [lined] at ih ⊢
      simp only [List.flatMap_cons, List.length_append, List.length_cons] at ih ⊢
      omega

theorem further?_lined (hclose : Closes close)
    (h : ∀ x ∈ xs, Reads item (text x) x) {fuel : Nat} (hfuel : xs.length < fuel) :
    further? item close fuel
        (lined text level xs ++ ((newline outer).toList ++ close :: rest)) =
      some (xs, rest) := by
  induction xs generalizing fuel with
  | nil =>
      obtain ⟨fuel, rfl⟩ : ∃ n, fuel = n + 1 := ⟨fuel - 1, by omega⟩
      show further? item close (fuel + 1) ((newline outer).toList ++ _) = _
      rw [further?, skipBlanks_newline, skipBlanks_cons hclose.word]
      exact if_pos rfl
  | cons x xs ih =>
      obtain ⟨fuel, rfl⟩ : ∃ n, fuel = n + 1 := ⟨fuel - 1, by omega⟩
      have hx := h x List.mem_cons_self
      have hlater := ih (fun y hy => h y (List.mem_cons_of_mem x hy))
        (show xs.length < fuel by rw [List.length_cons] at hfuel; omega)
      have htext : lined text level (x :: xs) ++
            ((newline outer).toList ++ close :: rest) =
          ',' :: ((newline level).toList ++ (text x ++
            (lined text level xs ++ ((newline outer).toList ++ close :: rest)))) := by
        simp [lined]
      have hitem := hx.reads _ _
        ((skipBlanks_newline level _).trans hx.skipBlanks_append)
        (apart_lined text level outer xs (close :: rest))
      have hcomma : ',' ≠ close := by
        rcases hclose with rfl | rfl <;> decide
      rw [htext, further?, skipBlanks_cons rfl]
      show (if ',' = close then _ else if ',' = ',' then _ else _) = _
      rw [if_neg hcomma, if_pos rfl, hitem]
      show (further? item close fuel _).bind _ = _
      rw [hlater]
      rfl

/-- A list is read if each of its items is. -/
theorem items?_listed (hclose : Closes close)
    (h : ∀ x ∈ xs, Reads item (text x) x) :
    items? item close (listed close text level xs ++ rest) = some (xs, rest) := by
  cases xs with
  | nil =>
      rw [listed, List.singleton_append, items?, skipBlanks_cons hclose.word]
      exact if_pos rfl
  | cons x xs =>
      have hx := h x List.mem_cons_self
      have hitem := hx.reads _ _ hx.skipBlanks_append
        (apart_lined text (level + 1) level xs (close :: rest))
      obtain ⟨c, cs, hcs, hc⟩ := hx.opens
      have htext : listed close text level (x :: xs) ++ rest =
          (newline (level + 1)).toList ++ (text x ++
            (lined text (level + 1) xs ++
              ((newline level).toList ++ close :: rest))) := by
        simp [listed]
      rw [htext, items?, skipBlanks_newline, hx.skipBlanks_append]
      rw [hcs, List.cons_append] at hitem ⊢
      show (if c = close then _ else (item _).bind _) = _
      rw [if_neg (hc.ne_of_closes hclose), hitem]
      show (further? item close _ _).bind _ = _
      rw [further?_lined hclose fun y hy => h y (List.mem_cons_of_mem x hy)]
      · rfl
      · have hlength := length_le_lined text (level + 1) xs
        simp only [List.length_append, List.length_cons]
        omega

/-- The text of an item is shorter than that of the list. -/
theorem length_lt_listed (close : Char) (text : α → List Char) (level : Nat)
    (h : x ∈ xs) :
    (text x).length < (listed close text level xs).length := by
  cases xs with
  | nil => cases h
  | cons y ys =>
      rw [listed]
      simp only [List.length_append, List.length_singleton]
      rcases List.mem_cons.1 h with rfl | h
      · omega
      · obtain ⟨before, after, rfl⟩ := List.append_of_mem h
        simp only [lined, List.flatMap_append, List.flatMap_cons,
          List.length_append, List.length_cons]
        omega

end Lists

/-! ## Values -/

/-- The text of a field of an object. -/
def fieldText (level : Nat) (field : String × Json) : List Char :=
  (quote field.1).toList ++ ':' :: ' ' :: (field.2.textAt level).toList

theorem itemsText_eq (level : Nat) (items : List Json) :
    (itemsText level items).toList =
      lined (fun item => (item.textAt level).toList) level items := by
  induction items with
  | nil => rfl
  | cons item items ih =>
      rw [itemsText]
      simp only [String.toList_append, ih]
      simp [lined]

theorem fieldsText_eq (level : Nat) (fields : List (String × Json)) :
    (fieldsText level fields).toList = lined (fieldText level) level fields := by
  induction fields with
  | nil => rfl
  | cons field fields ih =>
      obtain ⟨key, value⟩ := field
      rw [fieldsText]
      simp only [String.toList_append, ih]
      simp [lined, fieldText]

theorem reads_field {value : Reader Json} {level : Nat} {field : String × Json}
    (h : Reads value (field.2.textAt level).toList field.2) :
    Reads (field? value) (fieldText level field) field where
  opens := by
    rw [fieldText, toList_quote]
    exact ⟨'"', _, rfl, by decide, by decide, by decide⟩
  reads cs behind hcs hbehind := by
    obtain ⟨key, v⟩ := field
    have hvalue := h.reads (' ' :: ((v.textAt level).toList ++ behind)) behind
      h.skipBlanks_append hbehind
    rw [fieldText, toList_quote] at hcs
    simp only [List.cons_append, List.append_assoc, List.nil_append] at hcs
    rw [field?, hcs]
    show (quoted? _).bind _ = _
    rw [quoted?_flatMap]
    show (value (' ' :: _)).bind _ = _
    rw [hvalue]
    show some ((String.ofList key.toList, v), behind) = _
    rw [String.ofList_toList]

variable {room level : Nat}

theorem reads_string (text : String) :
    Reads (value? (room + 1)) (quote text).toList (.string text) where
  opens := by
    rw [toList_quote]
    exact ⟨'"', _, rfl, by decide, by decide, by decide⟩
  reads cs behind hcs _ := by
    rw [toList_quote] at hcs
    simp only [List.cons_append, List.append_assoc, List.nil_append] at hcs
    rw [value?, hcs]
    show (quoted? _).map _ = _
    rw [quoted?_flatMap]
    show some (Json.string (String.ofList text.toList), behind) = _
    rw [String.ofList_toList]

theorem reads_number (n : Nat) :
    Reads (value? (room + 1)) (Nat.toDigits 10 n) (.number n) := by
  obtain ⟨c, ds, hds⟩ := List.exists_cons_of_ne_nil (@Nat.toDigits_ne_nil n 10)
  have hc : c.isDigit = true :=
    Toml.Number.isDigit_of_mem_toDigits (hds ▸ List.mem_cons_self)
  refine ⟨⟨c, ds, hds, .of_isDigit hc⟩, fun cs behind hcs hbehind => ?_⟩
  have hnumber := number?_toDigits n hbehind
  rw [hds, List.cons_append] at hnumber hcs
  have hother : c ≠ '"' ∧ c ≠ '[' ∧ c ≠ '\x7b' := by
    refine ⟨?_, ?_, ?_⟩ <;> rintro rfl <;> cases hc
  rw [value?, hcs]
  show (if c = '"' then _ else if c = '[' then _ else if c = '\x7b' then _ else
    (number? (c :: _)).map _) = _
  rw [if_neg hother.1, if_neg hother.2.1, if_neg hother.2.2, hnumber]
  rfl

theorem toList_array (level : Nat) (items : List Json) :
    ((array items).textAt level).toList = '[' :: listed ']'
      (fun item => (item.textAt (level + 1)).toList) level items := by
  cases items with
  | nil => rw [textAt]; rfl
  | cons item items =>
      rw [textAt, listed]
      simp [itemsText_eq]

theorem toList_object (level : Nat) (fields : List (String × Json)) :
    ((object fields).textAt level).toList =
      '\x7b' :: listed '\x7d' (fieldText (level + 1)) level fields := by
  cases fields with
  | nil => rw [textAt]; rfl
  | cons field fields =>
      rw [textAt, listed]
      simp [fieldsText_eq, fieldText]

theorem reads_array {items : List Json}
    (h : ∀ item ∈ items,
      Reads (value? room) (item.textAt (level + 1)).toList item) :
    Reads (value? (room + 1)) ((array items).textAt level).toList
      (.array items) := by
  rw [toList_array]
  refine ⟨⟨'[', _, rfl, by decide, by decide, by decide⟩, fun cs behind hcs _ => ?_⟩
  rw [List.cons_append] at hcs
  rw [value?, hcs]
  show (items? (value? room) ']' _).map _ = _
  rw [items?_listed (.inl rfl) h]
  rfl

theorem reads_object {fields : List (String × Json)}
    (h : ∀ field ∈ fields,
      Reads (value? room) (field.2.textAt (level + 1)).toList field.2) :
    Reads (value? (room + 1)) ((object fields).textAt level).toList
      (.object fields) := by
  rw [toList_object]
  refine ⟨⟨'\x7b', _, rfl, by decide, by decide, by decide⟩, fun cs behind hcs _ => ?_⟩
  rw [List.cons_append] at hcs
  rw [value?, hcs]
  show (items? (field? (value? room)) '\x7d' _).map _ = _
  rw [items?_listed (.inr rfl) fun field hfield => reads_field (h field hfield)]
  rfl

/-- The text of a value is read as the value, if there is room for more levels
than it has characters. -/
theorem reads_textAt (value : Json)
    (hroom : (value.textAt level).toList.length < room) :
    Reads (value? room) (value.textAt level).toList value := by
  induction room generalizing value level with
  | zero => exact absurd hroom (Nat.not_lt_zero _)
  | succ room ih =>
      cases value with
      | string text =>
          rw [textAt]
          exact reads_string text
      | number n =>
          have htext : ((number n).textAt level).toList = Nat.toDigits 10 n := by
            rw [textAt]
            exact Nat.toList_repr
          rw [htext]
          exact reads_number n
      | array items =>
          refine reads_array fun item hitem => ih item ?_
          have hlength := length_lt_listed ']'
            (fun item => (textAt (level + 1) item).toList) level hitem
          rw [toList_array, List.length_cons] at hroom
          omega
      | object fields =>
          refine reads_object fun field hfield => ih field.2 ?_
          have hlength := length_lt_listed '\x7d' (fieldText (level + 1)) level
            hfield
          rw [toList_object, List.length_cons] at hroom
          simp only [fieldText, List.length_append, List.length_cons] at hlength
          omega

/-- What is written for a value is read as the value. -/
theorem read?_text (value : Json) : read? value.text = some value := by
  have hreads : Reads (value? (value.text.toList.length + 1)) value.text.toList
      value := reads_textAt value (Nat.lt_succ_self _)
  have hwords : skipBlanks (value.text.toList ++ []) = value.text.toList ++ [] :=
    hreads.skipBlanks_append
  rw [List.append_nil] at hwords
  rw [read?, hreads.reads _ [] (by rw [hwords, List.append_nil]) .nil]
  rfl

end IrExcerpt.Json
