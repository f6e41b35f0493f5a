import IrExcerpt.Proofs.CountedBraces
import Mathlib.Data.List.TakeWhile

/-!
# The symbol of a header

A header gives its definition the name of the leftmost symbol that stands
between an `@` and, blanks apart, an opening parenthesis. The scanner tries the
places of a line from left to right, and at each one reads a symbol as far as it
goes. Here the result is said as a fact about the line: it can be cut in front
of the symbol, and nowhere further left (`HeaderGives`). Whether a quoted symbol
ends at a certain quote, or a bare one at a certain character, is then no matter
of how far somebody reads; there is only one way to cut.
-/

namespace IrExcerpt.Document

open IrExcerpt.Text

/-- In `cs` a symbol for `name` is followed by a gap of blanks, an opening
parenthesis and `rest`. -/
def SymbolBefore (cs name rest : List Char) : Prop :=
  ∃ token gap, cs = token ++ (gap ++ '(' :: rest) ∧ Written token name ∧
    ∀ c ∈ gap, isBlank c = true

/-- The leftmost symbol of the line behind an `@` and in front of a parenthesis
stands for `name`, which is not empty, and `params` is what follows the
parenthesis. -/
def HeaderGives (line name params : List Char) : Prop :=
  name ≠ [] ∧ ∃ front tail, line = front ++ '@' :: tail ∧
    SymbolBefore tail name params ∧
    ∀ front' tail' name' params', line = front' ++ '@' :: tail' →
      SymbolBefore tail' name' params' → front.length ≤ front'.length

/-! ## One place -/

theorem written_of_symbol? {cs name tail : List Char}
    (h : symbol? cs = some (name, tail)) :
    ∃ token, cs = token ++ tail ∧ Written token name := by
  unfold symbol? at h
  split at h
  · next rest =>
      obtain ⟨hname, rfl⟩ := quoted?_eq_some_iff.1 h
      exact ⟨'"' :: name ++ ['"'], by simp, .quoted hname⟩
  · simp only at h
    split at h
    · cases h
    · next hname =>
        cases h
        refine ⟨cs.takeWhile isSymbolChar, ?_, .bare (by simpa using hname) ?_⟩
        · exact List.takeWhile_append_dropWhile.symm
        · intro c hc
          exact List.mem_takeWhile_imp hc

theorem operand?_of_symbolBefore {cs name rest : List Char}
    (h : SymbolBefore cs name rest) :
    ∃ spaced, operand? cs = some ⟨name, spaced, rest⟩ := by
  obtain ⟨token, gap, rfl, htoken, hgap⟩ := h
  have hstop : ∀ c ∈ (gap ++ '(' :: rest).head?, isSymbolChar c = false := by
    intro c hc
    cases gap with
    | nil =>
        cases hc
        rfl
    | cons d gap =>
        cases hc
        exact isSymbolChar_of_isBlank (hgap c List.mem_cons_self)
  have htrim : trimStart (gap ++ '(' :: rest) = '(' :: rest := by
    rw [trimStart, List.dropWhile_append_of_pos hgap]
    rfl
  rw [operand?, htoken.symbol? hstop]
  simp [htrim]

theorem symbolBefore_of_operand? {cs : List Char} {op : Operand}
    (h : operand? cs = some op) : SymbolBefore cs op.name op.rest := by
  unfold operand? at h
  split at h
  · cases h
  · next name tail hsymbol =>
      split at h
      · next rest htrim =>
          cases h
          obtain ⟨token, rfl, htoken⟩ := written_of_symbol? hsymbol
          refine ⟨token, tail.takeWhile isBlank, ?_, htoken, fun c hc => ?_⟩
          · rw [← htrim, trimStart, List.takeWhile_append_dropWhile]
          · exact List.mem_takeWhile_imp hc
      · cases h

theorem operand?_isSome_iff {cs : List Char} :
    (∃ op, operand? cs = some op) ↔ ∃ name rest, SymbolBefore cs name rest := by
  constructor
  · rintro ⟨op, hop⟩
    exact ⟨op.name, op.rest, symbolBefore_of_operand? hop⟩
  · rintro ⟨name, rest, h⟩
    obtain ⟨spaced, hop⟩ := operand?_of_symbolBefore h
    exact ⟨_, hop⟩

/-! ## The leftmost place -/

/-- The operand that is found is the one behind the leftmost sigil that an
operand follows. -/
theorem findOperand?_eq_some_iff {x : Char} {op : Operand} {line : List Char} :
    findOperand? (· == '@') line = some (x, op) ↔ x = '@' ∧
      ∃ front tail, line = front ++ '@' :: tail ∧ operand? tail = some op ∧
        ∀ front' tail', line = front' ++ '@' :: tail' →
          (∃ op', operand? tail' = some op') → front.length ≤ front'.length := by
  induction line with
  | nil => simp [findOperand?]
  | cons c line ih =>
      by_cases hhere : c = '@' ∧ ∃ op', operand? line = some op'
      · obtain ⟨rfl, op', hop'⟩ := hhere
        have hfound : findOperand? (· == '@') ('@' :: line) = some ('@', op') := by
          simp [findOperand?, hop']
        rw [hfound]
        constructor
        · intro h
          cases h
          exact ⟨rfl, [], line, rfl, hop', fun _ _ _ _ => Nat.zero_le _⟩
        · rintro ⟨rfl, front, tail, hline, hop, hfirst⟩
          have hfront := hfirst [] line rfl ⟨op', hop'⟩
          obtain rfl := List.length_eq_zero_iff.1 (Nat.le_zero.1 hfront)
          cases hline
          rw [hop] at hop'
          rw [Option.some.inj hop']
      · have hpassed : findOperand? (· == '@') (c :: line) =
            findOperand? (· == '@') line := by
          rw [findOperand?]
          split
          · next op' hop' =>
              split at hop'
              · next hc => exact absurd ⟨by simpa using hc, op', hop'⟩ hhere
              · cases hop'
          · rfl
        rw [hpassed, ih]
        -- No place is the first one, so all of them move by one character.
        constructor
        · rintro ⟨rfl, front, tail, rfl, hop, hfirst⟩
          refine ⟨rfl, c :: front, tail, rfl, hop, fun front' tail' heq hop' => ?_⟩
          cases front' with
          | nil =>
              cases heq
              exact absurd ⟨rfl, hop'⟩ hhere
          | cons d front' =>
              obtain ⟨-, hrest⟩ := List.cons.inj heq
              exact Nat.succ_le_succ (hfirst front' tail' hrest hop')
        · rintro ⟨rfl, front, tail, heq, hop, hfirst⟩
          cases front with
          | nil =>
              cases heq
              exact absurd ⟨rfl, op, hop⟩ hhere
          | cons d front =>
              obtain ⟨rfl, rfl⟩ := List.cons.inj heq
              refine ⟨rfl, front, tail, rfl, hop, fun front' tail' heq' hop' => ?_⟩
              have hle := hfirst (c :: front') tail' (by rw [heq']; rfl) hop'
              exact Nat.le_of_succ_le_succ hle

/-- A header gives the name that the scanner reads. -/
theorem headerSymbol?_eq_some_iff {line name params : List Char} :
    headerSymbol? line = some (name, params) ↔ HeaderGives line name params := by
  constructor
  · intro h
    unfold headerSymbol? at h
    split at h
    · next x op hfound =>
        split at h
        · cases h
        · next hname =>
            cases h
            obtain ⟨-, front, tail, hline, hop, hfirst⟩ :=
              findOperand?_eq_some_iff.1 hfound
            refine ⟨by simpa using hname, front, tail, hline,
              symbolBefore_of_operand? hop, fun front' tail' name' params' heq h' => ?_⟩
            exact hfirst front' tail' heq (operand?_isSome_iff.2 ⟨_, _, h'⟩)
    · cases h
  · rintro ⟨hname, front, tail, hline, hsymbol, hfirst⟩
    obtain ⟨spaced, hop⟩ := operand?_of_symbolBefore hsymbol
    have hfound : findOperand? (· == '@') line = some ('@', ⟨name, spaced, params⟩) := by
      refine findOperand?_eq_some_iff.2
        ⟨rfl, front, tail, hline, hop, fun front' tail' heq hop' => ?_⟩
      obtain ⟨name', params', h'⟩ := operand?_isSome_iff.1 hop'
      exact hfirst front' tail' name' params' heq h'
    rw [headerSymbol?, hfound]
    simp [hname]

theorem map_headerSymbol?_eq_some_iff {line : List Char} {symbol : String} :
    (headerSymbol? line).map (fun found => String.ofList found.1) = some symbol ↔
      ∃ params, HeaderGives line symbol.toList params := by
  simp only [← headerSymbol?_eq_some_iff, Option.map_eq_some_iff, Prod.exists]
  constructor
  · rintro ⟨name, params, hfound, rfl⟩
    exact ⟨params, by rwa [String.toList_ofList]⟩
  · rintro ⟨params, hfound⟩
    exact ⟨symbol.toList, params, hfound, String.ofList_toList⟩

end IrExcerpt.Document
