import IrExcerpt.Proofs.CallableSymbols

/-!
# Calls that share a line

A line may hold several calls, and each of them should be found as if it stood
alone. Three things could stand against it. A keyword takes the character in
front of it and the blank behind it, and what one keyword has taken is not there
for the next. A piece of the line ends where the next keyword begins, so it is
longer by what stands between them. And the operand of a call is looked for in
its piece, past operands that are none.

Let a line be put together at a blank in front of a keyword. The blank is there
for that keyword unless the text before it ends in one, which would take it.
Then the line is cut where its two parts are cut, and the last piece of the
first part gets the blank (`segments_append_keyword`). A blank behind a text is
nothing to those who look for operands, so the pieces have the same callees.
-/

namespace IrExcerpt.CallSite

open Document Text

theorem space_not_mem_word (kind : CallKind) : ' ' ∉ kind.word := by
  cases kind <;> decide

theorem ne_word_of_not_suffix {a : List Char}
    (ha : ∀ kind : CallKind, ¬ kind.word <:+ a) (kind : CallKind) :
    a ≠ kind.word := by
  intro heq
  exact ha kind (heq ▸ List.suffix_refl _)

/-- A keyword in front of a blank and more is one in front of nothing, unless
it is ended by this blank. -/
theorem keyword?_append_space {a : List Char}
    (ha : ∀ kind : CallKind, a ≠ kind.word) (b : List Char) :
    keyword? (a ++ ' ' :: b) =
      (keyword? a).map fun (kind, c, rest) => (kind, c, rest ++ ' ' :: b) := by
  cases hfound : keyword? (a ++ ' ' :: b) with
  | none =>
      cases hown : keyword? a with
      | none => rfl
      | some own =>
          have hlonger : (keyword? (a ++ ' ' :: b)).isSome :=
            keyword?_isSome_of_front (by rw [hown]; rfl) (List.prefix_append _ _)
          rw [hfound] at hlonger
          cases hlonger
  | some found =>
      obtain ⟨kind, c, rest⟩ := found
      obtain ⟨heq, hc⟩ := keyword?_eq_some_iff.1 hfound
      rcases List.append_eq_append_iff.1 heq with
        ⟨more, hword, hrest⟩ | ⟨more, rfl, hrest⟩
      · -- The word reaches up to the blank, or past it.
        cases more with
        | nil =>
            rw [List.append_nil] at hword
            exact absurd hword.symm (ha kind)
        | cons d more =>
            obtain ⟨rfl, -⟩ := List.cons.inj hrest
            have hspace : ' ' ∈ kind.word := by simp [hword]
            exact absurd hspace (space_not_mem_word kind)
      · cases more with
        | nil =>
            rw [List.append_nil] at ha
            exact absurd rfl (ha kind)
        | cons d more =>
            obtain ⟨rfl, rfl⟩ := List.cons.inj hrest
            rw [keyword?_eq_some_iff.2 ⟨rfl, hc⟩]
            rfl

/-! ## The callee of a piece -/

section Blank

variable {b : Char} (hb : isBlank b = true)

include hb

theorem calledOperand?_append_blank (cs : List Char) :
    calledOperand? (cs ++ [b]) =
      (calledOperand? cs).map fun (sigil, op) =>
        (sigil, { op with rest := op.rest ++ [b] }) := by
  fun_induction calledOperand? cs with
  | case1 cs hnone =>
      rw [calledOperand?_eq, findOperand?_append_blank hb, hnone]
      rfl
  | case2 cs sigil op hfound htype ih =>
      rw [calledOperand?_eq, findOperand?_append_blank hb, hfound]
      simp only [Option.map_some, if_pos htype]
      exact ih
  | case3 cs sigil op hfound htype =>
      rw [calledOperand?_eq, findOperand?_append_blank hb, hfound]
      simp only [Option.map_some, if_neg htype]

theorem callee?_append_blank (cs : List Char) :
    callee? (cs ++ [b]) = callee? cs := by
  rw [callee?, callee?, calledOperand?_append_blank hb]
  cases calledOperand? cs with
  | none => rfl
  | some found => rfl

end Blank

/-! ## The pieces of a line -/

/-- The calls of the pieces that keywords own. -/
def calls (pieces : List (CallKind × List Char)) : List (String × CallKind) :=
  pieces.filterMap fun (kind, text) =>
    (callee? text).map fun name => (name, kind)

theorem calls_cons {b : Char} (hb : isBlank b = true) (kind : CallKind)
    (own : List Char) (more : List (CallKind × List Char)) :
    calls ((kind, b :: own) :: more) =
      ((callee? own).map fun name => (name, kind)).toList ++ calls more := by
  unfold calls
  rw [List.filterMap_cons]
  simp only [callee?_cons_blank hb]
  cases callee? own with
  | none => rfl
  | some name => rfl

/-- In front of a keyword a line is cut as it would be cut if it ended there. -/
theorem segments_append_keyword (fresh : Bool) {a b : List Char}
    (ha : ∀ kind : CallKind, ¬ kind.word <:+ a) (hb : (keyword? b).isSome) :
    ((segments fresh (a ++ ' ' :: b)).1 = (segments fresh a).1 ∨
      (segments fresh (a ++ ' ' :: b)).1 = (segments fresh a).1 ++ [' ']) ∧
    calls (segments fresh (a ++ ' ' :: b)).2 =
      calls (segments fresh a).2 ++ calls (segments true b).2 := by
  obtain ⟨⟨kind, c, rest⟩, hkeyword⟩ := Option.isSome_iff_exists.1 hb
  fun_induction segments fresh a with
  | case1 fresh a kind' c' rest' hfound own more hrest ih =>
      -- The line starts with a keyword, and so does the first part.
      obtain ⟨rfl, hown⟩ : fresh = true ∧
          keyword? a = some (kind', c', rest') := by
        split at hfound
        · next hfresh => exact ⟨hfresh, hfound⟩
        · cases hfound
      obtain ⟨rfl, hc'⟩ := keyword?_eq_some_iff.1 hown
      have hlonger := keyword?_append_space (ne_word_of_not_suffix ha) b
      rw [hown] at hlonger
      have hlater := ih fun k hsuffix => ha k
        (hsuffix.trans (List.suffix_append_of_suffix (List.suffix_cons _ _)))
      rw [hrest] at hlater
      obtain ⟨hpiece, hmore⟩ := hlater
      rw [segments_keyword hlonger, calls_cons hc', calls_cons hc', hmore,
        List.append_assoc]
      refine ⟨.inl rfl, ?_⟩
      rcases hpiece with hpiece | hpiece
      · rw [hpiece]
      · rw [hpiece, callee?_append_blank rfl]
  | case2 fresh hfound =>
      have hspace : segments fresh (' ' :: b) =
          (' ' :: (segments true b).1, (segments true b).2) :=
        segments_cons fun _ => rfl
      rw [List.nil_append, hspace, segments_keyword hkeyword]
      exact ⟨.inr rfl, rfl⟩
  | case3 fresh d a hfound own more hrest ih =>
      have hnone : fresh = true → keyword? (d :: (a ++ ' ' :: b)) = none := by
        intro hfresh
        rw [hfresh, if_pos rfl] at hfound
        rw [← List.cons_append, keyword?_append_space (ne_word_of_not_suffix ha),
          hfound]
        rfl
      have hlater := ih fun k hsuffix => ha k (hsuffix.trans (List.suffix_cons _ _))
      rw [hrest] at hlater
      obtain ⟨hpiece, hmore⟩ := hlater
      rw [List.cons_append, segments_cons hnone]
      refine ⟨?_, hmore⟩
      rcases hpiece with hpiece | hpiece
      · exact .inl (by rw [hpiece])
      · exact .inr (by rw [hpiece, List.cons_append])

/-- Calls on one line add up. A line that is put together at a blank, from a
text that does not end in the word of a keyword and one that begins with a
keyword, holds the calls of the first and then those of the second: none is
lost or added, and each keeps its callee and its kind. -/
theorem inLine_append {a b : List Char} {kind : CallKind} {c : Char}
    {rest : List Char} (ha : ∀ k : CallKind, ¬ k.word <:+ a)
    (hb : b = kind.word ++ c :: rest) (hc : isBlank c = true) :
    inLine (a ++ ' ' :: b) = inLine a ++ inLine b := by
  have hkeyword : (keyword? b).isSome := by
    rw [keyword?_eq_some_iff.2 ⟨hb, hc⟩]
    rfl
  exact (segments_append_keyword true ha hkeyword).2

/-- A call through a value and a call of a variadic function, then an invoke and
a call with no more than a blank in front of them. -/
theorem inLine_append_sample :
    let front := "call void %p() call i32 (ptr, ...) @a(i32 0)".toList
    let back := CallKind.invoke.word ++
      ' ' :: "void @b() to label %x unwind label %y call void @c()".toList
    (∀ k : CallKind, ¬ k.word <:+ front) ∧ isBlank ' ' = true ∧
      inLine (front ++ ' ' :: back) = inLine front ++ inLine back ∧
      inLine front = [("a", .call)] ∧
      inLine back = [("b", .invoke), ("c", .call)] := by
  intro front back
  have hfront : ∀ k : CallKind, ¬ k.word <:+ front := by
    intro k
    cases k <;> decide
  exact ⟨hfront, rfl, inLine_append hfront rfl rfl, by decide +kernel,
    by decide +kernel⟩

end IrExcerpt.CallSite
