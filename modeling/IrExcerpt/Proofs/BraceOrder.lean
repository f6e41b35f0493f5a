import IrExcerpt.Proofs.BlockGrammar
import IrExcerpt.Proofs.DepthMonotone

/-!
# Braces that are closed before they are opened

A body counts its braces character by character, but the count is looked at only
where a line ends. There it is never negative, or the body would have been
refused. Between two line ends it may be: a line can close more braces than are
open and open as many again, and nobody notices.

That is the only way. Take any beginning of a body that has closed more than it
has opened. It stops within some line, and at the end of this line the count is
in order again, so the rest of the line makes up for it (`Dips`). A function of
which no line does so closes only what it has opened, at every character.
-/

namespace IrExcerpt.Document

open IrExcerpt.Text

/-- Every beginning of the text closes at most as many braces as it opens. -/
def ClosesOnlyOpened (body : List Char) : Prop :=
  ∀ front, front <+: body → front.count '}' ≤ front.count '{'

/-- Somewhere within one of the lines more braces have been closed than opened,
but not at its end. The lines are given by what they show. -/
def Dips (parts : List (List Char)) : Prop :=
  ∃ before front back after, parts = before ++ (front ++ back) :: after ∧
    Overclosed (before.flatten ++ front) ∧
    ¬ Overclosed (before.flatten ++ (front ++ back))

theorem BodyOf.append {cs body : List Char} (h : BodyOf cs body)
    (more : List Char) : BodyOf (cs ++ more) (body ++ more) := by
  obtain ⟨params, rfl, hparams⟩ := h
  exact ⟨params, by rw [List.append_assoc], hparams⟩

theorem not_overclosed_nil : ¬ Overclosed [] := by
  intro h
  obtain ⟨body, ⟨params, hsplit, hparams⟩, -⟩ := h
  obtain ⟨rfl, -⟩ := List.append_eq_nil_iff.1 hsplit.symm
  exact ClosesParens.not_nil Nat.one_pos hparams

/-- A beginning of lines put together stops within one of them. -/
theorem exists_split_of_prefix_flatten {cs part : List Char}
    {parts : List (List Char)} (h : cs <+: (part :: parts).flatten) :
    ∃ before front back after,
      part :: parts = before ++ (front ++ back) :: after ∧
        cs = before.flatten ++ front := by
  induction parts generalizing cs part with
  | nil =>
      obtain ⟨back, hback⟩ := h
      rw [List.flatten_singleton] at hback
      exact ⟨[], cs, back, [], by rw [hback]; rfl, rfl⟩
  | cons next parts ih =>
      obtain ⟨behind, hbehind⟩ := h
      rw [List.flatten_cons] at hbehind
      rcases List.append_eq_append_iff.1 hbehind with
        ⟨back, rfl, -⟩ | ⟨front, rfl, hfront⟩
      · exact ⟨[], cs, back, next :: parts, rfl, rfl⟩
      · obtain ⟨before, front', back, after, hparts, rfl⟩ :=
          ih ⟨behind, hfront.symm⟩
        exact ⟨part :: before, front', back, after, by rw [hparts]; rfl,
          by simp⟩

/-- Lines at the ends of which the count is in order close only what they have
opened, unless one of them dips. -/
theorem closesOnlyOpened_iff_of_lineEnds {part body : List Char}
    {parts : List (List Char)} (hbody : BodyOf (part :: parts).flatten body)
    (hends : ∀ k, ¬ Overclosed ((part :: parts).take k).flatten) :
    ClosesOnlyOpened body ↔ ¬ Dips (part :: parts) := by
  constructor
  · intro h hdips
    obtain ⟨before, front, back, after, hparts, ⟨early, hearly, hmore⟩, -⟩ := hdips
    have hlonger := hearly.append (back ++ after.flatten)
    have hall : before.flatten ++ front ++ (back ++ after.flatten) =
        (part :: parts).flatten := by
      rw [hparts]
      simp
    rw [hall] at hlonger
    have hle := h early ⟨_, hlonger.unique hbody⟩
    omega
  · intro h front hfront
    by_contra hmore
    obtain ⟨params, hsplit, hparams⟩ := hbody
    have hover : Overclosed (params ++ front) :=
      ⟨front, ⟨params, rfl, hparams⟩, by omega⟩
    have hwithin : params ++ front <+: (part :: parts).flatten := by
      rw [hsplit]
      exact (List.prefix_append_right_inj params).2 hfront
    obtain ⟨before, start, back, after, hparts, hcut⟩ :=
      exists_split_of_prefix_flatten hwithin
    -- The line in which `front` stops ends in order.
    have hend := hends (before.length + 1)
    have htake : (part :: parts).take (before.length + 1) =
        before ++ [start ++ back] := by
      rw [hparts, List.take_append]
      simp
    rw [htake, List.flatten_append, List.flatten_singleton] at hend
    exact h ⟨before, start, back, after, hparts, hcut ▸ hover, hend⟩

/-! ## At the ends of lines -/

/-- What the lines of a definition show: the rest of its header behind the
parenthesis, and the lines behind the header. -/
def shownParts (params : List Char) (rest : List String) : List (List Char) :=
  structural params :: rest.map fun line => structural line.toList

theorem flatten_shownParts (params : List Char) (rest : List String) :
    (shownParts params rest).flatten =
      structural params ++ rest.flatMap fun line => structural line.toList := by
  rw [shownParts, List.flatten_cons, List.flatMap]

theorem verdict_after_iff (params : List Char) (rest : List String) :
    (((BodyScan.start.feed params).after rest).verdict = .closed ↔
      Balanced (shownParts params rest).flatten) ∧
    (((BodyScan.start.feed params).after rest).verdict = .unbalanced ↔
      Overclosed (shownParts params rest).flatten) := by
  rw [after_feed, flatten_shownParts]
  exact BodyScan.verdict_foldl_step _

/-- Lines that end a definition have closed no brace too many at any of their
ends. -/
theorem not_overclosed_take {params : List Char} {rest : List String}
    (h : (BodyScan.start.feed params).ClosesAfter rest) (k : Nat) :
    ¬ Overclosed ((shownParts params rest).take k).flatten := by
  obtain ⟨hclosed, hfirst⟩ := BodyScan.closesAfter_iff.1 h
  intro hover
  cases k with
  | zero => exact not_overclosed_nil hover
  | succ k =>
      have htake : (shownParts params rest).take (k + 1) =
          shownParts params (rest.take k) := by
        rw [shownParts, List.take_succ_cons, ← List.map_take]
        rfl
      rw [htake] at hover
      have hbroken := (verdict_after_iff params (rest.take k)).2.2 hover
      by_cases hk : k < rest.length
      · rw [hfirst k hk] at hbroken
        cases hbroken
      · rw [List.take_of_length_le (by omega), hclosed] at hbroken
        cases hbroken

theorem forall₂_shows_shownParts {params : List Char} {rest : List String}
    {parts : List (List Char)} (hparams : '\n' ∉ params)
    (hrest : ∀ line ∈ rest, '\n' ∉ line.toList) :
    List.Forall₂ Shows (params :: rest.map String.toList) parts ↔
      parts = shownParts params rest := by
  have hlines : ∀ line ∈ params :: rest.map String.toList, '\n' ∉ line := by
    simpa [hparams] using hrest
  rw [forall₂_shows_iff hlines, List.map_cons, List.map_map]
  rfl

theorem newline_not_mem_function {text : String} {doc : Document}
    (h : parse text = .ok doc) {f : String × List String}
    (hf : f ∈ doc.functions) {line : String} (hline : line ∈ f.2) :
    '\n' ∉ line.toList := by
  obtain ⟨d, -, rfl⟩ := List.mem_map.1 hf
  have hmem : line ∈ doc.lines := mem_lines_of_mem_linesIn hline
  rw [lines_of_parse h] at hmem
  exact newline_not_mem_lines hmem

/-- When a function closes only braces that it has opened. Of every function of
a document, take what its lines show from the parenthesis of its header on, and
of this the part behind the parameter list. At the end of each line no brace too
many has been closed. At every character this holds exactly if no line closes
more braces than are open and makes up for it before it ends. -/
theorem closesOnlyOpened_iff_not_dips {text : String} {doc : Document}
    (h : parse text = .ok doc) {f : String × List String}
    (hf : f ∈ doc.functions) :
    ∃ header rest params parts body, f.2 = header :: rest ∧
      Heads header f.1 params ∧
      List.Forall₂ Shows (params :: rest.map String.toList) parts ∧
      BodyOf parts.flatten body ∧
      (∀ k, ¬ Overclosed (parts.take k).flatten) ∧
      (ClosesOnlyOpened body ↔ ¬ Dips parts) := by
  have hlines := fun line (hline : line ∈ f.2) => newline_not_mem_function h hf hline
  obtain ⟨header, rest, symbol, params, hbody, hkind, hsymbol, hname, hclose⟩ :=
    valid_of_mem_functions h hf
  rw [hbody] at hlines
  obtain ⟨hheader, hrest⟩ := List.forall_mem_cons.1 hlines
  have hheads : Heads header f.1 params := by
    refine ⟨hkind, headerSymbol?_eq_some_iff.1 ?_⟩
    rw [hname, String.toList_ofList]
    exact hsymbol
  have hparams : '\n' ∉ params := fun hmem => hheader (hheads.2.suffix.mem hmem)
  have hclosed := (BodyScan.closesAfter_iff.1 hclose).1
  obtain ⟨body, hbodyOf, -⟩ := (verdict_after_iff params rest).1.1 hclosed
  have hends := not_overclosed_take hclose
  exact ⟨header, rest, params, shownParts params rest, body, hbody, hheads,
    (forall₂_shows_shownParts hparams hrest).2 rfl, hbodyOf, hends,
    closesOnlyOpened_iff_of_lineEnds hbodyOf hends⟩

/-- A document whose one function closes a brace before it opens one. -/
theorem closesOnlyOpened_iff_not_dips_sample :
    let line := "define void @f() \x7d \x7b"
    let doc : Document := ⟨[line], [.definition ⟨"f", ⟨1, 1⟩⟩]⟩
    parse "define void @f() \x7d \x7b\n" = .ok doc ∧
      ("f", [line]) ∈ doc.functions ∧
      ∃ params parts body, Heads line "f" params ∧
        List.Forall₂ Shows [params] parts ∧ BodyOf parts.flatten body ∧
        Dips parts ∧ ¬ ClosesOnlyOpened body := by
  intro line doc
  have hparse : parse "define void @f() \x7d \x7b\n" = .ok doc :=
    ok_of_toOption (by decide +kernel)
  have hmem : ("f", [line]) ∈ doc.functions := by decide
  obtain ⟨header, rest, params, parts, body, hbody, hheads, hshows, hbodyOf, -,
    hiff⟩ := closesOnlyOpened_iff_not_dips hparse hmem
  obtain ⟨rfl, rfl⟩ := List.cons.inj hbody
  have hparams : params = ") \x7d \x7b".toList := by
    have hsymbol : headerSymbol? line.toList =
        some (['f'], ") \x7d \x7b".toList) := by decide
    rw [hheads.headerSymbol?] at hsymbol
    exact (Prod.mk.inj (Option.some.inj hsymbol)).2
  have hparts : parts = [") \x7d \x7b".toList] := by
    rw [(forall₂_shows_shownParts (by rw [hparams]; decide) (by simp)).1 hshows,
      hparams]
    decide
  have hdips : Dips parts := by
    refine ⟨[], ") \x7d".toList, " \x7b".toList, [], hparts, ?_, ?_⟩
    · exact (BodyScan.verdict_foldl_step _).2.1 (by decide)
    · rw [← (BodyScan.verdict_foldl_step _).2]
      decide
  exact ⟨hparse, hmem, params, parts, body, hheads, hshows, hbodyOf, hdips,
    fun hcloses => hiff.1 hcloses hdips⟩

end IrExcerpt.Document
