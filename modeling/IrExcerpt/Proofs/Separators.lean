import IrExcerpt.Proofs.DepthMonotone

/-!
# Where an excerpt sets definitions apart

The rule for a definition in an excerpt is one about lines: if something stands
before it and does not end with an empty line, an empty line is put in between
(`follow`). What is carried out is a test on the end of the text, for two line
feeds in a row, and an empty line needs a line in front of it to pass this test.
So the rule and the test part where all that stands before a definition is one
empty line: the rule is content with it, and the test asks for a second.

Behind a definition this cannot happen, for a definition ends in a full line.
What is left is an excerpt in front of whose first definition stands a single
empty line, and there the text has one line feed too many. All others are as the
rule says.
-/

namespace IrExcerpt

namespace Excerpt

/-- A definition behind other lines, set apart by an empty line if there are any
and the last of them is not empty. -/
def follow (out body : List String) : List String :=
  match out.getLast? with
  | none => out ++ body
  | some line => if line = "" then out ++ body else out ++ "" :: body

/-- Definitions behind other lines, each one set apart. -/
def setApart (kept : List String) (bodies : List (List String)) : List String :=
  bodies.foldl follow kept

end Excerpt

open Excerpt

theorem EndsFull.ne_single {out : List String} (h : EndsFull out) :
    out ≠ [""] := by
  intro heq
  obtain ⟨line, hlast, hfull⟩ := h
  rw [heq] at hlast
  cases hlast
  exact hfull rfl

/-- The test follows the rule, except behind a single empty line. -/
theorem append_eq_follow {out : List String} (h : out ≠ [""])
    (body : List String) : Excerpt.append out body = follow out body := by
  unfold Excerpt.append follow setOff
  cases hlast : out.getLast? with
  | none =>
      rw [List.getLast?_eq_none_iff.1 hlast]
      rfl
  | some line =>
      have hne : out ≠ [] := by
        intro heq
        rw [heq] at hlast
        cases hlast
      by_cases hempty : line = ""
      · have hlong : 2 ≤ out.length := by
          cases out with
          | nil => exact absurd rfl hne
          | cons first out =>
              cases out with
              | cons second out => simp
              | nil =>
                  obtain rfl : first = line := by simpa using hlast
                  exact absurd (by rw [hempty]) h
        simp [hempty, hlong]
      · simp [hempty, hne]

theorem foldl_append_eq_setApart {bodies : List (List String)}
    (hfull : ∀ body ∈ bodies, EndsFull body) {out : List String}
    (hout : out ≠ [""]) :
    bodies.foldl Excerpt.append out = setApart out bodies := by
  induction bodies generalizing out with
  | nil => rfl
  | cons body bodies ih =>
      have hbody := hfull body List.mem_cons_self
      have hnext := (hbody.excerpt_append out).ne_single
      rw [List.foldl_cons, ih (fun b hb => hfull b (List.mem_cons_of_mem _ hb)) hnext,
        append_eq_follow hout]
      rfl

/-- Behind a single empty line, the first definition is given another one. -/
theorem foldl_append_single {body : List String} {bodies : List (List String)}
    (hfull : ∀ b ∈ body :: bodies, EndsFull b) :
    (body :: bodies).foldl Excerpt.append [""] =
      "" :: setApart [""] (body :: bodies) := by
  have hrest := fun b hb => hfull b (List.mem_cons_of_mem _ hb)
  have hbody := hfull body List.mem_cons_self
  have hfirst : Excerpt.append [""] body = ["", ""] ++ body := rfl
  have hrule : follow [""] body = [""] ++ body := rfl
  rw [List.foldl_cons, setApart, List.foldl_cons, hfirst, hrule]
  change _ = "" :: setApart _ _
  rw [← foldl_append_eq_setApart hrest (hbody.append [""]).ne_single,
    foldl_append_full hrest (hbody.append ["", ""]),
    foldl_append_full hrest (hbody.append [""])]
  rfl

theorem unlines_cons_empty (ls : List String) :
    Text.unlines ("" :: ls) = "\n" ++ Text.unlines ls := by
  rw [← List.singleton_append, Text.unlines_append]
  rfl

/-! ## In front of each definition -/

/-- A definition is first, or an empty line stands in front of it. -/
theorem exists_front_of_foldl_append (before after : List (List String))
    (body out : List String) :
    ∃ front back, (before ++ body :: after).foldl Excerpt.append out =
        front ++ body ++ back ∧
      (front = [] ∨ front.getLast? = some "") := by
  rw [List.foldl_append, List.foldl_cons]
  generalize before.foldl Excerpt.append out = out'
  obtain ⟨more, hmore⟩ := exists_foldl_append after (Excerpt.append out' body)
  rw [hmore]
  unfold Excerpt.append
  split
  · next hset =>
      refine ⟨out', more, rfl, ?_⟩
      simp only [setOff, Bool.or_eq_true, List.isEmpty_iff, Bool.and_eq_true,
        beq_iff_eq] at hset
      exact hset.imp_right And.right
  · exact ⟨out' ++ [""], more, by simp, .inr (by simp)⟩

namespace Document

/-- One rule for every separator. The text of an excerpt is made of the lines
outside definitions, and of the selected definitions behind them, in the order of
the document, every line ended by a line feed. A definition is set apart by an
empty line exactly when some line stands before it and the last of these is not
empty, unless a definition is selected and the only line outside definitions is
an empty one; then, and only then, there is one more empty line than that, and it
stands in front. In any case a definition comes first or behind an empty line. -/
theorem render_eq_setApart {text : String} {doc : Document}
    (h : parse text = .ok doc) (s : Selection) :
    let bodies := (doc.selected s).map Prod.snd
    let ruled := setApart (preamble doc) bodies
    (render doc s = Text.unlines ruled ↔
      ¬ (preamble doc = [""] ∧ bodies ≠ [])) ∧
    (preamble doc = [""] ∧ bodies ≠ [] →
      render doc s = "\n" ++ Text.unlines ruled) ∧
    ∀ before body after, bodies = before ++ body :: after →
      ∃ front back, render doc s = Text.unlines (front ++ body ++ back) ∧
        (front = [] ∨ front.getLast? = some "") := by
  intro bodies ruled
  have hfull : ∀ body ∈ bodies, EndsFull body := by
    intro body hbody
    obtain ⟨f, hf, rfl⟩ := List.mem_map.1 hbody
    exact endsFull_of_valid (valid_of_mem_functions h (List.mem_filter.1 hf).1)
  have hrender : render doc s =
      Text.unlines (bodies.foldl Excerpt.append (preamble doc)) := by
    rw [render_eq_unlines h, lines_excerpt (names_nodup h)]
  have hrare : preamble doc = [""] ∧ bodies ≠ [] →
      render doc s = "\n" ++ Text.unlines ruled := by
    intro hcase
    obtain ⟨hkept, hsome⟩ := hcase
    obtain ⟨body, rest, hcons⟩ := List.exists_cons_of_ne_nil hsome
    have hruled : ruled = setApart [""] (body :: rest) := by
      rw [← hkept, ← hcons]
    rw [hcons] at hfull
    rw [hrender, hkept, hcons, foldl_append_single hfull, ← hruled]
    exact unlines_cons_empty ruled
  refine ⟨⟨fun heq hcase => ?_, fun hcase => ?_⟩, hrare, ?_⟩
  · rw [hrare hcase] at heq
    have hlength := congrArg (fun t => t.toList.length) heq
    simp at hlength
  · rw [hrender]
    by_cases hkept : preamble doc = [""]
    · have hnone : bodies = [] := by
        by_contra hsome
        exact hcase ⟨hkept, hsome⟩
      simp only [ruled, hnone]
      rfl
    · rw [foldl_append_eq_setApart hfull hkept]
  · intro before body after hsplit
    obtain ⟨front, back, hfold, hfront⟩ :=
      exists_front_of_foldl_append before after body (preamble doc)
    refine ⟨front, back, ?_, hfront⟩
    rw [hrender, hsplit, hfold]

/-- Behind two lines the rule holds. Behind a single empty line, which would have
been enough, there is another one. -/
theorem render_eq_setApart_sample :
    let b := Selection.empty.insert "b" 0
    let f := Selection.empty.insert "f" 0
    let doc : Document := ⟨["", "define void @f() \x7b", "\x7d"],
      [.other ⟨1, 1⟩, .definition ⟨"f", ⟨2, 3⟩⟩]⟩
    (parse sampleText = .ok sample ∧ render sample b = Text.unlines
      (setApart (preamble sample) ((sample.selected b).map Prod.snd))) ∧
    parse "\ndefine void @f() \x7b\n\x7d\n" = .ok doc ∧
      Text.unlines (setApart (preamble doc) ((doc.selected f).map Prod.snd)) =
        "\ndefine void @f() \x7b\n\x7d\n" ∧
      render doc f = "\n\ndefine void @f() \x7b\n\x7d\n" := by
  intro b f doc
  have hparse : parse "\ndefine void @f() \x7b\n\x7d\n" = .ok doc :=
    ok_of_toOption (by decide +kernel)
  have hruled : Text.unlines
      (setApart (preamble doc) ((doc.selected f).map Prod.snd)) =
        "\ndefine void @f() \x7b\n\x7d\n" := by decide +kernel
  refine ⟨⟨parse_sampleText, ?_⟩, hparse, hruled, ?_⟩
  · exact (render_eq_setApart parse_sampleText b).1.2 (by decide +kernel)
  · rw [(render_eq_setApart hparse f).2.1 (by decide +kernel), hruled]
    rfl

end Document

end IrExcerpt
