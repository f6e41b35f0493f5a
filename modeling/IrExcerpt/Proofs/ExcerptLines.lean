import IrExcerpt.Excerpt
import IrExcerpt.Text.Lines
import Mathlib.Data.List.Infix
import Mathlib.Data.String.Basic

/-!
# Excerpts line by line

An excerpt is written as one text, and whether a definition is to be set off is
read off the end of this text. A text that is put together from lines can be
looked at line by line instead: it ends in two line feeds if its last line is
empty and another one stands in front of it, and in no other way, since there is
no line feed in a line. So an excerpt is a list of lines put together
(`render_eq_unlines`), and all that is to be said of it is said of these lines.
-/

namespace IrExcerpt

namespace Text

theorem unlines_append (as bs : List String) :
    unlines (as ++ bs) = unlines as ++ unlines bs := by
  rw [unlines, List.map_append, String.join_append]
  rfl

theorem unlines_singleton (line : String) : unlines [line] = line ++ "\n" :=
  String.empty_append

theorem toList_unlines_concat (ls : List String) (line : String) :
    (unlines (ls ++ [line])).toList =
      (unlines ls).toList ++ line.toList ++ ['\n'] := by
  rw [unlines_append, unlines_singleton, String.toList_append,
    String.toList_append, List.append_assoc]
  rfl

theorem getLast?_unlines {ls : List String} (h : ls ≠ []) :
    (unlines ls).toList.getLast? = some '\n' := by
  obtain ⟨front, line, rfl⟩ := (List.eq_nil_or_concat' ls).resolve_left h
  rw [toList_unlines_concat, List.getLast?_concat]

theorem isEmpty_unlines (ls : List String) :
    (unlines ls).isEmpty = ls.isEmpty := by
  cases ls with
  | nil => rfl
  | cons line ls =>
      have hlast := getLast?_unlines (List.cons_ne_nil line ls)
      show _ = false
      rw [String.isEmpty_eq_false_iff]
      intro hempty
      rw [hempty] at hlast
      cases hlast

/-- A text of lines ends in two line feeds if its last line is empty and not the
only one. -/
theorem endsWith_unlines {ls : List String}
    (h : ∀ line ∈ ls, '\n' ∉ line.toList) :
    (unlines ls).endsWith "\n\n" =
      (2 ≤ ls.length && ls.getLast? == some "") := by
  rw [Bool.eq_iff_iff, String.endsWith_eq_endsWith_toSlice,
    String.Slice.endsWith_string_iff, String.copy_toSlice]
  rcases List.eq_nil_or_concat' ls with rfl | ⟨front, line, rfl⟩
  · decide
  · rw [toList_unlines_concat]
    show ['\n'] ++ ['\n'] <:+ _ ↔ _
    rw [List.suffix_append_self_iff, List.singleton_suffix_iff_getLast?_eq_some,
      List.getLast?_append, List.getLast?_concat]
    cases hline : line.toList.getLast? with
    | none =>
        -- Behind an empty line, the line feed in front is that of the line before.
        obtain rfl : line = "" :=
          String.toList_eq_nil_iff.1 (List.getLast?_eq_none_iff.1 hline)
        cases front with
        | nil => decide
        | cons first front => simp [getLast?_unlines]
    | some c =>
        have hc : c ≠ '\n' := by
          rintro rfl
          exact h line (by simp) (List.mem_of_getLast? hline)
        have hne : line ≠ "" := by
          rintro rfl
          cases hline
        simp [hc, hne]

end Text

namespace Excerpt

/-! ## Lines set off -/

/-- Whether a definition may follow these lines directly: there are none, or
their text ends in two line feeds. An empty line that stands alone does not set
anything off. -/
def setOff (out : List String) : Bool :=
  out.isEmpty || (2 ≤ out.length && out.getLast? == some "")

/-- A definition's lines behind others, with the separating line if one is
needed. -/
def append (out body : List String) : List String :=
  if setOff out then out ++ body else out ++ "" :: body

/-- The lines of the excerpt. -/
def lines (doc : Document) (s : Selection) : List String :=
  let bodies := (s.inDocumentOrder doc).filterMap fun name => (doc.find? name).map doc.body
  bodies.foldl append (preamble doc)

/-- What is added to the lines stands behind them. -/
theorem exists_foldl_append (bodies : List (List String)) (out : List String) :
    ∃ more, bodies.foldl append out = out ++ more := by
  induction bodies generalizing out with
  | nil => exact ⟨[], by simp⟩
  | cons body bodies ih =>
      obtain ⟨more, hmore⟩ := ih (append out body)
      rw [List.foldl_cons, hmore]
      unfold append
      split
      · exact ⟨body ++ more, by simp⟩
      · exact ⟨"" :: body ++ more, by simp⟩

/-! ## The text of the lines -/

theorem foldl_pushLine (ls : List String) (out : String) :
    ls.foldl pushLine out = out ++ Text.unlines ls := by
  induction ls generalizing out with
  | nil => exact (String.append_empty).symm
  | cons line ls ih =>
      rw [List.foldl_cons, ih, pushLine, ← List.singleton_append,
        Text.unlines_append, Text.unlines_singleton]
      simp only [String.append_assoc]

theorem separate_unlines {out : List String}
    (h : ∀ line ∈ out, '\n' ∉ line.toList) :
    separate (Text.unlines out) =
      if setOff out then Text.unlines out else Text.unlines (out ++ [""]) := by
  rw [separate, Text.endsWith_unlines h, Text.isEmpty_unlines, ← Bool.not_or,
    Text.unlines_append]
  show (if !setOff out then _ else _) = _
  cases setOff out <;> rfl

theorem pushBody_unlines {out : List String}
    (h : ∀ line ∈ out, '\n' ∉ line.toList) (body : List String) :
    pushBody (Text.unlines out) body = Text.unlines (append out body) := by
  rw [pushBody, foldl_pushLine, separate_unlines h, append]
  split
  · rw [Text.unlines_append]
  · rw [← Text.unlines_append, List.append_assoc]
    rfl

theorem foldl_pushBody_unlines {bodies : List (List String)} {out : List String}
    (h : ∀ line ∈ bodies.foldl append out, '\n' ∉ line.toList) :
    bodies.foldl pushBody (Text.unlines out) =
      Text.unlines (bodies.foldl append out) := by
  induction bodies generalizing out with
  | nil => rfl
  | cons body bodies ih =>
      obtain ⟨more, hmore⟩ := exists_foldl_append (body :: bodies) out
      have hout : ∀ line ∈ out, '\n' ∉ line.toList := fun line hline =>
        h line (hmore ▸ List.mem_append_left more hline)
      rw [List.foldl_cons, List.foldl_cons, pushBody_unlines hout]
      exact ih h

/-- An excerpt is its lines put together, if there is no line feed in them. -/
theorem render_eq_unlines {doc : Document} {s : Selection}
    (h : ∀ line ∈ lines doc s, '\n' ∉ line.toList) :
    render doc s = Text.unlines (lines doc s) := by
  rw [render, foldl_pushLine, String.empty_append]
  exact foldl_pushBody_unlines h

end Excerpt

end IrExcerpt
