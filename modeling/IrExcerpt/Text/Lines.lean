/-!
# Lines

A text is cut into lines at each line feed. A carriage return right before a
line feed belongs to the line end and not to the line; a carriage return that
ends an unterminated last line is part of that line. No line follows a final
line feed, so putting lines together with `unlines` ends every one of them.
-/

namespace IrExcerpt.Text

/-- A line end's carriage return, taken off a line that is held backwards. -/
def dropReturn : List Char → List Char
  | '\r' :: rest => rest
  | cs => cs

/-- The lines of a text when `current`, held backwards, has already been read
of the first one. -/
def linesFrom (current : List Char) : List Char → List (List Char)
  | [] => if current.isEmpty then [] else [current.reverse]
  | c :: rest =>
    if c = '\n' then (dropReturn current).reverse :: linesFrom [] rest
    else linesFrom (c :: current) rest

/-- The lines of a text, without their ends. -/
def lines (text : String) : List String :=
  (linesFrom [] text.toList).map String.ofList

/-- Lines put together, each ended by one line feed. -/
def unlines (ls : List String) : String :=
  String.join (ls.map (· ++ "\n"))

/-- Whether a line ends in a carriage return, which a line end would take. -/
def endsInReturn (line : String) : Bool :=
  line.toList.getLast? == some '\r'

/-! ## Putting lines together and cutting them again -/

theorem dropReturn_sublist (cs : List Char) : (dropReturn cs).Sublist cs := by
  unfold dropReturn
  split
  · exact List.sublist_cons_self _ _
  · exact List.Sublist.refl _

theorem dropReturn_eq_self {cs : List Char} (h : cs.head? ≠ some '\r') : dropReturn cs = cs := by
  unfold dropReturn
  split
  · simp at h
  · rfl

theorem newline_not_mem_linesFrom {current cs line : List Char} (hcur : '\n' ∉ current)
    (hline : line ∈ linesFrom current cs) : '\n' ∉ line := by
  induction cs generalizing current with
  | nil =>
    unfold linesFrom at hline
    split at hline
    · exact absurd hline List.not_mem_nil
    · rw [List.mem_singleton.1 hline, List.mem_reverse]
      exact hcur
  | cons c rest ih =>
    unfold linesFrom at hline
    split at hline
    · rcases List.mem_cons.1 hline with rfl | hline
      · rw [List.mem_reverse]
        exact fun hmem => hcur ((dropReturn_sublist current).mem hmem)
      · exact ih List.not_mem_nil hline
    · next hc =>
      refine ih (fun hmem => ?_) hline
      rcases List.mem_cons.1 hmem with h | h
      · exact hc h.symm
      · exact hcur h

/-- A line has no line feed in it. -/
theorem newline_not_mem_lines {text line : String} (h : line ∈ lines text) : '\n' ∉ line.toList := by
  obtain ⟨cs, hcs, rfl⟩ := List.mem_map.1 h
  rw [String.toList_ofList]
  exact newline_not_mem_linesFrom List.not_mem_nil hcs

theorem linesFrom_append_newline {current line rest : List Char} (h : '\n' ∉ line) :
    linesFrom current (line ++ '\n' :: rest) =
      (dropReturn (line.reverse ++ current)).reverse :: linesFrom [] rest := by
  induction line generalizing current with
  | nil => simp [linesFrom]
  | cons c line ih =>
    have hc : c ≠ '\n' := fun hc => h (hc ▸ List.mem_cons_self)
    have hline : '\n' ∉ line := fun hmem => h (List.mem_cons_of_mem _ hmem)
    simp [linesFrom, hc, ih hline]

/-- Lines that end neither in a line feed nor in a carriage return are cut where
they were put together. -/
theorem lines_unlines {ls : List String}
    (h : ∀ line ∈ ls, '\n' ∉ line.toList ∧ endsInReturn line = false) :
    lines (unlines ls) = ls := by
  induction ls with
  | nil => rfl
  | cons line rest ih =>
    obtain ⟨hnewline, hreturn⟩ := h line List.mem_cons_self
    have hrest := ih fun l hl => h l (List.mem_cons_of_mem _ hl)
    have htext : (unlines (line :: rest)).toList = line.toList ++ '\n' :: (unlines rest).toList := by
      simp [unlines]
    have hkeep : dropReturn line.toList.reverse = line.toList.reverse := by
      apply dropReturn_eq_self
      simpa [endsInReturn, List.head?_reverse] using hreturn
    unfold lines at hrest ⊢
    rw [htext, linesFrom_append_newline hnewline, List.map_cons, hrest]
    simp [hkeep]

theorem linesFrom_append {current cs rest : List Char}
    (h : cs.getLast? = some '\n') :
    linesFrom current (cs ++ rest) = linesFrom current cs ++ linesFrom [] rest := by
  induction cs generalizing current with
  | nil => cases h
  | cons c cs ih =>
    cases cs with
    | nil =>
      obtain rfl : c = '\n' := by simpa using h
      simp [linesFrom]
    | cons c' cs =>
      have hlast : (c' :: cs).getLast? = some '\n' := by
        rwa [List.getLast?_cons_cons] at h
      rw [List.cons_append, linesFrom, linesFrom]
      split
      · rw [ih hlast, List.cons_append]
      · exact ih hlast

/-- Behind a text that a line feed ends, the lines of another one start afresh. -/
theorem lines_append {a b : String} (h : a = "" ∨ a.toList.getLast? = some '\n') :
    lines (a ++ b) = lines a ++ lines b := by
  rcases h with rfl | h
  · rw [String.empty_append]
    rfl
  · rw [lines, String.toList_append, linesFrom_append h, List.map_append]
    rfl

end IrExcerpt.Text
