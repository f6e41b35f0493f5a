import IrExcerpt.Proofs.ReadBack

/-!
# A carriage return at a line's end

A line that ends in a carriage return does not survive being put together and
cut again: the return goes with the line end. `lines_unlines_eq_map` says that
this is all that happens. And it does not matter to a reader of documents. The
return is a blank, so it ends no name and is part of no gap before a
parenthesis; it is neither a brace nor a parenthesis; and the one thing it can
do, which is to end a keyword that nothing follows, makes a declaration without
a name out of a line and never a definition.

So blocks without their returns are blocks that define the same names, and the
excerpt of any document can be read back, whatever its lines end in.
-/

namespace IrExcerpt

namespace Text

/-- A line without the carriage return that a line end would take. -/
def chomp (line : String) : String :=
  String.ofList (dropReturn line.toList.reverse).reverse

/-- A line is its own remainder, or has a carriage return behind it. -/
theorem toList_eq_chomp (line : String) :
    line.toList = (chomp line).toList ∨
      line.toList = (chomp line).toList ++ ['\r'] := by
  rw [chomp, String.toList_ofList]
  rcases hrev : line.toList.reverse with _ | ⟨c, rest⟩
  · left
    rw [← List.reverse_reverse line.toList, hrev]
    rfl
  · rw [← List.reverse_reverse line.toList, hrev]
    by_cases hc : c = '\r'
    · right
      rw [hc, List.reverse_cons]
      rfl
    · left
      rw [dropReturn_eq_self (by simpa using hc)]

theorem dropReturn_append {c : Char} (hc : c ≠ '\r') (cs ds : List Char) :
    dropReturn (cs ++ c :: ds) = dropReturn cs ++ c :: ds := by
  cases cs with
  | nil => exact dropReturn_eq_self (by simpa using hc)
  | cons d cs =>
      by_cases hd : d = '\r'
      · subst hd
        rfl
      · rw [dropReturn_eq_self (by simpa using hd),
          dropReturn_eq_self (by simpa using hd)]

/-- Behind a character that is no carriage return, what follows it is without
its own. -/
theorem toList_chomp_append {line : String} {front rest : List Char} {c : Char}
    (hline : line.toList = front ++ c :: rest) (hc : c ≠ '\r') :
    (chomp line).toList = front ++ c :: (dropReturn rest.reverse).reverse := by
  rw [chomp, String.toList_ofList, hline, List.reverse_append, List.reverse_cons,
    List.append_assoc, List.singleton_append, dropReturn_append hc]
  simp

theorem linesFrom_of_newline_not_mem {cs : List Char} (h : '\n' ∉ cs)
    (current : List Char) :
    linesFrom current cs = linesFrom (cs.reverse ++ current) [] := by
  induction cs generalizing current with
  | nil => rfl
  | cons c cs ih =>
      have hc : c ≠ '\n' := fun heq => h (heq ▸ List.mem_cons_self)
      have hcs : '\n' ∉ cs := fun hmem => h (List.mem_cons_of_mem _ hmem)
      have hstep : linesFrom current (c :: cs) = linesFrom (c :: current) cs := by
        rw [linesFrom, if_neg hc]
      rw [hstep, ih hcs, List.reverse_cons, List.append_assoc,
        List.singleton_append]

/-- A text without a line end is one line. -/
theorem lines_of_newline_not_mem {line : String} (hne : line.toList ≠ [])
    (h : '\n' ∉ line.toList) : lines line = [line] := by
  rw [lines, linesFrom_of_newline_not_mem h, List.append_nil, linesFrom]
  simp [hne]

/-- Putting lines together and cutting them again takes a carriage return off
each of them. -/
theorem lines_unlines_eq_map {ls : List String}
    (h : ∀ line ∈ ls, '\n' ∉ line.toList) :
    lines (unlines ls) = ls.map chomp := by
  induction ls with
  | nil => rfl
  | cons line rest ih =>
      have hrest := ih fun l hl => h l (List.mem_cons_of_mem _ hl)
      have htext : (unlines (line :: rest)).toList =
          line.toList ++ '\n' :: (unlines rest).toList := by
        simp [unlines]
      unfold lines at hrest ⊢
      rw [htext, linesFrom_append_newline (h line List.mem_cons_self),
        List.map_cons, hrest, List.append_nil]
      rfl

end Text

namespace Document

open IrExcerpt.Text

/-! ## Names and gaps

A blank behind a text changes nothing that is read from it. It is no part of a
name, and a gap that nothing but a blank follows leads to no parenthesis. -/

theorem toNat_of_isAlphanum {c : Char} (h : c.isAlphanum = true) :
    48 ≤ c.toNat ∧ c.toNat ≤ 57 ∨ 65 ≤ c.toNat ∧ c.toNat ≤ 122 := by
  rcases Bool.or_eq_true_iff.1 (show (c.isAlpha || c.isDigit) = true from h) with h | h
  · right
    rcases Bool.or_eq_true_iff.1 (show (c.isUpper || c.isLower) = true from h) with h | h
    · have hrange : 65 ≤ c.toNat ∧ c.toNat ≤ 90 := of_decide_eq_true h
      omega
    · obtain ⟨hfirst, hlast⟩ := Bool.and_eq_true_iff.1 h
      have hfirst : 97 ≤ c.toNat := of_decide_eq_true hfirst
      have hlast : c.toNat ≤ 122 := of_decide_eq_true hlast
      omega
  · left
    obtain ⟨hfirst, hlast⟩ := Bool.and_eq_true_iff.1 h
    exact ⟨of_decide_eq_true hfirst, of_decide_eq_true hlast⟩

theorem isBoundary_of_isSymbolChar {c : Char} (h : isSymbolChar c = true) :
    CallSite.isBoundary c = false := by
  have hsign : ∀ {sign : Char}, (c == sign) = true → c.toNat = sign.toNat := by
    intro sign heq
    rw [beq_iff_eq.1 heq]
  have hrange : 36 ≤ c.toNat ∧ c.toNat ≤ 122 ∧ c.toNat ≠ 61 := by
    simp only [isSymbolChar, Bool.or_eq_true] at h
    rcases h with (((h | h) | h) | h) | h
    · have hletter := toNat_of_isAlphanum h
      omega
    all_goals
      rw [hsign h]
      decide
  have hequals : (c == '=') = false := by
    rw [beq_eq_false_iff_ne]
    rintro rfl
    exact hrange.2.2 rfl
  rw [CallSite.isBoundary, hequals, Bool.or_false]
  simp only [isBlank]
  simp
  omega

theorem isSymbolChar_of_isBlank {c : Char} (h : isBlank c = true) :
    isSymbolChar c = false := by
  rw [← Bool.not_eq_true]
  intro hsymbol
  have hboundary := isBoundary_of_isSymbolChar hsymbol
  simp [CallSite.isBoundary, h] at hboundary

theorem quoted?_cons {c : Char} (hquote : c ≠ '"') (hescape : c ≠ '\\')
    (rest : List Char) :
    quoted? (c :: rest) =
      (quoted? rest).map fun (name, tail) => (c :: name, tail) := by
  rw [quoted?] <;> simp_all

theorem symbol?_bare {cs : List Char} (h : cs.head? ≠ some '"') :
    symbol? cs =
      if (cs.takeWhile isSymbolChar).isEmpty then none
      else some (cs.takeWhile isSymbolChar, cs.dropWhile isSymbolChar) := by
  rw [symbol?]
  rintro rest rfl
  exact h rfl

section Blank

variable {b : Char} (hb : isBlank b = true)

include hb

theorem ne_of_isBlank {c : Char} (hc : isBlank c = false) : b ≠ c := by
  rintro rfl
  rw [hb] at hc
  cases hc

theorem trimStart_append_blank (cs : List Char) :
    trimStart (cs ++ [b]) =
      if trimStart cs = [] then [] else trimStart cs ++ [b] := by
  unfold trimStart
  rw [List.dropWhile_append]
  simp only [List.isEmpty_iff, List.dropWhile_cons, hb, if_pos,
    List.dropWhile_nil]

theorem quoted?_append_blank (cs : List Char) :
    quoted? (cs ++ [b]) =
      (quoted? cs).map fun (name, tail) => (name, tail ++ [b]) := by
  fun_induction quoted? cs with
  | case1 =>
      rw [List.nil_append, quoted?_cons (ne_of_isBlank hb rfl)
        (ne_of_isBlank hb rfl)]
      rfl
  | case2 rest => rfl
  | case3 rest => simp [quoted?]
  | case4 c rest hc ih =>
      simp only [List.cons_append, quoted?, if_neg hc, ih, Option.map_map]
      rfl
  | case5 => simp [quoted?]
  | case6 c rest hquote hescape hlone ih =>
      have hplain : c ≠ '\\' := by
        intro hc
        cases rest with
        | nil => exact hlone hc rfl
        | cons d rest => exact hescape d rest hc rfl
      rw [List.cons_append, quoted?_cons hquote hplain, ih, Option.map_map,
        Option.map_map]
      rfl

theorem symbol?_append_blank (cs : List Char) :
    symbol? (cs ++ [b]) =
      (symbol? cs).map fun (name, tail) => (name, tail ++ [b]) := by
  have hend := isSymbolChar_of_isBlank hb
  have htake : (cs ++ [b]).takeWhile isSymbolChar =
      cs.takeWhile isSymbolChar := by
    rw [List.takeWhile_append]
    split
    · next hall =>
        rw [(List.takeWhile_prefix _).eq_of_length hall]
        simp [hend]
    · rfl
  have hdrop : (cs ++ [b]).dropWhile isSymbolChar =
      cs.dropWhile isSymbolChar ++ [b] := by
    rw [List.dropWhile_append]
    split
    · next hnone =>
        rw [List.isEmpty_iff.1 hnone]
        simp [hend]
    · rfl
  by_cases hquote : cs.head? = some '"'
  · obtain ⟨rest, rfl⟩ := List.head?_eq_some_iff.1 hquote
    exact quoted?_append_blank hb rest
  · have hquote' : (cs ++ [b]).head? ≠ some '"' := by
      cases cs with
      | nil => simpa using ne_of_isBlank hb (c := '"') rfl
      | cons c cs => exact hquote
    rw [symbol?_bare hquote', symbol?_bare hquote, htake, hdrop]
    split <;> rfl

theorem operand?_append_blank (cs : List Char) :
    operand? (cs ++ [b]) =
      (operand? cs).map fun op => { op with rest := op.rest ++ [b] } := by
  unfold operand?
  rw [symbol?_append_blank hb]
  cases hsymbol : symbol? cs with
  | none => rfl
  | some found =>
      obtain ⟨name, tail⟩ := found
      simp only [Option.map_some, trimStart_append_blank hb]
      cases htrim : trimStart tail with
      | nil => simp
      | cons c rest =>
          by_cases hc : c = '('
          · subst hc
            simp
          · simp [hc]

theorem findOperand?_append_blank (sigil : Char → Bool) (cs : List Char) :
    findOperand? sigil (cs ++ [b]) =
      (findOperand? sigil cs).map fun (c, op) =>
        (c, { op with rest := op.rest ++ [b] }) := by
  induction cs with
  | nil =>
      have hnone : operand? [] = none := rfl
      simp [findOperand?, hnone]
  | cons c cs ih =>
      rw [List.cons_append, findOperand?, findOperand?, operand?_append_blank hb]
      by_cases hc : sigil c = true
      · simp only [if_pos hc]
        cases operand? cs with
        | none => exact ih
        | some op => rfl
      · simp only [if_neg hc]
        exact ih

end Blank

/-- A header names the same function with a carriage return behind it. -/
theorem headerSymbol?_append_return (cs : List Char) :
    headerSymbol? (cs ++ ['\r']) =
      (headerSymbol? cs).map fun (name, rest) => (name, rest ++ ['\r']) := by
  unfold headerSymbol?
  rw [findOperand?_append_blank rfl]
  cases findOperand? (· == '@') cs with
  | none => rfl
  | some found =>
      obtain ⟨sigil, op⟩ := found
      simp only [Option.map_some]
      split <;> rfl

/-! ## Keywords -/

theorem startsWithKeyword_cons (k c : Char) (keyword rest : List Char) :
    startsWithKeyword (k :: keyword) (c :: rest) =
      (k == c && startsWithKeyword keyword rest) := by
  rw [startsWithKeyword, startsWithKeyword, List.isPrefixOf_cons_cons,
    Bool.and_assoc]
  rfl

theorem startsWithKeyword_append_return (keyword text : List Char) :
    startsWithKeyword keyword (text ++ ['\r']) =
      (startsWithKeyword keyword text || text == keyword) := by
  induction keyword generalizing text with
  | nil =>
      cases text with
      | nil => rfl
      | cons c text => simp [startsWithKeyword]
  | cons k keyword ih =>
      cases text with
      | nil => cases keyword <;> simp [startsWithKeyword]
      | cons c text =>
          rw [List.cons_append, startsWithKeyword_cons, startsWithKeyword_cons,
            ih, List.cons_beq_cons, Bool.and_or_distrib_left,
            Bool.beq_comm (a := c)]

theorem findOperand?_eq_none {cs : List Char} (h : '@' ∉ cs) :
    findOperand? (· == '@') cs = none := by
  induction cs with
  | nil => rfl
  | cons c cs ih =>
      have hc : (c == '@') = false := by
        simpa using fun heq : c = '@' => h (heq ▸ List.mem_cons_self)
      rw [findOperand?, hc]
      exact ih fun hmem => h (List.mem_cons_of_mem _ hmem)

theorem headerSymbol?_of_bare_keyword {cs keyword : List Char}
    (htext : trimStart cs = keyword) (hname : '@' ∉ keyword) :
    headerSymbol? cs = none := by
  have hnone : '@' ∉ cs := by
    rw [← List.takeWhile_append_dropWhile (p := isBlank) (l := cs),
      List.mem_append]
    rintro (hblank | hmem)
    · have := List.all_eq_true.1 List.all_takeWhile '@' hblank
      simp [isBlank] at this
    · exact hname (htext ▸ hmem)
  rw [headerSymbol?, findOperand?_eq_none hnone]

/-- A carriage return changes the kind of a line only where it ends a keyword
that nothing follows, and such a line names nobody. -/
theorem lineKind_append_return (cs : List Char) :
    lineKind (cs ++ ['\r']) = lineKind cs ∨
      lineKind cs = .other ∧ headerSymbol? cs = none := by
  unfold lineKind
  rw [trimStart_append_blank rfl]
  by_cases hempty : trimStart cs = []
  · rw [if_pos hempty, hempty]
    exact .inl rfl
  · rw [if_neg hempty]
    simp only [startsWithKeyword_append_return]
    by_cases hdefine : trimStart cs = ['d', 'e', 'f', 'i', 'n', 'e']
    · right
      exact ⟨by rw [hdefine]; rfl,
        headerSymbol?_of_bare_keyword hdefine (by decide)⟩
    · by_cases hdeclare : trimStart cs = ['d', 'e', 'c', 'l', 'a', 'r', 'e']
      · right
        exact ⟨by rw [hdeclare]; rfl,
          headerSymbol?_of_bare_keyword hdeclare (by decide)⟩
      · left
        rw [beq_false_of_ne hdefine, beq_false_of_ne hdeclare, Bool.or_false,
          Bool.or_false]

/-! ## Braces -/

@[simp] theorem step_return (s : BodyScan) : s.step '\r' = s := by
  cases s <;> rfl

theorem foldl_structural_append_return (mode : Lexis) (cs : List Char)
    (s : BodyScan) :
    (structuralFrom mode (cs ++ ['\r'])).foldl BodyScan.step s =
      (structuralFrom mode cs).foldl BodyScan.step s := by
  fun_induction structuralFrom mode cs generalizing s with
  | case1 mode => cases mode <;> simp [structuralFrom]
  | case2 rest ih => exact ih s
  | case3 rest => rfl
  | case4 c rest hquote hcomment ih =>
      rw [List.cons_append, structuralFrom, if_neg hquote, if_neg hcomment]
      exact ih (s.step c)
  | case5 c rest ih => exact ih s
  | case6 c rest ih => exact ih s

theorem feed_append_return (s : BodyScan) (cs : List Char) :
    s.feed (cs ++ ['\r']) = s.feed cs :=
  foldl_structural_append_return .plain cs s

/-! ## Blocks -/

theorem lineKind_chomp (line : String) :
    lineKind line.toList = lineKind (chomp line).toList ∨
      lineKind (chomp line).toList = .other ∧
        headerSymbol? (chomp line).toList = none := by
  rcases toList_eq_chomp line with heq | heq
  · rw [← heq]
    exact .inl rfl
  · rw [heq]
    exact lineKind_append_return (chomp line).toList

theorem feed_chomp (s : BodyScan) (line : String) :
    s.feed (chomp line).toList = s.feed line.toList := by
  rcases toList_eq_chomp line with heq | heq
  · rw [heq]
  · rw [heq, feed_append_return]

theorem headerSymbol?_chomp {line : String} {name params : List Char}
    (h : headerSymbol? line.toList = some (name, params)) :
    ∃ params', headerSymbol? (chomp line).toList = some (name, params') ∧
      ∀ s : BodyScan, s.feed params' = s.feed params := by
  rcases toList_eq_chomp line with heq | heq
  · rw [heq] at h
    exact ⟨params, h, fun _ => rfl⟩
  · rw [heq, headerSymbol?_append_return] at h
    obtain ⟨⟨name', params'⟩, hsymbol, hpair⟩ := Option.map_eq_some_iff.1 h
    cases hpair
    exact ⟨params', hsymbol, fun s => (feed_append_return s params').symm⟩

theorem closesAfter_chomp {s : BodyScan} {rest : List String}
    (h : s.ClosesAfter rest) : s.ClosesAfter (rest.map chomp) := by
  induction rest generalizing s with
  | nil => exact h
  | cons line rest ih =>
      obtain ⟨hopen, hrest⟩ := h
      refine ⟨hopen, ?_⟩
      rw [feed_chomp]
      exact ih hrest

/-- A block without the carriage returns at its lines' ends is a block. -/
theorem exists_chomped {b : Block} (h : b.Valid) :
    ∃ b' : Block, b'.Valid ∧ b'.lines = b.lines.map chomp ∧
      b'.name? = b.name? := by
  cases b with
  | definition name body =>
      obtain ⟨header, rest, symbol, params, rfl, hkind, hsymbol, hname, hclose⟩ := h
      obtain ⟨params', hsymbol', hfeed⟩ := headerSymbol?_chomp hsymbol
      refine ⟨.definition name ((header :: rest).map chomp),
        ⟨chomp header, rest.map chomp, symbol, params', List.map_cons, ?_,
          hsymbol', hname, ?_⟩, rfl, rfl⟩
      · rcases lineKind_chomp header with heq | ⟨-, hnone⟩
        · rw [← heq, hkind]
        · rw [hnone] at hsymbol'
          cases hsymbol'
      · rw [hfeed]
        exact closesAfter_chomp hclose
  | declaration name line =>
      have hkind : lineKind line.toList = .declare := h.1
      rcases lineKind_chomp line with heq | ⟨hother, -⟩
      · rw [hkind] at heq
        exact ⟨.declaration _ (chomp line), ⟨heq.symm, rfl⟩, rfl,
          by simp only [Block.name?]⟩
      · exact ⟨.other (chomp line), hother, rfl, rfl⟩
  | other line =>
      have hkind : lineKind line.toList = .other := h
      refine ⟨.other (chomp line), ?_, rfl, rfl⟩
      rcases lineKind_chomp line with heq | ⟨hother, -⟩
      · rw [hkind] at heq
        exact heq.symm
      · exact hother

theorem exists_all_chomped {bs : List Block} (h : ∀ b ∈ bs, b.Valid) :
    ∃ bs' : List Block, (∀ b ∈ bs', b.Valid) ∧
      bs'.flatMap Block.lines = (bs.flatMap Block.lines).map chomp ∧
      bs'.filterMap Block.name? = bs.filterMap Block.name? := by
  induction bs with
  | nil => exact ⟨[], h, rfl, rfl⟩
  | cons b bs ih =>
      obtain ⟨b', hvalid, hlines, hname⟩ := exists_chomped (h b List.mem_cons_self)
      obtain ⟨bs', hvalids, hall, hnames⟩ :=
        ih fun b hb => h b (List.mem_cons_of_mem _ hb)
      refine ⟨b' :: bs', ?_, ?_, ?_⟩
      · intro b hb
        rcases List.mem_cons.1 hb with rfl | hb
        · exact hvalid
        · exact hvalids b hb
      · rw [List.flatMap_cons, hlines, hall, List.flatMap_cons, List.map_append]
      · rw [List.filterMap_cons, hname, hnames, ← List.filterMap_cons]

/-- Lines that form a document still form one, with the same names, when the
carriage returns at their ends are gone. -/
theorem ofLines_map_chomp {ls : List String} {doc : Document}
    (h : ofLines ls = .ok doc) :
    ∃ doc', ofLines (ls.map chomp) = .ok doc' ∧ doc'.names = doc.names := by
  obtain ⟨bs, hvalid, hnodup, rfl, rfl⟩ := ofLines_eq_ok_iff.1 h
  obtain ⟨bs', hvalid', hlines, hnames⟩ := exists_all_chomped hvalid
  refine ⟨ofBlocks bs', ofLines_eq_ok_iff.2 ⟨bs', hvalid', ?_, hlines, rfl⟩, ?_⟩
  · rw [hnames]
    exact hnodup
  · rw [names_ofBlocks, names_ofBlocks, hnames]

/-! ## Excerpts -/

theorem newline_not_mem_excerpt {text : String} {doc : Document}
    (h : parse text = .ok doc) {s : Selection} {line : String}
    (hline : line ∈ Excerpt.lines doc s) : '\n' ∉ line.toList := by
  rcases mem_excerpt hline with hmem | rfl
  · rw [lines_of_parse h] at hmem
    exact newline_not_mem_lines hmem
  · simp

/-- The text of an excerpt is its lines put together. -/
theorem render_eq_unlines {text : String} {doc : Document}
    (h : parse text = .ok doc) (s : Selection) :
    Excerpt.render doc s = Text.unlines (Excerpt.lines doc s) :=
  Excerpt.render_eq_unlines fun _ hline => newline_not_mem_excerpt h hline

/-- The lines of an excerpt's text are the lines it was made of, carriage
returns at their ends apart. -/
theorem lines_render_eq_map {text : String} {doc : Document}
    (h : parse text = .ok doc) (s : Selection) :
    Text.lines (Excerpt.render doc s) = (Excerpt.lines doc s).map Text.chomp := by
  rw [render_eq_unlines h]
  exact Text.lines_unlines_eq_map fun _ hline => newline_not_mem_excerpt h hline

/-- Whatever its lines end in, the text of an excerpt is a document, and it
defines the selected functions and no others. -/
theorem names_of_parse_excerpt {text : String} {doc : Document}
    (h : parse text = .ok doc) (s : Selection) :
    ∃ doc', parse (Excerpt.render doc s) = .ok doc' ∧
      doc'.names = doc.names.filter s.contains := by
  obtain ⟨bs, hvalid, hnodup, -, hdoc⟩ := blocks_of_parse h
  obtain ⟨doc₁, hread, hback⟩ := ofLines_excerpt hvalid hnodup s
  rw [← hdoc] at hread hback
  obtain ⟨doc', hread', hnames⟩ := ofLines_map_chomp hread
  refine ⟨doc', ?_, ?_⟩
  · rw [parse, lines_render_eq_map h]
    exact hread'
  · rw [hnames, names, hback.functions, selected, names, List.filter_map]
    rfl

end Document

end IrExcerpt
