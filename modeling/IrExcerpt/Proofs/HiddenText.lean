import IrExcerpt.Proofs.CountedBraces

/-!
# What strings and comments cannot do

Where a definition ends is decided by characters that are shown, and strings
and comments show none of theirs. So nobody can move the end of a definition by
what he writes in a comment or between quotes, be it braces, quotes that are
escaped, or the words that open definitions.

The argument is about one line. Up to where the text is changed both readers see
the same characters, and they stand outside strings and comments there
(`Outside`). Behind the change one of two things holds: nothing is shown any
more, because a comment has begun; or both readers leave their strings, and the
same characters follow. Either way the line shows the same (`structural`) and is
of the same kind (`lineKind`), since a keyword ends in front of a quote and of a
semicolon. A line by which the reader is taken to the same state might as well
be the same line.

Headers are left out: behind `define` and `declare` a name is looked for, and it
may stand in quotes.
-/

namespace IrExcerpt.Document

open IrExcerpt.Text

/-! ## Lines that show the same -/

/-- The end of this text is outside strings and comments. -/
inductive Outside : List Char → Prop
  | nil : Outside []
  | char {c : Char} {cs : List Char} (hquote : c ≠ '"') (hcomment : c ≠ ';')
      (h : Outside cs) : Outside (c :: cs)
  | string {content cs : List Char} (hcontent : Escaped content)
      (h : Outside cs) : Outside ('"' :: (content ++ '"' :: cs))

/-- The second line is the first one with other text behind a `;` that begins a
comment, or with other content in a string that is closed. (A `;` within a
comment is a case of the `;` that begins it.) -/
inductive HiddenEdit : (line line' : List Char) → Prop
  | comment {front : List Char} (hfront : Outside front)
      (rest rest' : List Char) :
      HiddenEdit (front ++ ';' :: rest) (front ++ ';' :: rest')
  | string {front content content' : List Char} (hfront : Outside front)
      (hcontent : Escaped content) (hcontent' : Escaped content')
      (rest : List Char) :
      HiddenEdit (front ++ '"' :: (content ++ '"' :: rest))
        (front ++ '"' :: (content' ++ '"' :: rest))

theorem Outside.of_forall {cs : List Char}
    (h : ∀ c ∈ cs, c ≠ '"' ∧ c ≠ ';') : Outside cs := by
  induction cs with
  | nil => exact .nil
  | cons c cs ih =>
      obtain ⟨hquote, hcomment⟩ := h c List.mem_cons_self
      exact .char hquote hcomment (ih fun d hd => h d (List.mem_cons_of_mem _ hd))

theorem Escaped.structuralFrom {content : List Char} (h : Escaped content)
    (rest : List Char) :
    structuralFrom .quoted (content ++ '"' :: rest) = structural rest := by
  induction h with
  | nil => simp [Document.structuralFrom, structural]
  | plain hquote hescape _ ih =>
      simp only [List.cons_append, Document.structuralFrom, if_neg hquote,
        if_neg hescape]
      exact ih
  | pair hline _ ih =>
      simp only [List.cons_append, Document.structuralFrom, if_true]
      exact ih

theorem Escaped.structural {content : List Char} (h : Escaped content)
    (rest : List Char) :
    structural ('"' :: (content ++ '"' :: rest)) = structural rest := by
  rw [← h.structuralFrom rest]
  rfl

theorem Outside.structural_append {front : List Char} (h : Outside front)
    (rest : List Char) :
    structural (front ++ rest) = structural front ++ structural rest := by
  induction h with
  | nil => rfl
  | char hquote hcomment _ ih =>
      rw [List.cons_append, structural_char hquote hcomment,
        structural_char hquote hcomment, ih, List.cons_append]
  | string hcontent _ ih =>
      rw [List.cons_append, List.append_assoc, List.cons_append,
        hcontent.structural, hcontent.structural, ih]

theorem HiddenEdit.structural {line line' : List Char}
    (h : HiddenEdit line line') : structural line' = structural line := by
  cases h with
  | comment hfront rest rest' =>
      rw [hfront.structural_append, hfront.structural_append]
      rfl
  | string hfront hcontent hcontent' rest =>
      rw [hfront.structural_append, hfront.structural_append,
        hcontent.structural, hcontent'.structural]

/-! ## Lines of the same kind -/

theorem startsWithKeyword_append {keyword : List Char} {c : Char}
    (hword : c ∉ keyword) (hblank : isBlank c = false)
    (text rest : List Char) :
    startsWithKeyword keyword (text ++ c :: rest) =
      startsWithKeyword keyword text := by
  induction keyword generalizing text with
  | nil =>
      cases text with
      | nil => simp [startsWithKeyword, hblank]
      | cons d text => rfl
  | cons k keyword ih =>
      have hk : (k == c) = false := by
        rw [beq_eq_false_iff_ne]
        intro heq
        exact hword (heq ▸ List.mem_cons_self)
      cases text with
      | nil =>
          rw [List.nil_append, startsWithKeyword_cons, hk]
          rfl
      | cons d text =>
          have hrest := ih (fun hmem => hword (List.mem_cons_of_mem _ hmem)) text
          rw [List.cons_append, startsWithKeyword_cons, startsWithKeyword_cons,
            hrest]

/-- Neither blank nor in a keyword, the mark of a string or a comment ends what
decides the kind of its line. -/
theorem lineKind_append_mark {c : Char} (hc : c = '"' ∨ c = ';')
    (front rest : List Char) :
    lineKind (front ++ c :: rest) = lineKind front := by
  obtain ⟨hblank, hdefine, hdeclare⟩ : isBlank c = false ∧
      c ∉ ['d', 'e', 'f', 'i', 'n', 'e'] ∧
      c ∉ ['d', 'e', 'c', 'l', 'a', 'r', 'e'] := by
    rcases hc with rfl | rfl <;> decide
  have htrim : trimStart (front ++ c :: rest) = trimStart front ++ c :: rest := by
    unfold trimStart
    rw [List.dropWhile_append]
    split
    · next hempty =>
        rw [List.isEmpty_iff.1 hempty]
        simp [hblank]
    · rfl
  simp only [lineKind, htrim, startsWithKeyword_append hdefine hblank,
    startsWithKeyword_append hdeclare hblank]

theorem HiddenEdit.lineKind {line line' : List Char}
    (h : HiddenEdit line line') : lineKind line' = lineKind line := by
  cases h with
  | comment hfront rest rest' =>
      rw [lineKind_append_mark (.inr rfl), lineKind_append_mark (.inr rfl)]
  | string hfront hcontent hcontent' rest =>
      rw [lineKind_append_mark (.inl rfl), lineKind_append_mark (.inl rfl)]

/-! ## Reading on behind the line -/

namespace Reader

theorem step_of_hiddenEdit {r : Reader} {line line' : String}
    (h : HiddenEdit line.toList line'.toList)
    (hother : r.current = none → lineKind line.toList = .other) :
    r.step line' = r.step line := by
  unfold step
  cases hcurrent : r.current with
  | some d => simp only [BodyScan.feed, h.structural]
  | none => simp only [h.lineKind, hother hcurrent]

end Reader

theorem map_entities_ofLines (ls : List String) :
    (ofLines ls).map Document.entities =
      ls.foldlM Reader.step .start >>= Reader.finish := by
  unfold ofLines
  cases ls.foldlM Reader.step Reader.start with
  | error e => rfl
  | ok r =>
      change (r.finish >>= fun entities => pure _).map _ = r.finish
      cases r.finish with
      | error e => rfl
      | ok entities => rfl

/-- No definition is open behind lines that form a document. -/
theorem exists_ofLines_of_read {before : List String} {r : Reader}
    (hread : before.foldlM Reader.step .start = .ok r)
    (hcurrent : r.current = none) : ∃ doc, ofLines before = .ok doc := by
  refine ⟨⟨before, r.entities.reverse⟩, ?_⟩
  unfold ofLines
  rw [hread]
  change (r.finish >>= _) = _
  simp only [Reader.finish, hcurrent]
  rfl

theorem entities_ofLines_of_hiddenEdit {before later : List String}
    {line line' : String} (h : HiddenEdit line.toList line'.toList)
    (hother : ∀ doc, ofLines before = .ok doc →
      lineKind line.toList = .other) :
    (ofLines (before ++ line' :: later)).map Document.entities =
      (ofLines (before ++ line :: later)).map Document.entities := by
  rw [map_entities_ofLines, map_entities_ofLines, List.foldlM_append,
    List.foldlM_append]
  cases hread : before.foldlM Reader.step Reader.start with
  | error e => rfl
  | ok r =>
      have hstep : r.step line' = r.step line := by
        refine Reader.step_of_hiddenEdit h fun hcurrent => ?_
        obtain ⟨doc, hdoc⟩ := exists_ofLines_of_read hread hcurrent
        exact hother doc hdoc
      change ((line' :: later).foldlM Reader.step r >>= _) =
        ((line :: later).foldlM Reader.step r >>= _)
      rw [List.foldlM_cons, List.foldlM_cons, hstep]

/-! ## From lines to texts -/

theorem HiddenEdit.ne_nil {line line' : List Char} (h : HiddenEdit line line') :
    line ≠ [] ∧ line' ≠ [] := by
  cases h <;> simp

/-- The carriage return that a line end takes is part of the comment, or it is
behind the string. So the line without it has been edited in the same way, and
is of the same kind. -/
theorem HiddenEdit.chomp {line line' : String}
    (h : HiddenEdit line.toList line'.toList) :
    HiddenEdit (chomp line).toList (chomp line').toList ∧
      Document.lineKind (chomp line).toList = Document.lineKind line.toList := by
  generalize hcs : line.toList = cs at h
  generalize hcs' : line'.toList = cs' at h
  cases h with
  | comment hfront rest rest' =>
      rw [toList_chomp_append hcs (by decide),
        toList_chomp_append hcs' (by decide), lineKind_append_mark (.inr rfl),
        lineKind_append_mark (.inr rfl)]
      exact ⟨.comment hfront _ _, rfl⟩
  | @string front content content' hfront hcontent hcontent' rest =>
      rw [← List.cons_append, ← List.append_assoc] at hcs hcs'
      rw [toList_chomp_append hcs (by decide),
        toList_chomp_append hcs' (by decide), List.append_assoc,
        List.append_assoc]
      refine ⟨.string hfront hcontent hcontent' _, ?_⟩
      rw [List.cons_append, lineKind_append_mark (.inl rfl),
        lineKind_append_mark (.inl rfl)]

/-- The line stands by itself between the two texts: a line end or nothing is
in front of it and behind it, and none is in it. -/
structure LineBetween (before line after : String) : Prop where
  begins : before = "" ∨ before.toList.getLast? = some '\n'
  whole : '\n' ∉ line.toList
  ends : after = "" ∨ after.toList.head? = some '\n'

/-- What is behind a line decides whether it loses a carriage return, and gives
the lines that follow it. -/
theorem exists_lines_append {after : String}
    (h : after = "" ∨ after.toList.head? = some '\n') :
    ∃ (trimmed : String → String) (later : List String),
      (trimmed = id ∨ trimmed = chomp) ∧
      ∀ line : String, line.toList ≠ [] → '\n' ∉ line.toList →
        Text.lines (line ++ after) = trimmed line :: later := by
  rcases h with rfl | hhead
  · refine ⟨id, [], .inl rfl, fun line hne hline => ?_⟩
    rw [String.append_empty]
    exact lines_of_newline_not_mem hne hline
  · obtain ⟨rest, hrest⟩ := List.head?_eq_some_iff.1 hhead
    refine ⟨chomp, (linesFrom [] rest).map String.ofList, .inr rfl,
      fun line hne hline => ?_⟩
    rw [Text.lines, String.toList_append, hrest, linesFrom_append_newline hline,
      List.append_nil]
    rfl

/-- Comments and the contents of strings cannot move the boundary of a function.
Let a line of a text be edited behind a `;` that is outside strings, or within a
closed string that is outside comments, and let it not be a header, that is a
`define` or `declare` line in front of which no definition is open. Then reading
the text ends as before: in the same entities, with the same names and ranges,
or in the same error. -/
theorem parse_of_hiddenEdit {before line line' after : String}
    (hline : LineBetween before line after)
    (hedit : HiddenEdit line.toList line'.toList)
    (hbreak : '\n' ∉ line'.toList)
    (hheader : ∀ doc, parse before = .ok doc →
      lineKind line.toList = .other) :
    (parse (before ++ line' ++ after)).map Document.entities =
      (parse (before ++ line ++ after)).map Document.entities := by
  obtain ⟨hne, hne'⟩ := hedit.ne_nil
  obtain ⟨trimmed, later, htrimmed, hlines⟩ := exists_lines_append hline.ends
  -- Without its carriage return the line has been edited all the same.
  obtain ⟨hedit', hkind⟩ :
      HiddenEdit (trimmed line).toList (trimmed line').toList ∧
        lineKind (trimmed line).toList = lineKind line.toList := by
    rcases htrimmed with rfl | rfl
    · exact ⟨hedit, rfl⟩
    · exact hedit.chomp
  rw [parse, parse, String.append_assoc, String.append_assoc,
    lines_append hline.begins, lines_append hline.begins,
    hlines line hne hline.whole, hlines line' hne' hbreak]
  refine entities_ofLines_of_hiddenEdit hedit' fun doc hdoc => ?_
  rw [hkind]
  exact hheader doc hdoc

/-- A comment in a body and a string between definitions, both filled with what
would open and close definitions if it were shown. -/
theorem parse_of_hiddenEdit_sample :
    (LineBetween "define void @f() \x7b\n" "  ret void ; done" "\n\x7d\n" ∧
      HiddenEdit "  ret void ; done".toList
        "  ret void ; \x7d\x7d \" define void @g() \x7b".toList ∧
      (∀ doc, parse "define void @f() \x7b\n" ≠ .ok doc) ∧
      (parse ("define void @f() \x7b\n" ++
        "  ret void ; \x7d\x7d \" define void @g() \x7b" ++
        "\n\x7d\n")).map Document.entities =
          .ok [.definition ⟨"f", ⟨1, 3⟩⟩]) ∧
    (LineBetween "define void @f() \x7b\n\x7d\n" "@s = constant c\"a\"" "" ∧
      HiddenEdit "@s = constant c\"a\"".toList
        "@s = constant c\"\\\"; \x7d\x7b declare \"".toList ∧
      lineKind "@s = constant c\"a\"".toList = .other ∧
      (parse ("define void @f() \x7b\n\x7d\n" ++
        "@s = constant c\"\\\"; \x7d\x7b declare \"" ++
        "")).map Document.entities =
          .ok [.definition ⟨"f", ⟨1, 2⟩⟩, .other ⟨3, 3⟩]) := by
  have hbody : LineBetween "define void @f() \x7b\n" "  ret void ; done"
      "\n\x7d\n" := ⟨.inr (by decide), by decide, .inr (by decide)⟩
  have hcomment : HiddenEdit "  ret void ; done".toList
      "  ret void ; \x7d\x7d \" define void @g() \x7b".toList :=
    @HiddenEdit.comment "  ret void ".toList (.of_forall (by simp)) _ _
  have hopen : ∀ doc, parse "define void @f() \x7b\n" ≠ .ok doc := by
    intro doc hdoc
    have hnone : (parse "define void @f() \x7b\n").toOption = none := by
      decide +kernel
    rw [hdoc] at hnone
    cases hnone
  have hglobal : LineBetween "define void @f() \x7b\n\x7d\n"
      "@s = constant c\"a\"" "" := ⟨.inr (by decide), by decide, .inl rfl⟩
  have hstring : HiddenEdit "@s = constant c\"a\"".toList
      "@s = constant c\"\\\"; \x7d\x7b declare \"".toList :=
    @HiddenEdit.string "@s = constant c".toList ['a']
      ('\\' :: '"' :: "; \x7d\x7b declare ".toList) (.of_forall (by simp))
      (.of_forall (by simp)) (.pair (by decide) (.of_forall (by simp))) []
  refine ⟨⟨hbody, hcomment, hopen, ?_⟩, hglobal, hstring, by decide, ?_⟩
  · rw [parse_of_hiddenEdit hbody hcomment (by decide)
      fun doc hdoc => absurd hdoc (hopen doc)]
    exact ok_of_toOption (by decide +kernel)
  · rw [parse_of_hiddenEdit hglobal hstring (by decide) fun _ _ => by decide]
    exact ok_of_toOption (by decide +kernel)

end IrExcerpt.Document
