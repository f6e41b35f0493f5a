import IrExcerpt.Extraction.Session
import IrExcerpt.Proofs.ReportEntries

/-!
# What a listing says

A listing is text, and what it says about functions stands in its headings: one
line for each function, with its level and its name, in front of the lines of
its calls. `Listing.headings` reads the headings of any text. Of a listing it
gives the functions and levels of the selection that is listed, so a listing and
a report of the same selection say the same (`headings_listing`).

A heading ends with its line, so no name may hold a line feed. None does,
because names are cut out of lines: what a scanner hands back, name and rest,
are characters of what it was given, in their order.
-/

namespace IrExcerpt

/-! ## Names are parts of lines -/

namespace Document

theorem quoted?_sublist {cs name tail : List Char}
    (h : quoted? cs = some (name, tail)) : (name ++ tail).Sublist cs := by
  fun_induction quoted? cs generalizing name tail with
  | case1 => cases h
  | case2 rest =>
      cases h
      exact List.sublist_cons_self _ _
  | case3 rest => cases h
  | case4 c rest hc ih =>
      obtain ⟨⟨name', tail'⟩, hrest, heq⟩ := Option.map_eq_some_iff.1 h
      cases heq
      exact ((ih hrest).cons_cons c).cons_cons '\\'
  | case5 => cases h
  | case6 c rest _ _ _ ih =>
      obtain ⟨⟨name', tail'⟩, hrest, heq⟩ := Option.map_eq_some_iff.1 h
      cases heq
      exact (ih hrest).cons_cons c

theorem symbol?_sublist {cs name tail : List Char}
    (h : symbol? cs = some (name, tail)) : (name ++ tail).Sublist cs := by
  unfold symbol? at h
  split at h
  · exact (quoted?_sublist h).cons '"'
  · dsimp only at h
    split at h
    · cases h
    · cases h
      rw [List.takeWhile_append_dropWhile]

theorem operand?_sublist {cs : List Char} {op : Operand}
    (h : operand? cs = some op) : (op.name ++ op.rest).Sublist cs := by
  unfold operand? at h
  split at h
  · cases h
  · next name tail hsymbol =>
      split at h
      · next rest htrim =>
          cases h
          have hrest : ('(' :: rest).Sublist tail := by
            rw [← htrim]
            exact List.dropWhile_sublist _
          exact ((List.Sublist.refl name).append
            ((List.sublist_cons_self _ _).trans hrest)).trans
            (symbol?_sublist hsymbol)
      · cases h

theorem findOperand?_sublist {sigil : Char → Bool} {cs : List Char} {c : Char}
    {op : Operand} (h : findOperand? sigil cs = some (c, op)) :
    (op.name ++ op.rest).Sublist cs := by
  induction cs with
  | nil => cases h
  | cons x rest ih =>
      unfold findOperand? at h
      split at h
      · next op' hop =>
          split at hop
          · cases h
            exact (operand?_sublist hop).cons _
          · cases hop
      · exact (ih h).cons x

theorem headerSymbol?_sublist {line name rest : List Char}
    (h : headerSymbol? line = some (name, rest)) : name.Sublist line := by
  unfold headerSymbol? at h
  split at h
  · next op hop =>
      split at h
      · cases h
      · cases h
        exact (List.sublist_append_left _ _).trans (findOperand?_sublist hop)
  · cases h

end Document

namespace CallSite

open Document

theorem calledOperand?_sublist {cs : List Char} {c : Char} {op : Operand}
    (h : calledOperand? cs = some (c, op)) : op.name.Sublist cs := by
  fun_induction calledOperand? cs with
  | case1 cs hnone => cases h
  | case2 cs sigil other hfound htype ih =>
      exact (ih h).trans
        ((List.sublist_append_right _ _).trans (findOperand?_sublist hfound))
  | case3 cs sigil other hfound htype =>
      cases h
      exact (List.sublist_append_left _ _).trans (findOperand?_sublist hfound)

theorem keyword?_sublist {cs rest : List Char} {kind : CallKind} {b : Char}
    (h : keyword? cs = some (kind, b, rest)) : (b :: rest).Sublist cs := by
  unfold keyword? at h
  split at h
  · split at h
    · cases h
      exact List.sublist_append_right ['c', 'a', 'l', 'l'] _
    · cases h
  · split at h
    · cases h
      exact List.sublist_append_right ['i', 'n', 'v', 'o', 'k', 'e'] _
    · cases h
  · cases h

/-- What stands in front of the keywords and what they own are parts of the
text, in this order. -/
theorem segments_sublist (fresh : Bool) (cs : List Char) :
    ((segments fresh cs).1 ++
      (segments fresh cs).2.flatMap Prod.snd).Sublist cs := by
  fun_induction segments fresh cs with
  | case1 fresh cs kind b rest hkeyword own more hrest ih =>
      rw [hrest] at ih
      split at hkeyword
      · rw [List.nil_append, List.flatMap_cons]
        exact (ih.cons_cons b).trans (keyword?_sublist hkeyword)
      · cases hkeyword
  | case2 fresh hkeyword => exact List.Sublist.refl _
  | case3 fresh c rest hkeyword own more hrest ih =>
      rw [hrest] at ih
      exact ih.cons_cons c

/-- A call site names its callee with characters of the line. -/
theorem mem_line_of_inLine {line : List Char} {name : String} {kind : CallKind}
    (h : (name, kind) ∈ inLine line) {c : Char} (hc : c ∈ name.toList) :
    c ∈ line := by
  obtain ⟨⟨kind', text⟩, hsegment, hcallee⟩ := List.mem_filterMap.1 h
  obtain ⟨name', hname, heq⟩ := Option.map_eq_some_iff.1 hcallee
  cases heq
  have htext : text ⊆ line := fun x hx => (segments_sublist true line).subset
    (List.mem_append_right _ (List.mem_flatMap.2 ⟨_, hsegment, hx⟩))
  unfold callee? at hname
  split at hname
  · next sigil op hop =>
      split at hname
      · cases hname
        rw [String.toList_ofList] at hc
        exact htext ((calledOperand?_sublist hop).subset hc)
      · cases hname
  · cases hname

end CallSite

namespace Document

variable {text : String} {doc : Document}

theorem newline_not_mem_name (h : parse text = .ok doc) {name : String}
    (hname : name ∈ doc.names) : '\n' ∉ name.toList := by
  obtain ⟨bs, hvalid, -, hlines, rfl⟩ := blocks_of_parse h
  rw [names_ofBlocks] at hname
  obtain ⟨b, hb, hdefines⟩ := List.mem_filterMap.1 hname
  cases b with
  | declaration name line => cases hdefines
  | other line => cases hdefines
  | definition name body =>
      cases hdefines
      obtain ⟨header, rest, symbol, params, rfl, -, hsymbol, rfl, -⟩ :=
        hvalid _ hb
      have hheader : header ∈ Text.lines text := by
        rw [← hlines]
        exact List.mem_flatMap.2 ⟨_, hb, List.mem_cons_self⟩
      rw [String.toList_ofList]
      exact fun hmem => Text.newline_not_mem_lines hheader
        ((headerSymbol?_sublist hsymbol).subset hmem)

theorem newline_not_mem_callee (h : parse text = .ok doc) {d : Definition}
    {site : CallSite} (hsite : site ∈ CallSite.ofDefinition doc d) :
    '\n' ∉ site.callee.toList := by
  have hcallee : site.callee ∈ CallSite.calledIn (doc.body d) := by
    rw [← CallSite.map_callee_inLines d.range.first]
    exact List.mem_map_of_mem hsite
  obtain ⟨line, hline, hcalled⟩ := List.mem_flatMap.1 hcallee
  obtain ⟨⟨name, kind⟩, hinline, hname⟩ := List.mem_map.1 hcalled
  cases hname
  have hlines : line ∈ Text.lines text := by
    rw [← lines_of_parse h]
    exact List.mem_of_mem_drop (List.mem_of_mem_take hline)
  exact fun hmem => Text.newline_not_mem_lines hlines
    (CallSite.mem_line_of_inLine hinline hmem)

end Document

/-! ## Reading a listing -/

namespace Listing

/-- The function that a line is the heading of, with its level. -/
def heading? : List Char → Option (String × Nat)
  | '[' :: cs =>
    match cs.dropWhile Char.isDigit with
    | ']' :: ' ' :: name => some (String.ofList name,
        Nat.ofDigitChars 10 (cs.takeWhile Char.isDigit) 0)
    | _ => none
  | _ => none

/-- The functions that a listing has headings for, with their levels. -/
def headings (listing : String) : List (String × Nat) :=
  (listing.toList.splitOn '\n').filterMap heading?

/-- The first line has a heading or none. -/
theorem headings_line {line : String} (h : '\n' ∉ line.toList)
    (rest : String) :
    headings (line ++ "\n" ++ rest) =
      (heading? line.toList).toList ++ headings rest := by
  have hsplit : (line ++ "\n" ++ rest).toList.splitOn '\n' =
      line.toList :: rest.toList.splitOn '\n' := by
    rw [String.toList_append, String.toList_append, List.append_assoc]
    exact List.splitOn_append_cons_self_of_not_mem h _
  rw [headings, hsplit, List.filterMap_cons, headings]
  cases heading? line.toList <;> rfl

theorem isDigit_of_mem_toDigits {n : Nat} {c : Char}
    (h : c ∈ Nat.toDigits 10 n) : c.isDigit = true :=
  Nat.isDigit_of_mem_toDigits (by decide) (by decide) h

/-- A level is read back as it was written. -/
theorem heading?_level (level : Nat) (name : String) :
    heading? ("[" ++ toString level ++ "] " ++ name).toList =
      some (name, level) := by
  have hline : ("[" ++ toString level ++ "] " ++ name).toList =
      '[' :: (Nat.toDigits 10 level ++ ']' :: ' ' :: name.toList) := by
    simp
  rw [hline, heading?,
    List.dropWhile_append_of_pos fun _ => isDigit_of_mem_toDigits,
    List.takeWhile_append_of_pos fun _ => isDigit_of_mem_toDigits]
  simp [Nat.ofDigitChars_ten_toDigits]

theorem newline_not_mem_toString (n : Nat) : '\n' ∉ (toString n).toList := by
  intro hmem
  have hdigit : '\n'.isDigit = true :=
    isDigit_of_mem_toDigits (n := n) (by simpa using hmem)
  cases hdigit

/-- The line of a call site, without its end. -/
def siteText (doc : Document) (site : CallSite) : String :=
  "    -> " ++ site.callee ++ " (line " ++ toString site.line ++ ", " ++ site.kind.label ++ ")"
    ++ (if doc.contains site.callee then "" else " [external]")

theorem newline_not_mem_siteText {doc : Document} {site : CallSite}
    (h : '\n' ∉ site.callee.toList) : '\n' ∉ (siteText doc site).toList := by
  have hlabel : '\n' ∉ site.kind.label.toList := by
    cases site.kind <;> decide
  have hmark : '\n' ∉ (if doc.contains site.callee then ""
      else " [external]").toList := by
    split <;> decide
  have hnumber := newline_not_mem_toString site.line
  unfold siteText
  simp only [String.toList_append, List.mem_append, not_or]
  exact ⟨⟨⟨⟨⟨⟨⟨by decide, h⟩, by decide⟩, hnumber⟩, by decide⟩, hlabel⟩,
    by decide⟩, hmark⟩

theorem heading?_siteText (doc : Document) (site : CallSite) :
    heading? (siteText doc site).toList = none := by
  simp [siteText, heading?]

/-- The line of a call site is no heading, and is passed over. -/
theorem headings_siteLine {doc : Document} {site : CallSite}
    (h : '\n' ∉ site.callee.toList) (rest : String) :
    headings (Session.siteLine doc site ++ rest) = headings rest := by
  have hline : Session.siteLine doc site = siteText doc site ++ "\n" := rfl
  rw [hline, headings_line (newline_not_mem_siteText h), heading?_siteText]
  rfl

theorem headings_join_siteLine {doc : Document} {sites : List CallSite}
    (h : ∀ site ∈ sites, '\n' ∉ site.callee.toList) (rest : String) :
    headings (String.join (sites.map (Session.siteLine doc)) ++ rest) =
      headings rest := by
  induction sites with
  | nil => rw [List.map_nil, String.join_nil, String.empty_append]
  | cons site sites ih =>
      rw [List.map_cons, String.join_cons, String.append_assoc,
        headings_siteLine (h site List.mem_cons_self),
        ih fun site' hsite' => h site' (List.mem_cons_of_mem _ hsite')]

variable {text : String} {doc : Document}

/-- A function that is listed has its heading, and its calls have none. -/
theorem headings_functionLines (h : Document.parse text = .ok doc)
    (s : Selection) {name : String} (hname : name ∈ doc.names) (rest : String) :
    headings (Session.functionLines doc s name ++ rest) =
      match doc.find? name, s.depth? name with
      | some _, some level => (name, level) :: headings rest
      | _, _ => headings rest := by
  unfold Session.functionLines
  cases doc.find? name with
  | none => exact congrArg headings String.empty_append
  | some d =>
      cases s.depth? name with
      | none => exact congrArg headings String.empty_append
      | some level =>
          have hline :
              '\n' ∉ ("[" ++ toString level ++ "] " ++ name).toList := by
            simp only [String.toList_append, List.mem_append, not_or]
            exact ⟨⟨⟨by decide, newline_not_mem_toString level⟩, by decide⟩,
              Document.newline_not_mem_name h hname⟩
          simp only []
          rw [String.append_assoc, headings_line hline, heading?_level,
            headings_join_siteLine fun _ => Document.newline_not_mem_callee h]
          rfl

/-- A listing has headings for the functions that a report lists, with the
depths that they have there. -/
theorem headings_listing (h : Document.parse text = .ok doc) (s : Selection) :
    headings (Session.listing doc s) =
      (Report.entries doc s).map fun e => (e.name, e.depth) := by
  have hnames : ∀ name ∈ s.inDocumentOrder doc, name ∈ doc.names := by
    rw [Document.inDocumentOrder_eq (Document.names_nodup h)]
    exact fun name hname => (List.mem_filter.1 hname).1
  rw [Session.listing, Report.entries]
  generalize s.inDocumentOrder doc = names at hnames ⊢
  induction names with
  | nil => rfl
  | cons name names ih =>
      rw [List.map_cons, String.join_cons,
        headings_functionLines h s (hnames name List.mem_cons_self),
        ih fun name' hname' => hnames name' (List.mem_cons_of_mem _ hname'),
        List.filterMap_cons]
      cases doc.find? name <;> cases s.depth? name <;> rfl

example : headings "[0] a\n    -> b (line 2, Call)\n[12] b\n" =
    [("a", 0), ("b", 12)] := by
  decide

end Listing

end IrExcerpt
