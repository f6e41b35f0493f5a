import IrExcerpt.Proofs.CriteriaSets

/-!
# The direct selection as a set

What criteria select directly can be said without the loops that find it: the
functions that are defined, that no ignore pattern matches, and that are asked
for by name, by a pattern for their name or by a pattern for one of their lines.
Which of the loops comes upon a function, how often, and how many ignored names
are listed on the way leaves no trace in this set.

It is said twice. Once of compiled criteria, as they are; and once of the texts
that criteria are made from, where a pattern is what it compiles to. Between the
two stands that leaving out repetitions leaves out no name and no pattern.
-/

namespace IrExcerpt

/-- Whether a pattern, given as a text, matches somewhere in `text`. -/
def Pattern.sourceMatches (source text : String) : Bool :=
  (compile? source).any fun p => p.isMatch text

/-- The definition of `name`, from its header to its closing brace, has a line
that reads `line` without the blanks in front, and that is not empty then. -/
def Document.ShowsLine (doc : Document) (name line : String) : Prop :=
  line ≠ "" ∧ ∃ d ∈ doc.definitions, d.name = name ∧
    ∃ full ∈ doc.body d, line = String.ofList (Text.trimStart full.toList)

namespace Criteria

theorem matchesLine_iff {p : Pattern} {body : List String} :
    matchesLine p body = true ↔ ∃ line, line ≠ "" ∧ p.isMatch line = true ∧
      ∃ full ∈ body, line = String.ofList (Text.trimStart full.toList) := by
  simp only [matchesLine, List.any_eq_true, Bool.and_eq_true,
    Bool.not_eq_true', ← Bool.not_eq_true, String.isEmpty_iff]
  constructor
  · rintro ⟨full, hfull, hempty, hmatch⟩
    exact ⟨_, hempty, hmatch, full, hfull, rfl⟩
  · rintro ⟨line, hempty, hmatch, full, hfull, rfl⟩
    exact ⟨full, hfull, hempty, hmatch⟩

/-- A pattern matches a line of some function called `name`. -/
theorem exists_matchesLine_iff {doc : Document} {p : Pattern} {name : String} :
    (∃ body, (name, body) ∈ doc.functions ∧ matchesLine p body = true) ↔
      ∃ line, doc.ShowsLine name line ∧ p.isMatch line = true := by
  simp only [matchesLine_iff, Document.functions, List.mem_map]
  constructor
  · rintro ⟨body, ⟨d, hd, heq⟩, line, hline, hmatch, hfull⟩
    cases heq
    exact ⟨line, ⟨hline, d, hd, rfl, hfull⟩, hmatch⟩
  · rintro ⟨line, ⟨hline, d, hd, rfl, hfull⟩, hmatch⟩
    exact ⟨doc.body d, ⟨d, hd, rfl⟩, line, hline, hmatch, hfull⟩

theorem contains_select_iff {c : Criteria} {doc : Document} {limit : Nat}
    {name : String} :
    (c.select doc limit).1.contains name = true ↔
      doc.contains name = true ∧ c.ignores name = false ∧
        (name ∈ c.names ∨
          (∃ p ∈ c.namePatterns.patterns, p.isMatch name = true) ∨
          ∃ line, doc.ShowsLine name line ∧
            ∃ p ∈ c.linePatterns.patterns, p.isMatch line = true) := by
  have hlines : (∃ line, doc.ShowsLine name line ∧
      ∃ p ∈ c.linePatterns.patterns, p.isMatch line = true) ↔
      ∃ p ∈ c.linePatterns.patterns, ∃ body,
        (name, body) ∈ doc.functions ∧ matchesLine p body = true := by
    simp only [exists_matchesLine_iff]
    constructor
    · rintro ⟨line, hline, p, hp, hmatch⟩
      exact ⟨p, hp, line, hline, hmatch⟩
    · rintro ⟨p, hp, line, hline, hmatch⟩
      exact ⟨line, hline, p, hp, hmatch⟩
  rw [contains_select, mem_candidates, hlines]
  constructor
  · rintro ⟨hasked, hkept⟩
    refine ⟨contains_of_mem_asked hasked, hkept, ?_⟩
    rcases mem_asked.1 hasked with ⟨hname, -⟩ | ⟨-, hmatch⟩ | hline
    · exact .inl hname
    · exact .inr (.inl hmatch)
    · exact .inr (.inr hline)
  · rintro ⟨hdef, hkept, hfound⟩
    refine ⟨mem_asked.2 ?_, hkept⟩
    rcases hfound with hname | hmatch | hline
    · exact .inl ⟨hname, hdef⟩
    · exact .inr (.inl ⟨Document.contains_iff.1 hdef, hmatch⟩)
    · exact .inr (.inr hline)

theorem exists_mem_compile {sources : List String} {set : PatternSet}
    (h : PatternSet.compile sources = .ok set) {text : String} :
    (∃ p ∈ set.patterns, p.isMatch text = true) ↔
      ∃ source ∈ sources, Pattern.sourceMatches source text = true := by
  simp only [PatternSet.mem_compile h, Pattern.sourceMatches,
    Option.any_eq_true]
  constructor
  · rintro ⟨p, ⟨source, hsource, hp⟩, hmatch⟩
    exact ⟨source, hsource, p, hp, hmatch⟩
  · rintro ⟨source, hsource, p, hp, hmatch⟩
    exact ⟨p, ⟨source, hsource, hp⟩, hmatch⟩

theorem ignores_eq_false_iff {c : Criteria} {sources : List String}
    (h : PatternSet.compile sources = .ok c.ignorePatterns) {name : String} :
    c.ignores name = false ↔
      ∀ source ∈ sources, Pattern.sourceMatches source name = false := by
  rw [← Bool.not_eq_true, ignores, PatternSet.isMatch, List.any_eq_true,
    exists_mem_compile h]
  simp

end Criteria

/-- The direct selection is exactly the stated set. It knows no external names;
it holds the names that are defined, not ignored, and asked for by name, by a
name pattern or by a line pattern, all of them at depth zero; and in criteria
that were made from texts, it is these texts that ask and ignore. -/
theorem select_exactly (c : Criteria) (doc : Document) (limit : Nat) :
    let s := (c.select doc limit).1
    s.external = [] ∧
    (∀ name, s.contains name = true ↔
      doc.contains name = true ∧ c.ignores name = false ∧
        (name ∈ c.names ∨
          (∃ p ∈ c.namePatterns.patterns, p.isMatch name = true) ∨
          ∃ line, doc.ShowsLine name line ∧
            ∃ p ∈ c.linePatterns.patterns, p.isMatch line = true)) ∧
    (∀ name, s.contains name = true → s.depth? name = some 0) ∧
    ∀ names namePatterns linePatterns ignorePatterns,
      Criteria.ofTexts names namePatterns linePatterns ignorePatterns = .ok c →
      ∀ name, s.contains name = true ↔
        doc.contains name = true ∧
          (∀ source ∈ ignorePatterns,
            Pattern.sourceMatches source name = false) ∧
          (name ∈ names ∨
            (∃ source ∈ namePatterns,
              Pattern.sourceMatches source name = true) ∨
            ∃ line, doc.ShowsLine name line ∧
              ∃ source ∈ linePatterns,
                Pattern.sourceMatches source line = true) := by
  intro s
  refine ⟨Criteria.external_select c doc limit,
    fun name => Criteria.contains_select_iff, fun name hname => ?_, ?_⟩
  · exact Criteria.depth?_select.2 ⟨Criteria.contains_select.1 hname, rfl⟩
  · intro names namePatterns linePatterns ignorePatterns htexts name
    obtain ⟨-, hnames, hbyName, hbyLine, hignored⟩ :=
      Criteria.ofTexts_eq_ok_iff.1 htexts
    simp only [s, Criteria.contains_select_iff, hnames, mem_firstOccurrences,
      Criteria.ignores_eq_false_iff hignored,
      Criteria.exists_mem_compile hbyName, Criteria.exists_mem_compile hbyLine]

theorem select_exactly_sample :
    ∃ c, Criteria.ofTexts ["b", "x"] [] ["^call void @b"] ["^b$"] = .ok c ∧
      (c.select Document.sample 0).1.depth? "a" = some 0 ∧
      (c.select Document.sample 0).1.contains "b" = false := by
  obtain ⟨c, hc⟩ : ∃ c,
      Criteria.ofTexts ["b", "x"] [] ["^call void @b"] ["^b$"] = .ok c := by
    simp only [Criteria.exists_ofTexts, ← Option.isSome_iff_exists]
    decide +kernel
  obtain ⟨-, -, hdepth, htexts⟩ := select_exactly c Document.sample 0
  have hline : Document.sample.ShowsLine "a" "call void @b()" :=
    ⟨by decide, ⟨"a", ⟨1, 3⟩⟩, by decide, rfl, "  call void @b()",
      by decide +kernel, by decide +kernel⟩
  refine ⟨c, hc, hdepth "a" ((htexts _ _ _ _ hc "a").2 ?_), ?_⟩
  · exact ⟨by decide, by decide +kernel, .inr (.inr ⟨_, hline, by decide +kernel⟩)⟩
  · rw [← Bool.not_eq_true, htexts _ _ _ _ hc]
    rintro ⟨-, hkept, -⟩
    revert hkept
    decide +kernel

end IrExcerpt
