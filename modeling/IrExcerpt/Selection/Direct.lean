import IrExcerpt.Selection.Basic
import IrExcerpt.Selection.Criteria
import IrExcerpt.Selection.Event
import IrExcerpt.Text.Blank

/-!
# Direct selection

The functions that criteria ask for: the asked names that are defined, the
definitions whose name matches a name pattern, and those with a line that
matches a line pattern once the blanks in front of it are gone. Ignored
functions are left out: which these are is found out first, pattern by pattern.
The criteria are gone through in that order, and a function is announced by the
first one that selects it.
-/

namespace IrExcerpt.Criteria

/-- Goes through a list with a result in hand and collects what happens. -/
def visitAll (step : σ → α → σ × List Event) : σ → List α → σ × List Event
  | s, [] => (s, [])
  | s, a :: rest =>
    let (s, here) := step s a
    let (s, later) := visitAll step s rest
    (s, here ++ later)

/-! ## What is ignored -/

/-- Adds the functions whose name an ignore pattern matches to those that are
ignored; at most `limit` of them are listed. -/
def ignoreMatches (doc : Document) (limit : Nat) (ignored : NameSet) (p : Pattern) :
    NameSet × List Event :=
  let names := (doc.definitions.map Definition.name).filter p.isMatch
  if names.isEmpty then (ignored, [.ignoreUnused p.source])
  else
    let events :=
      if limit < names.length then [.ignoringMany p.source names.length, .omitted names]
      else [.ignoring p.source names]
    (names.foldl (fun set name => NameSet.insert name set) ignored, events)

/-- The functions of a document that some ignore pattern matches, and what there
is to tell about the patterns. -/
def findIgnored (c : Criteria) (doc : Document) (limit : Nat) : NameSet × List Event :=
  visitAll (ignoreMatches doc limit) [] c.ignorePatterns.patterns

/-- Takes a defined function into the selection, unless it is one of those that
are `ignored`. Of `leftOut` and `found`, the event that applies is told; a function
that is already selected is not told again. -/
def take (ignored : NameSet) (leftOut found : Event) (s : Selection) (name : String) :
    Selection × List Event :=
  if ignored.contains name then (s, [leftOut])
  else if s.contains name then (s, [])
  else (s.insert name 0, [found])

/-! ## The three kinds of criteria -/

/-- Selects an asked name. -/
def selectName (ignored : NameSet) (doc : Document) (s : Selection) (name : String) :
    Selection × List Event :=
  if doc.contains name then take ignored (.nameIgnored name) (.nameFound name) s name
  else (s, [.nameMissing name])

/-- Selects what a name pattern matches. -/
def selectMatches (ignored : NameSet) (doc : Document) (s : Selection) (p : Pattern) :
    Selection × List Event :=
  let found := doc.definitions.filter fun d => p.isMatch d.name
  if found.isEmpty then (s, [.matchMissing p.source])
  else
    visitAll (fun s (d : Definition) =>
      take ignored (.matchIgnored p.source d.name) (.matchFound p.source d.name) s d.name) s found

/-- The lines of a definition that a pattern matches, without the blanks in
front; empty lines do not count. -/
def matchingLines (doc : Document) (p : Pattern) (d : Definition) : List String :=
  ((doc.body d).map fun line => String.ofList (Text.trimStart line.toList)).filter fun line =>
    !line.isEmpty && p.isMatch line

/-- Selects a definition for the lines of it that matched. -/
def selectForLines (ignored : NameSet) (p : Pattern) (s : Selection) (found : Definition × List String) :
    Selection × List Event :=
  let (d, lines) := found
  let (s, events) :=
    take ignored (.lineMatchIgnored p.source d.name) (.lineMatchFound p.source d.name lines.length) s d.name
  (s, lines.map (.lineMatched p.source d.name) ++ events)

/-- Selects what a line pattern matches. -/
def selectLines (ignored : NameSet) (doc : Document) (s : Selection) (p : Pattern) :
    Selection × List Event :=
  let found := (doc.definitions.map fun d => (d, matchingLines doc p d)).filter fun (_, lines) =>
    !lines.isEmpty
  if found.isEmpty then (s, [.lineMatchMissing p.source])
  else visitAll (selectForLines ignored p) s found

/-- The functions of a document that the criteria ask for, all at depth zero,
and what there is to tell about them. -/
def select (c : Criteria) (doc : Document) (limit : Nat) : Selection × List Event :=
  let (ignored, byIgnored) := c.findIgnored doc limit
  let (s, byName) := visitAll (selectName ignored doc) Selection.empty c.names
  let (s, byMatch) := visitAll (selectMatches ignored doc) s c.namePatterns.patterns
  let (s, byLine) := visitAll (selectLines ignored doc) s c.linePatterns.patterns
  (s, byIgnored ++ byName ++ byMatch ++ byLine)

end IrExcerpt.Criteria
