import IrExcerpt.CallGraph
import IrExcerpt.Selection.Basic
import IrExcerpt.Selection.Criteria
import IrExcerpt.Selection.Event

/-!
# Expansion

A selection grows along calls, one depth at a time: what the functions first
reached at depth `d` call, and what is not selected yet, comes in at depth
`d + 1`. A callee without a definition is noted as external; an ignored one is
passed over, and so are the calls of an ignored function. A name comes in once,
so a cycle of calls ends by itself: when a depth has no function, nothing more
can be reached and the search stops early.
-/

namespace IrExcerpt

/-- Figures of an expansion. -/
structure Expansion.Stats where
  /-- How many functions came in at depth one, two and so on. -/
  addedPerDepth : List Nat
  /-- How many times a callee was passed over because it is ignored. -/
  ignoredCallees : Nat
  /-- The depth without functions at which the search stopped early. -/
  exhaustedAt : Option Nat
deriving DecidableEq, Repr

/-- How many functions came in. -/
def Expansion.Stats.totalAdded (s : Expansion.Stats) : Nat := s.addedPerDepth.foldl (· + ·) 0

/-- A selection on its way from one depth to the next. -/
structure Expansion.Layer where
  selection : Selection
  graph : CallGraph
  added : Nat
  ignored : Nat
  events : List Event

/-- A grown selection, the graph that was searched, and an account of it. -/
structure Expansion where
  selection : Selection
  graph : CallGraph
  stats : Expansion.Stats
  events : List Event

namespace Expansion

/-- Meets a callee of `caller` on the way to `depth`. -/
def Layer.meet (c : Criteria) (depth : Nat) (caller : String) (l : Layer) (callee : String) : Layer :=
  if l.selection.contains callee then l
  else if c.ignores callee then
    { l with ignored := l.ignored + 1, events := l.events ++ [.calleeIgnored depth callee] }
  else if l.graph.document.contains callee then
    { l with
      selection := l.selection.insert callee depth
      added := l.added + 1
      events := l.events ++ [.calleeFound depth callee] }
  else if l.selection.isExternal callee then l
  else
    { l with
      selection := l.selection.markExternal callee
      events := l.events ++ [.calleeExternal caller callee] }

/-- Follows the calls of one function on the way to `depth`. -/
def Layer.follow (c : Criteria) (depth : Nat) (l : Layer) (caller : String) : Layer :=
  if l.graph.document.contains caller && !c.ignores caller then
    let (names, graph) := l.graph.callees caller
    names.foldl (Layer.meet c depth caller) { l with graph }
  else l

/-- Follows the calls of a whole depth: `callers` were first reached at the
depth before `depth`. -/
def layer (c : Criteria) (depth : Nat) (graph : CallGraph) (s : Selection) (callers : List String) : Layer :=
  callers.foldl (Layer.follow c depth) ⟨s, graph, 0, 0, []⟩

/-- Searches `left` more depths, `depth` having been the last. -/
def rounds (c : Criteria) : (left depth : Nat) → CallGraph → Selection → Expansion
  | 0, depth, graph, s => ⟨s, graph, ⟨[], 0, none⟩, if depth = 0 then [] else [.depthReached depth]⟩
  | left + 1, depth, graph, s =>
    match s.atDepth depth with
    | [] => ⟨s, graph, ⟨[], 0, some depth⟩, [.exhausted depth]⟩
    | callers =>
      let l := layer c (depth + 1) graph s callers
      let later := rounds c left (depth + 1) l.graph l.selection
      { later with
        stats :=
          { later.stats with
            addedPerDepth := l.added :: later.stats.addedPerDepth
            ignoredCallees := l.ignored + later.stats.ignoredCallees }
        events := l.events ++ later.events }

end Expansion

/-- The selection grown along the calls of a graph, up to depth `limit`. -/
def Criteria.expand (c : Criteria) (graph : CallGraph) (s : Selection) (limit : Nat) : Expansion :=
  Expansion.rounds c limit 0 graph s

/-- Up to depth zero nothing changes, and there is nothing to tell. -/
theorem Criteria.expand_zero (c : Criteria) (graph : CallGraph) (s : Selection) :
    c.expand graph s 0 = ⟨s, graph, ⟨[], 0, none⟩, []⟩ :=
  rfl

end IrExcerpt
