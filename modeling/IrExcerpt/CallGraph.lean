import IrExcerpt.CallSite
import IrExcerpt.Text.NameSet

/-!
# Call graphs

The callees of a definition are the names its call sites call, as a set. A
call graph is a document that remembers the callees it has been asked for; what
it remembers is what scanning the document would give, so asking in a different
order or asking twice changes no answer.
-/

namespace IrExcerpt

/-- The set of names that a definition of the document calls. -/
def Document.callees (doc : Document) (d : Definition) : NameSet :=
  NameSet.ofList ((CallSite.ofDefinition doc d).map CallSite.callee)

/-- A document and the callees already computed for some of its definitions. -/
structure CallGraph where
  document : Document
  known : List (String × NameSet)
deriving DecidableEq, Repr

namespace CallGraph

/-- The graph of a document before anything has been asked. -/
def ofDocument (doc : Document) : CallGraph := ⟨doc, []⟩

/-- The callees of `name`, and the graph that remembers them. A name without a
definition has no callees and leaves no trace. -/
def callees (g : CallGraph) (name : String) : NameSet × CallGraph :=
  match g.known.lookup name with
  | some names => (names, g)
  | none =>
    match g.document.find? name with
    | none => ([], g)
    | some d =>
      let names := g.document.callees d
      (names, { g with known := (name, names) :: g.known })

/-- The number of definitions whose callees have been computed. -/
def memoized (g : CallGraph) : Nat := g.known.length

end CallGraph

end IrExcerpt
