import IrExcerpt.CallGraph
import IrExcerpt.Document.Parse
import IrExcerpt.Text.Digest

/-!
# The document cache

Documents that have been read are kept under the digest of their text, together
with what is known of their call graphs. A text that comes again is not read
again. A text that is no document leaves no trace.
-/

namespace IrExcerpt

/-- Call graphs by the digests of their texts. -/
structure Cache where
  graphs : List (String × CallGraph)
deriving DecidableEq, Repr

/-- A document that has been loaded. -/
structure Loaded where
  digest : String
  graph : CallGraph
  /-- Whether it had been loaded before. -/
  fromCache : Bool
deriving DecidableEq, Repr

/-- The document of what has been loaded. -/
def Loaded.document (l : Loaded) : Document := l.graph.document

namespace Cache

/-- A cache that holds nothing. -/
def empty : Cache := ⟨[]⟩

/-- The number of documents that are kept. -/
def size (c : Cache) : Nat := c.graphs.length

/-- The graph kept under a digest. -/
def graph? (c : Cache) (digest : String) : Option CallGraph :=
  c.graphs.lookup digest

/-- The cache with a graph in the place of the one under its digest. -/
def update (c : Cache) (digest : String) (graph : CallGraph) : Cache :=
  ⟨c.graphs.map fun (k, g) => if k == digest then (k, graph) else (k, g)⟩

/-- The document of a text, read or remembered, and the cache that keeps it. -/
def load (c : Cache) (text : String) : Except ParseError (Loaded × Cache) :=
  let digest := Digest.sha256 text
  match c.graph? digest with
  | some graph => .ok (⟨digest, graph, true⟩, c)
  | none =>
    match Document.parse text with
    | .error e => .error e
    | .ok doc =>
      let graph := CallGraph.ofDocument doc
      .ok (⟨digest, graph, false⟩, ⟨(digest, graph) :: c.graphs⟩)

/-- The callees of a name in the document under a digest, and the cache that
remembers them. -/
def callees (c : Cache) (digest name : String) : NameSet × Cache :=
  match c.graph? digest with
  | none => ([], c)
  | some graph =>
    let (names, graph) := graph.callees name
    (names, c.update digest graph)

end Cache

end IrExcerpt
