import IrExcerpt.Proofs.Lookup

/-!
# Calls

Who calls whom is a relation between names: `doc.Calls f g` says that a call
site in the definition of `f` names `g`. A call graph answers with sets instead
and remembers its answers. Its memory is faithful when every set in it is the
one that the document gives; a new graph is faithful, asking keeps it so, and a
faithful graph answers the same whatever it has been asked before.
-/

namespace IrExcerpt

/-- The names that lines call, in order. -/
def CallSite.calledIn (body : List String) : List String :=
  body.flatMap fun line => (CallSite.inLine line.toList).map Prod.fst

theorem CallSite.map_callee_inLines (n : Nat) (body : List String) :
    (CallSite.inLines n body).map CallSite.callee = calledIn body := by
  induction body generalizing n with
  | nil => rfl
  | cons line rest ih =>
      rw [inLines, List.map_append, ih, List.map_map]
      rfl

namespace Document

/-- A call site in the definition of `f` names `g`. -/
def Calls (doc : Document) (f g : String) : Prop :=
  ∃ d ∈ doc.definitions, d.name = f ∧
    ∃ site ∈ CallSite.ofDefinition doc d, site.callee = g

/-- The names that the function called `name` calls. -/
def calleesOf (doc : Document) (name : String) : NameSet :=
  NameSet.ofList (CallSite.calledIn ((doc.functions.lookup name).getD []))

theorem callees_eq (doc : Document) (d : Definition) :
    doc.callees d = NameSet.ofList (CallSite.calledIn (doc.body d)) := by
  rw [callees, CallSite.ofDefinition, CallSite.map_callee_inLines]

theorem mem_functions_iff {doc : Document} (hnodup : doc.names.Nodup)
    {name : String} {body : List String} :
    (name, body) ∈ doc.functions ↔ doc.functions.lookup name = some body :=
  mem_table_iff hnodup

theorem mem_calleesOf {doc : Document} (hnodup : doc.names.Nodup)
    {f g : String} : g ∈ doc.calleesOf f ↔ doc.Calls f g := by
  rw [calleesOf, NameSet.mem_ofList]
  constructor
  · intro hmem
    cases hbody : doc.functions.lookup f with
    | none =>
        rw [hbody] at hmem
        cases hmem
    | some body =>
        rw [hbody, Option.getD_some] at hmem
        obtain ⟨d, hd, heq⟩ :=
          List.mem_map.1 ((mem_functions_iff hnodup).2 hbody)
        cases heq
        rw [← CallSite.map_callee_inLines d.range.first] at hmem
        exact ⟨d, hd, rfl, List.mem_map.1 hmem⟩
  · rintro ⟨d, hd, rfl, hsite⟩
    have hbody : doc.functions.lookup d.name = some (doc.body d) :=
      (mem_functions_iff hnodup).1 (List.mem_map.2 ⟨d, hd, rfl⟩)
    rw [hbody, Option.getD_some,
      ← CallSite.map_callee_inLines d.range.first]
    exact List.mem_map.2 hsite

end Document

namespace CallGraph

/-- Everything the graph remembers is what its document gives. -/
def Faithful (graph : CallGraph) : Prop :=
  ∀ name callees, (name, callees) ∈ graph.known →
    callees = graph.document.calleesOf name

theorem faithful_ofDocument (doc : Document) : (ofDocument doc).Faithful := by
  intro name callees hmem
  cases hmem

/-- What is found in the memory or else by scanning. -/
theorem callees_fst {graph : CallGraph} (h : graph.Faithful) (name : String) :
    (graph.callees name).1 = graph.document.calleesOf name := by
  unfold callees
  split
  · next found hfound =>
      obtain ⟨before, behind, hknown, -⟩ := List.lookup_eq_some_iff.1 hfound
      exact h name found (by rw [hknown]; simp)
  · have hbody := graph.document.find?_body name
    split
    · next hnone =>
        rw [hnone] at hbody
        rw [Document.calleesOf, ← hbody]
        rfl
    · next d hd =>
        rw [hd] at hbody
        rw [Document.calleesOf, ← hbody]
        exact graph.document.callees_eq d

@[simp] theorem document_callees (graph : CallGraph) (name : String) :
    (graph.callees name).2.document = graph.document := by
  unfold callees
  split
  · rfl
  · split <;> rfl

theorem faithful_callees {graph : CallGraph} (h : graph.Faithful)
    (name : String) : (graph.callees name).2.Faithful := by
  intro m set hmem
  have hanswer := callees_fst h name
  rw [document_callees]
  unfold callees at hmem hanswer
  split at hmem
  · exact h m set hmem
  · split at hmem
    · exact h m set hmem
    · next d hd =>
        rcases List.mem_cons.1 hmem with heq | hmem
        · cases heq
          simpa [*] using hanswer
        · exact h m set hmem

/-- The graph of a document after it has been asked for some callees. -/
def afterAsking (doc : Document) (names : List String) : CallGraph :=
  names.foldl (fun graph name => (graph.callees name).2) (ofDocument doc)

theorem afterAsking_spec (doc : Document) (names : List String) :
    (afterAsking doc names).Faithful ∧
      (afterAsking doc names).document = doc := by
  have hrun : ∀ graph : CallGraph, graph.Faithful ∧ graph.document = doc →
      (names.foldl (fun graph name => (graph.callees name).2) graph).Faithful ∧
      (names.foldl (fun graph name =>
        (graph.callees name).2) graph).document = doc := by
    induction names with
    | nil => intro graph h; exact h
    | cons name names ih =>
        rintro graph ⟨hfaithful, hdoc⟩
        exact ih _ ⟨faithful_callees hfaithful name, by
          rw [document_callees, hdoc]⟩
  exact hrun _ ⟨faithful_ofDocument doc, rfl⟩

end CallGraph

end IrExcerpt
