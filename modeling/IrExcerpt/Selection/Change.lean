import IrExcerpt.Selection.Basic

/-!
# Changes of a selection

A selection is filled by changes of two kinds: a name comes in, or it is noted
as external. Each change answers whether it was news.
-/

namespace IrExcerpt.Selection

/-- What can be asked of a selection that is being filled. -/
inductive Change where
  | insert (name : String) (depth : Nat)
  | markExternal (name : String)
deriving DecidableEq, Repr

/-- Makes a change; the answer is whether it is news. -/
def apply (s : Selection) : Change → Bool × Selection
  | .insert name depth => (!s.contains name, s.insert name depth)
  | .markExternal name => (!s.isExternal name, s.markExternal name)

/-- Makes changes in turn, with their answers in the same order. -/
def applyAll (s : Selection) : List Change → List Bool × Selection
  | [] => ([], s)
  | change :: rest =>
    let (news, s) := s.apply change
    let (answers, s) := s.applyAll rest
    (news :: answers, s)

end IrExcerpt.Selection
