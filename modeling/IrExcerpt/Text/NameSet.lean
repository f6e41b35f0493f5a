/-!
# Sets of names

A set of names is kept as a list in strictly increasing order. Names compare
character by character, which for Unicode text is the order of their UTF-8
bytes. `insert` keeps the order, so a set has one representation and the order
in which names arrive leaves no trace.
-/

namespace IrExcerpt

/-- Names in strictly increasing order. -/
abbrev NameSet := List String

namespace NameSet

/-- The set with `name` in it. -/
def insert (name : String) : NameSet → NameSet
  | [] => [name]
  | head :: rest =>
    if name < head then name :: head :: rest
    else if name = head then head :: rest
    else head :: insert name rest

/-- The names of a list, each once and in order. -/
def ofList (names : List String) : NameSet :=
  names.foldl (fun set name => insert name set) []

theorem mem_insert {a name : String} {s : NameSet} :
    a ∈ insert name s ↔ a = name ∨ a ∈ s := by
  induction s with
  | nil => simp [insert]
  | cons head rest ih =>
    unfold insert
    split
    · simp
    · split
      · next h => simp [h]
      · simp [ih, or_left_comm]

theorem ordered_insert {name : String} {s : NameSet} (h : s.Pairwise (· < ·)) :
    (insert name s).Pairwise (· < ·) := by
  induction s with
  | nil => exact List.pairwise_singleton _ _
  | cons head rest ih =>
    obtain ⟨hhead, hrest⟩ := List.pairwise_cons.1 h
    unfold insert
    split
    · next hlt =>
      refine List.pairwise_cons.2 ⟨fun a ha => ?_, h⟩
      rcases List.mem_cons.1 ha with rfl | ha
      · exact hlt
      · exact String.lt_trans hlt (hhead a ha)
    · next hlt =>
      split
      · exact h
      · next hne =>
        refine List.pairwise_cons.2 ⟨fun a ha => ?_, ih hrest⟩
        rcases mem_insert.1 ha with rfl | ha
        · exact Std.lt_of_le_of_ne hlt (Ne.symm hne)
        · exact hhead a ha

theorem mem_foldl_insert {a : String} {names : List String} {s : NameSet} :
    a ∈ names.foldl (fun set name => insert name set) s ↔ a ∈ s ∨ a ∈ names := by
  induction names generalizing s with
  | nil => simp
  | cons name rest ih =>
    rw [List.foldl_cons, ih, mem_insert, List.mem_cons]
    exact ⟨by rintro ((h | h) | h) <;> simp [h], by rintro (h | h | h) <;> simp [h]⟩

theorem ordered_foldl_insert {names : List String} {s : NameSet} (h : s.Pairwise (· < ·)) :
    (names.foldl (fun set name => insert name set) s).Pairwise (· < ·) := by
  induction names generalizing s with
  | nil => exact h
  | cons name rest ih => exact ih (ordered_insert h)

@[simp] theorem mem_ofList {a : String} {names : List String} : a ∈ ofList names ↔ a ∈ names := by
  simp [ofList, mem_foldl_insert]

theorem ordered_ofList (names : List String) : (ofList names).Pairwise (· < ·) :=
  ordered_foldl_insert List.Pairwise.nil

end NameSet

end IrExcerpt
