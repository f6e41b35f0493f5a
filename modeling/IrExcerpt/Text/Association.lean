/-!
# Association lists

Tables are kept as lists of keys with their values, the first entry of a key
counting. Depths of a selection, bodies of a document and entries of a disk are
all kept so.
-/

namespace IrExcerpt

variable {κ β : Type} [BEq κ] [LawfulBEq κ]

/-- In a table without repeated keys, what stands in it is what is found. -/
theorem mem_table_iff {table : List (κ × β)} (h : (table.map Prod.fst).Nodup)
    {key : κ} {value : β} : (key, value) ∈ table ↔ table.lookup key = some value := by
  induction table with
  | nil => simp
  | cons entry rest ih =>
    obtain ⟨k, v⟩ := entry
    rw [List.map_cons, List.nodup_cons] at h
    obtain ⟨hfresh, hrest⟩ := h
    by_cases hkey : key = k
    · subst hkey
      have hnot : (key, value) ∉ rest := fun hmem => hfresh (List.mem_map.2 ⟨_, hmem, rfl⟩)
      simp [hnot, eq_comm]
    · have hbeq : (key == k) = false := by simpa using hkey
      simp [List.lookup_cons, hbeq, hkey, ih hrest]

/-- Dropping keys from a table hides these keys and no others. -/
theorem lookup_filter_key (kept : κ → Bool) (table : List (κ × β)) (key : κ) :
    (table.filter fun entry => kept entry.1).lookup key =
      if kept key then table.lookup key else none := by
  induction table with
  | nil => simp
  | cons entry rest ih =>
    obtain ⟨k, v⟩ := entry
    rw [List.filter_cons]
    by_cases hkey : key = k
    · subst hkey
      cases hkept : kept key with
      | true => rw [if_pos rfl, if_pos rfl, List.lookup_cons_self, List.lookup_cons_self]
      | false =>
        rw [hkept] at ih
        rw [if_neg Bool.false_ne_true, if_neg Bool.false_ne_true, ih, if_neg Bool.false_ne_true]
    · have hbeq : (key == k) = false := by simpa using hkey
      rw [List.lookup_cons, hbeq, ← ih]
      split
      · rw [List.lookup_cons, hbeq]
      · rfl

end IrExcerpt
