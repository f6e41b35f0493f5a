import IrExcerpt.Proofs.Contents
import Mathlib.Data.List.Nodup
import Mathlib.Data.List.Pairwise

/-!
# Looking functions up

A document is asked for functions by name: whether one is defined, where it
stands, what its lines are and whom it calls. All the answers come from the
functions of the document, in the sense of `Document.functions`; two documents
with the same functions give the same answers, whatever their line numbers.

The place of a definition among the entities is the one answer that depends on
more. It is used to bring selected names into document order, and there only
its growth along the document matters: `inDocumentOrder_eq` says that the
result is the list of defined names with the unselected ones left out. For this
the names must differ, for only then does a place belong to one name.
-/

namespace IrExcerpt

namespace Document

theorem names_eq (doc : Document) :
    doc.names = doc.definitions.map Definition.name := by
  rw [names, functions, List.map_map]
  rfl

theorem contains_iff {doc : Document} {name : String} :
    doc.contains name = true ↔ name ∈ doc.names := by
  rw [names_eq, contains, definitions]
  generalize doc.entities = es
  induction es with
  | nil => simp
  | cons e es ih =>
      cases e with
      | definition d =>
          simp [Entity.defines, Entity.definition?, ih,
            eq_comm (a := d.name)]
      | declaration n line => exact ih
      | other range => exact ih

/-- The definition of a name is the first that has it. -/
theorem find?_body (doc : Document) (name : String) :
    (doc.find? name).map doc.body = doc.functions.lookup name := by
  rw [find?, functions, definitions]
  generalize doc.entities = es
  induction es with
  | nil => rfl
  | cons e es ih =>
      cases e with
      | definition d =>
          by_cases hname : d.name = name
          · subst hname
            simp [Entity.defines, Entity.definition?]
          · have hkey : (name == d.name) = false := by
              simpa using Ne.symm hname
            have hdef : Entity.defines name (.definition d) = false := by
              simpa [Entity.defines] using hname
            rw [List.find?_cons, hdef, List.filterMap_cons]
            simp only [Entity.definition?, List.map_cons, List.lookup_cons,
              hkey]
            exact ih
      | declaration n line => exact ih
      | other range => exact ih

/-! ## Document order -/

/-- The places of definitions among entities, the first being number `n`. -/
def placesFrom : Nat → List Entity → List (Nat × String)
  | _, [] => []
  | n, .definition d :: es => (n, d.name) :: placesFrom (n + 1) es
  | n, _ :: es => placesFrom (n + 1) es

theorem map_snd_placesFrom (n : Nat) (es : List Entity) :
    (placesFrom n es).map Prod.snd =
      (es.filterMap Entity.definition?).map Definition.name := by
  fun_induction placesFrom n es with
  | case1 => rfl
  | case2 n d es ih => simp [Entity.definition?, ih]
  | case3 n e es hdef ih =>
      cases e with
      | definition d => exact absurd rfl (hdef d)
      | declaration name line => exact ih
      | other range => exact ih

theorem le_of_mem_placesFrom {n : Nat} {es : List Entity} {p : Nat × String}
    (h : p ∈ placesFrom n es) : n ≤ p.1 := by
  fun_induction placesFrom n es with
  | case1 => cases h
  | case2 n d es ih =>
      rcases List.mem_cons.1 h with rfl | h
      · exact Nat.le_refl _
      · have := ih h
        omega
  | case3 n e es hdef ih =>
      have := ih h
      omega

theorem pairwise_placesFrom (n : Nat) (es : List Entity) :
    (placesFrom n es).Pairwise fun a b => a.1 < b.1 := by
  fun_induction placesFrom n es with
  | case1 => exact List.Pairwise.nil
  | case2 n d es ih =>
      exact List.pairwise_cons.2 ⟨fun p hp => le_of_mem_placesFrom hp, ih⟩
  | case3 n e es hdef ih => exact ih

theorem mem_placesFrom_iff {n : Nat} {es : List Entity} {name : String}
    {k : Nat}
    (hnodup : ((es.filterMap Entity.definition?).map Definition.name).Nodup) :
    (n + k, name) ∈ placesFrom n es ↔
      es.findIdx? (Entity.defines name) = some k := by
  induction es generalizing n k with
  | nil => simp [placesFrom]
  | cons e es ih =>
      -- Behind an entity that does not define the name, places shift by one.
      have hshift : Entity.defines name e = false →
          ((es.filterMap Entity.definition?).map Definition.name).Nodup →
          ((n + k, name) ∈ placesFrom (n + 1) es ↔
            (e :: es).findIdx? (Entity.defines name) = some k) := by
        intro hdef hrest
        rw [List.findIdx?_cons, hdef]
        cases k with
        | zero =>
            constructor
            · intro hmem
              have : n + 1 ≤ n := le_of_mem_placesFrom hmem
              omega
            · intro h
              cases hidx : es.findIdx? (Entity.defines name) <;>
                simp [hidx] at h
        | succ k =>
            have hlater := ih (n := n + 1) (k := k) hrest
            rw [show n + (k + 1) = n + 1 + k by omega, hlater]
            cases hidx : es.findIdx? (Entity.defines name) <;> simp
      cases e with
      | definition d =>
          simp only [Entity.definition?, List.filterMap_cons, List.map_cons,
            List.nodup_cons] at hnodup
          obtain ⟨hnew, hrest⟩ := hnodup
          by_cases hname : d.name = name
          · subst hname
            have hlater : (n + k, d.name) ∉ placesFrom (n + 1) es := by
              intro hmem
              apply hnew
              rw [← map_snd_placesFrom (n + 1)]
              exact List.mem_map.2 ⟨_, hmem, rfl⟩
            simp only [placesFrom, List.mem_cons, hlater, or_false,
              List.findIdx?_cons, Entity.defines, beq_self_eq_true, if_true]
            simp [eq_comm]
          · have hdef : Entity.defines name (.definition d) = false := by
              simpa [Entity.defines] using hname
            rw [placesFrom, List.mem_cons, ← hshift hdef hrest]
            simp [Ne.symm hname]
      | declaration m line => exact hshift rfl hnodup
      | other range => exact hshift rfl hnodup

theorem mem_placesFrom_zero {doc : Document} (hnodup : doc.names.Nodup)
    {name : String} {k : Nat} :
    (k, name) ∈ placesFrom 0 doc.entities ↔ doc.position? name = some k := by
  rw [names_eq, definitions] at hnodup
  have h := @mem_placesFrom_iff 0 doc.entities name k hnodup
  rwa [Nat.zero_add] at h

/-- Sorting by place undoes any rearrangement of a list that grows by place. -/
theorem mergeSort_eq_of_perm {placed kept : List (Nat × String)}
    (hperm : placed.Perm kept) (hkept : kept.Pairwise fun a b => a.1 < b.1) :
    placed.mergeSort (fun a b => decide (a.1 ≤ b.1)) = kept := by
  have hall := (List.mergeSort_perm placed
    fun a b => decide (a.1 ≤ b.1)).trans hperm
  have hsorted : (placed.mergeSort fun a b => decide (a.1 ≤ b.1)).Pairwise
      fun a b => decide (a.1 ≤ b.1) = true :=
    List.pairwise_mergeSort
      (fun a b c hab hbc => by simp only [decide_eq_true_eq] at *; omega)
      (fun a b => by simp only [Bool.or_eq_true, decide_eq_true_eq]; omega)
      placed
  simp only [decide_eq_true_eq] at hsorted
  refine List.Perm.eq_of_pairwise
    (fun a b ha hb hab hba => ?_) hsorted (hkept.imp Nat.le_of_lt) hall
  -- Two entries at one place are the same entry.
  have hsymm : Std.Symm fun a b : Nat × String => a.1 ≠ b.1 :=
    ⟨fun _ _ h => Ne.symm h⟩
  by_contra hne
  exact (hkept.imp Nat.ne_of_lt).forall (hall.mem_iff.1 ha) hb hne
    (Nat.le_antisymm hab hba)

/-- The places of the selected names, in the order of selection. -/
theorem nodup_filterMap_position (doc : Document) (s : Selection) :
    (s.depths.filterMap fun (name, _) =>
      (doc.position? name).map fun place => (place, name)).Nodup := by
  have hsub : ∀ entries : List (String × Nat),
      ((entries.filterMap fun (name, _) =>
        (doc.position? name).map fun place => (place, name)).map
          Prod.snd).Sublist (entries.map Prod.fst) := by
    intro entries
    induction entries with
    | nil => exact List.Sublist.refl _
    | cons e entries ih =>
        obtain ⟨name, d⟩ := e
        cases hpos : doc.position? name with
        | none =>
            simp only [List.map_cons, List.filterMap_cons, hpos, Option.map_none]
            exact ih.cons _
        | some place =>
            simp only [List.map_cons, List.filterMap_cons, hpos, Option.map_some]
            exact ih.cons_cons _
  exact ((hsub s.depths).nodup s.distinct).of_map

/-- The selected names in document order are the defined names with the
unselected ones left out. -/
theorem inDocumentOrder_eq {doc : Document} (hnodup : doc.names.Nodup)
    (s : Selection) :
    s.inDocumentOrder doc = doc.names.filter s.contains := by
  have hkept : ((placesFrom 0 doc.entities).filter fun p =>
      s.contains p.2).Pairwise fun a b => a.1 < b.1 :=
    (pairwise_placesFrom 0 doc.entities).filter _
  have hperm := (List.perm_ext_iff_of_nodup (nodup_filterMap_position doc s)
    (hkept.imp fun h heq => by simp [heq] at h)).2 (by
      rintro ⟨place, name⟩
      simp only [List.mem_filterMap, List.mem_filter,
        mem_placesFrom_zero hnodup, Selection.contains_iff_depth?,
        ← Selection.mem_depths]
      constructor
      · rintro ⟨⟨m, d⟩, hdepth, hpos⟩
        obtain ⟨k, hk, heq⟩ := Option.map_eq_some_iff.1 hpos
        cases heq
        exact ⟨hk, d, hdepth⟩
      · rintro ⟨hpos, d, hdepth⟩
        exact ⟨(name, d), hdepth, by simp [hpos]⟩)
  rw [Selection.inDocumentOrder]
  simp only []
  rw [mergeSort_eq_of_perm hperm hkept, names_eq, definitions,
    ← map_snd_placesFrom 0, List.filter_map]
  rfl

end Document

end IrExcerpt
