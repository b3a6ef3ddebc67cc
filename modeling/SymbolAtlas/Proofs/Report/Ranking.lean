/-
# SymbolAtlas.Proofs.Report.Ranking — a ranking is a stable selection

A ranking puts what weighs most first, and items of one weight stay in the order in which they came.
An item is inserted from the end of the list to its begin, so it comes before all items that are
ranked already, and stands before those of its own weight. The first items of a ranking are then
those that no other outweighs.
-/
import SymbolAtlas.Proofs.Sequence
import SymbolAtlas.Report.CallGraph

namespace SymbolAtlas

variable {α β : Type}

/-- That an item stands before another one in a ranking: it weighs more, or it weighs as much and
comes first. -/
def Outranks (weight : α → Int) (comesFirst : α → α → Prop) (item other : α) : Prop :=
  weight other < weight item ∨ weight other = weight item ∧ comesFirst item other

section Weight

variable {weight : α → Int}

theorem insertByWeight_perm (item : α) (items : List α) :
    (insertByWeight weight item items).Perm (item :: items) := by
  induction items with
  | nil => exact .refl _
  | cons other rest ih =>
      unfold insertByWeight
      split
      · exact .refl _
      · exact (ih.cons other).trans (.swap item other rest)

theorem rankByWeight_perm (weight : α → Int) (items : List α) :
    (rankByWeight weight items).Perm items := by
  induction items with
  | nil => exact .refl _
  | cons item rest ih => exact (insertByWeight_perm item _).trans (ih.cons item)

variable {comesFirst : α → α → Prop}

/-- An item that comes before all items of a ranking is inserted at the place that it has there. -/
theorem pairwise_insertByWeight {item : α} {items : List α}
    (hfirst : ∀ other ∈ items, comesFirst item other)
    (h : items.Pairwise (Outranks weight comesFirst)) :
    (insertByWeight weight item items).Pairwise (Outranks weight comesFirst) := by
  induction items with
  | nil => exact List.pairwise_singleton _ item
  | cons other rest ih =>
      obtain ⟨hother, hrest⟩ := List.pairwise_cons.mp h
      unfold insertByWeight
      split
      · rename_i hle
        refine List.pairwise_cons.mpr ⟨?_, h⟩
        intro below hbelow
        have hcomes := hfirst below hbelow
        have hweight : weight below ≤ weight item := by
          rcases List.mem_cons.mp hbelow with rfl | hbelow
          · exact hle
          · rcases hother below hbelow with hlt | ⟨heq, -⟩
            · omega
            · omega
        rcases Int.lt_or_eq_of_le hweight with hlt | heq
        · exact .inl hlt
        · exact .inr ⟨heq, hcomes⟩
      · rename_i hlt
        refine List.pairwise_cons.mpr ⟨?_, ih (fun below hbelow => ?_) hrest⟩
        · intro below hbelow
          rcases List.mem_cons.mp ((insertByWeight_perm item rest).mem_iff.mp hbelow) with
            rfl | hbelow
          · exact .inl (by omega)
          · exact hother below hbelow
        · exact hfirst below (List.mem_cons_of_mem other hbelow)

/-- In a ranking, all items stand before those that they outweigh, and before those of their weight
that came later. -/
theorem pairwise_rankByWeight (weight : α → Int) {items : List α}
    (h : items.Pairwise comesFirst) :
    (rankByWeight weight items).Pairwise (Outranks weight comesFirst) := by
  induction items with
  | nil => exact List.Pairwise.nil
  | cons item rest ih =>
      obtain ⟨hitem, hrest⟩ := List.pairwise_cons.mp h
      refine pairwise_insertByWeight ?_ (ih hrest)
      intro other hother
      exact hitem other ((rankByWeight_perm weight rest).mem_iff.mp hother)

/-- No item that is left out by a cut weighs more than one that is not. -/
theorem weight_le_of_cut {ranking : List α}
    (h : ranking.Pairwise (Outranks weight comesFirst)) (limit : Nat) :
    ∀ item ∈ ranking.take limit, ∀ other ∈ ranking.drop limit, weight other ≤ weight item := by
  intro item hitem other hother
  rw [← List.take_append_drop limit ranking] at h
  rcases (List.pairwise_append.mp h).2.2 item hitem other hother with hlt | ⟨heq, -⟩
  · exact Int.le_of_lt hlt
  · exact Int.le_of_eq heq

end Weight

/-! ## What is ranked for its weight -/

theorem insertByWeight_map {weight : β → Int} {f : α → β} (item : α) (items : List α) :
    insertByWeight weight (f item) (items.map f)
      = (insertByWeight (fun a => weight (f a)) item items).map f := by
  induction items with
  | nil => rfl
  | cons other rest ih =>
      simp only [List.map_cons, insertByWeight]
      split
      · rfl
      · rw [ih, List.map_cons]

/-- Items ranked by a weight that is made beside them are the items ranked by that weight. -/
theorem rankByWeight_map (weight : β → Int) (f : α → β) (items : List α) :
    rankByWeight weight (items.map f) = (rankByWeight (fun a => weight (f a)) items).map f := by
  induction items with
  | nil => rfl
  | cons item rest ih =>
      show insertByWeight weight (f item) (rankByWeight weight (rest.map f)) = _
      rw [ih, insertByWeight_map]
      rfl

end SymbolAtlas
