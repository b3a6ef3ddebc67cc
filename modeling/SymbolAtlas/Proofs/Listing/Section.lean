/-
# SymbolAtlas.Proofs.Listing.Section — the bounds of a section lie in the listing

The phase of a scan knows only indexes of lines that were read. So the bounds of a section that was
found are in order and within the listing, whatever its header lines and terminators are. For a
section with one header line the bounds are known from the parts of the listing.
-/
import SymbolAtlas.Listing.Section

namespace SymbolAtlas.SectionSpec

/-- That all indexes a phase knows are at most `count`, and in order. -/
def Phase.Within (count : Nat) : Phase → Prop
  | .seeking _ => True
  | .body start => start ≤ count
  | .closed start stop => start ≤ stop ∧ stop ≤ count

theorem Phase.Within.mono {phase : Phase} {count more : Nat} (h : phase.Within count)
    (hmore : count ≤ more) : phase.Within more := by
  cases phase with
  | seeking seen => exact trivial
  | body start => exact Nat.le_trans h hmore
  | closed start stop => exact ⟨h.1, Nat.le_trans h.2 hmore⟩

/-- Reading the line with index `count` leads to indexes of lines read so far. -/
theorem within_step (spec : SectionSpec) {count : Nat} (line : Text) {phase : Phase}
    (h : phase.Within count) : (spec.step count line phase).Within (count + 1) := by
  cases phase with
  | seeking seen =>
      simp only [step]
      split
      · split
        · exact Nat.le_refl _
        · exact trivial
      · exact trivial
  | body start =>
      simp only [step]
      split
      · exact ⟨h, Nat.le_succ count⟩
      · exact Nat.le_succ_of_le h
  | closed start stop => exact h.mono (Nat.le_succ count)

theorem within_scan (spec : SectionSpec) (lines : List Text) {count : Nat} {phase : Phase}
    (h : phase.Within count) : (spec.scan count phase lines).Within (count + lines.length) := by
  induction lines generalizing count phase with
  | nil => exact h
  | cons line rest ih =>
      have hrest := ih (spec.within_step line h)
      rw [List.length_cons, Nat.add_comm rest.length 1, ← Nat.add_assoc]
      exact hrest

/-- The range of a section that was looked for lies in the listing. -/
theorem range_of_find {spec : SectionSpec} {lines : List Text} {bounds : SectionBounds}
    (h : spec.find lines = .ok bounds) :
    bounds.range.1 ≤ bounds.range.2 ∧ bounds.range.2 ≤ lines.length := by
  have hstart : (Phase.seeking 0).Within 0 := trivial
  have hwithin : (spec.scan 0 (.seeking 0) lines).Within lines.length := by
    simpa only [Nat.zero_add] using spec.within_scan lines hstart
  unfold find at h
  split at h
  · rename_i start stop hphase
    rw [hphase] at hwithin
    cases h
    exact hwithin
  · rename_i start hphase
    rw [hphase] at hwithin
    cases h
    exact ⟨hwithin, Nat.le_refl _⟩
  · split at h
    · cases h
    · cases h
      exact ⟨Nat.le_refl 0, Nat.zero_le _⟩

/-! ## A section with one header line -/

theorem scan_append (spec : SectionSpec) (count : Nat) (phase : Phase) (first second : List Text) :
    spec.scan count phase (first ++ second)
      = spec.scan (count + first.length) (spec.scan count phase first) second := by
  induction first generalizing count phase with
  | nil => rfl
  | cons line rest ih =>
      rw [List.cons_append, scan, ih, scan, List.length_cons, Nat.add_right_comm, Nat.add_assoc]

/-- Lines that are no header lines are passed over. -/
theorem scan_seeking {spec : SectionSpec} {lines : List Text}
    (h : ∀ line ∈ lines, spec.isHeader line = false) (count seen : Nat) :
    spec.scan count (.seeking seen) lines = .seeking seen := by
  induction lines generalizing count with
  | nil => rfl
  | cons line rest ih =>
      have hline : spec.step count line (.seeking seen) = .seeking seen := by
        simp only [step, h line List.mem_cons_self, Bool.false_eq_true, if_false]
      rw [scan, hline]
      exact ih (fun other hother => h other (List.mem_cons_of_mem line hother)) (count + 1)

/-- Lines that are no terminators stay in the body. -/
theorem scan_body {spec : SectionSpec} {lines : List Text}
    (h : ∀ line ∈ lines, line.trim ∉ spec.terminators) (count start : Nat) :
    spec.scan count (.body start) lines = .body start := by
  induction lines generalizing count with
  | nil => rfl
  | cons line rest ih =>
      have hline : spec.step count line (.body start) = .body start := by
        rw [step, if_neg (h line List.mem_cons_self)]
      rw [scan, hline]
      exact ih (fun other hother => h other (List.mem_cons_of_mem line hother)) (count + 1)

theorem scan_closed (spec : SectionSpec) (lines : List Text) (count start stop : Nat) :
    spec.scan count (.closed start stop) lines = .closed start stop := by
  induction lines generalizing count with
  | nil => rfl
  | cons line rest ih => exact ih (count + 1)

/-- A section with one header line is found between its first header line and the first terminator
behind that. -/
theorem find_enclosed {spec : SectionSpec} (hone : spec.headerLines = 1)
    {preamble body : List Text} {header terminator : Text}
    (hpreamble : ∀ line ∈ preamble, spec.isHeader line = false)
    (hheader : spec.isHeader header = true)
    (hbody : ∀ line ∈ body, line.trim ∉ spec.terminators)
    (hterminator : terminator.trim ∈ spec.terminators) (after : List Text) :
    spec.find (preamble ++ header :: (body ++ terminator :: after))
      = .ok ⟨spec.name, some (preamble.length + 1), preamble.length + 1 + body.length⟩ := by
  have hopen : spec.step (0 + preamble.length) header (.seeking 0)
      = .body (preamble.length + 1) := by
    have hcount : spec.headerLines ≤ ((0 : Nat) : Int) + 1 := by rw [hone]; decide
    simp only [step, hheader, if_true, if_pos hcount, Nat.zero_add]
  have hclose (count start : Nat) :
      spec.step count terminator (.body start) = .closed start count := by
    rw [step, if_pos hterminator]
  -- the four parts of the listing, one phase for each
  have hscan : spec.scan 0 (.seeking 0) (preamble ++ header :: (body ++ terminator :: after))
      = .closed (preamble.length + 1) (preamble.length + 1 + body.length) := by
    rw [scan_append, scan_seeking hpreamble, scan, hopen, scan_append, scan_body hbody, scan,
      hclose, scan_closed, Nat.zero_add]
  rw [find, hscan]

/-- The body of a section that lies between two parts of a listing. -/
theorem body_enclosed (name : Text) (above body below : List Text) :
    (SectionBounds.mk name (some above.length) (above.length + body.length)).body
        (above ++ (body ++ below))
      = (body.zipIdx above.length).map Prod.swap := by
  have hbody : ((above ++ (body ++ below)).take (above.length + body.length)).drop above.length
      = body := by
    rw [← List.append_assoc, ← List.length_append, List.take_left, List.drop_left]
  show List.map _ (List.zipIdx (List.drop above.length _) above.length) = _
  rw [hbody]
  rfl

end SymbolAtlas.SectionSpec
