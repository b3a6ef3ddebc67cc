/-
# SymbolAtlas.Proofs.WindowsPath — what a joined path ends with

What stands in front of the last part of a joined path depends on the drives and the separators of
all parts. The end does not: a last part without a drive that does not begin with a separator is
never changed by the join, so the path ends with it.
-/
import SymbolAtlas.Proofs.Text.LowerCase
import SymbolAtlas.Proofs.Text.Search
import SymbolAtlas.Settings

namespace SymbolAtlas

namespace WindowsPath

/-- Whether a part can only go on below the parts in front of it. -/
def isBelow (part : Text) : Bool := driveLength part == 0 && !isRooted part

/-- Such a part is put behind the rest of the path, which keeps its drive. -/
theorem joinStep_below {part : Text} (h : isBelow part = true) (path : Text × Text) :
    joinStep path part = (path.1, appendRest path.2 part) := by
  rw [isBelow, Bool.and_eq_true, beq_iff_eq, Bool.not_eq_true'] at h
  have hsplit : splitDrive part = ([], part) := by
    rw [splitDrive, h.1, List.splitAt_eq]
    rfl
  simp only [joinStep, hsplit, h.2, Bool.false_eq_true, if_false, List.isEmpty_nil, Bool.not_true,
    Bool.false_and]

/-- A path as one text ends as its rest does. -/
theorem exists_unsplit (drive rest : Text) : ∃ above, unsplit (drive, rest) = above ++ rest := by
  simp only [unsplit]
  split
  · exact ⟨drive ++ ['\\'], by rw [List.append_assoc]; rfl⟩
  · exact ⟨drive, rfl⟩

/-- A joined path ends with its last part. -/
theorem exists_join_concat {last : Text} (h : isBelow last = true) (first : Text)
    (parts : List Text) : ∃ above, join first (parts ++ [last]) = above ++ last := by
  rw [join, List.foldl_concat, joinStep_below h]
  obtain ⟨above, habove⟩ := exists_unsplit (parts.foldl joinStep (splitDrive first)).1
    (appendRest (parts.foldl joinStep (splitDrive first)).2 last)
  rw [habove, appendRest, ← List.append_assoc]
  exact ⟨_, rfl⟩

end WindowsPath

/-! ## The dumper of an installation -/

namespace Settings

/-- The name of the dumper's file. -/
def dumperName : Text := "dumpbin.exe".toList

/-- Wherever the installation lies and whatever the toolset is called, the path of its dumper ends
with the name of the dumper. -/
theorem exists_dumpbinUnder (s : Settings) (installation : Text) :
    ∃ above, s.dumpbinUnder installation = above ++ dumperName := by
  rw [dumpbinUnder]
  exact WindowsPath.exists_join_concat (by decide) installation _

theorem dumpbinUnder_ne_nil (s : Settings) (installation : Text) :
    s.dumpbinUnder installation ≠ [] := by
  obtain ⟨above, habove⟩ := s.exists_dumpbinUnder installation
  rw [habove]
  exact List.append_ne_nil_of_right_ne_nil above (by decide)

end Settings

end SymbolAtlas
