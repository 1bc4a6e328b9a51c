import Promptsmith.Files.Tree
import Promptsmith.Proofs.Text.Splitting

/-!
# Names that are too long

Of every path it can be told whether a file stands there, unless the path or a name in it is too
long. A name without slashes is a path of its own.
-/
namespace Promptsmith

namespace Files

theorem Path.ofText_of_not_mem {s : String} (hslash : '/' ∉ s.toList) (hempty : s ≠ "")
    (hdot : s ≠ ".") : ofText s = ⟨"", [s]⟩ := by
  have hnone : ∀ c ∈ s.toList, (c == '/') = false := by
    intro c hc
    rw [beq_eq_false_iff_ne]
    rintro rfl
    exact hslash hc
  have hroot : rootOf s = "" := by
    have hleading : s.toList.takeWhile (· == '/') = [] := by
      cases hs : s.toList with
      | nil => rfl
      | cons c r =>
        rw [hs, List.forall_mem_cons] at hnone
        rw [List.takeWhile_cons_of_neg (by simp [hnone.1])]
    rw [rootOf, hleading]
    rfl
  have hparts : components s = [s] := by
    rw [components, Text.splitAt_of_forall hnone]
    simp [hempty, hdot]
  rw [ofText, hroot, hparts]

namespace Tree

variable {t : Tree} {p : Path}

theorem tooLong_of_isFile {e : FileError} (h : t.isFile p = .error e) :
    ∃ path, e = .system .tooLong path := by
  unfold isFile test at h
  split at h
  · cases h
  · cases h
    exact ⟨_, rfl⟩
  · cases h

/-- Below a name that is too long nothing can be told, whatever the tree holds. -/
theorem isFile_of_long {name : String} {rest : List String} (hparts : p.parts = name :: rest)
    (hlong : maxNameBytes < name.utf8ByteSize) (hnull : '\x00' ∉ p.text.toList) :
    t.isFile p = .error (.system .tooLong p.text) := by
  have hup : name ≠ ".." := by
    rintro rfl
    exact absurd hlong (by decide)
  have hfind : t.find? p = .error (.system .tooLong p.text) := by
    unfold find? resolve
    rw [if_neg hnull]
    split
    · rfl
    · rw [hparts]
      unfold walk
      rw [if_neg hup, if_pos hlong]
      rfl
  rw [isFile, test, hfind]

end Tree

end Files

end Promptsmith
