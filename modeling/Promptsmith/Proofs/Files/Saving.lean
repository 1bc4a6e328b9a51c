import Promptsmith.Proofs.Files.Placing

/-!
# Saving

A text is saved by making the directories above its path that are missing and writing the file.
Directories are made where nothing was, and paths lead where they led before. So what is saved is
found again, and whatever else was in the tree is still there, also when saving fails.
-/
namespace Promptsmith.Files

/-- The path, or one above it. -/
structure Path.Leads (p q : Path) : Prop where
  root : p.root = q.root
  parts : p.parts <+: q.parts

theorem Path.Leads.refl (p : Path) : p.Leads p := ⟨rfl, List.prefix_refl _⟩

theorem Path.Leads.trans {p q r : Path} (h : p.Leads q) (h' : q.Leads r) : p.Leads r :=
  ⟨h.root.trans h'.root, h.parts.trans h'.parts⟩

theorem Path.leads_parent (p : Path) : p.parent.Leads p := ⟨rfl, List.dropLast_prefix _⟩

namespace Tree

/-! ### Paths lead where they led -/

/-- Relative paths start from the same place, and what was a directory is one. -/
structure KeepsDirectories (t u : Tree) : Prop where
  here : u.here = t.here
  directories : ∀ q, t.entry? q = some .directory → u.entry? q = some .directory

section

variable {t u : Tree} {p : Path}

theorem here_put (t : Tree) (parts : List String) (e : Entry) :
    (t.put parts e).here = t.here := by
  unfold put
  split <;> rfl

/-- The last name of a path need not exist. -/
theorem walk_singleton {place : List String} {part : String} (hup : part ≠ "..")
    (hshort : ¬maxNameBytes < part.utf8ByteSize) :
    t.walk place [part] = .ok (place ++ [part]) := by
  unfold Tree.walk
  rw [if_neg hup, if_neg hshort]
  rcases t.entry? (place ++ [part]) with _ | ⟨_⟩ | _ <;> rfl

theorem KeepsDirectories.walk (h : t.KeepsDirectories u) {place rest q : List String}
    (hwalk : t.walk place rest = .ok q) : u.walk place rest = .ok q := by
  induction rest generalizing place with
  | nil => exact hwalk
  | cons part rest ih =>
    by_cases hup : part = ".."
    · unfold Tree.walk at hwalk ⊢
      rw [if_pos hup] at hwalk ⊢
      exact ih hwalk
    by_cases hlong : maxNameBytes < part.utf8ByteSize
    · unfold Tree.walk at hwalk
      rw [if_neg hup, if_pos hlong] at hwalk
      cases hwalk
    cases rest with
    | nil =>
      rw [walk_singleton hup hlong] at hwalk ⊢
      exact hwalk
    | cons next rest =>
      unfold Tree.walk at hwalk ⊢
      rw [if_neg hup, if_neg hlong] at hwalk ⊢
      rcases hentry : t.entry? (place ++ [part]) with _ | ⟨_⟩ | _
      · rw [hentry] at hwalk
        cases hwalk
      · rw [hentry] at hwalk
        cases hwalk
      · rw [hentry] at hwalk
        rw [h.directories _ hentry]
        exact ih hwalk

theorem resolve_eq_ok_iff {q : List String} :
    t.resolve p = .ok q ↔ '\x00' ∉ p.text.toList ∧ p.text.utf8ByteSize ≤ maxPathBytes ∧
      t.walk (if p.isAbsolute then [] else t.here) p.parts = .ok q := by
  unfold resolve
  split
  · next hnull => simp [hnull]
  · next hnull =>
    split
    · next hlong => simp [Nat.not_le.mpr hlong]
    · next hlong =>
      rw [Nat.not_lt] at hlong
      cases t.walk (if p.isAbsolute then [] else t.here) p.parts with
      | error cause =>
        change Except.error (FileError.system cause p.text) = .ok q ↔ _
        simp
      | ok place =>
        change Except.ok place = .ok q ↔ _
        simp [hnull, hlong]

theorem KeepsDirectories.resolve (h : t.KeepsDirectories u) {q : List String}
    (hq : t.resolve p = .ok q) : u.resolve p = .ok q := by
  rw [resolve_eq_ok_iff] at hq ⊢
  rw [h.here]
  exact ⟨hq.1, hq.2.1, h.walk hq.2.2⟩

theorem isDirectory_eq_true_iff :
    t.isDirectory p = .ok true ↔
      ∃ q, t.resolve p = .ok q ∧ t.entry? q = some .directory := by
  unfold isDirectory test find?
  cases t.resolve p with
  | error e =>
    cases e with
    | system cause path => cases cause <;> simp [Except.map]
    | encoding fault => simp [Except.map]
    | nullByte => simp [Except.map]
  | ok q =>
    dsimp only [Except.map]
    rcases hentry : t.entry? q with _ | ⟨_⟩ | _ <;> simp [hentry]

theorem KeepsDirectories.isDirectory (h : t.KeepsDirectories u)
    (hp : t.isDirectory p = .ok true) : u.isDirectory p = .ok true := by
  rw [isDirectory_eq_true_iff] at hp ⊢
  obtain ⟨q, hq, hdirectory⟩ := hp
  exact ⟨q, h.resolve hq, h.directories q hdirectory⟩

end

/-! ### Making directories -/

/-- The tree is the same but for directories at the path and at paths above it, where nothing was
before. -/
structure Furnished (t u : Tree) (p : Path) : Prop where
  here : u.here = t.here
  made : ∀ q, u.entry? q ≠ t.entry? q → t.entry? q = none ∧ u.entry? q = some .directory ∧
    ∃ r : Path, r.Leads p ∧ u.resolve r = .ok q

namespace Furnished

variable {t u v : Tree} {p q : Path}

theorem refl (t : Tree) (p : Path) : t.Furnished t p := ⟨rfl, fun _ h => absurd rfl h⟩

theorem keeps (h : t.Furnished u p) : t.KeepsDirectories u := by
  refine ⟨h.here, ?_⟩
  intro q hq
  by_cases hsame : u.entry? q = t.entry? q
  · rw [hsame, hq]
  · exact (h.made q hsame).2.1

theorem below (h : t.Furnished u p) (hp : p.Leads q) : t.Furnished u q := by
  refine ⟨h.here, ?_⟩
  intro place hne
  obtain ⟨hnone, hdirectory, r, hr, hresolve⟩ := h.made place hne
  exact ⟨hnone, hdirectory, r, hr.trans hp, hresolve⟩

theorem trans (h : t.Furnished u p) (h' : u.Furnished v p) : t.Furnished v p := by
  refine ⟨h'.here.trans h.here, ?_⟩
  intro place hne
  by_cases hsame : u.entry? place = t.entry? place
  · have hmade := h'.made place (by rwa [hsame])
    rwa [hsame] at hmade
  · obtain ⟨hnone, hdirectory, r, hr, hresolve⟩ := h.made place hsame
    exact ⟨hnone, h'.keeps.directories place hdirectory, r, hr, h'.keeps.resolve hresolve⟩

end Furnished

section

variable {t u : Tree} {p : Path} {s : String}

/-- A directory that is made stands where nothing was. -/
theorem makeDirectory_eq_ok (h : t.makeDirectory p = .ok u) :
    t.Furnished u p ∧ u.isDirectory p = .ok true := by
  unfold makeDirectory at h
  cases hresolve : t.resolve p with
  | error e =>
    rw [hresolve] at h
    cases h
  | ok parts =>
    rw [hresolve] at h
    dsimp only at h
    cases hentry : t.entry? parts with
    | some e =>
      rw [hentry] at h
      cases h
    | none =>
      rw [hentry] at h
      cases h
      have hparts : parts ≠ [] := by
        rintro rfl
        cases hentry
      have hkeeps : t.KeepsDirectories (t.put parts .directory) := by
        refine ⟨here_put _ _ _, ?_⟩
        intro q hq
        rw [entry?_put hparts, hq, ite_self]
      have hmade : entry? (t.put parts .directory) parts = some .directory := by
        rw [entry?_put hparts, if_pos rfl]
      refine ⟨⟨here_put _ _ _, ?_⟩, ?_⟩
      · intro q hne
        rw [entry?_put hparts] at hne
        split at hne
        · next hq =>
          subst hq
          exact ⟨hentry, hmade, p, .refl p, hkeeps.resolve hresolve⟩
        · exact absurd rfl hne
      · exact isDirectory_eq_true_iff.mpr ⟨parts, hkeeps.resolve hresolve, hmade⟩

theorem ensureDirectory_furnished (t : Tree) (p : Path) :
    t.Furnished (t.ensureDirectory p).1 p ∧
      ((t.ensureDirectory p).2 = .ok () → (t.ensureDirectory p).1.isDirectory p = .ok true) := by
  unfold ensureDirectory
  split
  · next u hmake =>
    obtain ⟨hfurnished, hdirectory⟩ := makeDirectory_eq_ok hmake
    exact ⟨hfurnished, fun _ => hdirectory⟩
  · split
    · next hdirectory => exact ⟨.refl t p, fun _ => hdirectory⟩
    · exact ⟨.refl t p, nofun⟩
  · exact ⟨.refl t p, nofun⟩

theorem ensureDirectories_furnished (t : Tree) (p : Path) (above : Nat) :
    t.Furnished (t.ensureDirectories p above).1 p ∧
      ((t.ensureDirectories p above).2 = .ok () →
        (t.ensureDirectories p above).1.isDirectory p = .ok true) := by
  induction above generalizing p with
  | zero => exact t.ensureDirectory_furnished p
  | succ above ih =>
    unfold ensureDirectories
    split
    · have hparent := ih p.parent
      match hfirst : t.ensureDirectories p.parent above with
      | (u, .ok ()) =>
        rw [hfirst] at hparent
        obtain ⟨hfurnished, hdirectory⟩ := u.ensureDirectory_furnished p
        exact ⟨(hparent.1.below p.leads_parent).trans hfurnished, hdirectory⟩
      | (u, .error e) =>
        rw [hfirst] at hparent
        exact ⟨hparent.1.below p.leads_parent, nofun⟩
    · exact t.ensureDirectory_furnished p

/-! ### Writing -/

/-- The text stands at the path, in place of no directory, and the directory of the path is there.
Otherwise the tree is the same but for directories above the path, where nothing was before. -/
structure Saved (t u : Tree) (p : Path) (s : String) : Prop where
  here : u.here = t.here
  written : ∃ place, u.resolve p = .ok place ∧ u.entry? place = some (.file (.text s)) ∧
    t.entry? place ≠ some .directory ∧
    ∀ q, q ≠ place → u.entry? q ≠ t.entry? q → t.entry? q = none ∧
      u.entry? q = some .directory ∧ ∃ r : Path, r.Leads p.parent ∧ u.resolve r = .ok q
  parent : u.isDirectory p.parent = .ok true

theorem write_eq_ok (h : t.write p s = (u, .ok ())) :
    ∃ place, t.resolve p = .ok place ∧ t.entry? place ≠ some .directory ∧
      u = t.put place (.file (.text s)) := by
  unfold write at h
  cases hresolve : t.resolve p with
  | error e =>
    rw [hresolve] at h
    cases h
  | ok place =>
    rw [hresolve] at h
    dsimp only at h
    split at h
    · cases h
    · next hentry =>
      cases h
      exact ⟨place, rfl, hentry, rfl⟩

theorem write_error {e : FileError} (h : t.write p s = (u, .error e)) : u = t := by
  unfold write at h
  split at h
  · cases h
    rfl
  · split at h
    · cases h
      rfl
    · cases h

theorem saved_of_save (h : t.save p s = (u, .ok ())) : t.Saved u p s := by
  obtain ⟨hfurnished, hparent⟩ := t.ensureDirectories_furnished p.parent p.parts.length
  unfold save at h
  match hfirst : t.ensureDirectories p.parent p.parts.length with
  | (v, .error e) =>
    rw [hfirst] at h
    cases h
  | (v, .ok ()) =>
    rw [hfirst] at h hfurnished hparent
    obtain ⟨place, hresolve, hentry, rfl⟩ := write_eq_ok h
    have hplace : place ≠ [] := by
      rintro rfl
      exact hentry rfl
    have hkeeps : v.KeepsDirectories (v.put place (.file (.text s))) := by
      refine ⟨here_put _ _ _, ?_⟩
      intro q hq
      have hne : q ≠ place := by
        rintro rfl
        exact hentry hq
      rw [entry?_put hplace, if_neg hne, hq]
    refine ⟨(here_put _ _ _).trans hfurnished.here, ?_, hkeeps.isDirectory (hparent rfl)⟩
    refine ⟨place, hkeeps.resolve hresolve, ?_, ?_, ?_⟩
    · rw [entry?_put hplace, if_pos rfl]
    · intro hdirectory
      exact hentry (hfurnished.keeps.directories place hdirectory)
    · intro q hq hne
      rw [entry?_put hplace, if_neg hq] at hne ⊢
      obtain ⟨hnone, hdirectory, r, hr, hled⟩ := hfurnished.made q hne
      exact ⟨hnone, hdirectory, r, hr, hkeeps.resolve hled⟩

theorem save_snd (t : Tree) (p : Path) (s s' : String) : (t.save p s).2 = (t.save p s').2 := by
  unfold save
  match t.ensureDirectories p.parent p.parts.length with
  | (u, .error e) => rfl
  | (u, .ok ()) =>
    dsimp only
    unfold write
    split
    · rfl
    · split <;> rfl

/-- Whether a text can be saved does not depend on the text. -/
theorem exists_save {result : Except FileError Unit} (h : (t.save p "").2 = result) (s : String) :
    ∃ u, t.save p s = (u, result) :=
  ⟨(t.save p s).1, Prod.ext rfl ((save_snd t p s "").trans h)⟩

/-- When saving fails, directories above the path may have been made, and nothing else. -/
theorem furnished_of_save {e : FileError} (h : t.save p s = (u, .error e)) :
    t.Furnished u p.parent := by
  obtain ⟨hfurnished, -⟩ := t.ensureDirectories_furnished p.parent p.parts.length
  unfold save at h
  match hfirst : t.ensureDirectories p.parent p.parts.length with
  | (v, .error e) =>
    rw [hfirst] at h hfurnished
    cases h
    exact hfurnished
  | (v, .ok ()) =>
    rw [hfirst] at h hfurnished
    rw [write_error h]
    exact hfurnished

theorem Saved.find? (h : t.Saved u p s) : u.find? p = .ok (some (.file (.text s))) := by
  obtain ⟨place, hresolve, hentry, -⟩ := h.written
  rw [Tree.find?, hresolve, ← hentry]
  rfl

/-- What was saved is read, its line endings unified. -/
theorem Saved.read (h : t.Saved u p s) :
    u.read p = .ok (String.ofList (Text.unifyLines s.toList)) := by
  rw [Tree.read, h.find?]
  rfl

end

end Tree

end Promptsmith.Files
