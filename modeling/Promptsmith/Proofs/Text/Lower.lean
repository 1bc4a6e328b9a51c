import Mathlib
import Promptsmith.Proofs.Text.Splitting
import Promptsmith.Text.Case

/-!
# Lowering

A text in lower case is left as it is when it is lowered again: no character that lowering yields
has a lower-case form other than itself, and a sigma keeps the form that its neighbours once gave
it. An ASCII text is lowered letter by letter, before or after it is trimmed.
-/
namespace Promptsmith.Text

/-- Lowering leaves the character as it is, whatever stands around it. -/
structure Settled (c : Char) : Prop where
  lowerChar_eq : lowerChar c = c
  ne_sigma : c ≠ 'Σ'
  ne_dotted : c ≠ 'İ'

/-- The code of the last lower-case form of a run. -/
def CaseRun.top (r : CaseRun) : Nat :=
  r.target + (r.last - r.first)

/-- The run lies apart from the lower-case forms of another one, or falls between them. -/
def CaseRun.avoids (r s : CaseRun) : Bool :=
  r.last < s.target || s.top < r.first ||
    r.step == 2 && (s.step == 2 || s.first == s.last) && s.target % 2 != r.first % 2

/-- The lower-case forms of a run are characters, none of which is handled apart, and an ASCII one
is a small letter by itself. -/
def CaseRun.isSound (r : CaseRun) : Bool :=
  (r.top < 0xD800 || 0xE000 ≤ r.target && r.top < 0x110000) &&
    (128 ≤ r.target || r.first == r.last && (Char.ofNat r.target).toLower == Char.ofNat r.target) &&
    (r.top < 0x130 || 0x130 < r.target) && (r.top < 0x3A3 || 0x3A3 < r.target)

theorem avoids_of_mem : ∀ r ∈ lowerTable, ∀ s ∈ lowerTable, r.avoids s := by decide +kernel

theorem isSound_of_mem : ∀ r ∈ lowerTable, r.isSound := by decide +kernel

theorem CaseRun.lower?_eq_some_iff {r : CaseRun} {n m : Nat} :
    r.lower? n = some m ↔
      r.first ≤ n ∧ n ≤ r.last ∧ (n - r.first) % r.step = 0 ∧ m = r.target + (n - r.first) := by
  unfold lower?
  split
  · next h => simp [h, eq_comm]
  · next h =>
    constructor
    · nofun
    · rintro ⟨hfirst, hlast, hstep, -⟩
      exact absurd ⟨hfirst, hlast, hstep⟩ h

/-- A run that avoids another has no lower-case form for those of the other. -/
theorem CaseRun.lower?_of_avoids {r s : CaseRun} {n m : Nat} (h : r.avoids s)
    (hm : s.lower? n = some m) : r.lower? m = none := by
  obtain ⟨hfirst, hlast, hstep, rfl⟩ := lower?_eq_some_iff.mp hm
  rw [Option.eq_none_iff_forall_ne_some]
  intro k hk
  obtain ⟨hfirst', hlast', hstep', -⟩ := lower?_eq_some_iff.mp hk
  have htop : s.top = s.target + (s.last - s.first) := rfl
  simp only [avoids, Bool.or_eq_true, Bool.and_eq_true, decide_eq_true_eq, beq_iff_eq,
    bne_iff_ne] at h
  rcases h with (h | h) | ⟨⟨htwo, hgaps⟩, hparity⟩
  · omega
  · omega
  · rw [htwo] at hstep'
    rcases hgaps with htwo | hone
    · rw [htwo] at hstep
      omega
    · omega

theorem settled_toLower {c : Char} (h : c.toNat < 128) : Settled c.toLower := by
  have hall : ∀ n < 128, lowerChar (Char.ofNat n).toLower = (Char.ofNat n).toLower ∧
      (Char.ofNat n).toLower ≠ 'Σ' ∧ (Char.ofNat n).toLower ≠ 'İ' := by decide +kernel
  obtain ⟨hfixed, hsigma, hdotted⟩ := hall c.toNat h
  rw [Char.ofNat_toNat] at hfixed hsigma hdotted
  exact ⟨hfixed, hsigma, hdotted⟩

/-- What a run lowers a character to is settled. -/
theorem settled_of_lower? {s : CaseRun} (hs : s ∈ lowerTable) {n m : Nat}
    (hm : s.lower? n = some m) : Settled (Char.ofNat m) := by
  have hsound := isSound_of_mem s hs
  obtain ⟨hfirst, hlast, -, hmeq⟩ := CaseRun.lower?_eq_some_iff.mp hm
  have htop : s.top = s.target + (s.last - s.first) := rfl
  simp only [CaseRun.isSound, Bool.and_eq_true, Bool.or_eq_true, decide_eq_true_eq,
    beq_iff_eq] at hsound
  obtain ⟨⟨⟨hvalid, hascii⟩, hdotted⟩, hsigma⟩ := hsound
  have hcode : (Char.ofNat m).toNat = m := by
    rw [Char.toNat_ofNat, if_pos]
    unfold Nat.isValidChar
    omega
  refine ⟨?_, ?_, ?_⟩
  · unfold lowerChar
    rw [hcode]
    split
    · next hlow =>
      rcases hascii with hhigh | ⟨hone, hself⟩
      · omega
      · have htarget : m = s.target := by omega
        rw [htarget, hself]
    · have hnone : lowerTable.findSome? (fun r => r.lower? m) = none := by
        rw [List.findSome?_eq_none_iff]
        intro r hr
        exact CaseRun.lower?_of_avoids (avoids_of_mem r hr s hs) hm
      rw [hnone]
      rfl
  · intro h
    have hsigma' : 0x3A3 = m := by rw [← hcode, h]; rfl
    omega
  · intro h
    have hdotted' : 0x130 = m := by rw [← hcode, h]; rfl
    omega

theorem settled_lowerChar {c : Char} (hsigma : c ≠ 'Σ') (hdotted : c ≠ 'İ') :
    Settled (lowerChar c) := by
  by_cases hascii : c.toNat < 128
  · rw [lowerChar, if_pos hascii]
    exact settled_toLower hascii
  · cases hfound : lowerTable.findSome? fun r => r.lower? c.toNat with
    | none =>
      have hself : lowerChar c = c := by
        rw [lowerChar, if_neg hascii, hfound]
        rfl
      rw [hself]
      exact ⟨hself, hsigma, hdotted⟩
    | some m =>
      obtain ⟨r, hr, hm⟩ := List.exists_of_findSome?_eq_some hfound
      rw [lowerChar, if_neg hascii, hfound]
      exact settled_of_lower? hr hm

/-- All that lowering yields is settled. -/
theorem settled_of_mem_lowerFrom {before s : List Char} {d : Char} (hd : d ∈ lowerFrom before s) :
    Settled d := by
  induction s generalizing before with
  | nil => cases hd
  | cons c r ih =>
    rw [lowerFrom, List.mem_append] at hd
    rcases hd with hd | hd
    · split at hd
      · rw [List.mem_singleton] at hd
        subst hd
        unfold sigma
        split
        · exact ⟨by decide +kernel, by decide, by decide⟩
        · exact ⟨by decide +kernel, by decide, by decide⟩
      · next hsigma =>
        split at hd
        · simp only [List.mem_cons, List.not_mem_nil, or_false] at hd
          rcases hd with rfl | rfl
          · exact ⟨by decide +kernel, by decide, by decide⟩
          · exact ⟨by decide +kernel, by decide, by decide⟩
        · next hdotted =>
          rw [List.mem_singleton] at hd
          subst hd
          exact settled_lowerChar hsigma hdotted
    · exact ih hd

theorem lowerFrom_of_settled {before s : List Char} (h : ∀ c ∈ s, Settled c) :
    lowerFrom before s = s := by
  induction s generalizing before with
  | nil => rfl
  | cons c r ih =>
    obtain ⟨hself, hsigma, hdotted⟩ := h c List.mem_cons_self
    rw [lowerFrom, if_neg hsigma, if_neg hdotted, hself,
      ih fun d hd => h d (List.mem_cons_of_mem c hd), List.singleton_append]

/-! ### ASCII -/

/-- What holds of the first codes holds of every ASCII character. -/
theorem forall_ascii {P : Char → Prop} (h : ∀ n < 128, P (Char.ofNat n)) {c : Char}
    (hc : c.toNat < 128) : P c := by
  have hcode := h c.toNat hc
  rwa [Char.ofNat_toNat] at hcode

theorem toLower_of_le {c : Char} (h : 128 ≤ c.toNat) : c.toLower = c := by
  refine Char.toLower_eq_of_not_isUpper ?_
  simp only [Char.isUpper, decide_eq_true_eq, UInt32.le_iff_toNat_le, ge_iff_le]
  change ¬(65 ≤ c.toNat ∧ c.toNat ≤ 90)
  omega

theorem toNat_lt_of_toLower {c : Char} (h : c.toLower.toNat < 128) : c.toNat < 128 := by
  by_contra hhigh
  rw [toLower_of_le (Nat.le_of_not_lt hhigh)] at h
  exact hhigh h

theorem isBlank_toLower (c : Char) : isBlank c.toLower = isBlank c := by
  by_cases h : c.toNat < 128
  · exact forall_ascii (P := fun c => isBlank c.toLower = isBlank c) (by decide +kernel) h
  · rw [toLower_of_le (Nat.le_of_not_lt h)]

/-- An ASCII text is lowered letter by letter. -/
theorem lowerFrom_of_ascii {before s : List Char} (h : ∀ c ∈ s, c.toNat < 128) :
    lowerFrom before s = s.map Char.toLower := by
  induction s generalizing before with
  | nil => rfl
  | cons c s ih =>
    rw [List.forall_mem_cons] at h
    have hsigma : c ≠ 'Σ' := by
      rintro rfl
      exact absurd h.1 (by decide)
    have hdotted : c ≠ 'İ' := by
      rintro rfl
      exact absurd h.1 (by decide)
    rw [lowerFrom, if_neg hsigma, if_neg hdotted, lowerChar, if_pos h.1, ih h.2]
    rfl

theorem trim_map_toLower (s : List Char) :
    trim (s.map Char.toLower) = (trim s).map Char.toLower := by
  have hblank : isBlank ∘ Char.toLower = isBlank := funext isBlank_toLower
  have hdrop : (s.map Char.toLower).dropWhile isBlank = (s.dropWhile isBlank).map Char.toLower := by
    rw [List.dropWhile_map, hblank]
  rw [trim, trimEnd, trimStart, hdrop, dropEndWhile_map isBlank_toLower]
  rfl

/-! ### Lowering twice -/

@[simp] theorem lower_lower (s : List Char) : lower (lower s) = lower s :=
  lowerFrom_of_settled fun _ => settled_of_mem_lowerFrom

@[simp] theorem lowered_lowered (s : String) : lowered (lowered s) = lowered s := by
  simp [lowered]

end Promptsmith.Text
