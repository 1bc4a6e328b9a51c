import Promptsmith.Context

/-!
# Accepted values

What a value is that a field accepts, and what is kept of it: a text or a word of a vocabulary is
kept as a text, and a list or tuple of them as a list of texts.
-/
namespace Promptsmith

/-- A value with a text is a text itself or a word of a vocabulary. -/
theorem Value.eq_of_text? {v : Value} {s : String} (h : v.text? = some s) :
    v = .text s ∨ ∃ l : Label, v = .label l ∧ l.text = s := by
  cases v with
  | text t => exact .inl (congrArg Value.text (Option.some.inj h))
  | label l => exact .inr ⟨l, rfl, Option.some.inj h⟩
  | _ => cases h

namespace Check

theorem text_eq_valid_iff {v : Value} {s : String} : text v = .valid s ↔ v.text? = some s := by
  unfold text Checked.fail
  cases v.text? <;> simp

theorem allFrom_text_eq_valid_iff {index : Nat} {items : List Value} {ss : List String} :
    Checked.allFrom text index items = .valid ss ↔ items.map Value.text? = ss.map some := by
  induction items generalizing index ss with
  | nil => cases ss <;> simp [Checked.allFrom]
  | cons item items ih =>
    rw [Checked.allFrom, Checked.seq_eq_valid]
    constructor
    · rintro ⟨_, rest, hfirst, hrest, rfl⟩
      obtain ⟨s, hs, rfl⟩ := Checked.map_eq_valid.mp hfirst
      have hitem := text_eq_valid_iff.mp (Checked.under_eq_valid.mp hs)
      rw [List.map_cons, List.map_cons, hitem, ih.mp hrest]
    · intro h
      cases ss with
      | nil => cases h
      | cons s ss =>
        obtain ⟨hitem, hrest⟩ := List.cons.inj h
        have hs : (text item).under (toString index) = .valid s :=
          Checked.under_eq_valid.mpr (text_eq_valid_iff.mpr hitem)
        exact ⟨_, ss, Checked.map_eq_valid.mpr ⟨s, hs, rfl⟩, ih.mpr hrest, rfl⟩

theorem texts_eq_valid_iff {v : Value} {ss : List String} :
    texts v = .valid ss ↔ ∃ items, v.items? = some items ∧ items.map Value.text? = ss.map some := by
  unfold texts listOf Checked.fail
  cases v.items? with
  | none => simp
  | some items => simpa [Checked.all] using allFrom_text_eq_valid_iff

end Check

/-- Technologies are kept as one text or as a list of texts. -/
theorem TechStack.exists_of_check {v : Value} {stack : TechStack} (h : check v = .valid stack) :
    (∃ s, v.text? = some s ∧ stack = .line s) ∨
      ∃ items ss, v.items? = some items ∧ items.map Value.text? = ss.map some ∧
        stack = .names ss := by
  obtain ⟨kept, hkept, rfl⟩ := Checked.map_eq_valid.mp h
  unfold Check.textOrTexts at hkept
  split at hkept
  · next s htext =>
    cases hkept
    exact .inl ⟨s, Check.text_eq_valid_iff.mp htext, rfl⟩
  · next ss _ htexts =>
    cases hkept
    obtain ⟨items, hitems, hss⟩ := Check.texts_eq_valid_iff.mp htexts
    exact .inr ⟨items, ss, hitems, hss, rfl⟩
  · cases hkept

namespace Fields

variable {α : Type} {fs : Fields} {name : String} {a : α} {check : Value → Checked α}

theorem required_eq_valid_iff :
    fs.required name check = .valid a ↔ ∃ v, fs.get? name = some v ∧ check v = .valid a := by
  unfold required
  cases fs.get? name <;> simp

theorem optional_eq_valid_iff {default : α} :
    fs.optional name default check = .valid a ↔
      fs.get? name = none ∧ a = default ∨ ∃ v, fs.get? name = some v ∧ check v = .valid a := by
  unfold optional
  cases fs.get? name <;> simp [eq_comm]

end Fields

end Promptsmith
