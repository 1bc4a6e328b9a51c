import Promptsmith.Host

/-!
# Markup that every console takes

Texts without brackets and backslashes are markup, and so are texts that are put together from
markup. Words that are fixed are checked character by character.
-/
namespace Promptsmith

/-- No bracket and no backslash occurs in the text. -/
def Untagged (s : String) : Prop :=
  ∀ c ∈ s.toList, c ≠ '[' ∧ c ≠ '\\'

instance (s : String) : Decidable (Untagged s) :=
  decidable_of_iff (s.toList.all fun c => c != '[' && c != '\\') (by simp [Untagged])

theorem Untagged.markup {s : String} (h : Untagged s) : Markup s := .plain h

theorem Untagged.append {s t : String} (hs : Untagged s) (ht : Untagged t) : Untagged (s ++ t) := by
  intro c hc
  rw [String.toList_append, List.mem_append] at hc
  exact hc.elim (hs c) (ht c)

theorem untagged_toString (n : Nat) : Untagged (toString n) := by
  intro c hc
  have hdigit := Nat.isDigit_of_mem_toDigits (by decide) (by decide) (Nat.toList_repr ▸ hc)
  constructor
  · rintro rfl
    exact absurd hdigit (by decide)
  · rintro rfl
    exact absurd hdigit (by decide)

theorem untagged_intercalate {sep : String} (hsep : Untagged sep) {ss : List String}
    (h : ∀ s ∈ ss, Untagged s) : Untagged (sep.intercalate ss) := by
  induction ss with
  | nil => simp [Untagged]
  | cons s ss ih =>
    rw [List.forall_mem_cons] at h
    by_cases hnil : ss = []
    · subst hnil
      simpa using h.1
    · rw [String.intercalate_cons_of_ne_nil hnil]
      exact (h.1.append hsep).append (ih h.2)

instance (style : String) : Decidable (IsStyle style) :=
  decidable_of_iff
    (style.toList.head?.any Char.isLower &&
      style.toList.all fun c => c.isLower || c == ' ' || c == '_')
    (by simp [IsStyle, Option.any_eq_true, and_comm, or_assoc])

/-- Untagged text in a style. -/
theorem Markup.styled_untagged {style text : String} (hstyle : IsStyle style) (h : Untagged text) :
    Markup ("[" ++ style ++ "]" ++ text ++ "[/" ++ style ++ "]") := .styled hstyle h.markup

end Promptsmith
