import Promptsmith.Proofs.Files.Naming

/-!
# Normal forms of paths

The text of a path is read as that path again, so a path in its normal form is left as it is.
-/
namespace Promptsmith

namespace Files.Path

/-- A name between slashes that means something. -/
structure IsName (s : String) : Prop where
  noSlash : '/' ∉ s.toList
  nonempty : s ≠ ""
  noDot : s ≠ "."

/-- A path as it is read from a text. -/
structure Normal (p : Path) : Prop where
  root : p.root = "" ∨ p.root = "/" ∨ p.root = "//"
  names : ∀ name ∈ p.parts, IsName name

theorem normal_ofText (s : String) : (ofText s).Normal := by
  constructor
  · change rootOf s = "" ∨ rootOf s = "/" ∨ rootOf s = "//"
    unfold rootOf
    split
    · exact .inl rfl
    · exact .inr (.inr rfl)
    · exact .inr (.inl rfl)
  · intro name hname
    change name ∈ components s at hname
    rw [components, List.mem_filter, List.mem_map] at hname
    obtain ⟨⟨part, hpart, rfl⟩, hkept⟩ := hname
    have hslash := Text.mem_of_mem_splitAt hpart
    rw [decide_eq_true_iff] at hkept
    refine ⟨?_, hkept.1, hkept.2⟩
    intro hmem
    rw [String.toList_ofList] at hmem
    simpa using hslash _ hmem

theorem components_intercalate {parts : List String} (h : ∀ name ∈ parts, IsName name) :
    components (String.intercalate "/" parts) = parts := by
  cases hparts : parts with
  | nil => decide +kernel
  | cons name rest =>
    rw [← hparts]
    have hnone : ∀ s ∈ parts.map String.toList, ∀ c ∈ s, (c == '/') = false := by
      intro s hs c hc
      obtain ⟨name, hname, rfl⟩ := List.mem_map.mp hs
      rw [beq_eq_false_iff_ne]
      rintro rfl
      exact (h name hname).noSlash hc
    have hsplit : Text.splitAt (· == '/') (String.intercalate "/" parts).toList =
        parts.map String.toList := by
      rw [String.toList_intercalate]
      exact Text.splitAt_intercalate (by decide) hnone (by simp [hparts])
    rw [components, hsplit, List.map_map]
    have hid : String.ofList ∘ String.toList = id := funext fun s => String.ofList_toList
    rw [hid, List.map_id, List.filter_eq_self]
    intro name hname
    simpa using ⟨(h name hname).nonempty, (h name hname).noDot⟩

/-- Slashes in front do not count for the components. -/
theorem components_slash (s : String) : components ("/" ++ s) = components s := by
  have htext : ("/" ++ s).toList = '/' :: s.toList := by
    rw [String.toList_append]
    rfl
  rw [components, htext, Text.splitAt, if_pos BEq.rfl]
  simp [components]

theorem head?_intercalate {parts : List String} (h : ∀ name ∈ parts, IsName name) :
    (String.intercalate "/" parts).toList.head? ≠ some '/' := by
  cases parts with
  | nil => simp
  | cons name rest =>
    have hname := h name List.mem_cons_self
    cases htext : name.toList with
    | nil => exact absurd (String.toList_eq_nil_iff.mp htext) hname.nonempty
    | cons c r =>
      have hc : c ≠ '/' := by
        rintro rfl
        exact hname.noSlash (htext ▸ List.mem_cons_self)
      rw [String.toList_intercalate, List.map_cons, htext]
      cases rest <;> simp [List.intercalate, hc]

theorem rootOf_append {root body : String} (hroot : root = "" ∨ root = "/" ∨ root = "//")
    (hbody : body.toList.head? ≠ some '/') : rootOf (root ++ body) = root := by
  have hnone : body.toList.takeWhile (· == '/') = [] := by
    cases htext : body.toList with
    | nil => rfl
    | cons c r =>
      rw [htext] at hbody
      exact List.takeWhile_cons_of_neg (by simpa using hbody)
  have hslashes : ∀ c ∈ root.toList, (c == '/') = true := by
    rcases hroot with rfl | rfl | rfl <;> simp
  rw [rootOf, String.toList_append, List.takeWhile_append_of_pos hslashes, hnone, List.append_nil]
  rcases hroot with rfl | rfl | rfl <;> rfl

theorem components_append {root : String} (hroot : root = "" ∨ root = "/" ∨ root = "//")
    (body : String) : components (root ++ body) = components body := by
  rcases hroot with rfl | rfl | rfl
  · rw [String.empty_append]
  · exact components_slash body
  · have hsplit : "//" ++ body = "/" ++ ("/" ++ body) := by rw [← String.append_assoc]; rfl
    rw [hsplit, components_slash, components_slash]

/-- A path in its normal form is read back from its text. -/
theorem Normal.ofText_text {p : Path} (h : p.Normal) : ofText p.text = p := by
  obtain ⟨root, parts⟩ := p
  rw [text]
  split
  · next hhere =>
    obtain ⟨rfl, rfl⟩ := hhere
    decide +kernel
  · rw [ofText, rootOf_append h.root (head?_intercalate h.names), components_append h.root,
      components_intercalate h.names]

end Files.Path

/-- A text in the normal form of paths is left as it is. -/
theorem Files.normalText_normalText (s : String) : normalText (normalText s) = normalText s :=
  congrArg Path.text (Path.normal_ofText s).ofText_text

end Promptsmith
