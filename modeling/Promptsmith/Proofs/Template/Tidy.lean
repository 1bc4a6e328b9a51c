import Mathlib
import Promptsmith.Proofs.Template.Hiding
import Promptsmith.Template.Render

/-!
# Output without braces

A template is tidy when every opening brace in it belongs to a tag. Its literal texts then have
none, so that a brace in the output comes from the values: without one there is none in the output.
-/
namespace Promptsmith

/-- No opening brace occurs in the text. -/
def Braceless (s : String) : Prop :=
  '{' ∉ s.toList

instance (s : String) : Decidable (Braceless s) :=
  inferInstanceAs (Decidable ('{' ∉ s.toList))

theorem braceless_append {s t : String} (hs : Braceless s) (ht : Braceless t) :
    Braceless (s ++ t) := by
  unfold Braceless
  rw [String.toList_append, List.mem_append, not_or]
  exact ⟨hs, ht⟩

theorem braceless_join {ss : List String} (h : ∀ s ∈ ss, Braceless s) :
    Braceless (String.join ss) := by
  unfold Braceless
  rw [String.toList_join, List.mem_flatMap]
  rintro ⟨s, hs, hbrace⟩
  exact h s hs hbrace

theorem braceless_intercalate {sep : String} (hsep : Braceless sep) {ss : List String}
    (h : ∀ s ∈ ss, Braceless s) : Braceless (sep.intercalate ss) := by
  induction ss with
  | nil => simp [Braceless]
  | cons s ss ih =>
    rw [List.forall_mem_cons] at h
    by_cases hnil : ss = []
    · subst hnil
      simpa using h.1
    · rw [String.intercalate_cons_of_ne_nil hnil]
      exact braceless_append (braceless_append h.1 hsep) (ih h.2)

theorem braceless_toString (n : Nat) : Braceless (toString n) := by
  intro hbrace
  have hdigit := Nat.isDigit_of_mem_toDigits (by decide) (by decide) (Nat.toList_repr ▸ hbrace)
  exact absurd hdigit (by decide)

/-- A value of which no text has an opening brace: a flag, a place in a loop, a text or a list. -/
inductive Value.Plain : Value → Prop
  | null : Plain .null
  | bool (b : Bool) : Plain (.bool b)
  | int (n : Nat) : Plain (.int n)
  | text {s : String} (h : Braceless s) : Plain (.text s)
  | list {items : List Value} (h : ∀ item ∈ items, Plain item) : Plain (.list items)

theorem Value.Plain.display {v : Value} (h : v.Plain) : Braceless v.display := by
  induction h with
  | null => simp [Value.display, Braceless]
  | bool b => cases b <;> simp [Value.display, Braceless]
  | int n => exact braceless_toString n
  | text h => exact h
  | list h ih =>
    rw [Value.display, Value.displayAll_eq_map]
    refine braceless_intercalate (by simp [Braceless]) ?_
    intro s hs
    obtain ⟨item, hitem, rfl⟩ := List.mem_map.mp hs
    exact ih item hitem

theorem Value.Plain.items {v : Value} (h : v.Plain) {items : List Value}
    (hitems : v.items? = some items) : ∀ item ∈ items, item.Plain := by
  cases h with
  | list h =>
    cases hitems
    exact h
  | _ => cases hitems

namespace Template

/-! ### Rendering -/

mutual

/-- The literal texts of a node, at any depth. -/
def Node.literals : Node → List String
  | .literal text => [text]
  | .variable _ => []
  | .block _ _ body => literalsIn body

/-- The literal texts of nodes, at any depth. -/
def literalsIn : List Node → List String
  | [] => []
  | n :: ns => n.literals ++ literalsIn ns

end

theorem plain_lookup {context : Fields} (hcontext : ∀ name, (context.get name).Plain)
    {scopes : List Frame} (hscopes : ∀ f ∈ scopes, f.item.Plain) (name : String) :
    (lookup context scopes name).Plain := by
  unfold lookup
  cases LoopVariable.ofName? name with
  | none => exact hcontext name
  | some loop =>
    cases scopes with
    | nil => exact .null
    | cons f outer =>
      cases loop with
      | this => exact hscopes f List.mem_cons_self
      | last => exact .bool _
      | first => exact .bool _
      | index => exact .int f.index

theorem plain_of_mem_frames {items : List Value} (h : ∀ item ∈ items, item.Plain) {f : Frame}
    (hf : f ∈ frames items) : f.item.Plain := by
  obtain ⟨i, hi, rfl⟩ := List.mem_mapIdx.mp hf
  exact h _ (List.getElem_mem hi)

mutual

theorem Node.braceless_render {context : Fields} (hcontext : ∀ name, (context.get name).Plain)
    (n : Node) (h : ∀ s ∈ n.literals, Braceless s) (scopes : List Frame)
    (hscopes : ∀ f ∈ scopes, f.item.Plain) : Braceless (n.render context scopes) := by
  match n with
  | .literal text =>
    rw [Node.literals, List.forall_mem_singleton] at h
    rwa [Node.render]
  | .variable name =>
    rw [Node.render]
    exact (plain_lookup hcontext hscopes name).display
  | .block kind name body =>
    rw [Node.literals] at h
    have hbody := braceless_renderAll hcontext body h
    have hempty : Braceless "" := by simp [Braceless]
    match kind with
    | .each =>
      rw [Node.render]
      cases hitems : (lookup context scopes name).items? with
      | none => exact hempty
      | some items =>
        have hplain := (plain_lookup hcontext hscopes name).items hitems
        refine braceless_join ?_
        intro s hs
        obtain ⟨f, hf, rfl⟩ := List.mem_map.mp hs
        refine hbody (f :: scopes) ?_
        rw [List.forall_mem_cons]
        exact ⟨plain_of_mem_frames hplain hf, hscopes⟩
    | .when =>
      rw [Node.render]
      cases (lookup context scopes name).truthy with
      | true => exact hbody scopes hscopes
      | false => exact hempty
    | .unless =>
      rw [Node.render]
      cases (lookup context scopes name).truthy with
      | true => exact hempty
      | false => exact hbody scopes hscopes

theorem braceless_renderAll {context : Fields} (hcontext : ∀ name, (context.get name).Plain)
    (ns : List Node) (h : ∀ s ∈ literalsIn ns, Braceless s) (scopes : List Frame)
    (hscopes : ∀ f ∈ scopes, f.item.Plain) : Braceless (renderAll context scopes ns) := by
  match ns with
  | [] =>
    rw [renderAll]
    simp [Braceless]
  | n :: ns =>
    rw [literalsIn, List.forall_mem_append] at h
    rw [renderAll]
    exact braceless_append (n.braceless_render hcontext h.1 scopes hscopes)
      (braceless_renderAll hcontext ns h.2 scopes hscopes)

end

theorem braceless_evaluate {context : Fields} (hcontext : ∀ name, (context.get name).Plain)
    {nodes : List Node} (h : ∀ s ∈ literalsIn nodes, Braceless s) :
    Braceless (evaluate nodes context) :=
  braceless_renderAll hcontext nodes h [] (List.forall_mem_nil _)

/-! ### Tidy templates -/

/-- All gaps of the cut are without a brace, and every pair is read as a tag. -/
def Cut.isTidy : Cut → Bool
  | .rest text => !text.contains '{'
  | .pair gap p next =>
    !gap.contains '{' &&
      match Tag.read p.inner with
      | .ok (some _) => next.isTidy
      | _ => false

theorem Cut.isTidy_pair {gap : List Char} {p : Pair} {next : Cut} :
    (Cut.pair gap p next).isTidy ↔
      '{' ∉ gap ∧ (∃ tag, Tag.read p.inner = .ok (some tag)) ∧ next.isTidy := by
  rw [isTidy]
  match Tag.read p.inner with
  | .ok (some tag) => simp
  | .ok none => simp
  | .error fault => simp

theorem Cut.isTidy_of_prepend {s : List Char} {t : Cut} (h : (t.prepend s).isTidy) :
    t.isTidy := by
  cases t with
  | rest text =>
    simp only [prepend, isTidy, List.contains_append, Bool.not_or, Bool.and_eq_true] at h
    exact h.2
  | pair gap p next =>
    rw [prepend, isTidy_pair, List.mem_append, not_or] at h
    exact isTidy_pair.mpr ⟨h.1.2, h.2⟩

/-- The segments of a tidy cut show no brace. -/
theorem Reading.not_shows_of_isTidy {left : List Char} {cut : Cut} {segs : List Segment}
    (h : Reading left cut segs) (ht : cut.isTidy) : ¬∃ s ∈ segs, s.Shows ['{'] := by
  have hbrace : ['{'] ≠ [] := nofun
  induction h with
  | @rest left text =>
    rw [shows_literalSegment_iff hbrace, List.singleton_infix_iff]
    simpa [Cut.isTidy] using ht
  | text hread hnext ih =>
    obtain ⟨-, ⟨tag, htag⟩, -⟩ := Cut.isTidy_pair.mp ht
    rw [hread] at htag
    cases htag
  | inline hread hmargin hnext ih =>
    obtain ⟨hgap, -, ht⟩ := Cut.isTidy_pair.mp ht
    rw [shows_append_tag_iff hbrace, List.singleton_infix_iff, not_or]
    exact ⟨hgap, ih ht⟩
  | alone hread hblock hmargin hnext ih =>
    obtain ⟨hgap, -, ht⟩ := Cut.isTidy_pair.mp ht
    rw [List.mem_append, not_or] at hgap
    rw [shows_append_tag_iff hbrace, List.singleton_infix_iff, not_or]
    exact ⟨hgap.1, ih (Cut.isTidy_of_prepend ht)⟩

/-- The text is a template in which every brace belongs to a tag. -/
def isTidy (s : List Char) : Bool :=
  (Cut.ofText s).isTidy &&
    match segments s with
    | .ok segs => (nest [] [] (segs.map Segment.token)).isOk
    | .error _ => false

mutual

theorem Node.mem_lexemes_of_literals {text : String} (n : Node) (h : text ∈ n.literals) :
    .literal text ∈ n.lexemes := by
  match n with
  | .literal _ =>
    rw [Node.literals, List.mem_singleton] at h
    rw [Node.lexemes, h]
    exact List.mem_singleton_self _
  | .variable _ =>
    rw [Node.literals] at h
    cases h
  | .block kind name body =>
    rw [Node.literals] at h
    rw [Node.lexemes]
    exact List.mem_cons_of_mem _ (List.mem_append_left _ (mem_lexemesOf_of_literalsIn body h))

theorem mem_lexemesOf_of_literalsIn {text : String} (ns : List Node) (h : text ∈ literalsIn ns) :
    .literal text ∈ lexemesOf ns := by
  match ns with
  | [] =>
    rw [literalsIn] at h
    cases h
  | n :: ns =>
    rw [literalsIn, List.mem_append] at h
    rw [lexemesOf_cons, List.mem_append]
    rcases h with h | h
    · exact .inl (n.mem_lexemes_of_literals h)
    · exact .inr (mem_lexemesOf_of_literalsIn ns h)

end

/-- A tidy template parses, and its literal texts have no brace. -/
theorem exists_parse_of_isTidy {text : String} (h : isTidy text.toList) :
    ∃ nodes, parse text = .ok nodes ∧ ∀ s ∈ literalsIn nodes, Braceless s := by
  unfold isTidy at h
  rw [Bool.and_eq_true] at h
  obtain ⟨htidy, hnests⟩ := h
  cases hsegs : segments text.toList with
  | error fault =>
    rw [hsegs] at hnests
    cases hnests
  | ok segs =>
    rw [hsegs] at hnests
    dsimp only at hnests
    cases hnest : nest [] [] (segs.map Segment.token) with
    | error fault =>
      rw [hnest] at hnests
      cases hnests
    | ok nodes =>
      have hparse : parse text = .ok nodes := by
        rw [parse, tokenize, hsegs]
        exact hnest
      refine ⟨nodes, hparse, ?_⟩
      intro s hs hbrace
      have hlex := mem_lexemesOf_of_literalsIn nodes hs
      rw [lexemesOf_of_nest hnest, wordRead, lexemesOf_nil, List.nil_append, List.map_map] at hlex
      obtain ⟨seg, hseg, hliteral⟩ := List.mem_map.mp hlex
      exact (reading_of_segments hsegs).not_shows_of_isTidy htidy
        ⟨seg, hseg, s, hliteral, (List.singleton_infix_iff _ _).mpr hbrace⟩

end Template

end Promptsmith
