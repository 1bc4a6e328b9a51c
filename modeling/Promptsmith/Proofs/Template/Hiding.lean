import Mathlib
import Promptsmith.Proofs.Template.Markup

/-!
# What a pair that is no tag hides

A pair is read from its first opening braces, and one that is no tag stays in the literal text
whole. So a tag that is written inside such a pair is not seen. This is the only way for a written
tag to stay in literal text: it is then the end of a pair that is no tag.
-/
namespace Promptsmith.Template

open Promptsmith.Text

/-! ### Where a pair ends -/

/-- Before the first closing braces, the rest of a text is taken apart at the same place. -/
theorem splitAtClosing_drop {u v before after : List Char}
    (h : splitAtClosing (u ++ v) = some (u ++ before, after)) :
    splitAtClosing v = some (before, after) := by
  induction u with
  | nil => exact h
  | cons c u ih =>
    refine ih ?_
    rw [List.cons_append, List.cons_append] at h
    unfold splitAtClosing at h
    split at h
    · next heq => simp at heq
    · next heq => simp at h
    · next heq =>
      obtain ⟨rfl, rfl⟩ := List.cons.inj heq
      obtain ⟨⟨b, a⟩, hsplit, hcons⟩ := Option.map_eq_some_iff.mp h
      simp only [Prod.mk.injEq, List.cons.injEq, true_and] at hcons
      rw [hsplit, hcons.1, hcons.2]

/-- A pair ends at the first closing braces of the text from its opening braces on. -/
theorem Pair.exists_front {s after : List Char} {p : Pair} (h : Pair.read? s = some (p, after)) :
    ∃ front, p.source = front ++ ['}', '}'] ∧ splitAtClosing s = some (front, after) := by
  unfold Pair.read? at h
  split at h
  · next r =>
    unfold Pair.close? at h
    split at h
    · cases h
    · next raw rest hs =>
      dsimp only at h
      split at h
      · cases h
      · cases h
        have hbraceless : '}' ∉ '{' :: '{' :: r.takeWhile isBlank := by
          intro hmem
          simp only [List.mem_cons, Char.reduceEq, false_or] at hmem
          exact absurd (all_takeWhile isBlank r _ hmem) (by decide)
        have hsplit := splitAtClosing_append hbraceless (r.dropWhile isBlank)
        rw [hs] at hsplit
        refine ⟨'{' :: '{' :: r.takeWhile isBlank ++ raw, by simp, ?_⟩
        simpa using hsplit
  · cases h

theorem Markup.exists_cons {t : Tag} {m : List Char} (hm : Markup t m) : ∃ r, m = '{' :: r := by
  obtain ⟨-, -, -⟩ := hm
  exact ⟨_, rfl⟩

/-- A written tag that starts inside a pair ends with it. -/
theorem Markup.suffix_source {t : Tag} {m : List Char} (hm : Markup t m)
    {u b after : List Char} {p : Pair} (hread : Pair.read? (u ++ (m ++ b)) = some (p, after))
    (hu : u.length < p.source.length) : m <:+ p.source := by
  obtain ⟨front, hsource, hsplit⟩ := Pair.exists_front hread
  obtain ⟨inner, -, hpair⟩ := hm.read?
  obtain ⟨body, hbody, hown⟩ := Pair.exists_front (hpair b)
  dsimp only at hbody
  have htext := eq_of_splitAtClosing hsplit
  rcases List.append_eq_append_iff.mp htext with ⟨x, rfl, hx⟩ | ⟨x, rfl, hx⟩
  · have hrest := splitAtClosing_drop hsplit
    rw [hown] at hrest
    cases hrest
    exact ⟨u, by rw [hsource, hbody, List.append_assoc]⟩
  · -- The tag would start at one of the closing braces.
    obtain ⟨r, rfl⟩ := hm.exists_cons
    have hlen : x.length < 2 := by
      rw [hsource, List.length_append, List.length_append] at hu
      simpa using hu
    match x with
    | [] => simp at hx
    | [c] => simp at hx
    | c :: d :: x =>
      simp only [List.length_cons] at hlen
      omega

/-! ### Gaps -/

/-- The text before the first pair holds none. -/
def Cut.Quiet (t : Cut) : Prop :=
  ∀ a b, t.text = a ++ b → a.length < t.lead.length → Pair.read? b = none

/-- Every gap of a cut is quiet. -/
def Cut.Leftmost : Cut → Prop
  | .rest text => (Cut.rest text).Quiet
  | .pair gap p next => (Cut.pair gap p next).Quiet ∧ next.Leftmost

theorem Cut.leftmost_push {c : Char} {t : Cut} (h : t.Leftmost)
    (hnone : Pair.read? (c :: t.text) = none) : (t.push c).Leftmost := by
  have hquiet : (t.push c).Quiet := by
    have ht : t.Quiet := by
      cases t with
      | rest text => exact h
      | pair gap p next => exact h.1
    have hlead : (t.push c).lead = c :: t.lead := by cases t <;> rfl
    intro a b hab hlt
    rw [Cut.text_push] at hab
    rw [hlead] at hlt
    cases a with
    | nil =>
      rw [List.nil_append] at hab
      rwa [← hab]
    | cons d a =>
      obtain ⟨-, hrest⟩ := List.cons.inj hab
      exact ht a b hrest (by simpa using hlt)
  cases t with
  | rest text => exact hquiet
  | pair gap p next => exact ⟨hquiet, h.2⟩

/-- A text is cut at its leftmost pairs. -/
theorem Cut.leftmost_ofText (s : List Char) : (Cut.ofText s).Leftmost := by
  fun_induction Cut.ofText s with
  | case1 => intro a b _ hlt; simp [Cut.lead] at hlt
  | case2 c r p after h _ ih => exact ⟨fun a b _ hlt => by simp [Cut.lead] at hlt, ih⟩
  | case3 c r h ih => exact Cut.leftmost_push ih (by rwa [Cut.text_ofText])

/-! ### Tags in literal text -/

/-- Where `m` occurs in the text of a cut it is not read as a tag: each occurrence that starts in a
gap or in a pair that is no tag tells `Q`. -/
def Cut.Tells (m : List Char) (Q : Prop) : Cut → Prop
  | .rest text => ∀ a b, text = a ++ (m ++ b) → Q
  | .pair gap p next =>
    (∀ a b, gap ++ p.source ++ next.text = a ++ (m ++ b) → a.length < gap.length → Q) ∧
      (Tag.read p.inner = .ok none →
        ∀ u b, p.source ++ next.text = u ++ (m ++ b) → u.length < p.source.length → Q) ∧
      next.Tells m Q

variable {m : List Char} {Q : Prop}

theorem exists_of_append_eq {s t a c : List Char} (h : s ++ t = a ++ c)
    (hle : s.length ≤ a.length) : ∃ x, a = s ++ x ∧ t = x ++ c := by
  obtain ⟨x, rfl⟩ := List.prefix_of_prefix_length_le ⟨t, h⟩ ⟨c, rfl⟩ hle
  rw [List.append_assoc] at h
  exact ⟨x, rfl, List.append_cancel_left h⟩

theorem Cut.Tells.prepend {s : List Char} {t : Cut} (h : t.Tells m Q)
    (hs : ∀ a b, s ++ t.text = a ++ (m ++ b) → a.length < s.length → Q) :
    (t.prepend s).Tells m Q := by
  cases t with
  | rest text =>
    intro a b hab
    by_cases hlt : a.length < s.length
    · exact hs a b hab hlt
    · obtain ⟨x, rfl, hx⟩ := exists_of_append_eq hab (Nat.le_of_not_lt hlt)
      exact h x b hx
  | pair gap p next =>
    refine ⟨?_, h.2⟩
    intro a b hab hin
    rw [List.append_assoc, List.append_assoc, ← List.append_assoc gap] at hab
    by_cases hlt : a.length < s.length
    · exact hs a b hab hlt
    · obtain ⟨x, rfl, hx⟩ := exists_of_append_eq hab (Nat.le_of_not_lt hlt)
      rw [List.length_append, List.length_append] at hin
      exact h.1 x b hx (Nat.lt_of_add_lt_add_left hin)

theorem Cut.Tells.of_prepend {s : List Char} {t : Cut} (h : (t.prepend s).Tells m Q) :
    t.Tells m Q := by
  cases t with
  | rest text =>
    intro a b hab
    exact h (s ++ a) b (by rw [hab, List.append_assoc])
  | pair gap p next =>
    refine ⟨?_, h.2⟩
    intro a b hab hlt
    refine h.1 (s ++ a) b ?_ ?_
    · rw [List.append_assoc s a, ← hab]
      simp only [List.append_assoc]
    · rw [List.length_append, List.length_append]
      exact Nat.add_lt_add_left hlt s.length

theorem Cut.Tells.of_gap {gap : List Char} {p : Pair} {next : Cut}
    (h : (Cut.pair gap p next).Tells m Q) (hm : m ≠ []) (hgap : m <:+: gap) : Q := by
  obtain ⟨a, b, rfl⟩ := hgap
  refine h.1 a (b ++ p.source ++ next.text) (by simp) ?_
  have hpos := List.length_pos_of_ne_nil hm
  simp only [List.length_append]
  omega

/-- The text occurs in the literal text of a segment. -/
def Segment.Shows (m : List Char) (s : Segment) : Prop :=
  ∃ value, s.token.lexeme = .literal value ∧ m <:+: value.toList

theorem shows_literalSegment_iff {n : Nat} {text : List Char} (hm : m ≠ []) :
    (∃ s ∈ literalSegment n text, s.Shows m) ↔ m <:+: text := by
  cases text with
  | nil => simp [literalSegment, hm]
  | cons c r => simp [literalSegment, Segment.Shows]

theorem not_shows_tag {indent source tail : List Char} {t : Tag} {n : Nat} :
    ¬ Segment.Shows m ⟨indent, source, tail, ⟨.tag t, n⟩⟩ := by
  rintro ⟨value, hvalue, -⟩
  cases hvalue

theorem shows_append_tag_iff {n : Nat} {text : List Char} {segs : List Segment} (hm : m ≠ [])
    {indent source tail : List Char} {t : Tag} {k : Nat} :
    (∃ s ∈ literalSegment n text ++ ⟨indent, source, tail, ⟨.tag t, k⟩⟩ :: segs, s.Shows m) ↔
      m <:+: text ∨ ∃ s ∈ segs, s.Shows m := by
  rw [← shows_literalSegment_iff (n := n) hm]
  constructor
  · rintro ⟨s, hs, hshows⟩
    rcases List.mem_append.mp hs with hs | hs
    · exact Or.inl ⟨s, hs, hshows⟩
    · rcases List.mem_cons.mp hs with rfl | hs
      · exact absurd hshows not_shows_tag
      · exact Or.inr ⟨s, hs, hshows⟩
  · rintro (⟨s, hs, hshows⟩ | ⟨s, hs, hshows⟩)
    · exact ⟨s, List.mem_append_left _ hs, hshows⟩
    · exact ⟨s, List.mem_append_right _ (List.mem_cons_of_mem _ hs), hshows⟩

/-- A text that a literal shows tells what its occurrences in the cut tell. -/
theorem Reading.tells {left : List Char} {cut : Cut} {segs : List Segment}
    (h : Reading left cut segs) (hm : m ≠ []) (ht : cut.Tells m Q)
    (hshows : ∃ s ∈ segs, s.Shows m) : Q := by
  induction h with
  | @rest left text =>
    obtain ⟨a, b, rfl⟩ := (shows_literalSegment_iff hm).mp hshows
    exact ht a b (by rw [List.append_assoc])
  | @text left gap p next segs hread hnext ih =>
    refine ih (ht.2.2.prepend ?_) hshows
    intro a b hab hlt
    by_cases hgap : a.length < gap.length
    · exact ht.1 a b hab hgap
    · rw [List.append_assoc] at hab
      obtain ⟨x, rfl, hx⟩ := exists_of_append_eq hab (Nat.le_of_not_lt hgap)
      rw [List.length_append, List.length_append] at hlt
      exact ht.2.1 hread x b hx (Nat.lt_of_add_lt_add_left hlt)
  | inline hread hmargin hnext ih =>
    rcases (shows_append_tag_iff hm).mp hshows with hgap | hshows
    · exact ht.of_gap hm hgap
    · exact ih ht.2.2 hshows
  | alone hread hblock hmargin hnext ih =>
    rcases (shows_append_tag_iff hm).mp hshows with hbody | hshows
    · exact ht.of_gap hm (hbody.trans (List.prefix_append _ _).isInfix)
    · exact ih ht.2.2.of_prepend hshows

theorem Markup.ne_nil {t : Tag} (hm : Markup t m) : m ≠ [] := by
  obtain ⟨r, rfl⟩ := hm.exists_cons
  simp

theorem Markup.read?_ne_none {t : Tag} (hm : Markup t m) (rest : List Char) :
    Pair.read? (m ++ rest) ≠ none := by
  obtain ⟨inner, -, hpair⟩ := hm.read?
  simp [hpair rest]

/-- A written tag occurs unread only at the end of a pair that is no tag. -/
theorem Markup.tells {t : Tag} (hm : Markup t m) {found : List (Nat × Pair)} {cut : Cut}
    (hs : cut.Sound) (hl : cut.Leftmost) {start : Nat} (hfound : cut.pairsFrom start ⊆ found) :
    cut.Tells m (∃ e ∈ found, Tag.read e.2.inner = .ok none ∧ m <:+ e.2.source) := by
  induction cut generalizing start with
  | rest text =>
    intro a b hab
    refine absurd (hl a (m ++ b) hab ?_) (hm.read?_ne_none b)
    have hpos := List.length_pos_of_ne_nil hm.ne_nil
    simp only [Cut.lead, hab, List.length_append]
    omega
  | pair gap p next ih =>
    rw [Cut.pairsFrom, List.cons_subset] at hfound
    refine ⟨?_, ?_, ih hs.2 hl.2 hfound.2⟩
    · intro a b hab hlt
      exact absurd (hl.1 a (m ++ b) hab hlt) (hm.read?_ne_none b)
    · intro hread u b hub hlt
      have hpair := hs.1
      rw [hub] at hpair
      exact ⟨_, hfound.1, hread, hm.suffix_source hpair hlt⟩

/-! ### Literal text keeps the pairs that are no tags -/

@[simp] theorem Cut.lead_prepend (s : List Char) (t : Cut) :
    (t.prepend s).lead = s ++ t.lead := by
  cases t <;> rfl

theorem Cut.sound_prepend_iff {s : List Char} {t : Cut} : (t.prepend s).Sound ↔ t.Sound := by
  cases t <;> exact Iff.rfl

/-- What ends with a brace is not lost to an indentation. -/
theorem infix_of_indent {x a b body indent : List Char} (hindent : ∀ c ∈ indent, isIndent c)
    (h : body ++ indent = a ++ (x ++ ['}']) ++ b) : x ++ ['}'] <:+: body := by
  rcases List.append_eq_append_iff.mp h with ⟨y, hy, rfl⟩ | ⟨y, rfl, -⟩
  · rcases List.eq_nil_or_concat y with rfl | ⟨z, c, rfl⟩
    · exact ⟨a, [], by simpa using hy⟩
    · rw [← List.append_assoc, List.concat_eq_append, ← List.append_assoc] at hy
      have hc := (List.append_inj' hy rfl).2
      have hbrace := hindent '}' (by simp [← List.cons.inj hc |>.1])
      exact absurd hbrace (by decide)
  · exact ⟨a, y, rfl⟩

theorem Reading.shows_lead {left : List Char} {cut : Cut} {segs : List Segment}
    (h : Reading left cut segs) {x a b : List Char} (hlead : cut.lead = a ++ (x ++ ['}']) ++ b) :
    ∃ s ∈ segs, s.Shows (x ++ ['}']) := by
  have hne : x ++ ['}'] ≠ [] := by simp
  induction h generalizing b with
  | rest => exact (shows_literalSegment_iff hne).mpr ⟨a, b, hlead.symm⟩
  | @text left gap p next segs hread hnext ih =>
    have hgap : gap = a ++ (x ++ ['}']) ++ b := hlead
    exact @ih (b ++ p.source ++ next.lead) (by simp [hgap])
  | inline => exact (shows_append_tag_iff hne).mpr (Or.inl ⟨a, b, hlead.symm⟩)
  | alone hread hblock hmargin hnext ih =>
    exact (shows_append_tag_iff hne).mpr (Or.inl (infix_of_indent hmargin.blank hlead))

/-- A pair that is no tag stays in a literal whole. -/
theorem Reading.shows_pair {left : List Char} {cut : Cut} {segs : List Segment}
    (h : Reading left cut segs) (hs : cut.Sound) {e : Nat × Pair}
    (he : e ∈ cut.pairsFrom left.length) (hnone : Tag.read e.2.inner = .ok none) :
    ∃ s ∈ segs, s.Shows e.2.source := by
  induction h with
  | rest => simp [Cut.pairsFrom] at he
  | @text left gap p next segs hread hnext ih =>
    rcases List.mem_cons.mp he with rfl | he
    · obtain ⟨mid, hmid⟩ := Pair.exists_source hs.1
      have hlead : (next.prepend (gap ++ p.source)).lead =
          gap ++ (('{' :: '{' :: mid ++ ['}']) ++ ['}']) ++ next.lead := by simp [hmid]
      have hshows := hnext.shows_lead hlead
      simpa [hmid] using hshows
    · exact ih (Cut.sound_prepend_iff.mpr hs.2) (by simpa [Nat.add_assoc] using he)
  | @inline left gap p next segs tag hread hmargin hnext ih =>
    rcases List.mem_cons.mp he with rfl | he
    · rw [hread] at hnone
      cases hnone
    · obtain ⟨s, hs, hshows⟩ := ih hs.2 (by simpa [Nat.add_assoc] using he)
      exact ⟨s, List.mem_append_right _ (List.mem_cons_of_mem _ hs), hshows⟩
  | @alone left body indent tail p next segs tag hread hblock hmargin hnext ih =>
    rcases List.mem_cons.mp he with rfl | he
    · rw [hread] at hnone
      cases hnone
    · obtain ⟨s, hs, hshows⟩ :=
        ih (Cut.sound_prepend_iff.mp hs.2) (by simpa [Nat.add_assoc] using he)
      exact ⟨s, List.mem_append_right _ (List.mem_cons_of_mem _ hs), hshows⟩

/-! ### The whole text -/

/-- A written tag stays in literal text exactly when a pair that is no tag ends with it. -/
theorem literal_shows_markup_iff {text : String} {tokens : List Token}
    (h : tokenize text = .ok tokens) {t : Tag} {source : List Char} (hm : Markup t source) :
    (∃ token ∈ tokens, ∃ value, token.lexeme = .literal value ∧ source <:+: value.toList) ↔
      ∃ e ∈ pairs text.toList, Tag.read e.2.inner = .ok none ∧ source <:+ e.2.source := by
  obtain ⟨segs, hsegs, rfl⟩ := exists_of_map_eq_ok h
  have hreading := reading_of_segments hsegs
  have hsound := Cut.sound_ofText text.toList
  have hleftmost := Cut.leftmost_ofText text.toList
  simp only [List.mem_map, exists_exists_and_eq_and]
  constructor
  · intro hshows
    exact hreading.tells hm.ne_nil (hm.tells hsound hleftmost (List.Subset.refl _)) hshows
  · rintro ⟨e, he, hnone, hsuffix⟩
    obtain ⟨s, hs, value, hvalue, hin⟩ := hreading.shows_pair hsound he hnone
    exact ⟨s, hs, value, hvalue, hsuffix.isInfix.trans hin⟩

/-- A pair whose braces hold a longer text than a name hides the tag at its end. -/
theorem literal_shows_markup_iff_style :
    let text := "style=\x7b\x7b color: \x7b\x7b color \x7d\x7d \x7d\x7d"
    let source := "\x7b\x7b color \x7d\x7d".toList
    tokenize text = .ok [⟨.literal text, 0⟩] ∧ Markup (.variable "color") source ∧
      ((∃ token ∈ [(⟨.literal text, 0⟩ : Token)], ∃ value,
          token.lexeme = .literal value ∧ source <:+: value.toList) ↔
        ∃ e ∈ pairs text.toList, Tag.read e.2.inner = .ok none ∧ source <:+ e.2.source) := by
  intro text source
  have h : tokenize text = .ok [⟨.literal text, 0⟩] := by cbv
  have hname : isName "color".toList := by decide
  have hspace : ∀ c ∈ [' '], isBlank c := by simp [isBlank, isSpace]
  have hm : Markup (.variable "color") source := .mk (.named hname) hspace hspace
  exact ⟨h, hm, literal_shows_markup_iff h hm⟩

/-- A tag inside a pair that is no tag is left as it is written. -/
theorem literal_shows_nested_tag :
    let text := "style=\x7b\x7b color: \x7b\x7bcolor\x7d\x7d \x7d\x7d"
    let source := "\x7b\x7bcolor\x7d\x7d".toList
    Markup (.variable "color") source ∧ tokenize text = .ok [⟨.literal text, 0⟩] ∧
      source <:+: text.toList := by
  intro text source
  have hname : isName "color".toList := by decide
  have hnil : ∀ c ∈ ([] : List Char), isBlank c := by simp
  refine ⟨.mk (.named hname) hnil hnil, ?_, ?_⟩
  · cbv
  · exact ⟨"style=\x7b\x7b color: ".toList, " \x7d\x7d".toList, by decide⟩

end Promptsmith.Template
