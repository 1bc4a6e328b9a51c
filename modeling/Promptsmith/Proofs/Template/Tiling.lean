import Mathlib
import Promptsmith.Proofs.Template.Margin

/-!
# Segments tile the text

The segments of a text follow one another without a gap and make it up. A literal owns its own
characters, an inline tag its brace pair, and a block tag alone on its line also the indentation
before it and the tail after it, with the one line break that ends the line.
-/
namespace Promptsmith.Template

open Promptsmith.Text

/-- Puts a text in front. -/
def Cut.prepend (s : List Char) : Cut → Cut
  | .rest text => .rest (s ++ text)
  | .pair gap p next => .pair (s ++ gap) p next

/-- Leaves out the first characters of the lead. -/
def Cut.dropLead (n : Nat) : Cut → Cut
  | .rest text => .rest (text.drop n)
  | .pair gap p next => .pair (gap.drop n) p next

@[simp] theorem Cut.text_prepend (s : List Char) (t : Cut) : (t.prepend s).text = s ++ t.text := by
  cases t <;> simp [prepend, text]

@[simp] theorem Cut.prepend_nil (t : Cut) : t.prepend [] = t := by
  cases t <;> simp [prepend]

@[simp] theorem Cut.dropLead_zero (t : Cut) : t.dropLead 0 = t := by
  cases t <;> simp [dropLead]

@[simp] theorem Cut.pairsFrom_prepend (start : Nat) (s : List Char) (t : Cut) :
    (t.prepend s).pairsFrom start = t.pairsFrom (start + s.length) := by
  cases t <;> simp [prepend, pairsFrom, Nat.add_assoc]

theorem Cut.prepend_dropLead {s rest : List Char} {t : Cut} (h : t.lead = s ++ rest) :
    (t.dropLead s.length).prepend s = t := by
  cases t with
  | rest text =>
    have ht : text = s ++ rest := h
    simp [dropLead, prepend, ht]
  | pair gap p next =>
    have hg : gap = s ++ rest := h
    simp [dropLead, prepend, hg]

@[simp] theorem Cut.dropLead_prepend (s : List Char) (t : Cut) :
    (t.prepend s).dropLead s.length = t := by
  cases t <;> simp [prepend, dropLead]

theorem exists_of_map_eq_ok {ε α β : Type} {f : α → β} {x : Except ε α} {b : β}
    (h : x.map f = .ok b) : ∃ a, x = .ok a ∧ f a = b := by
  cases x with
  | error e => simp [Except.map] at h
  | ok a => exact ⟨a, rfl, Except.ok.inj h⟩

/-- How segments arise from a cut, where `left` is the text before it. -/
inductive Reading : List Char → Cut → List Segment → Prop
  | rest {left text : List Char} : Reading left (.rest text) (literalSegment left.length text)
  | text {left gap : List Char} {p : Pair} {next : Cut} {segs : List Segment}
      (hread : Tag.read p.inner = .ok none)
      (hnext : Reading left (next.prepend (gap ++ p.source)) segs) :
      Reading left (.pair gap p next) segs
  | inline {left gap : List Char} {p : Pair} {next : Cut} {segs : List Segment} {tag : Tag}
      (hread : Tag.read p.inner = .ok (some tag))
      (hmargin : tag.isBlock → ∀ indent tail, ¬ Alone (left ++ gap) next.text indent tail)
      (hnext : Reading (left ++ gap ++ p.source) next segs) :
      Reading left (.pair gap p next) (literalSegment left.length gap ++
        ⟨[], p.source, [], ⟨.tag tag, (left ++ gap).length⟩⟩ :: segs)
  | alone {left body indent tail : List Char} {p : Pair} {next : Cut} {segs : List Segment}
      {tag : Tag} (hread : Tag.read p.inner = .ok (some tag)) (hblock : tag.isBlock)
      (hmargin : Alone (left ++ body ++ indent) (tail ++ next.text) indent tail)
      (hnext : Reading (left ++ body ++ indent ++ p.source ++ tail) next segs) :
      Reading left (.pair (body ++ indent) p (next.prepend tail))
        (literalSegment left.length body ++
          ⟨indent, p.source, tail, ⟨.tag tag, (left ++ body ++ indent).length⟩⟩ :: segs)

theorem Alone.exists_body {fresh : Bool} {left lead after indent tail : List Char}
    (h : Edge fresh left) (halone : Alone (left ++ lead) after indent tail) :
    ∃ body, lead = body ++ indent := by
  have hsome := wholeMargin?_eq_some_iff.mpr halone
  rw [wholeMargin?] at hsome
  split at hsome
  · next hall =>
    obtain ⟨t, -, heq⟩ := Option.map_eq_some_iff.mp hsome
    obtain ⟨hindent, -⟩ := Prod.mk.inj heq
    obtain ⟨lines, hlead, -⟩ := exists_append_lastLine lead
    rw [(h.blank_iff lead).2 hall] at hindent
    exact ⟨lines, hindent ▸ hlead⟩
  · simp at hsome

theorem lineEnd?_mono {s tail : List Char} (h : lineEnd? s false = some tail) :
    lineEnd? s true = some tail := by
  unfold lineEnd? at h ⊢
  split at h <;> simp_all

/-- The tail of a tag that is alone lies before the next pair. -/
theorem LineEnd.exists_lead {next : Cut} {tail : List Char} (hs : next.Sound)
    (h : LineEnd next.text tail) : ∃ rest, next.lead = tail ++ rest := by
  cases next with
  | rest text => exact h.exists_append
  | pair gap p next =>
    obtain ⟨mid, hmid⟩ := Pair.exists_source hs.1
    have hsome := lineEnd?_eq_some_iff.mpr h
    rw [Cut.text, hmid, List.append_assoc] at hsome
    have hgap := lineEnd?_append_brace gap ('{' :: mid ++ ['}', '}'] ++ next.text)
    have hlead := lineEnd?_mono (hgap.symm.trans hsome)
    exact (lineEnd?_eq_some_iff.mp hlead).exists_append

/-- After a tag that is alone a new line starts, or no pair is left. -/
theorem LineEnd.edge {next : Cut} {tail : List Char} (hs : next.Sound)
    (h : LineEnd next.text tail) (left : List Char) :
    next.isLast = false → Edge true (left ++ tail) := by
  intro hlast
  cases next with
  | rest text => simp [Cut.isLast] at hlast
  | pair gap p next =>
    rcases h.endsLine with ⟨r, rfl⟩ | ⟨-, hblank⟩
    · exact .fresh (Or.inr ⟨left ++ r, by simp⟩)
    · obtain ⟨mid, hmid⟩ := Pair.exists_source hs.1
      have hbrace := hblank '{' (by simp [Cut.text, hmid])
      simp [isIndent] at hbrace

theorem Cut.Sound.exists_edge {gap : List Char} {p : Pair} {next : Cut}
    (h : (Cut.pair gap p next).Sound) (left : List Char) : Edge false (left ++ p.source) := by
  obtain ⟨mid, hmid⟩ := Pair.exists_source h.1
  have hb := Edge.braced (left ++ '{' :: '{' :: mid ++ ['}'])
  rw [hmid]
  simpa using hb

/-- A tag that is alone is read with its margin, and the tail is taken off the cut after it. -/
theorem Reading.of_alone {fresh : Bool} {left lead indent tail : List Char} {p : Pair}
    {next : Cut} {segs : List Segment} {tag : Tag} (hs : next.Sound) (hedge : Edge fresh left)
    (hread : Tag.read p.inner = .ok (some tag)) (hblock : tag.isBlock)
    (halone : Alone (left ++ lead) next.text indent tail)
    (hnext : Reading (left ++ lead ++ p.source ++ tail) (next.dropLead tail.length) segs) :
    Reading left (.pair lead p next)
      (literalSegment left.length (lead.take (lead.length - indent.length)) ++
        ⟨indent, p.source, tail, ⟨.tag tag, left.length + lead.length⟩⟩ :: segs) := by
  obtain ⟨body, rfl⟩ := halone.exists_body hedge
  obtain ⟨after, hafter⟩ := halone.ends.exists_lead hs
  have hback := Cut.prepend_dropLead hafter
  have htext : next.text = tail ++ (next.dropLead tail.length).text := by
    rw [← Cut.text_prepend, hback]
  rw [htext] at halone
  have hmargin := Reading.alone hread hblock (by simpa using halone) (by simpa using hnext)
  rw [hback] at hmargin
  simpa using hmargin

/-- A successful cutter of segments reads the cut that is left to it. -/
theorem reading_of_segmentsFrom {cut : Cut} {left before : List Char} {fresh : Bool} {skip : Nat}
    {segs : List Segment} (hs : cut.Sound) (he : cut.isLast = false → Edge fresh left)
    (h : segmentsFrom left.length fresh before skip cut = .ok segs) :
    Reading left ((cut.dropLead skip).prepend before) segs := by
  induction cut generalizing left before fresh skip segs with
  | rest text =>
    cases h
    exact .rest
  | pair gap p next ih =>
    have hedge := he rfl
    have hpast := hs.exists_edge
    generalize hlead : before ++ gap.drop skip = lead
    have hcut : ((Cut.pair gap p next).dropLead skip).prepend before = .pair lead p next := by
      rw [← hlead]
      rfl
    rw [hcut]
    simp only [segmentsFrom, hlead] at h
    cases hread : Tag.read p.inner with
    | error fault => simp [hread] at h
    | ok found =>
      cases found with
      | none =>
        simp only [hread] at h
        have hnext := ih hs.2 (fun _ => hedge) h
        exact .text hread (by simpa using hnext)
      | some tag =>
        simp only [hread] at h
        rw [margin?_eq hedge lead hs.2] at h
        cases hfound : if tag.isBlock then wholeMargin? (left ++ lead) next.text else none with
        | none =>
          simp only [hfound] at h
          obtain ⟨rest, hrest, rfl⟩ := exists_of_map_eq_ok h
          have hnext := @ih (left ++ lead ++ p.source) [] false 0 rest hs.2
            (fun _ => hpast (left ++ lead)) (by simpa [Nat.add_assoc] using hrest)
          have hnone : tag.isBlock → ∀ indent tail,
              ¬ Alone (left ++ lead) next.text indent tail := by
            intro hblock
            rw [if_pos hblock] at hfound
            exact wholeMargin?_eq_none_iff.mp hfound
          simpa using Reading.inline hread hnone (by simpa using hnext)
        | some margin =>
          obtain ⟨indent, tail⟩ := margin
          simp only [hfound] at h
          obtain ⟨rest, hrest, rfl⟩ := exists_of_map_eq_ok h
          have hblock : tag.isBlock := by
            by_contra hb
            simp [hb] at hfound
          rw [if_pos hblock] at hfound
          have halone := wholeMargin?_eq_some_iff.mp hfound
          have hnext := @ih (left ++ lead ++ p.source ++ tail) [] true tail.length rest hs.2
            (halone.ends.edge hs.2 _) (by simpa [Nat.add_assoc] using hrest)
          exact .of_alone hs.2 hedge hread hblock halone (by simpa using hnext)

/-- What a reading says is what the cutter of segments finds. -/
theorem segmentsFrom_of_reading {cut : Cut} {left before : List Char} {fresh : Bool} {skip : Nat}
    {segs : List Segment} (hs : cut.Sound) (he : cut.isLast = false → Edge fresh left)
    (h : Reading left ((cut.dropLead skip).prepend before) segs) :
    segmentsFrom left.length fresh before skip cut = .ok segs := by
  induction cut generalizing left before fresh skip segs with
  | rest text =>
    cases h
    rfl
  | pair gap p next ih =>
    have hedge := he rfl
    have hpast := hs.exists_edge
    generalize hlead : before ++ gap.drop skip = lead
    have hcut : ((Cut.pair gap p next).dropLead skip).prepend before = .pair lead p next := by
      rw [← hlead]
      rfl
    rw [hcut] at h
    simp only [segmentsFrom, hlead, margin?_eq hedge lead hs.2]
    cases h with
    | text hread hnext =>
      simp only [hread]
      exact ih hs.2 (fun _ => hedge) (by simpa using hnext)
    | @inline _ _ _ _ rest tag hread hmargin hnext =>
      have hnone : (if tag.isBlock then wholeMargin? (left ++ lead) next.text else none) = none := by
        split
        · next hblock => exact wholeMargin?_eq_none_iff.mpr (hmargin hblock)
        · rfl
      have hrest := @ih (left ++ lead ++ p.source) [] false 0 rest hs.2
        (fun _ => hpast (left ++ lead)) (by simpa using hnext)
      rw [List.length_append, List.length_append] at hrest
      simp only [hread, hnone, hrest, List.length_append]
      rfl
    | @alone _ body indent tail _ after rest tag hread hblock hmargin hnext =>
      rw [← Cut.text_prepend, List.append_assoc] at hmargin
      have hsome := wholeMargin?_eq_some_iff.mpr hmargin
      have hrest := @ih (left ++ (body ++ indent) ++ p.source ++ tail) [] true tail.length rest hs.2
        (hmargin.ends.edge hs.2 _) (by simpa using hnext)
      simp only [List.length_append, Nat.add_assoc] at hrest
      simp only [hread, hblock, if_true, hsome, List.length_append, hrest, Nat.add_assoc]
      simp [Except.map]

/-- What one segment owns, between the text before it and the text after it; `found` are the brace
pairs of the whole text with their offsets. -/
inductive Owns (found : List (Nat × Pair)) (left : List Char) : Segment → List Char → Prop
  | literal {value : String} {right : List Char} (hne : value ≠ "") :
      Owns found left ⟨[], value.toList, [], ⟨.literal value, left.length⟩⟩ right
  | inline {p : Pair} {tag : Tag} {right : List Char} (hfound : (left.length, p) ∈ found)
      (hread : Tag.read p.inner = .ok (some tag))
      (hmargin : tag.isBlock → ∀ indent tail, ¬ Alone left right indent tail) :
      Owns found left ⟨[], p.source, [], ⟨.tag tag, left.length⟩⟩ right
  | alone {p : Pair} {tag : Tag} {indent tail right : List Char}
      (hfound : ((left ++ indent).length, p) ∈ found)
      (hread : Tag.read p.inner = .ok (some tag)) (hblock : tag.isBlock)
      (hmargin : Alone (left ++ indent) (tail ++ right) indent tail) :
      Owns found left ⟨indent, p.source, tail, ⟨.tag tag, (left ++ indent).length⟩⟩ right

/-- Each segment owns its part of the text that starts after `left`. -/
def Tiled (found : List (Nat × Pair)) (left : List Char) : List Segment → Prop
  | [] => True
  | s :: segs => Owns found left s (segs.flatMap Segment.text) ∧ Tiled found (left ++ s.text) segs

theorem Owns.mono {found more : List (Nat × Pair)} {left right : List Char} {s : Segment}
    (h : Owns found left s right) (hsub : found ⊆ more) : Owns more left s right := by
  cases h with
  | literal hne => exact .literal hne
  | inline hfound hread hmargin => exact .inline (hsub hfound) hread hmargin
  | alone hfound hread hblock hmargin => exact .alone (hsub hfound) hread hblock hmargin

theorem Tiled.mono {found more : List (Nat × Pair)} {left : List Char} {segs : List Segment}
    (h : Tiled found left segs) (hsub : found ⊆ more) : Tiled more left segs := by
  induction segs generalizing left with
  | nil => trivial
  | cons s segs ih => exact ⟨h.1.mono hsub, ih h.2⟩

theorem text_literalSegment (n : Nat) (s : List Char) :
    (literalSegment n s).flatMap Segment.text = s := by
  cases s <;> simp [literalSegment, Segment.text]

theorem tiled_literalSegment {found : List (Nat × Pair)} {left s : List Char}
    {segs : List Segment} (h : Tiled found (left ++ s) segs) :
    Tiled found left (literalSegment left.length s ++ segs) := by
  cases s with
  | nil => simpa [literalSegment] using h
  | cons c r =>
    have howns : Owns found left ⟨[], (String.ofList (c :: r)).toList, [],
        ⟨.literal (String.ofList (c :: r)), left.length⟩⟩ (segs.flatMap Segment.text) :=
      .literal (by simp)
    rw [String.toList_ofList] at howns
    exact ⟨howns, by simpa [Segment.text] using h⟩

theorem Reading.covers {left : List Char} {cut : Cut} {segs : List Segment}
    (h : Reading left cut segs) : segs.flatMap Segment.text = cut.text := by
  induction h with
  | rest => simp [text_literalSegment, Cut.text]
  | text hread hnext ih => simpa [Cut.text] using ih
  | inline hread hmargin hnext ih =>
    simp [text_literalSegment, Segment.text, Cut.text, ih]
  | alone hread hblock hmargin hnext ih =>
    simp [text_literalSegment, Segment.text, Cut.text, ih]

theorem Reading.tiled {left : List Char} {cut : Cut} {segs : List Segment}
    (h : Reading left cut segs) : Tiled (cut.pairsFrom left.length) left segs := by
  induction h with
  | rest =>
    rw [← List.append_nil (literalSegment _ _)]
    exact tiled_literalSegment trivial
  | @text left gap p next segs hread hnext ih =>
    refine ih.mono ?_
    intro e he
    simpa [Cut.pairsFrom, Nat.add_assoc] using Or.inr he
  | @inline left gap p next segs tag hread hmargin hnext ih =>
    refine tiled_literalSegment ⟨.inline ?_ hread ?_, ?_⟩
    · simp [Cut.pairsFrom]
    · rwa [hnext.covers]
    · refine Tiled.mono (by simpa [Segment.text] using ih) ?_
      intro e he
      simpa [Cut.pairsFrom, Nat.add_assoc] using Or.inr he
  | @alone left body indent tail p next segs tag hread hblock hmargin hnext ih =>
    refine tiled_literalSegment ⟨.alone ?_ hread hblock ?_, ?_⟩
    · simp [Cut.pairsFrom, Nat.add_assoc]
    · rwa [hnext.covers]
    · refine Tiled.mono (by simpa [Segment.text] using ih) ?_
      intro e he
      simpa [Cut.pairsFrom, Nat.add_assoc] using Or.inr he

def Lexeme.isLiteral : Lexeme → Bool
  | .literal _ => true
  | .tag _ => false

/-- The tag of a token with its offset. -/
def Token.tag? (t : Token) : Option (Nat × Tag) :=
  match t.lexeme with
  | .literal _ => none
  | .tag tag => some (t.position, tag)

/-- The tag that a pair is read as, with its offset. -/
def tagAt? (e : Nat × Pair) : Option (Nat × Tag) :=
  match Tag.read e.2.inner with
  | .ok (some tag) => some (e.1, tag)
  | _ => none

@[simp] theorem Token.tag?_tag (tag : Tag) (n : Nat) : tag? ⟨.tag tag, n⟩ = some (n, tag) := rfl

theorem tagAt?_of_read {e : Nat × Pair} {tag : Tag} (h : Tag.read e.2.inner = .ok (some tag)) :
    tagAt? e = some (e.1, tag) := by
  simp [tagAt?, h]

theorem tags_literalSegment (n : Nat) (s : List Char) :
    (literalSegment n s).filterMap (·.token.tag?) = [] := by
  cases s <;> simp [literalSegment, Token.tag?]

/-- The tags are those of the pairs that are read as one, in order. -/
theorem Reading.tags {left : List Char} {cut : Cut} {segs : List Segment}
    (h : Reading left cut segs) :
    segs.filterMap (·.token.tag?) = (cut.pairsFrom left.length).filterMap tagAt? := by
  induction h with
  | rest => simp [tags_literalSegment, Cut.pairsFrom]
  | text hread hnext ih => simp [Cut.pairsFrom, tagAt?, hread, ih, Nat.add_assoc]
  | @inline left gap p next segs tag hread hmargin hnext ih =>
    have hp : tagAt? (left.length + gap.length, p) = some (left.length + gap.length, tag) :=
      tagAt?_of_read hread
    simp [tags_literalSegment, Cut.pairsFrom, hp, ih, Nat.add_assoc]
  | @alone left body indent tail p next segs tag hread hblock hmargin hnext ih =>
    have hp : tagAt? (left.length + (body ++ indent).length, p) =
        some (left.length + (body ++ indent).length, tag) := tagAt?_of_read hread
    rw [List.length_append] at hp
    simp [tags_literalSegment, Cut.pairsFrom, hp, ih, Nat.add_assoc]

/-- One of two neighbours is a tag. -/
def Apart (s t : Segment) : Prop :=
  ¬ (s.token.lexeme.isLiteral ∧ t.token.lexeme.isLiteral)

theorem apart_literalSegment {n : Nat} {text : List Char} {s : Segment} {segs : List Segment}
    (hs : s.token.lexeme.isLiteral = false) (h : segs.IsChain Apart) :
    (literalSegment n text ++ s :: segs).IsChain Apart := by
  have hcons : (s :: segs).IsChain Apart := by
    cases h with
    | nil => exact .singleton s
    | singleton t => exact .cons_cons (by simp [Apart, hs]) (.singleton t)
    | cons_cons hr h => exact .cons_cons (by simp [Apart, hs]) (.cons_cons hr h)
  cases text with
  | nil => exact hcons
  | cons c r => exact .cons_cons (by simp [Apart, hs]) hcons

theorem Reading.apart {left : List Char} {cut : Cut} {segs : List Segment}
    (h : Reading left cut segs) : segs.IsChain Apart := by
  induction h with
  | @rest left text => cases text <;> simp [literalSegment]
  | text hread hnext ih => exact ih
  | inline hread hmargin hnext ih => exact apart_literalSegment rfl ih
  | alone hread hblock hmargin hnext ih => exact apart_literalSegment rfl ih

theorem Cut.Sound.source_pos {cut : Cut} (h : cut.Sound) (start : Nat) :
    ∀ e ∈ cut.pairsFrom start, 0 < e.2.source.length := by
  induction cut generalizing start with
  | rest text => simp [pairsFrom]
  | pair gap p next ih =>
    intro e he
    rcases List.mem_cons.mp he with rfl | he
    · have := Pair.two_le_of_read? h.1
      simp only
      omega
    · exact ih h.2 _ e he

/-- The offset of a token lies in what its segment owns. -/
theorem Owns.position_mem {found : List (Nat × Pair)} {left right : List Char} {s : Segment}
    (hpos : ∀ e ∈ found, 0 < e.2.source.length) (h : Owns found left s right) :
    left.length ≤ s.token.position ∧ s.token.position < (left ++ s.text).length := by
  cases h with
  | @literal value right hne =>
    have hv : 0 < value.toList.length := List.length_pos_of_ne_nil (by simpa using hne)
    simp only [Segment.text, List.length_append]
    omega
  | @inline p tag right hfound hread hmargin =>
    have hp : 0 < p.source.length := hpos _ hfound
    simp only [Segment.text, List.length_append]
    omega
  | @alone p tag indent tail right hfound hread hblock hmargin =>
    have hp : 0 < p.source.length := hpos _ hfound
    simp only [Segment.text, List.length_append]
    omega

theorem Tiled.increasing {found : List (Nat × Pair)} {left : List Char} {segs : List Segment}
    (hpos : ∀ e ∈ found, 0 < e.2.source.length) (h : Tiled found left segs) :
    (∀ s ∈ segs, left.length ≤ s.token.position) ∧
      segs.Pairwise fun s t => s.token.position < t.token.position := by
  induction segs generalizing left with
  | nil => simp
  | cons s segs ih =>
    obtain ⟨hlow, hhigh⟩ := h.1.position_mem hpos
    obtain ⟨hrest, hpair⟩ := ih h.2
    constructor
    · intro t ht
      rcases List.mem_cons.mp ht with rfl | ht
      · exact hlow
      · have := hrest t ht
        omega
    · refine List.pairwise_cons.mpr ⟨?_, hpair⟩
      intro t ht
      have := hrest t ht
      omega

/-- The segments of a text in full: they make it up, each owns its part, of two neighbours one is a
tag, their offsets increase, and each pair that is read as a tag is there. -/
structure Tiling (text : List Char) (segs : List Segment) : Prop where
  covers : segs.flatMap Segment.text = text
  owns : Tiled (pairs text) [] segs
  apart : segs.IsChain Apart
  increasing : segs.Pairwise fun s t => s.token.position < t.token.position
  tags : segs.filterMap (·.token.tag?) = (pairs text).filterMap tagAt?

theorem reading_of_segments {s : List Char} {segs : List Segment} (h : segments s = .ok segs) :
    Reading [] (Cut.ofText s) segs := by
  have hreading : Reading [] (((Cut.ofText s).dropLead 0).prepend []) segs :=
    reading_of_segmentsFrom (Cut.sound_ofText s) (fun _ => .fresh (Or.inl rfl)) h
  rwa [Cut.dropLead_zero, Cut.prepend_nil] at hreading

/-- The segments of a text are what a reading of its cut says. -/
theorem segments_eq_ok_iff {s : List Char} {segs : List Segment} :
    segments s = .ok segs ↔ Reading [] (Cut.ofText s) segs := by
  constructor
  · exact reading_of_segments
  · intro h
    exact segmentsFrom_of_reading (Cut.sound_ofText s) (fun _ => .fresh (Or.inl rfl))
      (by simpa using h)

theorem tiling_of_segments {s : List Char} {segs : List Segment} (h : segments s = .ok segs) :
    Tiling s segs := by
  have hs := Cut.sound_ofText s
  have hreading := reading_of_segments h
  exact {
    covers := hreading.covers.trans (Cut.text_ofText s)
    owns := hreading.tiled
    apart := hreading.apart
    increasing := (hreading.tiled.increasing (hs.source_pos _)).2
    tags := hreading.tags }

/-- The tokens of a text come from segments that tile it: no character outside the tags and the
margins of those that are alone on their line is lost, repeated or moved. -/
theorem tokenize_tiles {text : String} {tokens : List Token} (h : tokenize text = .ok tokens) :
    ∃ segs, segs.map Segment.token = tokens ∧ Tiling text.toList segs := by
  obtain ⟨segs, hsegs, htokens⟩ := exists_of_map_eq_ok h
  exact ⟨segs, htokens, tiling_of_segments hsegs⟩

theorem tokenize_tiles_lines :
    let text := "a\n\t\x7b\x7b#if x\x7d\x7d \r\nb\x7b\x7b/if\x7d\x7d\n"
    let tokens : List Token := [⟨.literal "a\n", 0⟩, ⟨.tag (.opening .when "x"), 3⟩,
      ⟨.literal "b", 15⟩, ⟨.tag (.closing .when), 16⟩, ⟨.literal "\n", 23⟩]
    tokenize text = .ok tokens ∧
      ∃ segs, segs.map Segment.token = tokens ∧ Tiling text.toList segs := by
  intro text tokens
  have h : tokenize text = .ok tokens := by cbv
  exact ⟨h, tokenize_tiles h⟩

end Promptsmith.Template
