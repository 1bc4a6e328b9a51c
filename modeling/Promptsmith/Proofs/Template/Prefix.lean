import Mathlib
import Promptsmith.Proofs.Template.Hiding
import Promptsmith.Proofs.Template.Printing

/-!
# Whole lines are read the same whatever follows

A text that ends with its line and whose opening braces are all closed again is cut at the same
pairs whatever text follows, and its block tags own the same margins. So its segments are those of
the longer text, but for a literal at its end, which goes on with the literal that follows.
-/
namespace Promptsmith.Template

open Promptsmith.Text

/-! ### Pairs of a closed text -/

/-- Opening braces are followed by closing ones. -/
def Closed (s : List Char) : Prop :=
  ∀ rest, '{' :: '{' :: rest <:+ s → ['}', '}'] <:+: rest

instance (s : List Char) : Decidable (Closed s) :=
  decidable_of_iff (∀ t ∈ s.tails, ['{', '{'] <+: t → ['}', '}'] <:+: t.drop 2) <| by
    constructor
    · intro h rest hrest
      simpa using h _ ((List.mem_tails _ _).mpr hrest) ⟨rest, rfl⟩
    · rintro h t ht ⟨rest, rfl⟩
      exact h rest ((List.mem_tails _ _).mp ht)

theorem Closed.suffix {s t : List Char} (h : Closed s) (ht : t <:+ s) : Closed t :=
  fun rest hrest => h rest (hrest.trans ht)

/-- The first closing braces stay the first when more follows. -/
theorem splitAtClosing_append_of_some {s before after : List Char}
    (h : splitAtClosing s = some (before, after)) (t : List Char) :
    splitAtClosing (s ++ t) = some (before, after ++ t) := by
  fun_induction splitAtClosing s generalizing before with
  | case1 => simp at h
  | case2 r =>
    obtain ⟨rfl, rfl⟩ := Prod.mk.inj (Option.some.inj h)
    simp [splitAtClosing]
  | case3 c r hc ih =>
    obtain ⟨⟨b, a⟩, hr, heq⟩ := Option.map_eq_some_iff.mp h
    obtain ⟨rfl, rfl⟩ := Prod.mk.inj heq
    have hcons : ∀ q, c = '}' → r ++ t ≠ '}' :: q := by
      intro q hbrace hq
      cases r with
      | nil => simp [splitAtClosing] at hr
      | cons d r =>
        obtain ⟨rfl, -⟩ := List.cons.inj hq
        exact hc r hbrace rfl
    rw [List.cons_append, splitAtClosing, ih hr]
    · rfl
    · exact fun q hbrace hq => hcons q hbrace hq

theorem exists_splitAtClosing {s : List Char} (h : ['}', '}'] <:+: s) :
    ∃ before after, splitAtClosing s = some (before, after) := by
  fun_induction splitAtClosing s with
  | case1 => simp at h
  | case2 r => exact ⟨[], r, rfl⟩
  | case3 c r hc ih =>
    have hr : ['}', '}'] <:+: r := by
      rcases List.infix_cons_iff.mp h with hprefix | hinfix
      · obtain ⟨q, hq⟩ := hprefix
        obtain ⟨hbrace, hrest⟩ := List.cons.inj hq
        exact absurd hrest.symm (hc q hbrace.symm)
      · exact hinfix
    obtain ⟨before, after, hsplit⟩ := ih hr
    exact ⟨c :: before, after, by rw [hsplit]; rfl⟩

theorem EndsLine.suffix {s t : List Char} (h : EndsLine s) (ht : t <:+ s) : EndsLine t := by
  obtain ⟨u, rfl⟩ := ht
  rcases List.eq_nil_or_concat t with rfl | ⟨r, c, rfl⟩
  · exact Or.inl rfl
  · rcases h with h | ⟨q, h⟩
    · simp at h
    · rw [List.concat_eq_append, ← List.append_assoc] at h
      obtain ⟨-, hc⟩ := List.append_inj' h rfl
      exact Or.inr ⟨r, by rw [List.concat_eq_append, hc]⟩

theorem EndsLine.eq_of_singleton {c : Char} (h : EndsLine [c]) : c = '\n' := by
  rcases h with h | ⟨r, h⟩
  · simp at h
  · cases r with
    | nil => exact (List.cons.inj h).1
    | cons d r => simp at h

theorem closing_infix_dropWhile {s : List Char} (h : ['}', '}'] <:+: s) :
    ['}', '}'] <:+: s.dropWhile isBlank := by
  induction s with
  | nil => simp at h
  | cons c r ih =>
    by_cases hc : isBlank c
    · rw [List.dropWhile_cons_of_pos hc]
      refine ih ((List.infix_cons_iff.mp h).resolve_left ?_)
      rintro ⟨q, hq⟩
      rw [← (List.cons.inj hq).1] at hc
      exact absurd hc (by decide)
    · rwa [List.dropWhile_cons_of_neg hc]

/-- The rest of a pair holds its closing braces, so what follows the text is not looked at. -/
theorem Pair.close?_append {s : List Char} (h : ['}', '}'] <:+: s) (t : List Char) :
    Pair.close? (s ++ t) = (Pair.close? s).map fun (p, after) => (p, after ++ t) := by
  have hclosing := closing_infix_dropWhile h
  have hne : s.dropWhile isBlank ≠ [] := by
    intro hnil
    simp [hnil] at hclosing
  have hdrop : (s ++ t).dropWhile isBlank = s.dropWhile isBlank ++ t := by
    rw [List.dropWhile_append, if_neg (by simpa using hne)]
  have htake : (s ++ t).takeWhile isBlank = s.takeWhile isBlank := by
    have hsplit := List.takeWhile_append_dropWhile (p := isBlank) (l := s ++ t)
    have hown := List.takeWhile_append_dropWhile (p := isBlank) (l := s)
    rw [hdrop, ← List.append_assoc] at hsplit
    exact List.append_cancel_right ((List.append_cancel_right hsplit).trans hown.symm)
  obtain ⟨before, after, hsplit⟩ := exists_splitAtClosing hclosing
  have hmore := splitAtClosing_append_of_some hsplit t
  unfold Pair.close?
  rw [hdrop, htake, hsplit, hmore]
  dsimp only
  split <;> rfl

/-- Whether a pair starts here does not depend on what follows a closed text. -/
theorem Pair.read?_append {s : List Char} (hclosed : Closed s) (hends : EndsLine s) (hne : s ≠ [])
    (t : List Char) :
    Pair.read? (s ++ t) = (Pair.read? s).map fun (p, after) => (p, after ++ t) := by
  match s with
  | [] => exact absurd rfl hne
  | [c] =>
    have hc := hends.eq_of_singleton
    simp [Pair.read?, hc]
  | c :: d :: r =>
    by_cases hopen : c = '{' ∧ d = '{'
    · obtain ⟨rfl, rfl⟩ := hopen
      exact Pair.close?_append (hclosed r (List.suffix_refl _)) t
    · simp [Pair.read?_eq_none_of_ne hopen]

/-- Puts a cut at the end. -/
def Cut.append : Cut → Cut → Cut
  | .rest text, u => u.prepend text
  | .pair gap p next, u => .pair gap p (next.append u)

@[simp] theorem Cut.append_push (c : Char) (t u : Cut) :
    (t.push c).append u = (t.append u).push c := by
  cases t with
  | rest text => cases u <;> rfl
  | pair gap p next => rfl

/-- A closed text is cut at the same pairs whatever follows it. -/
theorem Cut.ofText_append_of_closed {s : List Char} (hclosed : Closed s) (hends : EndsLine s)
    (t : List Char) : Cut.ofText (s ++ t) = (Cut.ofText s).append (Cut.ofText t) := by
  fun_induction Cut.ofText s with
  | case1 => simp [Cut.append]
  | case2 c r p after h hlt ih =>
    have hafter : after <:+ c :: r := ⟨p.source, Pair.source_append_of_read? h⟩
    have hread := Pair.read?_append hclosed hends (List.cons_ne_nil c r) t
    rw [h] at hread
    rw [Cut.ofText_of_read? hread, ih (hclosed.suffix hafter) (hends.suffix hafter)]
    rfl
  | case3 c r h ih =>
    have hr : r <:+ c :: r := List.suffix_cons c r
    have hread : Pair.read? (c :: (r ++ t)) = none := by
      simpa [h] using Pair.read?_append hclosed hends (List.cons_ne_nil c r) t
    rw [List.cons_append, Cut.ofText_cons hread, ih (hclosed.suffix hr) (hends.suffix hr),
      Cut.append_push]

/-! ### Margins -/

/-- Where a line ends is seen before the next line. -/
theorem lineEnd?_append_of_mem {s : List Char} (h : '\n' ∈ s) (t : List Char) :
    lineEnd? (s ++ t) true = lineEnd? s true := by
  rcases exists_blanks s with hall | ⟨blanks, c, r, rfl, hblanks, hc⟩
  · exact absurd (hall _ h) (by decide)
  · obtain ⟨htake, hdrop⟩ := span_append hblanks hc r
    obtain ⟨htake', hdrop'⟩ := span_append hblanks hc (r ++ t)
    simp only [lineEnd?, List.append_assoc, List.cons_append, htake, hdrop, htake', hdrop']
    by_cases hlf : c = '\n'
    · simp [hlf]
    · by_cases hcr : c = '\r'
      · cases r with
        | nil =>
          have hblank : '\n' ∈ blanks := by simpa [hcr] using h
          exact absurd (hblanks _ hblank) (by decide)
        | cons d r => by_cases hdlf : d = '\n' <;> simp [hcr, hdlf]
      · simp [hlf, hcr]

theorem wholeMargin?_append_of_mem {before after : List Char} (h : '\n' ∈ after) (t : List Char) :
    wholeMargin? before (after ++ t) = wholeMargin? before after := by
  rw [wholeMargin?, wholeMargin?, lineEnd?_append_of_mem h]

/-- Whole lines in front do not show in a margin. -/
theorem wholeMargin?_shift {lines : List Char} (h : EndsLine lines) (before after : List Char) :
    wholeMargin? (lines ++ before) after = wholeMargin? before after := by
  obtain ⟨above, hbefore, habove, hline⟩ := exists_append_lastLine before
  have hlast : lastLine (lines ++ before) = lastLine before := by
    rw [hbefore, ← List.append_assoc, lastLine_append (h.append habove) hline, ← hbefore]
  rw [wholeMargin?, wholeMargin?, hlast]

theorem alone_append_iff {before after indent tail : List Char} (h : '\n' ∈ after)
    (t : List Char) : Alone before (after ++ t) indent tail ↔ Alone before after indent tail := by
  rw [← wholeMargin?_eq_some_iff, ← wholeMargin?_eq_some_iff, wholeMargin?_append_of_mem h]

theorem alone_shift_iff {lines before after indent tail : List Char} (h : EndsLine lines) :
    Alone (lines ++ before) after indent tail ↔ Alone before after indent tail := by
  rw [← wholeMargin?_eq_some_iff, ← wholeMargin?_eq_some_iff, wholeMargin?_shift h]

/-! ### Words of a reading -/

/-- What the segments of a cut say, where `left` is the text before it. -/
def Reads (left : List Char) (cut : Cut) (word : List Lexeme) : Prop :=
  ∃ segs, Reading left cut segs ∧ segs.map (·.token.lexeme) = word

theorem Reads.rest (left text : List Char) : Reads left (.rest text) (literalLexeme text) :=
  ⟨_, .rest, lexemes_literalSegment _ _⟩

theorem Reads.text {left gap : List Char} {p : Pair} {next : Cut} {word : List Lexeme}
    (hread : Tag.read p.inner = .ok none) (h : Reads left (next.prepend (gap ++ p.source)) word) :
    Reads left (.pair gap p next) word := by
  obtain ⟨segs, hsegs, hword⟩ := h
  exact ⟨segs, .text hread hsegs, hword⟩

theorem Reads.inline {left gap : List Char} {p : Pair} {next : Cut} {word : List Lexeme} {tag : Tag}
    (hread : Tag.read p.inner = .ok (some tag))
    (hmargin : tag.isBlock → ∀ indent tail, ¬ Alone (left ++ gap) next.text indent tail)
    (h : Reads (left ++ gap ++ p.source) next word) :
    Reads left (.pair gap p next) (literalLexeme gap ++ .tag tag :: word) := by
  obtain ⟨segs, hsegs, rfl⟩ := h
  exact ⟨_, .inline hread hmargin hsegs, by simp [← lexemes_literalSegment left.length]⟩

theorem Reads.alone {left body indent tail : List Char} {p : Pair} {next : Cut}
    {word : List Lexeme} {tag : Tag} (hread : Tag.read p.inner = .ok (some tag))
    (hblock : tag.isBlock)
    (hmargin : Alone (left ++ body ++ indent) (tail ++ next.text) indent tail)
    (h : Reads (left ++ body ++ indent ++ p.source ++ tail) next word) :
    Reads left (.pair (body ++ indent) p (next.prepend tail))
      (literalLexeme body ++ .tag tag :: word) := by
  obtain ⟨segs, hsegs, rfl⟩ := h
  exact ⟨_, .alone hread hblock hmargin hsegs, by simp [← lexemes_literalSegment left.length]⟩

/-- Two words in turn; a literal that ends the one and a literal that starts the other are one. -/
def joinWords : List Lexeme → List Lexeme → List Lexeme
  | [], w => w
  | [.literal s], .literal t :: w => .literal (s ++ t) :: w
  | l :: v, w => l :: joinWords v w

theorem joinWords_tag (v w more : List Lexeme) (t : Tag) :
    joinWords (v ++ .tag t :: w) more = v ++ .tag t :: joinWords w more := by
  induction v with
  | nil => simp [joinWords]
  | cons l v ih =>
    cases v with
    | nil => simp [joinWords]
    | cons m v => simpa [joinWords] using ih

theorem joinWords_of_tag (v w : List Lexeme) (t : Tag) :
    joinWords v (.tag t :: w) = v ++ .tag t :: w := by
  induction v with
  | nil => rfl
  | cons l v ih =>
    cases v with
    | nil => simp [joinWords]
    | cons m v => simpa [joinWords] using ih

/-- A literal runs together with the literal that a word may start with. -/
theorem joinWords_literalLexeme (s gap : List Char) {w : List Lexeme}
    (hw : ∀ l ∈ w.head?, l.isLiteral = false) :
    joinWords (literalLexeme s) (literalLexeme gap ++ w) = literalLexeme (s ++ gap) ++ w := by
  cases s with
  | nil => rfl
  | cons c r =>
    cases gap with
    | nil =>
      cases w with
      | nil => simp [literalLexeme, joinWords]
      | cons l w =>
        cases l with
        | literal text => simp [Lexeme.isLiteral] at hw
        | tag t => simp [literalLexeme, joinWords]
    | cons d q => simp [literalLexeme, joinWords, String.append_assoc]

@[simp] theorem Cut.prepend_append (s t : List Char) (u : Cut) :
    u.prepend (s ++ t) = (u.prepend t).prepend s := by
  cases u <;> simp [prepend]

@[simp] theorem Cut.append_prepend (s : List Char) (t u : Cut) :
    (t.prepend s).append u = (t.append u).prepend s := by
  cases t with
  | rest text => exact Cut.prepend_append s text u
  | pair gap p next => rfl

@[simp] theorem Cut.text_append (t u : Cut) : (t.append u).text = t.text ++ u.text := by
  induction t with
  | rest s => simp [append, Cut.text]
  | pair gap p next ih => simp [append, Cut.text, ih]

/-- What is read does not depend on the whole lines before it. -/
theorem Reading.shift {lines left : List Char} {cut : Cut} {segs : List Segment}
    (hl : EndsLine lines) (h : Reading left cut segs) :
    Reads (lines ++ left) cut (segs.map (·.token.lexeme)) := by
  induction h with
  | rest =>
    rw [lexemes_literalSegment]
    exact .rest _ _
  | text hread hnext ih => exact .text hread ih
  | @inline left gap p next segs tag hread hmargin hnext ih =>
    rw [List.map_append, lexemes_literalSegment]
    refine .inline hread ?_ (by simpa using ih)
    intro hblock indent tail
    rw [List.append_assoc, alone_shift_iff hl]
    exact hmargin hblock indent tail
  | @alone left body indent tail p next segs tag hread hblock hmargin hnext ih =>
    rw [List.map_append, lexemes_literalSegment]
    refine .alone hread hblock ?_ (by simpa using ih)
    rw [List.append_assoc, List.append_assoc, alone_shift_iff hl, ← List.append_assoc]
    exact hmargin

/-- Literal text in front of a cut goes into its first literal. -/
theorem Reading.prepend {left s : List Char} {cut : Cut} {segs : List Segment}
    (h : Reading (left ++ s) cut segs) :
    Reads left (cut.prepend s) (joinWords (literalLexeme s) (segs.map (·.token.lexeme))) := by
  generalize hwhole : left ++ s = whole at h
  induction h generalizing s with
  | @rest _ text =>
    have hword := joinWords_literalLexeme s text (w := []) (by simp)
    rw [List.append_nil, List.append_nil] at hword
    rw [lexemes_literalSegment, hword]
    exact .rest left (s ++ text)
  | @text _ gap p next segs hread hnext ih =>
    refine @Reads.text left (s ++ gap) p next _ hread ?_
    simpa using ih hwhole
  | @inline _ gap p next segs tag hread hmargin hnext ih =>
    subst hwhole
    rw [List.map_append, lexemes_literalSegment, List.map_cons,
      joinWords_literalLexeme s gap (by simp [Lexeme.isLiteral])]
    refine @Reads.inline left (s ++ gap) p next _ tag hread ?_ ⟨segs, by simpa using hnext, rfl⟩
    simpa using hmargin
  | @alone _ body indent tail p next segs tag hread hblock hmargin hnext ih =>
    subst hwhole
    rw [List.map_append, lexemes_literalSegment, List.map_cons,
      joinWords_literalLexeme s body (by simp [Lexeme.isLiteral])]
    have hrest : Reads (left ++ (s ++ body) ++ indent ++ p.source ++ tail) next
        (segs.map (·.token.lexeme)) := ⟨segs, by simpa using hnext, rfl⟩
    have halone := Reads.alone hread hblock (by simpa using hmargin) hrest
    rwa [List.append_assoc s] at halone

/-- After a pair a text that ends its line still holds a line break. -/
theorem mem_of_endsLine {a b : List Char} {p : Pair} {after : List Char}
    (hpair : Pair.read? (p.source ++ after) = some (p, after)) (h : EndsLine (a ++ p.source ++ b)) :
    '\n' ∈ b := by
  obtain ⟨mid, hmid⟩ := Pair.exists_source hpair
  rcases List.eq_nil_or_concat b with rfl | ⟨r, c, rfl⟩
  · have hend := h.suffix (t := ['}']) ⟨a ++ '{' :: '{' :: mid ++ ['}'], by simp [hmid]⟩
    exact absurd hend.eq_of_singleton (by decide)
  · have hend := h.suffix (t := [c]) ⟨a ++ p.source ++ r, by simp⟩
    simp [hend.eq_of_singleton]

/-- A cut whose text ends its line is read the same whatever follows, and what follows is read as it
is after whole lines. -/
theorem Reading.append {left : List Char} {cut : Cut} {segs : List Segment}
    (h : Reading left cut segs) (hs : cut.Sound) (hends : EndsLine cut.text) {next : Cut}
    {word : List Lexeme} (hnext : Reads (left ++ cut.text) next word) :
    Reads left (cut.append next) (joinWords (segs.map (·.token.lexeme)) word) := by
  induction h with
  | @rest left text =>
    obtain ⟨more, hmore, rfl⟩ := hnext
    rw [lexemes_literalSegment]
    exact hmore.prepend
  | @text left gap p cut segs hread hcut ih =>
    refine .text hread ?_
    have hrest := ih (Cut.sound_prepend_iff.mpr hs.2) (by simpa [Cut.text] using hends)
      (by simpa [Cut.text] using hnext)
    simpa using hrest
  | @inline left gap p cut segs tag hread hmargin hcut ih =>
    have hbreak := mem_of_endsLine hs.1 hends
    have hrest := ih hs.2 (hends.suffix ⟨gap ++ p.source, rfl⟩) (by simpa [Cut.text] using hnext)
    rw [List.map_append, lexemes_literalSegment, List.map_cons, joinWords_tag]
    refine .inline hread ?_ hrest
    intro hblock indent tail
    rw [Cut.text_append, alone_append_iff hbreak]
    exact hmargin hblock indent tail
  | @alone left body indent tail p cut segs tag hread hblock hmargin hcut ih =>
    have hbreak := mem_of_endsLine hs.1 hends
    rw [Cut.text_prepend] at hbreak
    have hrest := ih (Cut.sound_prepend_iff.mp hs.2)
      (hends.suffix ⟨body ++ indent ++ p.source ++ tail, by simp [Cut.text]⟩)
      (by simpa [Cut.text] using hnext)
    rw [List.map_append, lexemes_literalSegment, List.map_cons, joinWords_tag, Cut.append,
      Cut.append_prepend]
    refine .alone hread hblock ?_ hrest
    rw [Cut.text_append, ← List.append_assoc, alone_append_iff hbreak]
    exact hmargin

end Promptsmith.Template
