import Mathlib
import Promptsmith.Proofs.Template.Faults
import Promptsmith.Proofs.Template.Rewording
import Promptsmith.Proofs.Template.Tidy

/-!
# Line endings

A text may end its lines with a carriage return and a line feed. It is cut at the same pairs as the
text with line feeds alone, its block tags own the same margins with the whole line ending, and so
the tree is the same but for the line endings in its literals.
-/
namespace Promptsmith.Template

open Promptsmith.Text

/-- Each line feed with a carriage return in front. -/
def crlf (s : List Char) : List Char :=
  s.flatMap fun c => if c = '\n' then ['\r', '\n'] else [c]

@[simp] theorem crlf_nil : crlf [] = [] := rfl
@[simp] theorem crlf_append (s t : List Char) : crlf (s ++ t) = crlf s ++ crlf t := by simp [crlf]
@[simp] theorem crlf_break (s : List Char) : crlf ('\n' :: s) = '\r' :: '\n' :: crlf s := rfl

theorem crlf_cons {c : Char} (h : c ≠ '\n') (s : List Char) : crlf (c :: s) = c :: crlf s := by
  simp [crlf, h]

theorem crlf_eq_self {s : List Char} (h : '\n' ∉ s) : crlf s = s := by
  induction s with
  | nil => rfl
  | cons c s ih =>
    rw [List.mem_cons, not_or] at h
    rw [crlf_cons (Ne.symm h.1), ih h.2]

@[simp] theorem crlf_eq_nil_iff {s : List Char} : crlf s = [] ↔ s = [] := by
  cases s with
  | nil => simp
  | cons c s => by_cases h : c = '\n' <;> simp [h, crlf_cons]

@[simp] theorem break_mem_crlf_iff {s : List Char} : '\n' ∈ crlf s ↔ '\n' ∈ s := by
  induction s with
  | nil => simp
  | cons c s ih => by_cases h : c = '\n' <;> simp [h, crlf_cons, ih]

/-! ### White space -/

theorem dropEndWhile_cons (p : Char → Bool) (c : Char) (s : List Char) :
    dropEndWhile p (c :: s) =
      if dropEndWhile p s = [] then (if p c then [] else [c]) else c :: dropEndWhile p s := by
  rw [dropEndWhile]
  cases dropEndWhile p s <;> simp

section

variable {p : Char → Bool} (hp : p '\r' = p '\n')

include hp

theorem takeWhile_crlf (s : List Char) : (crlf s).takeWhile p = crlf (s.takeWhile p) := by
  induction s with
  | nil => rfl
  | cons c s ih =>
    by_cases h : c = '\n'
    · subst h
      cases hbreak : p '\n' with
      | true => simp [hp, hbreak, ih]
      | false => simp [hp, hbreak]
    · rw [crlf_cons h, List.takeWhile_cons, List.takeWhile_cons, ih]
      cases p c with
      | true => simp [crlf_cons h]
      | false => rfl

theorem dropWhile_crlf (s : List Char) : (crlf s).dropWhile p = crlf (s.dropWhile p) := by
  have hsplit := congrArg crlf (List.takeWhile_append_dropWhile (p := p) (l := s))
  rw [crlf_append, ← takeWhile_crlf hp] at hsplit
  exact (List.append_cancel_left
    (hsplit.trans (List.takeWhile_append_dropWhile (p := p) (l := crlf s)).symm)).symm

theorem dropEndWhile_crlf (s : List Char) : dropEndWhile p (crlf s) = crlf (dropEndWhile p s) := by
  induction s with
  | nil => rfl
  | cons c s ih =>
    by_cases h : c = '\n'
    · subst h
      rw [crlf_break, dropEndWhile_cons, dropEndWhile_cons, dropEndWhile_cons, ih, hp]
      by_cases hnil : dropEndWhile p s = []
      · cases p '\n' <;> simp [hnil]
      · simp [hnil]
    · rw [crlf_cons h, dropEndWhile_cons, dropEndWhile_cons, ih]
      by_cases hnil : dropEndWhile p s = []
      · cases p c <;> simp [hnil, crlf_cons h]
      · simp [hnil, crlf_cons h]

end

/-! ### Pairs -/

theorem splitAtClosing_crlf (s : List Char) :
    splitAtClosing (crlf s) =
      (splitAtClosing s).map fun (before, after) => (crlf before, crlf after) := by
  fun_induction splitAtClosing s with
  | case1 => rfl
  | case2 r => rw [crlf_cons (by decide), crlf_cons (by decide), splitAtClosing]; rfl
  | case3 c r hc ih =>
    by_cases h : c = '\n'
    · subst h
      rw [crlf_break, splitAtClosing_cons (by decide), splitAtClosing_cons (by decide), ih]
      simp only [Option.map_map]
      rfl
    · have hclosing : ∀ q, c = '}' → crlf r ≠ '}' :: q := by
        intro q hbrace hq
        cases r with
        | nil => cases hq
        | cons d r =>
          by_cases hd : d = '\n'
          · rw [hd, crlf_break] at hq
            exact absurd (List.cons.inj hq).1 (by decide)
          · rw [crlf_cons hd] at hq
            exact hc r hbrace (by rw [(List.cons.inj hq).1])
      rw [crlf_cons h, splitAtClosing, ih, Option.map_map, Option.map_map]
      · congr 1
        funext found
        simp [crlf_cons h]
      · exact hclosing

/-- The pair with other line endings; what it holds has none. -/
def Pair.returned (p : Pair) : Pair :=
  ⟨crlf p.source, p.inner⟩

theorem Pair.close?_crlf (s : List Char) :
    Pair.close? (crlf s) =
      (Pair.close? s).map fun (p, after) => (p.returned, crlf after) := by
  have hblank : isBlank '\r' = isBlank '\n' := by decide
  unfold Pair.close?
  rw [dropWhile_crlf hblank, takeWhile_crlf hblank, splitAtClosing_crlf]
  cases splitAtClosing (s.dropWhile isBlank) with
  | none => rfl
  | some found =>
    obtain ⟨raw, after⟩ := found
    simp only [Option.map_some, trimEnd, dropEndWhile_crlf hblank, break_mem_crlf_iff]
    by_cases hline : '\n' ∈ dropEndWhile isBlank raw
    · simp [hline]
    · have hopen : ∀ body, crlf ('{' :: '{' :: body) = '{' :: '{' :: crlf body :=
        fun body => by rw [crlf_cons (by decide), crlf_cons (by decide)]
      simp [hline, Pair.returned, crlf_eq_self hline, hopen, crlf_cons]

theorem Pair.read?_crlf (s : List Char) :
    Pair.read? (crlf s) =
      (Pair.read? s).map fun (p, after) => (p.returned, crlf after) := by
  match s with
  | [] => rfl
  | [c] => by_cases h : c = '\n' <;> simp [h, crlf_cons, Pair.read?]
  | c :: d :: r =>
    by_cases hopen : c = '{' ∧ d = '{'
    · obtain ⟨rfl, rfl⟩ := hopen
      rw [crlf_cons (by decide), crlf_cons (by decide)]
      exact Pair.close?_crlf r
    · rw [Pair.read?_eq_none_of_ne hopen]
      by_cases hc : c = '\n'
      · rw [hc, crlf_break, Pair.read?_eq_none_of_ne (by simp)]
        rfl
      · by_cases hd : d = '\n'
        · rw [crlf_cons hc, hd, crlf_break, Pair.read?_eq_none_of_ne (by simp)]
          rfl
        · rw [crlf_cons hc, crlf_cons hd, Pair.read?_eq_none_of_ne hopen]
          rfl

/-- The cut with other line endings. -/
def Cut.returned : Cut → Cut
  | .rest text => .rest (crlf text)
  | .pair gap p next => .pair (crlf gap) p.returned next.returned

theorem Cut.returned_push {c : Char} (h : c ≠ '\n') (t : Cut) :
    (t.push c).returned = t.returned.push c := by
  cases t <;> simp [push, returned, crlf_cons h]

theorem Cut.returned_push_break (t : Cut) :
    (t.push '\n').returned = (t.returned.push '\n').push '\r' := by
  cases t <;> rfl

@[simp] theorem Cut.returned_prepend (s : List Char) (t : Cut) :
    (t.prepend s).returned = t.returned.prepend (crlf s) := by
  cases t <;> simp [prepend, returned]

@[simp] theorem Cut.text_returned (t : Cut) : t.returned.text = crlf t.text := by
  induction t with
  | rest text => rfl
  | pair gap p next ih => simp [returned, text, Pair.returned, ih]

/-- A text is cut at the same pairs whatever its line endings. -/
theorem Cut.ofText_crlf (s : List Char) : Cut.ofText (crlf s) = (Cut.ofText s).returned := by
  fun_induction Cut.ofText s with
  | case1 => simp [returned]
  | case2 c r p after h hlt ih =>
    have hread := Pair.read?_crlf (c :: r)
    rw [h] at hread
    rw [Cut.ofText_of_read? hread, ih]
    rfl
  | case3 c r h ih =>
    by_cases hc : c = '\n'
    · subst hc
      rw [crlf_break, Cut.ofText_cons (Pair.read?_eq_none_of_head (by decide) _),
        Cut.ofText_cons (Pair.read?_eq_none_of_head (by decide) _), ih, Cut.returned_push_break]
    · have hread := Pair.read?_crlf (c :: r)
      rw [h, crlf_cons hc] at hread
      rw [crlf_cons hc, Cut.ofText_cons hread, ih, Cut.returned_push hc]

/-! ### Margins -/

/-- The line ending of a tag that is alone on its line is taken as a whole. -/
theorem lineEnd?_crlf {s : List Char} (h : '\r' ∉ s) :
    lineEnd? (crlf s) true = (lineEnd? s true).map crlf := by
  have hindent : isIndent '\r' = isIndent '\n' := by decide
  have hdrop : '\r' ∉ s.dropWhile isIndent := fun hmem =>
    h ((List.dropWhile_sublist isIndent).subset hmem)
  unfold lineEnd?
  rw [takeWhile_crlf hindent, dropWhile_crlf hindent]
  cases hd : s.dropWhile isIndent with
  | nil => simp
  | cons c r =>
    rw [hd, List.mem_cons, not_or] at hdrop
    by_cases hc : c = '\n'
    · simp [hc]
    · simp [hc, crlf_cons hc, Ne.symm hdrop.1]

theorem endsLine_crlf {s : List Char} (h : EndsLine s) : EndsLine (crlf s) := by
  rcases h with rfl | ⟨r, rfl⟩
  · exact Or.inl rfl
  · exact Or.inr ⟨crlf r ++ ['\r'], by simp⟩

theorem lastLine_crlf (s : List Char) : lastLine (crlf s) = lastLine s := by
  obtain ⟨lines, hs, hlines, hline⟩ := exists_append_lastLine s
  rw [congrArg crlf hs, crlf_append, crlf_eq_self hline,
    lastLine_append (endsLine_crlf hlines) hline]

theorem wholeMargin?_crlf (before : List Char) {after : List Char} (h : '\r' ∉ after) :
    wholeMargin? (crlf before) (crlf after) =
      (wholeMargin? before after).map fun (indent, tail) => (indent, crlf tail) := by
  unfold wholeMargin?
  rw [lastLine_crlf, lineEnd?_crlf h]
  split
  · rw [Option.map_map, Option.map_map]
    rfl
  · rfl

/-! ### Segments -/

def toCrlf (s : String) : String :=
  String.ofList (crlf s.toList)

@[simp] theorem toList_toCrlf (s : String) : (toCrlf s).toList = crlf s.toList := by simp [toCrlf]

/-- The same segment with other line endings, elsewhere in the text. Its margin ends with the whole
line ending. -/
structure Segment.Returned (s t : Segment) : Prop where
  indent : t.indent = s.indent
  source : t.source = crlf s.source
  tail : t.tail = crlf s.tail
  lexeme : t.token.lexeme = s.token.lexeme.reword toCrlf

theorem returned_literalSegment (n m : Nat) (s : List Char) :
    List.Forall₂ Segment.Returned (literalSegment n s) (literalSegment m (crlf s)) := by
  cases s with
  | nil => exact .nil
  | cons c r =>
    have hne : (crlf (c :: r)).isEmpty = false := by
      rw [List.isEmpty_eq_false_iff, ne_eq, crlf_eq_nil_iff]
      simp
    rw [literalSegment, literalSegment, hne]
    refine .cons ⟨rfl, rfl, rfl, ?_⟩ .nil
    simp [Lexeme.reword, toCrlf]

/-- A text is read as the same segments whatever its line endings. -/
theorem Reading.returned {left : List Char} {cut : Cut} {segs : List Segment}
    (h : Reading left cut segs) (hcr : '\r' ∉ cut.text) :
    ∃ segs', Reading (crlf left) cut.returned segs' ∧
      List.Forall₂ Segment.Returned segs segs' := by
  induction h with
  | @rest left text => exact ⟨_, .rest, returned_literalSegment _ _ _⟩
  | @text left gap p next segs hread hnext ih =>
    obtain ⟨segs', hreading, hsegs⟩ := ih (by simpa [Cut.text] using hcr)
    refine ⟨segs', .text hread ?_, hsegs⟩
    rwa [Cut.returned_prepend, crlf_append] at hreading
  | @inline left gap p next segs tag hread hmargin hnext ih =>
    simp only [Cut.text, List.mem_append, not_or] at hcr
    obtain ⟨segs', hreading, hsegs⟩ := ih hcr.2
    have hnone : tag.isBlock → ∀ indent tail,
        ¬ Alone (crlf left ++ crlf gap) next.returned.text indent tail := by
      intro hblock
      have hwhole := wholeMargin?_crlf (left ++ gap) hcr.2
      rw [wholeMargin?_eq_none_iff.mpr (hmargin hblock), crlf_append,
        ← Cut.text_returned] at hwhole
      exact wholeMargin?_eq_none_iff.mp hwhole
    rw [crlf_append, crlf_append] at hreading
    exact ⟨_, .inline hread hnone hreading,
      List.rel_append (returned_literalSegment _ _ _) (.cons ⟨rfl, rfl, rfl, rfl⟩ hsegs)⟩
  | @alone left body indent tail p next segs tag hread hblock hmargin hnext ih =>
    simp only [Cut.text, Cut.text_prepend, List.mem_append, not_or] at hcr
    obtain ⟨segs', hreading, hsegs⟩ := ih hcr.2.2
    have hindent : crlf indent = indent := crlf_eq_self (not_mem_of_isIndent hmargin.blank)
    have halone : Alone (crlf left ++ crlf body ++ indent)
        (crlf tail ++ next.returned.text) indent (crlf tail) := by
      have hafter : '\r' ∉ tail ++ next.text := by
        rw [List.mem_append, not_or]
        exact hcr.2
      have hwhole := wholeMargin?_crlf (left ++ body ++ indent) hafter
      rw [wholeMargin?_eq_some_iff.mpr hmargin] at hwhole
      simpa [hindent] using wholeMargin?_eq_some_iff.mp hwhole
    rw [crlf_append, crlf_append, crlf_append, crlf_append,
      hindent] at hreading
    have hall := Reading.alone (p := p.returned) hread hblock halone hreading
    rw [Cut.returned, Cut.returned_prepend, crlf_append, hindent]
    exact ⟨_, hall,
      List.rel_append (returned_literalSegment _ _ _) (.cons ⟨rfl, rfl, rfl, rfl⟩ hsegs)⟩

theorem findSome?_faultAt?_returned (cut : Cut) (n m : Nat) :
    ((cut.returned.pairsFrom m).findSome? faultAt?).map SyntaxError.fault =
      ((cut.pairsFrom n).findSome? faultAt?).map SyntaxError.fault := by
  induction cut generalizing n m with
  | rest text => rfl
  | pair gap p next ih =>
    simp only [Cut.returned, Cut.pairsFrom, List.findSome?_cons, faultAt?, Pair.returned]
    cases Tag.read p.inner with
    | error fault => rfl
    | ok found => exact ih _ _

theorem exists_segments_crlf {s : List Char} (h : '\r' ∉ s) {segs : List Segment}
    (hsegs : segments s = .ok segs) :
    ∃ segs', segments (crlf s) = .ok segs' ∧ List.Forall₂ Segment.Returned segs segs' := by
  obtain ⟨segs', hreading, hall⟩ := (reading_of_segments hsegs).returned (by simpa using h)
  rw [crlf_nil, ← Cut.ofText_crlf] at hreading
  exact ⟨segs', segments_eq_ok_iff.mpr hreading, hall⟩

theorem lexemes_of_returned {segs segs' : List Segment}
    (h : List.Forall₂ Segment.Returned segs segs') :
    segs'.map (·.token.lexeme) = (segs.map (·.token.lexeme)).map (·.reword toCrlf) := by
  induction h with
  | nil => rfl
  | cons h _ ih => simp only [List.map_cons, h.lexeme, ih]

/-- A text says the same whatever its line endings, but for those in its literals. -/
theorem wording_crlf {s : List Char} (h : '\r' ∉ s) :
    wording (crlf s) = (wording s).map (·.map (·.reword toCrlf)) := by
  unfold wording
  cases hsegs : segments s with
  | ok segs =>
    obtain ⟨segs', hsegs', hall⟩ := exists_segments_crlf h hsegs
    rw [hsegs']
    exact congrArg Except.ok (lexemes_of_returned hall)
  | error e =>
    have hfault := findSome?_faultAt?_returned (Cut.ofText s) 0 0
    rw [← Cut.ofText_crlf] at hfault
    have hfirst := segments_eq_error_iff.mp hsegs
    rw [pairs] at hfirst
    rw [hfirst] at hfault
    obtain ⟨e', hfound, hsame⟩ := Option.map_eq_some_iff.mp hfault
    rw [segments_eq_error_iff.mpr hfound]
    exact congrArg Except.error hsame

/-! ### Literals -/

/-- Each carriage return is followed by a line feed. -/
def NoStray (s : String) : Prop :=
  ∀ a b, s.toList = a ++ '\r' :: b → ∃ r, b = '\n' :: r

theorem noStray_toCrlf {s : String} (h : '\r' ∉ s.toList) : NoStray (toCrlf s) := by
  intro a b hab
  rw [toList_toCrlf] at hab
  generalize s.toList = t at h hab
  induction t generalizing a with
  | nil => simp at hab
  | cons c t ih =>
    rw [List.mem_cons, not_or] at h
    by_cases hc : c = '\n'
    · subst hc
      match a with
      | [] => exact ⟨crlf t, (List.cons.inj hab).2.symm⟩
      | [d] => simp at hab
      | d :: e :: a =>
        simp only [crlf_break, List.cons_append, List.cons.injEq] at hab
        exact ih a h.2 hab.2.2
    · rw [crlf_cons hc] at hab
      cases a with
      | nil => exact absurd (List.cons.inj hab).1.symm h.1
      | cons d a => exact ih a h.2 (List.cons.inj hab).2

mutual

theorem Node.literals_reword (f : String → String) (n : Node) :
    (n.reword f).literals = n.literals.map f := by
  match n with
  | .literal text => simp [Node.reword, Node.literals]
  | .variable name => simp [Node.reword, Node.literals]
  | .block kind name body =>
    rw [Node.reword, Node.literals, Node.literals, literalsIn_rewordAll f body]

theorem literalsIn_rewordAll (f : String → String) (ns : List Node) :
    literalsIn (rewordAll f ns) = (literalsIn ns).map f := by
  match ns with
  | [] => rw [rewordAll, literalsIn, List.map_nil]
  | n :: ns =>
    rw [rewordAll, literalsIn, literalsIn, n.literals_reword, literalsIn_rewordAll f ns,
      List.map_append]

end

/-- What a literal shows is part of the text. -/
theorem Reading.mem_of_shows {c : Char} {left : List Char} {cut : Cut} {segs : List Segment}
    (h : Reading left cut segs) (hshows : ∃ s ∈ segs, s.Shows [c]) : c ∈ cut.text := by
  have hne : [c] ≠ [] := nofun
  induction h with
  | rest =>
    rw [shows_literalSegment_iff hne, List.singleton_infix_iff] at hshows
    exact hshows
  | text hread hnext ih => simpa [Cut.text] using ih hshows
  | inline hread hmargin hnext ih =>
    rw [shows_append_tag_iff hne, List.singleton_infix_iff] at hshows
    simp only [Cut.text, List.mem_append]
    exact hshows.elim (fun h => .inl (.inl h)) fun h => .inr (ih h)
  | alone hread hblock hmargin hnext ih =>
    rw [shows_append_tag_iff hne, List.singleton_infix_iff] at hshows
    simp only [Cut.text, Cut.text_prepend, List.mem_append]
    exact hshows.elim (fun h => .inl (.inl (.inl h))) fun h => .inr (.inr (ih h))

theorem not_mem_literals {text : String} {nodes : List Node} (h : parse text = .ok nodes)
    {c : Char} (hc : c ∉ text.toList) : ∀ s ∈ literalsIn nodes, c ∉ s.toList := by
  intro s hs hmem
  obtain ⟨tokens, htokens, hlex⟩ := exists_tokens_of_parse h
  obtain ⟨segs, hsegs, rfl⟩ := exists_of_map_eq_ok htokens
  have hmemlex := mem_lexemesOf_of_literalsIn nodes hs
  rw [hlex, List.map_map] at hmemlex
  obtain ⟨seg, hseg, hliteral⟩ := List.mem_map.mp hmemlex
  have hmemtext := (reading_of_segments hsegs).mem_of_shows
    ⟨seg, hseg, s, hliteral, (List.singleton_infix_iff _ _).mpr hmem⟩
  exact hc (by simpa using hmemtext)

/-- A text without carriage returns and the same text with line feeds made carriage returns and line
feeds are both refused, for the same fault, or have the same tree but for the line endings in its
literals. The segments are the same with whole line endings in them and in the margins, and no
literal has a carriage return without its line feed. -/
theorem parse_crlf {text : String} (h : '\r' ∉ text.toList) :
    unplaced (parse (toCrlf text)) = unplaced ((parse text).map (rewordAll toCrlf)) ∧
      (∀ segs, segments text.toList = .ok segs →
        ∃ segs', segments (toCrlf text).toList = .ok segs' ∧
          List.Forall₂ Segment.Returned segs segs') ∧
      ∀ nodes, parse (toCrlf text) = .ok nodes → ∀ s ∈ literalsIn nodes, NoStray s := by
  have htree : unplaced (parse (toCrlf text)) = unplaced ((parse text).map (rewordAll toCrlf)) :=
    unplaced_parse (by rw [toList_toCrlf, wording_crlf h])
  refine ⟨htree, ?_, ?_⟩
  · intro segs hsegs
    rw [toList_toCrlf]
    exact exists_segments_crlf h hsegs
  · intro nodes hnodes s hs
    rw [hnodes] at htree
    cases hparse : parse text with
    | error e =>
      rw [hparse] at htree
      cases htree
    | ok was =>
      rw [hparse] at htree
      obtain rfl : nodes = rewordAll toCrlf was := Except.ok.inj htree
      rw [literalsIn_rewordAll] at hs
      obtain ⟨t, ht, rfl⟩ := List.mem_map.mp hs
      exact noStray_toCrlf (not_mem_literals hparse h t ht)

/-- A block tag with a line to itself, one beside other text, and a tag over two lines. -/
theorem parse_crlf_lines :
    let text := "a\n  \x7b\x7b#if x\x7d\x7d\nb\n\x7b\x7b\n y \x7d\x7d\n" ++
      "\x7b\x7b/if\x7d\x7d c\n"
    '\r' ∉ text.toList ∧
      unplaced (parse (toCrlf text)) = unplaced ((parse text).map (rewordAll toCrlf)) ∧
      (∀ segs, segments text.toList = .ok segs →
        ∃ segs', segments (toCrlf text).toList = .ok segs' ∧
          List.Forall₂ Segment.Returned segs segs') ∧
      ∀ nodes, parse (toCrlf text) = .ok nodes → ∀ s ∈ literalsIn nodes, NoStray s := by
  intro text
  have h : '\r' ∉ text.toList := by decide
  exact ⟨h, parse_crlf h⟩

end Promptsmith.Template
