import Mathlib
import Promptsmith.Proofs.Template.Prefix
import Promptsmith.Proofs.Template.Directives
import Promptsmith.Proofs.Template.Rewording

/-!
# White space inside tags

Any white space may be added beside what a tag holds, line breaks included. The pair of the tag is
still read where it stands, and an opening brace before it that failed still fails: the pair it
would open has a line break in it, and has one all the more with white space added. So the text is
cut at the same places, and its tokens say the same.
-/
namespace Promptsmith.Template

open Promptsmith.Text

/-! ### What a tag holds -/

theorem mem_or_isBlank_of_trimEnd {s : List Char} {c : Char} (h : c ∈ s) :
    c ∈ trimEnd s ∨ isBlank c := by
  have hsplit := dropEndWhile_append_endWhile isBlank s
  rw [← hsplit] at h
  rcases List.mem_append.mp h with h | h
  · exact Or.inl h
  · rw [endWhile_eq_rtakeWhile] at h
    exact Or.inr (List.mem_rtakeWhile_imp h)

/-- Trimming takes off white space alone. -/
theorem mem_or_isBlank_of_trim {s : List Char} {c : Char} (h : c ∈ s) :
    c ∈ trim s ∨ isBlank c := by
  rw [← List.takeWhile_append_dropWhile (p := isBlank) (l := s)] at h
  rcases List.mem_append.mp h with h | h
  · exact Or.inr (all_takeWhile isBlank s c h)
  · exact mem_or_isBlank_of_trimEnd h

theorem brace_not_mem_directive {inner word argument : List Char} {sigil : Sigil}
    (h : Directive inner sigil word argument) (hargument : '}' ∉ argument) : '}' ∉ inner := by
  obtain ⟨-, hword, -⟩ := h
  intro hmem
  rcases List.mem_cons.mp hmem with hsigil | hmem
  · cases sigil <;> exact absurd hsigil (by decide)
  · rcases List.mem_append.mp hmem with hmem | hmem
    · exact absurd (hword _ hmem) (by decide)
    · rcases mem_or_isBlank_of_trim hmem with hmem | hblank
      · exact hargument hmem
      · exact absurd hblank (by decide)

theorem brace_not_mem_name {name : List Char} (h : isName name) : '}' ∉ name := fun hmem =>
  (plain_of_isNameChar (isNameChar_of_mem h _ hmem)).1 rfl

/-- No closing brace is read as part of a tag. -/
theorem brace_not_mem_of_read {inner : List Char} {tag : Tag}
    (h : Tag.read inner = .ok (some tag)) : inner ≠ [] ∧ '}' ∉ inner := by
  unfold Tag.read at h
  dsimp only at h
  split at h
  · split at h
    · next hname => exact ⟨ne_nil_of_isName hname, brace_not_mem_name hname⟩
    · cases h
  · next word argument hdir =>
    have hshape := directive?_eq_some_iff.mp hdir
    obtain ⟨r, hr⟩ := exists_of_directive? hdir
    split at h
    · cases h
    · split at h
      · next hname =>
        exact ⟨by simp [hr], brace_not_mem_directive hshape (brace_not_mem_name hname)⟩
      · cases h
  · next word argument hdir =>
    have hshape := directive?_eq_some_iff.mp hdir
    obtain ⟨r, hr⟩ := exists_of_directive? hdir
    split at h
    · cases h
    · split at h
      · next hempty =>
        rw [List.isEmpty_iff.mp hempty] at hshape
        exact ⟨by simp [hr], brace_not_mem_directive hshape List.not_mem_nil⟩
      · cases h

theorem trimEnd_eq_nil_or_ends (s : List Char) :
    trimEnd s = [] ∨ ∃ r c, trimEnd s = r ++ [c] ∧ isBlank c = false := by
  rw [trimEnd, dropEndWhile_eq_rdropWhile]
  by_cases h : s.rdropWhile isBlank = []
  · exact Or.inl h
  · refine Or.inr ⟨_, _, (List.dropLast_append_getLast h).symm, ?_⟩
    simpa using List.rdropWhile_last_not isBlank s h

theorem exists_cons_of_dropWhile {s t : List Char} (h : t <+: s.dropWhile isBlank) (hne : t ≠ []) :
    ∃ c r, t = c :: r ∧ isBlank c = false := by
  obtain ⟨c, r, rfl⟩ := List.exists_cons_of_ne_nil hne
  obtain ⟨more, hmore⟩ := h
  have hc := List.head?_dropWhile_not isBlank s
  rw [← hmore] at hc
  exact ⟨c, r, rfl, hc⟩

/-- The pair of a tag is what the tag holds with white space beside it, in braces. -/
theorem Pair.exists_held {s after : List Char} {p : Pair} {tag : Tag}
    (h : Pair.read? s = some (p, after)) (hread : Tag.read p.inner = .ok (some tag)) :
    Held p.inner ∧ ∃ front back, (∀ c ∈ front, isBlank c) ∧ (∀ c ∈ back, isBlank c) ∧
      p.source = '{' :: '{' :: (front ++ p.inner ++ back ++ ['}', '}']) := by
  obtain ⟨hne, hbrace⟩ := brace_not_mem_of_read hread
  unfold Pair.read? at h
  split at h
  · next r =>
    unfold Pair.close? at h
    split at h
    · cases h
    · next raw rest hs =>
      dsimp only at h
      split at h
      · cases h
      · next hline =>
        cases h
        dsimp only at hne hbrace ⊢
        refine ⟨⟨?_, ?_, (trimEnd_eq_nil_or_ends raw).resolve_left hne⟩, r.takeWhile isBlank,
          endWhile isBlank raw, all_takeWhile isBlank r, ?_, ?_⟩
        · intro c hc
          exact ⟨fun heq => hbrace (heq ▸ hc), fun heq => hline (heq ▸ hc)⟩
        · have hraw : raw <+: r.dropWhile isBlank := ⟨_, (eq_of_splitAtClosing hs).symm⟩
          have htrim := dropEndWhile_prefix isBlank raw
          exact exists_cons_of_dropWhile (htrim.trans hraw) hne
        · intro c hc
          rw [endWhile_eq_rtakeWhile] at hc
          exact List.mem_rtakeWhile_imp hc
        · have hsplit := dropEndWhile_append_endWhile isBlank raw
          simp only [trimEnd, List.append_assoc, List.cons_append]
          rw [← List.append_assoc (dropEndWhile isBlank raw), hsplit]
  · cases h

/-! ### Pairs in place of others -/

/-- The closing braces of a text end each pair that it starts, so what follows is not looked at. -/
theorem Pair.read?_append_closing {s : List Char} (hs : 2 ≤ s.length) (t : List Char) :
    Pair.read? (s ++ ['}', '}'] ++ t) =
      (Pair.read? (s ++ ['}', '}'])).map fun (p, after) => (p, after ++ t) := by
  obtain ⟨c, d, r, rfl⟩ : ∃ c d r, s = c :: d :: r := by
    match s with
    | [] => simp at hs
    | [c] => simp at hs
    | c :: d :: r => exact ⟨c, d, r, rfl⟩
  by_cases hopen : c = '{' ∧ d = '{'
  · obtain ⟨rfl, rfl⟩ := hopen
    exact Pair.close?_append ⟨r, [], by simp⟩ t
  · simp [Pair.read?_eq_none_of_ne hopen]

theorem splitAtClosing_append_of_none {s : List Char} (h : splitAtClosing s = none) {c : Char}
    (hc : c ≠ '}') (r : List Char) :
    splitAtClosing (s ++ c :: r) =
      (splitAtClosing (c :: r)).map fun (before, after) => (s ++ before, after) := by
  fun_induction splitAtClosing s with
  | case1 => simp
  | case2 r => cases h
  | case3 d s hd ih =>
    have hclosing : ∀ q, d = '}' → s ++ c :: r ≠ '}' :: q := by
      intro q hbrace hq
      cases s with
      | nil => exact hc (List.cons.inj hq).1
      | cons e s =>
        obtain ⟨rfl, -⟩ := List.cons.inj hq
        exact hd s hbrace rfl
    rw [List.cons_append, splitAtClosing, ih (Option.map_eq_none_iff.mp h), Option.map_map]
    · rfl
    · exact hclosing

theorem dropWhile_append_cons {p : Char → Bool} {c : Char} (hc : p c = false) (s r : List Char) :
    (s ++ c :: r).dropWhile p = s.dropWhile p ++ c :: r := by
  rw [List.dropWhile_append]
  split
  · next hnil => simp [List.isEmpty_iff.mp hnil, hc]
  · rfl

theorem Held.brace_not_mem {inner front back : List Char} (h : Held inner)
    (hfront : ∀ c ∈ front, isBlank c) (hback : ∀ c ∈ back, isBlank c) :
    '}' ∉ front ++ inner ++ back := by
  intro hmem
  rcases List.mem_append.mp hmem with hmem | hmem
  · rcases List.mem_append.mp hmem with hmem | hmem
    · exact absurd (hfront _ hmem) (by decide)
    · exact (h.plain _ hmem).1 rfl
  · exact absurd (hback _ hmem) (by decide)

/-- An opening brace pair before a tag fails for a line break that stands before the tag or in the
white space at its start. -/
theorem Pair.close?_brace_eq_none_iff {inner front back : List Char} (h : Held inner)
    (hfront : ∀ c ∈ front, isBlank c) (hback : ∀ c ∈ back, isBlank c) (f t : List Char) :
    Pair.close? (f ++ '{' :: (front ++ inner ++ back ++ ['}', '}']) ++ t) = none ↔
      match splitAtClosing (f.dropWhile isBlank) with
      | some (raw, _) => '\n' ∈ trimEnd raw
      | none => '\n' ∈ f.dropWhile isBlank ∨ '\n' ∈ front := by
  have hdrop : (f ++ '{' :: (front ++ inner ++ back ++ ['}', '}']) ++ t).dropWhile isBlank =
      f.dropWhile isBlank ++ '{' :: (front ++ inner ++ back ++ ['}', '}'] ++ t) := by
    rw [List.append_assoc, List.cons_append, dropWhile_append_cons (by decide)]
  unfold Pair.close?
  rw [hdrop]
  cases hsplit : splitAtClosing (f.dropWhile isBlank) with
  | some found =>
    obtain ⟨raw, after⟩ := found
    rw [splitAtClosing_append_of_some hsplit]
    simp
  | none =>
    have hbraceless : '}' ∉ '{' :: (front ++ inner ++ back) := by
      simpa using h.brace_not_mem hfront hback
    have hbody : '{' :: (front ++ inner ++ back ++ ['}', '}'] ++ t) =
        '{' :: (front ++ inner ++ back) ++ '}' :: '}' :: t := by simp
    have hends : ∃ r c, f.dropWhile isBlank ++ '{' :: (front ++ inner) = r ++ [c] ∧
        isBlank c = false := by
      obtain ⟨r, c, hinner, hc⟩ := h.ends
      exact ⟨f.dropWhile isBlank ++ '{' :: (front ++ r), c, by simp [hinner], hc⟩
    have htrim := trimEnd_append hends hback
    have hline : '\n' ∉ inner := fun hmem => (h.plain _ hmem).2 rfl
    rw [splitAtClosing_append_of_none hsplit (by decide), hbody, splitAtClosing_closing hbraceless]
    simp only [Option.map_some, List.append_assoc, List.cons_append] at htrim ⊢
    rw [htrim]
    simp [hline, or_iff_not_imp_left]

/-- What stands in braces, with the braces. -/
def braced (inside : List Char) : List Char :=
  '{' :: '{' :: (inside ++ ['}', '}'])

/-- With white space added to a tag, no pair is opened before it that was not. -/
theorem Pair.read?_padded_eq_none {inner front back more less : List Char} (h : Held inner)
    (hfront : ∀ c ∈ front, isBlank c) (hback : ∀ c ∈ back, isBlank c)
    (hmore : ∀ c ∈ more, isBlank c) (hless : ∀ c ∈ less, isBlank c) {c : Char}
    {f t : List Char} (hnone : Pair.read? (c :: f ++ braced (front ++ inner ++ back) ++ t) = none)
    (u : List Char) :
    Pair.read? (c :: f ++ braced (more ++ front ++ inner ++ back ++ less) ++ u) = none := by
  -- The two braces that would open it may take in the first brace of the tag.
  obtain ⟨d, g, hg⟩ : ∃ d g, f ++ ['{', '{'] = d :: (g ++ ['{']) := by
    cases f with
    | nil => exact ⟨'{', [], rfl⟩
    | cons d f => exact ⟨d, f ++ ['{'], by simp⟩
  have hbraced : ∀ inside rest, c :: f ++ braced inside ++ rest =
      c :: d :: (g ++ '{' :: (inside ++ ['}', '}']) ++ rest) := by
    intro inside rest
    have happend := congrArg (· ++ (inside ++ ['}', '}'] ++ rest)) hg
    simpa [braced] using happend
  rw [hbraced] at hnone ⊢
  by_cases hopen : c = '{' ∧ d = '{'
  · obtain ⟨rfl, rfl⟩ := hopen
    rw [Pair.read?] at hnone ⊢
    have hstart : ∀ c ∈ more ++ front, isBlank c :=
      List.forall_mem_append.mpr ⟨hmore, hfront⟩
    have hend : ∀ c ∈ back ++ less, isBlank c :=
      List.forall_mem_append.mpr ⟨hback, hless⟩
    have hwas := (Pair.close?_brace_eq_none_iff h hfront hback g t).mp hnone
    have his := (Pair.close?_brace_eq_none_iff h hstart hend g u).mpr
    rw [← List.append_assoc] at his
    refine his ?_
    split at hwas
    · exact hwas
    · exact hwas.imp_right (List.mem_append_right more)
  · exact Pair.read?_eq_none_of_ne hopen _

/-- A pair that may stand in the place of another: it is read there, it holds the same, and before
it no pair is opened that was not. -/
structure Pair.Yields (p q : Pair) : Prop where
  reads : ∀ rest, Pair.read? (q.source ++ rest) = some (q, rest)
  inner : q.inner = p.inner
  hides : ∀ c f t u, Pair.read? (c :: f ++ p.source ++ t) = none →
    Pair.read? (c :: f ++ q.source ++ u) = none
  text : Tag.read p.inner = .ok none → q = p

theorem Pair.yields_self {p : Pair} {after : List Char}
    (h : Pair.read? (p.source ++ after) = some (p, after)) : p.Yields p := by
  obtain ⟨mid, hmid⟩ := Pair.exists_source h
  refine ⟨?_, rfl, ?_, fun _ => rfl⟩
  · intro rest
    have hall := Pair.read?_append_closing (s := '{' :: '{' :: mid) (by simp)
    rw [← hmid] at hall
    rw [hall] at h ⊢
    obtain ⟨⟨found, more⟩, hfound, heq⟩ := Option.map_eq_some_iff.mp h
    obtain ⟨rfl, hmore⟩ := Prod.mk.inj heq
    obtain rfl : more = [] := by simpa using hmore
    rw [hfound]
    rfl
  · intro c f t u hnone
    have hlength : 2 ≤ (c :: f ++ '{' :: '{' :: mid).length := by
      simp only [List.length_append, List.length_cons]
      omega
    have hall := Pair.read?_append_closing hlength
    have hsource : c :: f ++ p.source = c :: f ++ '{' :: '{' :: mid ++ ['}', '}'] := by simp [hmid]
    rw [hsource, hall] at hnone ⊢
    rw [Option.map_eq_none_iff.mp hnone]
    rfl

/-- White space may be added to a tag. -/
theorem Pair.yields_padded {s after : List Char} {p : Pair} {tag : Tag}
    (h : Pair.read? s = some (p, after)) (hread : Tag.read p.inner = .ok (some tag)) :
    ∃ inside, p.source = braced inside ∧ '}' ∉ inside ∧
      ∀ more less, (∀ c ∈ more, isBlank c) → (∀ c ∈ less, isBlank c) →
        p.Yields ⟨braced (more ++ inside ++ less), p.inner⟩ := by
  obtain ⟨hheld, front, back, hfront, hback, hsource⟩ := Pair.exists_held h hread
  refine ⟨front ++ p.inner ++ back, hsource, hheld.brace_not_mem hfront hback, ?_⟩
  intro more less hmore hless
  refine ⟨?_, rfl, ?_, ?_⟩
  · have hstart : ∀ c ∈ more ++ front, isBlank c :=
      List.forall_mem_append.mpr ⟨hmore, hfront⟩
    have hend : ∀ c ∈ back ++ less, isBlank c :=
      List.forall_mem_append.mpr ⟨hback, hless⟩
    simpa [braced] using hheld.read? hstart hend
  · intro c f t u hnone
    rw [hsource] at hnone
    simpa using Pair.read?_padded_eq_none hheld hfront hback hmore hless hnone u
  · intro htext
    rw [hread] at htext
    cases htext

/-! ### Cuts in step -/

/-- Cuts with the same gaps, where each pair of the one may stand in the place of the other's. -/
inductive Cut.Yields : Cut → Cut → Prop
  | rest (text : List Char) : Yields (.rest text) (.rest text)
  | pair (gap : List Char) {p q : Pair} {next next' : Cut} (h : p.Yields q)
      (hnext : Yields next next') : Yields (.pair gap p next) (.pair gap q next')

theorem Cut.yields_self {cut : Cut} (h : cut.Sound) : cut.Yields cut := by
  induction cut with
  | rest text => exact .rest text
  | pair gap p next ih => exact .pair gap (Pair.yields_self h.1) (ih h.2)

theorem Cut.Yields.lead {cut cut' : Cut} (h : cut.Yields cut') : cut'.lead = cut.lead := by
  cases h <;> rfl

theorem Cut.Yields.isLast {cut cut' : Cut} (h : cut.Yields cut') : cut'.isLast = cut.isLast := by
  cases h <;> rfl

theorem Cut.Yields.sound {cut cut' : Cut} (h : cut.Yields cut') : cut'.Sound := by
  induction h with
  | rest text => trivial
  | pair gap h hnext ih => exact ⟨h.reads _, ih⟩

theorem Cut.Yields.leftmost {cut cut' : Cut} (h : cut.Yields cut') (hl : cut.Leftmost) :
    cut'.Leftmost := by
  induction h with
  | rest text => exact hl
  | @pair gap p q next next' h hnext ih =>
    refine ⟨?_, ih hl.2⟩
    intro a b hab hlt
    have hle : a.length ≤ gap.length := Nat.le_of_lt hlt
    rw [Cut.text, List.append_assoc] at hab
    obtain ⟨x, rfl, rfl⟩ := exists_of_append_eq hab.symm hle
    cases x with
    | nil => simp [Cut.lead] at hlt
    | cons c f =>
      have hnone := hl.1 a (c :: f ++ (p.source ++ next.text)) (by simp [Cut.text]) hlt
      rw [← List.append_assoc] at hnone ⊢
      exact h.hides c f _ _ hnone

/-- A text has one cut at its leftmost pairs. -/
theorem Cut.ofText_text {cut : Cut} (hs : cut.Sound) (hl : cut.Leftmost) :
    Cut.ofText cut.text = cut := by
  induction cut with
  | rest text =>
    have hgap := @Cut.ofText_gap text []
      fun a b hab hlt => hl a b (by simpa [Cut.text] using hab) hlt
    simpa [Cut.text, Cut.prepend] using hgap
  | pair gap p next ih =>
    have hgap := @Cut.ofText_gap gap (p.source ++ next.text)
      fun a b hab hlt => hl.1 a b (by simpa [Cut.text] using hab) hlt
    rw [Cut.ofText_of_read? hs.1, ih hs.2 hl.2] at hgap
    simpa [Cut.text, Cut.prepend] using hgap

theorem margin?_of_yields {next next' : Cut} (h : next.Yields next') (fresh : Bool)
    (before : List Char) : margin? fresh before next' = margin? fresh before next := by
  rw [margin?, margin?, h.lead, h.isLast]

/-- Cuts in step say the same. -/
theorem Cut.Yields.worded {cut cut' : Cut} (h : cut.Yields cut') (n n' : Nat) (fresh : Bool)
    (before : List Char) (skip : Nat) :
    worded (segmentsFrom n' fresh before skip cut') =
      worded (segmentsFrom n fresh before skip cut) := by
  induction h generalizing n n' fresh before skip with
  | rest text => rw [segmentsFrom, segmentsFrom, worded_literal, worded_literal]
  | @pair gap p q next next' h hnext ih =>
    simp only [segmentsFrom, h.inner, margin?_of_yields hnext]
    cases hread : Tag.read p.inner with
    | error fault => rfl
    | ok found =>
      cases found with
      | none =>
        obtain rfl := h.text hread
        exact ih _ _ _ _ _
      | some tag =>
        cases hmargin : if tag.isBlock then margin? fresh (before ++ gap.drop skip) next
            else none with
        | none =>
          simp only [hmargin, worded_map_tag]
          rw [ih]
        | some margin =>
          simp only [hmargin, worded_map_tag]
          rw [ih]

/-- Each pair of a cut stands in its text, and others may stand in its place. -/
theorem Cut.exists_yields {cut : Cut} (hs : cut.Sound) {start n : Nat} {p : Pair}
    (h : (n, p) ∈ cut.pairsFrom start) :
    ∃ left right, cut.text = left ++ p.source ++ right ∧ n = start + left.length ∧
      Pair.read? (p.source ++ right) = some (p, right) ∧
      ∀ q, p.Yields q → ∃ cut', cut.Yields cut' ∧ cut'.text = left ++ q.source ++ right := by
  induction cut generalizing start with
  | rest text => cases h
  | pair gap r next ih =>
    rcases List.mem_cons.mp h with heq | h
    · obtain ⟨rfl, rfl⟩ := Prod.mk.inj heq
      refine ⟨gap, next.text, rfl, rfl, hs.1, ?_⟩
      intro q hq
      exact ⟨.pair gap q next, .pair gap hq (Cut.yields_self hs.2), rfl⟩
    · obtain ⟨left, right, htext, hn, hread, hyields⟩ := ih hs.2 h
      refine ⟨gap ++ r.source ++ left, right, ?_, ?_, hread, ?_⟩
      · simp [Cut.text, htext]
      · simp only [List.length_append]
        omega
      · intro q hq
        obtain ⟨next', hnext, htext'⟩ := hyields q hq
        exact ⟨.pair gap r next', .pair gap (Pair.yields_self hs.1) hnext,
          by simp [Cut.text, htext']⟩

/-! ### Tokens -/

/-- The tag of a token is that of a pair at its offset. -/
theorem exists_pair_of_token {text : String} {tokens : List Token}
    (h : tokenize text = .ok tokens) {token : Token} (htoken : token ∈ tokens) {tag : Tag}
    (htag : token.lexeme = .tag tag) :
    ∃ p, (token.position, p) ∈ pairs text.toList ∧ Tag.read p.inner = .ok (some tag) := by
  obtain ⟨segs, hsegs, rfl⟩ := exists_of_map_eq_ok h
  obtain ⟨s, hs, rfl⟩ := List.mem_map.mp htoken
  have hmem : (s.token.position, tag) ∈ segs.filterMap (·.token.tag?) :=
    List.mem_filterMap.mpr ⟨s, hs, Token.tag?_of_lexeme htag⟩
  rw [(tiling_of_segments hsegs).tags] at hmem
  obtain ⟨⟨n, p⟩, he, hat⟩ := List.mem_filterMap.mp hmem
  obtain rfl := fst_of_tagAt? hat
  exact ⟨p, he, read_of_tagAt? hat⟩

/-- White space alone. -/
def IsBlank (s : String) : Prop :=
  ∀ c ∈ s.toList, isBlank c

instance (s : String) : Decidable (IsBlank s) :=
  decidable_of_iff (s.toList.all isBlank = true) List.all_eq_true

/-- A text with what stands inside the braces that open at an offset. -/
structure BracesAt (text : String) (n : Nat) (left inside right : String) : Prop where
  text : text = left ++ "\x7b\x7b" ++ inside ++ "\x7d\x7d" ++ right
  offset : left.length = n
  first : '}' ∉ inside.toList

theorem tokenize_eq_ok_of_wording {text text' : String} {tokens : List Token}
    (h : tokenize text = .ok tokens) (hword : wording text'.toList = wording text.toList) :
    ∃ tokens', tokenize text' = .ok tokens' ∧
      tokens'.map Token.lexeme = tokens.map Token.lexeme := by
  obtain ⟨segs, hsegs, rfl⟩ := exists_of_map_eq_ok h
  unfold wording at hword
  rw [hsegs] at hword
  cases hsegs' : segments text'.toList with
  | error e =>
    rw [hsegs'] at hword
    cases hword
  | ok segs' =>
    rw [hsegs'] at hword
    refine ⟨segs'.map Segment.token, by rw [tokenize, hsegs']; rfl, ?_⟩
    rw [List.map_map, List.map_map]
    exact Except.ok.inj hword

/-- White space added to a tag, at its start or at its end, changes no token but for its place, and
the tree not at all. -/
theorem tokenize_padded {text : String} {tokens : List Token} (h : tokenize text = .ok tokens)
    {token : Token} (htoken : token ∈ tokens) {tag : Tag} (htag : token.lexeme = .tag tag) :
    ∃ left inside right, BracesAt text token.position left inside right ∧
      ∀ front back, IsBlank front → IsBlank back →
        let padded := left ++ "\x7b\x7b" ++ front ++ inside ++ back ++ "\x7d\x7d" ++ right
        (∃ tokens', tokenize padded = .ok tokens' ∧
          tokens'.map Token.lexeme = tokens.map Token.lexeme) ∧
        unplaced (parse padded) = unplaced (parse text) := by
  obtain ⟨p, hp, hread⟩ := exists_pair_of_token h htoken htag
  obtain ⟨left, right, htext, hn, hpair, hyields⟩ :=
    Cut.exists_yields (Cut.sound_ofText text.toList) hp
  obtain ⟨inside, hsource, hfirst, hpadded⟩ := Pair.yields_padded hpair hread
  rw [Cut.text_ofText, hsource] at htext
  refine ⟨String.ofList left, String.ofList inside, String.ofList right, ⟨?_, ?_, ?_⟩, ?_⟩
  · refine String.toList_inj.mp ?_
    simpa [braced] using htext
  · simpa using hn.symm
  · simpa using hfirst
  · intro front back hfront hback padded
    obtain ⟨cut, hcut, hcuttext⟩ := hyields _ (hpadded front.toList back.toList hfront hback)
    have hwhole : padded.toList = cut.text := by
      rw [hcuttext]
      simp [padded, braced]
    have hword : wording padded.toList = wording text.toList := by
      rw [hwhole, wording, segments,
        Cut.ofText_text hcut.sound (hcut.leftmost (Cut.leftmost_ofText text.toList))]
      exact hcut.worded 0 0 true [] 0
    exact ⟨tokenize_eq_ok_of_wording h hword, unplaced_parse_eq hword⟩

/-- The line break that the padding adds stands after two braces that open nothing. -/
theorem tokenize_padded_break :
    let text := "\x7b\x7b a\n\x7b\x7bx\x7d\x7d \x7b\x7b#if y\x7d\x7d.\x7b\x7b/if\x7d\x7d"
    let tokens : List Token := [⟨.literal "\x7b\x7b a\n", 0⟩, ⟨.tag (.variable "x"), 5⟩,
      ⟨.literal " ", 10⟩, ⟨.tag (.opening .when "y"), 11⟩, ⟨.literal ".", 20⟩,
      ⟨.tag (.closing .when), 21⟩]
    let token : Token := ⟨.tag (.variable "x"), 5⟩
    tokenize text = .ok tokens ∧ token ∈ tokens ∧ token.lexeme = .tag (.variable "x") ∧
      ∃ left inside right, BracesAt text token.position left inside right ∧
        ∀ front back, IsBlank front → IsBlank back →
          let padded := left ++ "\x7b\x7b" ++ front ++ inside ++ back ++ "\x7d\x7d" ++ right
          (∃ tokens', tokenize padded = .ok tokens' ∧
            tokens'.map Token.lexeme = tokens.map Token.lexeme) ∧
          unplaced (parse padded) = unplaced (parse text) := by
  intro text tokens token
  have htokens : tokenize text = .ok tokens := by cbv
  have hmem : token ∈ tokens := by simp [tokens, token]
  exact ⟨htokens, hmem, rfl, tokenize_padded htokens hmem rfl⟩

end Promptsmith.Template
