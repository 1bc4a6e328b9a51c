import Mathlib.Data.List.DropRight
import Promptsmith.Template.Segment

/-!
# Margins

Whether a block tag stands alone on its line depends only on the whole text before it and the whole
text after it. The cutter of segments looks at less than that, and this loses nothing.
-/
namespace Promptsmith.Template

open Promptsmith.Text

theorem dropEndWhile_eq_rdropWhile (p : Char → Bool) (s : List Char) :
    dropEndWhile p s = s.rdropWhile p := by
  induction s with
  | nil => simp
  | cons c r ih =>
    rw [dropEndWhile, ih]
    simp only [List.rdropWhile, List.reverse_cons, List.dropWhile_append]
    cases h : r.reverse.dropWhile p with
    | nil => by_cases hc : p c <;> simp [hc]
    | cons d t =>
      obtain ⟨a, b, hab⟩ := List.exists_cons_of_ne_nil (l := (d :: t).reverse) (by simp)
      simp only [hab, List.isEmpty_cons, Bool.false_eq_true, if_false, List.reverse_append,
        List.reverse_cons, List.reverse_nil, List.nil_append, List.singleton_append]

theorem endWhile_eq_rtakeWhile (p : Char → Bool) (s : List Char) :
    endWhile p s = s.rtakeWhile p := by
  have h := dropEndWhile_append_endWhile p s
  rw [dropEndWhile_eq_rdropWhile] at h
  exact List.append_cancel_left (h.trans List.rdropWhile_append_rtakeWhile.symm)

/-- A text after which a new line starts. -/
def EndsLine (s : List Char) : Prop :=
  s = [] ∨ ∃ r, s = r ++ ['\n']

theorem EndsLine.append {s t : List Char} (hs : EndsLine s) (ht : EndsLine t) :
    EndsLine (s ++ t) := by
  rcases ht with rfl | ⟨r, rfl⟩
  · simpa using hs
  · exact Or.inr ⟨s ++ r, by simp⟩

theorem exists_append_lastLine (s : List Char) :
    ∃ lines, s = lines ++ lastLine s ∧ EndsLine lines ∧ '\n' ∉ lastLine s := by
  refine ⟨s.rdropWhile (· ≠ '\n'), ?_, ?_, ?_⟩
  · rw [lastLine, endWhile_eq_rtakeWhile, List.rdropWhile_append_rtakeWhile]
  · by_cases h : s.rdropWhile (· ≠ '\n') = []
    · exact Or.inl h
    · have hlast := List.rdropWhile_last_not (· ≠ '\n') s h
      have heq := List.dropLast_append_getLast h
      rw [show (s.rdropWhile (· ≠ '\n')).getLast h = '\n' by simpa using hlast] at heq
      exact Or.inr ⟨_, heq.symm⟩
  · rw [lastLine, endWhile_eq_rtakeWhile]
    intro h
    simpa using List.mem_rtakeWhile_imp h

theorem lastLine_append {lines line : List Char} (hlines : EndsLine lines) (hline : '\n' ∉ line) :
    lastLine (lines ++ line) = line := by
  have hall : ∀ c ∈ line.reverse, decide (c ≠ '\n') = true := by
    intro c hc
    have hne : c ≠ '\n' := by
      rintro rfl
      exact hline (List.mem_reverse.mp hc)
    exact decide_eq_true hne
  rw [lastLine, endWhile_eq_rtakeWhile, List.rtakeWhile, List.reverse_append,
    List.takeWhile_append_of_pos hall]
  rcases hlines with rfl | ⟨r, rfl⟩ <;> simp

/-- Spaces and tabs up to the end of the line, with the break that ends it if there is one. -/
inductive LineEnd : List Char → List Char → Prop
  | lf (blanks rest : List Char) (h : ∀ c ∈ blanks, isIndent c) :
      LineEnd (blanks ++ '\n' :: rest) (blanks ++ ['\n'])
  | crlf (blanks rest : List Char) (h : ∀ c ∈ blanks, isIndent c) :
      LineEnd (blanks ++ '\r' :: '\n' :: rest) (blanks ++ ['\r', '\n'])
  | last (blanks : List Char) (h : ∀ c ∈ blanks, isIndent c) : LineEnd blanks blanks

theorem LineEnd.exists_append {after tail : List Char} (h : LineEnd after tail) :
    ∃ rest, after = tail ++ rest := by
  cases h with
  | lf blanks rest h => exact ⟨rest, by simp⟩
  | crlf blanks rest h => exact ⟨rest, by simp⟩
  | last => exact ⟨[], by simp⟩

/-- A new line starts after the tail, unless nothing but blanks is left of the text. -/
theorem LineEnd.endsLine {after tail : List Char} (h : LineEnd after tail) :
    (∃ r, tail = r ++ ['\n']) ∨ after = tail ∧ ∀ c ∈ after, isIndent c := by
  cases h with
  | lf blanks rest h => exact Or.inl ⟨blanks, rfl⟩
  | crlf blanks rest h => exact Or.inl ⟨blanks ++ ['\r'], by simp⟩
  | last _ h => exact Or.inr ⟨rfl, h⟩

theorem all_takeWhile (p : Char → Bool) (s : List Char) : ∀ c ∈ s.takeWhile p, p c := by
  intro c hc
  exact List.mem_takeWhile_imp hc

theorem span_append {p : Char → Bool} {blanks : List Char} (h : ∀ c ∈ blanks, p c)
    {c : Char} (hc : p c = false) (rest : List Char) :
    (blanks ++ c :: rest).takeWhile p = blanks ∧ (blanks ++ c :: rest).dropWhile p = c :: rest := by
  rw [List.takeWhile_append_of_pos h, List.dropWhile_append_of_pos h]
  simp [hc]

theorem lineEnd?_eq_some_iff {after tail : List Char} :
    lineEnd? after true = some tail ↔ LineEnd after tail := by
  have hblank : ∀ c ∈ after.takeWhile isIndent, isIndent c := all_takeWhile isIndent after
  have hsplit : after.takeWhile isIndent ++ after.dropWhile isIndent = after :=
    List.takeWhile_append_dropWhile
  constructor
  · intro h
    rw [lineEnd?] at h
    split at h
    · next rest heq =>
      cases h
      rw [heq] at hsplit
      have hl := LineEnd.lf _ rest hblank
      rwa [hsplit] at hl
    · next rest heq =>
      cases h
      rw [heq] at hsplit
      have hl := LineEnd.crlf _ rest hblank
      rwa [hsplit] at hl
    · next heq =>
      cases h
      rw [heq, List.append_nil] at hsplit
      have hl := LineEnd.last _ hblank
      rwa [hsplit] at hl ⊢
    · simp at h
  · intro h
    cases h with
    | lf blanks rest h =>
      obtain ⟨ht, hd⟩ := span_append h (c := '\n') (by decide) rest
      simp [lineEnd?, ht, hd]
    | crlf blanks rest h =>
      obtain ⟨ht, hd⟩ := span_append h (c := '\r') (by decide) ('\n' :: rest)
      simp [lineEnd?, ht, hd]
    | last _ h =>
      have ht : after.takeWhile isIndent = after := List.takeWhile_eq_self_iff.mpr h
      have hd : after.dropWhile isIndent = [] := List.dropWhile_eq_nil_iff.mpr h
      simp [lineEnd?, ht, hd]

/-- Every text is its blanks alone, or goes on with a character that is none. -/
theorem exists_blanks (s : List Char) :
    (∀ c ∈ s, isIndent c) ∨
      ∃ blanks c rest, s = blanks ++ c :: rest ∧ (∀ c ∈ blanks, isIndent c) ∧
        isIndent c = false := by
  cases hd : s.dropWhile isIndent with
  | nil => exact Or.inl (List.dropWhile_eq_nil_iff.mp hd)
  | cons c rest =>
    have hc := List.head?_dropWhile_not isIndent s
    have hsplit := List.takeWhile_append_dropWhile (p := isIndent) (l := s)
    rw [hd] at hc hsplit
    exact Or.inr ⟨_, c, rest, hsplit.symm, all_takeWhile isIndent s, hc⟩

/-- A brace does not end a line. -/
theorem lineEnd?_append_brace (lead rest : List Char) :
    lineEnd? (lead ++ '{' :: rest) true = lineEnd? lead false := by
  rcases exists_blanks lead with h | ⟨blanks, c, r, rfl, h, hc⟩
  · obtain ⟨ht, hd⟩ := span_append h (c := '{') (by decide) rest
    have hd' : lead.dropWhile isIndent = [] := List.dropWhile_eq_nil_iff.mpr h
    simp [lineEnd?, hd, hd']
  · obtain ⟨ht, hd⟩ := span_append h hc r
    obtain ⟨ht', hd'⟩ := span_append h hc (r ++ '{' :: rest)
    simp only [lineEnd?, List.append_assoc, List.cons_append, ht, hd, ht', hd']
    by_cases hlf : c = '\n'
    · subst hlf
      rfl
    · by_cases hcr : c = '\r'
      · subst hcr
        cases r with
        | nil => simp
        | cons d r => by_cases hdlf : d = '\n' <;> simp [hdlf]
      · simp [hlf, hcr]

/-- What stands between a line's start and its end belongs to a tag that is alone there: its
indentation and its tail. -/
structure Alone (before after indent tail : List Char) : Prop where
  starts : ∃ lines, before = lines ++ indent ∧ EndsLine lines
  blank : ∀ c ∈ indent, isIndent c
  ends : LineEnd after tail

/-- The margin between the whole text before a tag and the whole text after it. -/
def wholeMargin? (before after : List Char) : Option (List Char × List Char) :=
  if (lastLine before).all isIndent then (lineEnd? after true).map (lastLine before, ·) else none

theorem not_mem_of_isIndent {line : List Char} (h : ∀ c ∈ line, isIndent c) : '\n' ∉ line := by
  intro hmem
  have := h _ hmem
  simp [isIndent] at this

theorem wholeMargin?_eq_some_iff {before after indent tail : List Char} :
    wholeMargin? before after = some (indent, tail) ↔ Alone before after indent tail := by
  constructor
  · intro h
    rw [wholeMargin?] at h
    split at h
    · next hall =>
      obtain ⟨t, ht, heq⟩ := Option.map_eq_some_iff.mp h
      obtain ⟨rfl, rfl⟩ := Prod.mk.inj heq
      obtain ⟨lines, hbefore, hlines, -⟩ := exists_append_lastLine before
      exact ⟨⟨lines, hbefore, hlines⟩, List.all_eq_true.mp hall, lineEnd?_eq_some_iff.mp ht⟩
    · simp at h
  · rintro ⟨⟨lines, rfl, hlines⟩, hblank, hends⟩
    rw [wholeMargin?, lastLine_append hlines (not_mem_of_isIndent hblank),
      if_pos (List.all_eq_true.mpr hblank), lineEnd?_eq_some_iff.mpr hends]
    rfl

theorem wholeMargin?_eq_none_iff {before after : List Char} :
    wholeMargin? before after = none ↔ ∀ indent tail, ¬ Alone before after indent tail := by
  rw [Option.eq_none_iff_forall_ne_some]
  constructor
  · intro h indent tail halone
    exact h _ (wholeMargin?_eq_some_iff.mpr halone)
  · rintro h ⟨indent, tail⟩ heq
    exact h indent tail (wholeMargin?_eq_some_iff.mp heq)

/-- Where a tag ended: at the start of a line, or with a brace. -/
inductive Edge : Bool → List Char → Prop
  | fresh {left : List Char} (h : EndsLine left) : Edge true left
  | braced (r : List Char) : Edge false (r ++ ['}'])

/-- The text since the last tag tells whether the line before the next tag is blank. -/
theorem Edge.blank_iff {fresh : Bool} {left : List Char} (h : Edge fresh left)
    (lead : List Char) :
    ((lastLine lead).all isIndent && (fresh || (lastLine lead).length < lead.length)) =
        (lastLine (left ++ lead)).all isIndent ∧
      ((lastLine (left ++ lead)).all isIndent → lastLine (left ++ lead) = lastLine lead) := by
  obtain ⟨lines, hlead, hlines, hline⟩ := exists_append_lastLine lead
  have hwhole : EndsLine (left ++ lines) → lastLine (left ++ lead) = lastLine lead := by
    intro he
    rw [hlead, ← List.append_assoc, lastLine_append he hline, ← hlead]
  cases h with
  | fresh h =>
    rw [hwhole (h.append hlines)]
    simp
  | braced r =>
    rcases hlines with rfl | ⟨q, rfl⟩
    · have heq : lastLine lead = lead := by simpa using hlead.symm
      obtain ⟨above, hr, habove, hrline⟩ := exists_append_lastLine r
      have hbrace : lastLine (r ++ ['}'] ++ lead) = lastLine r ++ '}' :: lead := by
        have hfree : '\n' ∉ lastLine r ++ '}' :: lead := by
          rw [heq] at hline
          simp [hrline, hline]
        have hl := lastLine_append habove hfree
        rw [← List.append_assoc, ← hr] at hl
        simpa using hl
      rw [hbrace, heq]
      simp [isIndent]
    · rw [hwhole (Or.inr ⟨r ++ ['}'] ++ q, by simp⟩)]
      have hlen : (lastLine lead).length < lead.length := by
        have := congrArg List.length hlead
        simp only [List.length_append, List.length_cons, List.length_nil] at this
        omega
      simp [hlen]

/-- A cut in which each pair is read where it stands. -/
def Cut.Sound : Cut → Prop
  | .rest _ => True
  | .pair _ p next => Pair.read? (p.source ++ next.text) = some (p, next.text) ∧ next.Sound

theorem Cut.sound_push {c : Char} {t : Cut} (h : t.Sound) : (t.push c).Sound := by
  cases t with
  | rest => exact h
  | pair gap p next => exact h

theorem Cut.sound_ofText (s : List Char) : (Cut.ofText s).Sound := by
  fun_induction Cut.ofText s with
  | case1 => trivial
  | case2 c r p after h _ ih =>
    refine ⟨?_, ih⟩
    rw [Cut.text_ofText, Pair.source_append_of_read? h]
    exact h
  | case3 c r h ih => exact Cut.sound_push ih

/-- A pair starts and ends with its braces. -/
theorem Pair.exists_source {s after : List Char} {p : Pair} (h : Pair.read? s = some (p, after)) :
    ∃ mid, p.source = '{' :: '{' :: mid ++ ['}', '}'] := by
  unfold Pair.read? Pair.close? at h
  split at h
  · split at h
    · simp at h
    · next raw rest hs =>
      dsimp only at h
      split at h
      · simp at h
      · cases h
        exact ⟨_, rfl⟩
  · simp at h

/-- The cutter of segments sees enough of the text to tell the margin of a block tag. -/
theorem margin?_eq {fresh : Bool} {left : List Char} (h : Edge fresh left) (lead : List Char)
    {next : Cut} (hnext : next.Sound) :
    margin? fresh lead next = wholeMargin? (left ++ lead) next.text := by
  obtain ⟨hcond, hline⟩ := h.blank_iff lead
  have hend : lineEnd? next.lead next.isLast = lineEnd? next.text true := by
    cases next with
    | rest text => rfl
    | pair gap p next =>
      obtain ⟨mid, hmid⟩ := Pair.exists_source hnext.1
      have hb := lineEnd?_append_brace gap ('{' :: mid ++ ['}', '}'] ++ next.text)
      simp only [Cut.lead, Cut.isLast, Cut.text, hmid]
      simpa using hb.symm
  rw [margin?, wholeMargin?, hcond, hend]
  by_cases hall : (lastLine (left ++ lead)).all isIndent
  · rw [if_pos hall, if_pos hall, hline hall]
  · rw [if_neg hall, if_neg hall]

end Promptsmith.Template
