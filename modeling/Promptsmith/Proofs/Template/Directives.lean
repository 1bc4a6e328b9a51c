import Promptsmith.Proofs.Template.Faults
import Promptsmith.Proofs.Template.Hiding
import Promptsmith.Proofs.Template.Printing

/-!
# What becomes of a directive

A pair that starts with a sigil is meant as a directive. It is read as one when a word follows the
sigil and white space or the end follows the word: then it is a block tag, or the text is refused.
Any other such pair stays in the literal text.
-/
namespace Promptsmith.Template

open Promptsmith.Text

/-- The pair starts with a sigil. -/
def Marked (inner : List Char) : Prop :=
  ∃ (sigil : Sigil) (r : List Char), inner = sigil.char :: r

/-- The pair has the shape of a directive. -/
def Worded (inner : List Char) : Prop :=
  ∃ sigil word argument, Directive inner sigil word argument

/-! ### One pair -/

theorem not_isName_of_marked {inner : List Char} (h : Marked inner) : ¬ isName inner := by
  obtain ⟨sigil, r, rfl⟩ := h
  cases sigil <;> simp [isName, isNameStart, Sigil.char]

theorem worded_iff {inner : List Char} : Worded inner ↔ directive? inner ≠ none := by
  constructor
  · rintro ⟨sigil, word, argument, h⟩
    rw [directive?_eq_some_iff.mpr h]
    exact Option.some_ne_none _
  · intro h
    obtain ⟨⟨sigil, word, argument⟩, hfound⟩ := Option.ne_none_iff_exists'.mp h
    exact ⟨sigil, word, argument, directive?_eq_some_iff.mp hfound⟩

theorem read_of_not_worded {inner : List Char} (hmarked : Marked inner) (h : ¬ Worded inner) :
    Tag.read inner = .ok none := by
  rw [worded_iff, not_not] at h
  simp [Tag.read, h, not_isName_of_marked hmarked]

/-- A directive that is not malformed is a block tag. -/
theorem isBlock_of_worded {inner : List Char} {found : Option Tag} (h : Worded inner)
    (hread : Tag.read inner = .ok found) : ∃ tag, found = some tag ∧ tag.isBlock := by
  obtain ⟨sigil, word, argument, hshape⟩ := h
  have hdir := directive?_eq_some_iff.mpr hshape
  cases sigil with
  | opening =>
    simp only [Tag.read, hdir] at hread
    split at hread
    · cases hread
    · split at hread
      · cases hread
        exact ⟨_, rfl, rfl⟩
      · cases hread
  | closing =>
    simp only [Tag.read, hdir] at hread
    split at hread
    · cases hread
    · split at hread
      · cases hread
        exact ⟨_, rfl, rfl⟩
      · cases hread

/-! ### The pairs of a text -/

/-- Each pair starts where the one before it ends, or later. -/
theorem Cut.pairsFrom_ordered (cut : Cut) (start : Nat) :
    (∀ e ∈ cut.pairsFrom start, start ≤ e.1) ∧
      (cut.pairsFrom start).Pairwise fun e f => e.1 + e.2.source.length ≤ f.1 := by
  induction cut generalizing start with
  | rest text => simp [pairsFrom]
  | pair gap p next ih =>
    obtain ⟨hlow, hordered⟩ := ih (start + gap.length + p.source.length)
    rw [pairsFrom, List.forall_mem_cons, List.pairwise_cons]
    refine ⟨⟨Nat.le_add_right _ _, ?_⟩, hlow, hordered⟩
    intro e he
    have hle := hlow e he
    omega

/-- At one offset starts one pair. -/
theorem eq_of_mem_pairs {text : List Char} {e f : Nat × Pair} (he : e ∈ pairs text)
    (hf : f ∈ pairs text) (h : e.1 = f.1) : e = f := by
  have hpos := (Cut.sound_ofText text).source_pos 0
  have hordered := ((Cut.ofText text).pairsFrom_ordered 0).2
  have hapart : ((pairs text).map Prod.fst).Nodup := by
    refine List.pairwise_map.mpr (hordered.imp_of_mem ?_)
    intro a b ha _ hab
    have ha := hpos a ha
    omega
  exact List.inj_on_of_nodup_map hapart he hf h

/-- A text is refused just when one of its pairs is a malformed directive. -/
theorem exists_tokenize_error_iff {text : String} :
    (∃ error, tokenize text = .error error) ↔
      ∃ e ∈ pairs text.toList, ∃ fault, Malformed e.2.inner fault := by
  have hnone := @findSome?_faultAt?_eq_none_iff (pairs text.toList)
  simp only [tokenize, map_eq_error_iff, segments_eq_error_iff, ← Option.isSome_iff_exists]
  rw [Option.isSome_iff_ne_none, ne_eq, hnone]
  simp only [not_forall, not_not, exists_prop]

theorem read_of_tagAt? {e : Nat × Pair} {n : Nat} {tag : Tag} (h : tagAt? e = some (n, tag)) :
    Tag.read e.2.inner = .ok (some tag) := by
  unfold tagAt? at h
  split at h
  · next found hread =>
    cases h
    exact hread
  · cases h

/-- The token at the offset of a pair is the tag that the pair is read as. -/
theorem read_of_token {text : String} {tokens : List Token} (h : tokenize text = .ok tokens)
    {e : Nat × Pair} (he : e ∈ pairs text.toList) {token : Token} (htoken : token ∈ tokens)
    {tag : Tag} (htag : token.lexeme = .tag tag) (hposition : token.position = e.1) :
    Tag.read e.2.inner = .ok (some tag) := by
  obtain ⟨segs, hsegs, rfl⟩ := exists_of_map_eq_ok h
  obtain ⟨s, hs, rfl⟩ := List.mem_map.mp htoken
  have hmem : (s.token.position, tag) ∈ segs.filterMap (·.token.tag?) :=
    List.mem_filterMap.mpr ⟨s, hs, Token.tag?_of_lexeme htag⟩
  rw [(tiling_of_segments hsegs).tags] at hmem
  obtain ⟨f, hf, hat⟩ := List.mem_filterMap.mp hmem
  obtain rfl := eq_of_mem_pairs he hf (hposition.symm.trans (fst_of_tagAt? hat))
  exact read_of_tagAt? hat

theorem eq_of_tag? {token : Token} {n : Nat} {tag : Tag} (h : token.tag? = some (n, tag)) :
    token = ⟨.tag tag, n⟩ := by
  obtain ⟨lexeme, position⟩ := token
  cases lexeme with
  | literal text => cases h
  | tag found =>
    cases h
    rfl

/-- A pair that is read as a tag has its token. -/
theorem exists_token_of_read {text : String} {tokens : List Token}
    (h : tokenize text = .ok tokens) {e : Nat × Pair} (he : e ∈ pairs text.toList) {tag : Tag}
    (hread : Tag.read e.2.inner = .ok (some tag)) : ⟨.tag tag, e.1⟩ ∈ tokens := by
  obtain ⟨segs, hsegs, rfl⟩ := exists_of_map_eq_ok h
  have hmem : (e.1, tag) ∈ (pairs text.toList).filterMap tagAt? :=
    List.mem_filterMap.mpr ⟨e, he, tagAt?_of_read hread⟩
  rw [← (tiling_of_segments hsegs).tags] at hmem
  obtain ⟨s, hs, htag⟩ := List.mem_filterMap.mp hmem
  exact List.mem_map.mpr ⟨s, hs, eq_of_tag? htag⟩

/-! ### The whole text -/

/-- A block tag stands at an offset. -/
def BlockAt (tokens : List Token) (n : Nat) : Prop :=
  ∃ token ∈ tokens, token.position = n ∧ token.lexeme.isBlock

/-- A pair that is meant as a directive makes the text be refused if it is a malformed one. Where
the text is not refused, the pair is a block tag exactly when it has the shape of a directive, and
stays in literal text when it does not. -/
theorem blockAt_iff_worded {text : String} {e : Nat × Pair} (he : e ∈ pairs text.toList)
    (hmarked : Marked e.2.inner) :
    (∀ fault, Malformed e.2.inner fault → ∃ error, tokenize text = .error error) ∧
      ∀ tokens, tokenize text = .ok tokens →
        (BlockAt tokens e.1 ↔ Worded e.2.inner) ∧
          (¬ Worded e.2.inner → ∃ token ∈ tokens, ∃ value,
            token.lexeme = .literal value ∧ e.2.source <:+: value.toList) := by
  refine ⟨fun fault h => exists_tokenize_error_iff.mpr ⟨e, he, fault, h⟩, ?_⟩
  intro tokens htokens
  refine ⟨⟨?_, ?_⟩, ?_⟩
  · rintro ⟨⟨lexeme, position⟩, htoken, hposition, hblock⟩
    by_contra hworded
    cases lexeme with
    | literal value => cases hblock
    | tag tag =>
      have hread := read_of_token htokens he htoken rfl hposition
      rw [read_of_not_worded hmarked hworded] at hread
      cases hread
  · intro hworded
    have hwell : ∀ fault, Tag.read e.2.inner ≠ .error fault := by
      intro fault hread
      obtain ⟨error, herror⟩ := exists_tokenize_error_iff.mpr
        ⟨e, he, fault, read_eq_error_iff.mp hread⟩
      rw [htokens] at herror
      cases herror
    cases hread : Tag.read e.2.inner with
    | error fault => exact absurd hread (hwell fault)
    | ok found =>
      obtain ⟨tag, rfl, hblock⟩ := isBlock_of_worded hworded hread
      exact ⟨_, exists_token_of_read htokens he hread, rfl, hblock⟩
  · intro hworded
    obtain ⟨segs, hsegs, rfl⟩ := exists_of_map_eq_ok htokens
    obtain ⟨s, hs, value, hvalue, hin⟩ := (reading_of_segments hsegs).shows_pair
      (Cut.sound_ofText text.toList) he (read_of_not_worded hmarked hworded)
    exact ⟨s.token, List.mem_map_of_mem hs, value, hvalue, hin⟩

/-- The directive in the middle has a hyphen after its word, so it is not seen as one. -/
theorem blockAt_iff_worded_else :
    let text := "\x7b\x7b#if a\x7d\x7dA\x7b\x7b#else-if b\x7d\x7dB\x7b\x7b/if\x7d\x7d"
    let e : Nat × Pair := (10, ⟨"\x7b\x7b#else-if b\x7d\x7d".toList, "#else-if b".toList⟩)
    e ∈ pairs text.toList ∧ Marked e.2.inner ∧
      (∀ fault, Malformed e.2.inner fault → ∃ error, tokenize text = .error error) ∧
      ∀ tokens, tokenize text = .ok tokens →
        (BlockAt tokens e.1 ↔ Worded e.2.inner) ∧
          (¬ Worded e.2.inner → ∃ token ∈ tokens, ∃ value,
            token.lexeme = .literal value ∧ e.2.source <:+: value.toList) := by
  intro text e
  have hpairs : pairs text.toList =
      [(0, ⟨"\x7b\x7b#if a\x7d\x7d".toList, "#if a".toList⟩),
        (10, ⟨"\x7b\x7b#else-if b\x7d\x7d".toList, "#else-if b".toList⟩),
        (25, ⟨"\x7b\x7b/if\x7d\x7d".toList, "/if".toList⟩)] := by cbv
  have he : e ∈ pairs text.toList := by simp [hpairs, e]
  have hmarked : Marked e.2.inner := ⟨.opening, "else-if b".toList, rfl⟩
  exact ⟨he, hmarked, blockAt_iff_worded he hmarked⟩

/-- Not every pair that starts with a sigil is a block tag or makes the text be refused. -/
theorem marked_pair_left_as_text :
    ¬ ∀ (text : String) (e : Nat × Pair), e ∈ pairs text.toList → Marked e.2.inner →
      (∃ error, tokenize text = .error error) ∨
        ∃ tokens, tokenize text = .ok tokens ∧ BlockAt tokens e.1 := by
  intro hall
  have htokens : tokenize "\x7b\x7b#else-if b\x7d\x7d" =
      .ok [⟨.literal "\x7b\x7b#else-if b\x7d\x7d", 0⟩] := by cbv
  have hpairs : pairs "\x7b\x7b#else-if b\x7d\x7d".toList =
      [(0, ⟨"\x7b\x7b#else-if b\x7d\x7d".toList, "#else-if b".toList⟩)] := by cbv
  have hsplit := hall "\x7b\x7b#else-if b\x7d\x7d" _
    (hpairs ▸ List.mem_singleton_self _) ⟨.opening, "else-if b".toList, rfl⟩
  rw [htokens] at hsplit
  rcases hsplit with ⟨error, herror⟩ | ⟨tokens, htokens, token, htoken, -, hblock⟩
  · cases herror
  · cases htokens
    obtain rfl := List.mem_singleton.mp htoken
    cases hblock

end Promptsmith.Template
