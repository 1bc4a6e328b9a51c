import Mathlib
import Promptsmith.Proofs.Template.Markup

/-!
# Parsing undoes printing

A tree is printed with its literals as they are and its tags in braces. A printed tree is read back
as it was, unless a block tag stands alone on its line and so takes the white space around it along.
-/
namespace Promptsmith.Template

open Promptsmith.Text

def Tag.print : Tag → String
  | .variable name => "\x7b\x7b" ++ name ++ "\x7d\x7d"
  | .opening kind name => "\x7b\x7b" ++ kind.openingTag name ++ "\x7d\x7d"
  | .closing kind => "\x7b\x7b" ++ kind.closingTag ++ "\x7d\x7d"

mutual

def Node.print : Node → String
  | .literal text => text
  | .variable name => (Tag.variable name).print
  | .block kind name body =>
    (Tag.opening kind name).print ++ printAll body ++ (Tag.closing kind).print

/-- The printed nodes in order. -/
def printAll : List Node → String
  | [] => ""
  | n :: ns => n.print ++ printAll ns

end

def Node.isLiteral : Node → Bool
  | .literal _ => true
  | _ => false

mutual

/-- A node that can be told from its text: literals hold no opening brace, and names are names. -/
def Node.Plain : Node → Prop
  | .literal text => text ≠ "" ∧ '{' ∉ text.toList
  | .variable name => isName name.toList
  | .block _ name body => isName name.toList ∧ PlainAll body

/-- Each node is plain, and of two neighbours one is no literal. -/
def PlainAll : List Node → Prop
  | [] => True
  | n :: ns => n.Plain ∧ (∀ m ∈ ns.head?, ¬ (n.isLiteral ∧ m.isLiteral)) ∧ PlainAll ns

end

/-! ### Printed words -/

def Lexeme.print : Lexeme → String
  | .literal text => text
  | .tag t => t.print

/-- The text of lexemes in order. -/
def written (word : List Lexeme) : List Char :=
  word.flatMap fun l => l.print.toList

@[simp] theorem written_nil : written [] = [] := rfl
@[simp] theorem written_cons (l : Lexeme) (word : List Lexeme) :
    written (l :: word) = l.print.toList ++ written word := rfl
@[simp] theorem written_append (word more : List Lexeme) :
    written (word ++ more) = written word ++ written more := by
  simp [written]

mutual

theorem Node.written_lexemes (n : Node) : written n.lexemes = n.print.toList := by
  match n with
  | .literal text => simp [Node.lexemes, Node.print, Lexeme.print]
  | .variable name => simp [Node.lexemes, Node.print, Lexeme.print]
  | .block kind name body =>
    simp [Node.lexemes, Node.print, Lexeme.print, written_lexemesOf body]

/-- A tree is printed as its lexemes are. -/
theorem written_lexemesOf (ns : List Node) : written (lexemesOf ns) = (printAll ns).toList := by
  match ns with
  | [] => simp [printAll]
  | n :: ns => simp [printAll, n.written_lexemes, written_lexemesOf ns]

end

def Lexeme.Plain : Lexeme → Prop
  | .literal text => text ≠ "" ∧ '{' ∉ text.toList
  | .tag (.variable name) => isName name.toList
  | .tag (.opening _ name) => isName name.toList
  | .tag (.closing _) => True

/-- Each lexeme is plain, and of two neighbours one is no literal. -/
structure PlainWord (word : List Lexeme) : Prop where
  plain : ∀ l ∈ word, l.Plain
  apart : word.IsChain fun l m => ¬ (l.isLiteral ∧ m.isLiteral)

theorem PlainWord.append {word more : List Lexeme} (h : PlainWord word) (hmore : PlainWord more)
    (hapart : ∀ l ∈ word.getLast?, ∀ m ∈ more.head?, ¬ (l.isLiteral ∧ m.isLiteral)) :
    PlainWord (word ++ more) := by
  constructor
  · intro l hl
    rcases List.mem_append.mp hl with hl | hl
    · exact h.plain l hl
    · exact hmore.plain l hl
  · exact List.isChain_append.mpr ⟨h.apart, hmore.apart, hapart⟩

theorem PlainWord.of_tag {t : Tag} (h : (Lexeme.tag t).Plain) : PlainWord [.tag t] :=
  ⟨by simpa using h, by simp⟩

theorem Node.isLiteral_of_head {n : Node} {l : Lexeme} (h : l ∈ n.lexemes.head?) :
    l.isLiteral = n.isLiteral := by
  cases n <;>
  · simp only [Node.lexemes, List.head?_cons, Option.mem_some_iff] at h
    subst h
    rfl

theorem Node.isLiteral_of_getLast {n : Node} {l : Lexeme} (h : l ∈ n.lexemes.getLast?) :
    l.isLiteral = n.isLiteral := by
  match n with
  | .literal text =>
    simp only [Node.lexemes, List.getLast?_singleton, Option.mem_some_iff] at h
    subst h
    rfl
  | .variable name =>
    simp only [Node.lexemes, List.getLast?_singleton, Option.mem_some_iff] at h
    subst h
    rfl
  | .block kind name body =>
    rw [Node.lexemes, ← List.cons_append, List.getLast?_concat, Option.mem_some_iff] at h
    subst h
    rfl

theorem isLiteral_of_head {ns : List Node} {l : Lexeme} (h : l ∈ (lexemesOf ns).head?) :
    ∃ n ∈ ns.head?, l.isLiteral = n.isLiteral := by
  cases ns with
  | nil => simp at h
  | cons n ns =>
    refine ⟨n, rfl, n.isLiteral_of_head ?_⟩
    rw [lexemesOf_cons, List.head?_append] at h
    cases n <;> simpa [Node.lexemes] using h

mutual

theorem Node.Plain.lexemes {n : Node} (h : n.Plain) : PlainWord n.lexemes := by
  match n with
  | .literal text =>
    rw [Node.Plain] at h
    exact ⟨by simpa [Node.lexemes, Lexeme.Plain] using h, by simp [Node.lexemes]⟩
  | .variable name =>
    rw [Node.Plain] at h
    rw [Node.lexemes]
    exact .of_tag h
  | .block kind name body =>
    rw [Node.Plain] at h
    rw [Node.lexemes]
    have hopening : PlainWord [.tag (.opening kind name)] := .of_tag h.1
    have hclosing : PlainWord [.tag (.closing kind)] := .of_tag trivial
    have hrest := h.2.lexemes.append hclosing (by simp [Lexeme.isLiteral])
    exact hopening.append hrest (by simp [Lexeme.isLiteral])

theorem PlainAll.lexemes {ns : List Node} (h : PlainAll ns) : PlainWord (lexemesOf ns) := by
  match ns with
  | [] => exact ⟨by simp, by simp⟩
  | n :: ns =>
    rw [PlainAll] at h
    rw [lexemesOf_cons]
    refine h.1.lexemes.append h.2.2.lexemes ?_
    intro l hl m hm
    obtain ⟨n', hn', heq⟩ := isLiteral_of_head hm
    rw [n.isLiteral_of_getLast hl, heq]
    exact h.2.1 n' hn'

end

/-! ### Reading a printed word -/

/-- A plain tag is printed as one that can be read. -/
theorem Lexeme.Plain.markup {t : Tag} (h : (Lexeme.tag t).Plain) : Markup t t.print.toList := by
  have hnil : ∀ c ∈ ([] : List Char), isBlank c := by simp
  match t with
  | .variable name => simpa [Tag.print] using Markup.mk (.named h) hnil hnil
  | .opening kind name =>
    have hspaces : ∀ c ∈ ([] : List Char), c = ' ' := by simp
    simpa [Tag.print, BlockKind.openingTag] using Markup.mk (.opening kind hspaces h) hnil hnil
  | .closing kind =>
    simpa [Tag.print, BlockKind.closingTag] using Markup.mk (.closing kind) hnil hnil

theorem Pair.read?_eq_none_of_head {c : Char} (h : c ≠ '{') (r : List Char) :
    Pair.read? (c :: r) = none := by
  rw [Pair.read?]
  rintro q hq
  exact h (List.cons.inj hq).1

theorem Pair.read?_eq_none_of_ne {c d : Char} (h : ¬ (c = '{' ∧ d = '{')) (r : List Char) :
    Pair.read? (c :: d :: r) = none := by
  unfold Pair.read?
  split
  · next heq =>
    obtain ⟨hc, hrest⟩ := List.cons.inj heq
    exact absurd ⟨hc, (List.cons.inj hrest).1⟩ h
  · rfl

theorem Cut.ofText_cons {c : Char} {r : List Char} (h : Pair.read? (c :: r) = none) :
    Cut.ofText (c :: r) = (Cut.ofText r).push c := by
  rw [Cut.ofText]
  split
  · next p after hsome =>
    rw [h] at hsome
    cases hsome
  · rfl

/-- Where no pair starts there is a gap. -/
theorem Cut.ofText_gap {gap s : List Char}
    (h : ∀ a b, gap ++ s = a ++ b → a.length < gap.length → Pair.read? b = none) :
    Cut.ofText (gap ++ s) = (Cut.ofText s).prepend gap := by
  induction gap with
  | nil => simp
  | cons c gap ih =>
    have hrest := ih fun a b hab hlt => h (c :: a) b (by simp [hab]) (by simpa using hlt)
    have hnone : Pair.read? (c :: (gap ++ s)) = none := h [] _ rfl (by simp)
    rw [List.cons_append, Cut.ofText_cons hnone, hrest]
    cases Cut.ofText s <;> rfl

theorem Cut.ofText_append {gap : List Char} (h : '{' ∉ gap) (s : List Char) :
    Cut.ofText (gap ++ s) = (Cut.ofText s).prepend gap := by
  refine Cut.ofText_gap ?_
  intro a b hab hlt
  rcases List.append_eq_append_iff.mp hab with ⟨x, rfl, -⟩ | ⟨x, rfl, rfl⟩
  · simp at hlt
  · cases x with
    | nil => simp at hlt
    | cons c x =>
      exact Pair.read?_eq_none_of_head (by rintro rfl; simp at h) _

theorem Cut.ofText_of_read? {s after : List Char} {p : Pair}
    (h : Pair.read? s = some (p, after)) : Cut.ofText s = .pair [] p (Cut.ofText after) := by
  cases s with
  | nil => simp [Pair.read?] at h
  | cons c r =>
    rw [Cut.ofText]
    split
    · next p' after' hsome =>
      rw [h] at hsome
      cases hsome
      rfl
    · next hnone =>
      rw [h] at hnone
      cases hnone

/-- A tag that owns no margin is cut off with the literal text before it. -/
theorem segmentsFrom_inline {left gap : List Char} {fresh : Bool} {p : Pair} {next : Cut}
    {t : Tag} (hs : next.Sound) (hedge : Edge fresh left) (hread : Tag.read p.inner = .ok (some t))
    (halone : t.isBlock → ∀ indent tail, ¬ Alone (left ++ gap) next.text indent tail) :
    segmentsFrom left.length fresh [] 0 (.pair gap p next) =
      (segmentsFrom (left ++ gap ++ p.source).length false [] 0 next).map fun rest =>
        literalSegment left.length gap ++
          ⟨[], p.source, [], ⟨.tag t, (left ++ gap).length⟩⟩ :: rest := by
  have hmargin : (if t.isBlock then margin? fresh gap next else none) = none := by
    split
    · next hblock =>
      rw [margin?_eq hedge gap hs]
      exact wholeMargin?_eq_none_iff.mpr (halone hblock)
    · rfl
  simp only [segmentsFrom, List.drop_zero, List.nil_append, hread, hmargin, List.length_append]

/-- No block tag of a word stands alone on its line, where the word is written after `left`. -/
def NoneAlone (left : List Char) (word : List Lexeme) : Prop :=
  ∀ before t after, word = before ++ .tag t :: after → t.isBlock →
    ∀ indent tail, ¬ Alone (left ++ written before) (written after) indent tail

theorem NoneAlone.head {left : List Char} {t : Tag} {word : List Lexeme}
    (h : NoneAlone left (.tag t :: word)) (hblock : t.isBlock) (indent tail : List Char) :
    ¬ Alone left (written word) indent tail := by
  simpa using h [] t word rfl hblock indent tail

theorem NoneAlone.tail {left : List Char} {l : Lexeme} {word : List Lexeme}
    (h : NoneAlone left (l :: word)) : NoneAlone (left ++ l.print.toList) word := by
  intro before t after hword hblock indent tail
  have hrest := h (l :: before) t after (by rw [hword]; rfl) hblock indent tail
  simpa using hrest

def Lexeme.isBlock : Lexeme → Bool
  | .literal _ => false
  | .tag t => t.isBlock

theorem noneAlone_nil (left : List Char) : NoneAlone left [] := by
  intro before t after hword
  simp at hword

theorem noneAlone_cons_iff {left : List Char} {l : Lexeme} {word : List Lexeme} :
    NoneAlone left (l :: word) ↔
      (l.isBlock → wholeMargin? left (written word) = none) ∧
        NoneAlone (left ++ l.print.toList) word := by
  constructor
  · intro h
    refine ⟨?_, h.tail⟩
    intro hblock
    cases l with
    | literal text => simp [Lexeme.isBlock] at hblock
    | tag t => exact wholeMargin?_eq_none_iff.mpr (h.head hblock)
  · rintro ⟨hl, h⟩ before t after hword hblock indent tail
    cases before with
    | nil =>
      obtain ⟨rfl, rfl⟩ := List.cons.inj hword
      simpa using wholeMargin?_eq_none_iff.mp (hl hblock) indent tail
    | cons m before =>
      obtain ⟨rfl, rfl⟩ := List.cons.inj hword
      simpa using h before t after rfl hblock indent tail

instance decidableNoneAlone (left : List Char) : (word : List Lexeme) →
    Decidable (NoneAlone left word)
  | [] => isTrue (noneAlone_nil left)
  | l :: word =>
    have := decidableNoneAlone (left ++ l.print.toList) word
    decidable_of_iff _ noneAlone_cons_iff.symm

/-- The lexeme of a literal text; there is none for the empty text. -/
def literalLexeme (s : List Char) : List Lexeme :=
  if s.isEmpty then [] else [.literal (String.ofList s)]

theorem lexemes_literalSegment (n : Nat) (s : List Char) :
    (literalSegment n s).map (·.token.lexeme) = literalLexeme s := by
  cases s <;> rfl

theorem literalLexeme_toList {text : String} (h : text ≠ "") :
    literalLexeme text.toList = [.literal text] := by
  have hne : text.toList ≠ [] := by simpa using h
  simp [literalLexeme, hne]

theorem PlainWord.tail {l : Lexeme} {word : List Lexeme} (h : PlainWord (l :: word)) :
    PlainWord word :=
  ⟨fun m hm => h.plain m (List.mem_cons_of_mem l hm), h.apart.tail⟩

/-- A printed word is cut into its lexemes, where `gap` is the literal text read before them. -/
theorem exists_segmentsFrom_written {word : List Lexeme} (hplain : PlainWord word)
    {left gap : List Char} {fresh : Bool} (hedge : Edge fresh left) (hgap : '{' ∉ gap)
    (hapart : gap ≠ [] → ∀ l ∈ word.head?, l.isLiteral = false)
    (halone : NoneAlone (left ++ gap) word) :
    ∃ segs, segmentsFrom left.length fresh [] 0 (Cut.ofText (gap ++ written word)) = .ok segs ∧
      segs.map (·.token.lexeme) = literalLexeme gap ++ word := by
  induction word generalizing left gap fresh with
  | nil =>
    refine ⟨literalSegment left.length gap, ?_, ?_⟩
    · rw [written_nil, Cut.ofText_append hgap, Cut.ofText_nil]
      simp [Cut.prepend, segmentsFrom]
    · rw [lexemes_literalSegment, List.append_nil]
  | cons l word ih =>
    have hl := hplain.plain l (by simp)
    cases l with
    | literal text =>
      -- No literal was read before, so this one is the gap before what follows.
      have hempty : gap = [] := by
        by_contra hne
        simpa [Lexeme.isLiteral] using hapart hne (.literal text) rfl
      subst hempty
      have hnext : ∀ m ∈ word.head?, m.isLiteral = false := by
        intro m hm
        have hne := (List.isChain_cons.mp hplain.apart).1 m hm
        simpa [Lexeme.isLiteral] using hne
      obtain ⟨segs, hsegs, hlex⟩ := ih hplain.tail hedge hl.2 (fun _ => hnext)
        (by simpa [Lexeme.print] using halone.tail)
      refine ⟨segs, hsegs, ?_⟩
      rw [hlex, literalLexeme_toList hl.1]
      rfl
    | tag t =>
      obtain ⟨inner, hread, hpair⟩ := hl.markup.read?
      have hcut : Cut.ofText (gap ++ written (.tag t :: word)) =
          .pair gap ⟨t.print.toList, inner⟩ (Cut.ofText (written word)) := by
        rw [Cut.ofText_append hgap, written_cons, Lexeme.print, Cut.ofText_of_read? (hpair _)]
        simp [Cut.prepend]
      have hsound := Cut.sound_ofText (gap ++ written (.tag t :: word))
      rw [hcut] at hsound
      have hpast := hsound.exists_edge (left ++ gap)
      obtain ⟨segs, hsegs, hlex⟩ := @ih hplain.tail (left ++ gap ++ t.print.toList) [] false hpast
        (by simp) (by simp) (by simpa [Lexeme.print] using halone.tail)
      have hnone : t.isBlock → ∀ indent tail,
          ¬ Alone (left ++ gap) (Cut.ofText (written word)).text indent tail := by
        intro hblock
        rw [Cut.text_ofText]
        exact halone.head hblock
      rw [List.nil_append] at hsegs
      refine ⟨literalSegment left.length gap ++
        ⟨[], t.print.toList, [], ⟨.tag t, (left ++ gap).length⟩⟩ :: segs, ?_, ?_⟩
      · rw [hcut, segmentsFrom_inline hsound.2 hedge hread hnone, hsegs]
        rfl
      · rw [List.map_append, lexemes_literalSegment, List.map_cons, hlex]
        rfl

theorem exists_tokenize_printAll {nodes : List Node} (hplain : PlainAll nodes)
    (halone : NoneAlone [] (lexemesOf nodes)) :
    ∃ tokens, tokenize (printAll nodes) = .ok tokens ∧
      tokens.map Token.lexeme = lexemesOf nodes := by
  have hedge : Edge true [] := .fresh (Or.inl rfl)
  obtain ⟨segs, hsegs, hlex⟩ := @exists_segmentsFrom_written _ hplain.lexemes [] [] true hedge
    (by simp) (by simp) halone
  refine ⟨segs.map Segment.token, ?_, ?_⟩
  · rw [List.nil_append, written_lexemesOf] at hsegs
    rw [tokenize, segments]
    exact congrArg (Except.map (·.map Segment.token)) hsegs
  · rw [List.map_map]
    exact hlex

/-- A plain tree is read back as it was printed, if in the print no block tag stands alone on its
line. -/
theorem parse_printAll {nodes : List Node} (hplain : PlainAll nodes)
    (halone : NoneAlone [] (lexemesOf nodes)) : parse (printAll nodes) = .ok nodes := by
  obtain ⟨tokens, htokens, hlex⟩ := exists_tokenize_printAll hplain halone
  have hnest : nest [] [] tokens = .ok nodes := nest_eq_ok_iff.mpr hlex.symm
  rw [parse, htokens]
  exact hnest

theorem parse_printAll_nested :
    let nodes : List Node := [
      .block .each "x.y-é" [.block .unless "@last" [.literal "\x7d\n"], .variable "this"],
      .literal "\n "]
    printAll nodes = "\x7b\x7b#each x.y-é\x7d\x7d\x7b\x7b#unless @last\x7d\x7d\x7d\n" ++
      "\x7b\x7b/unless\x7d\x7d\x7b\x7bthis\x7d\x7d\x7b\x7b/each\x7d\x7d\n " ∧
      PlainAll nodes ∧ NoneAlone [] (lexemesOf nodes) ∧ parse (printAll nodes) = .ok nodes := by
  intro nodes
  have hplain : PlainAll nodes := by
    simp only [nodes, PlainAll, Node.Plain]
    decide +kernel
  have halone : NoneAlone [] (lexemesOf nodes) := by
    simp only [nodes, lexemesOf, Node.lexemes]
    decide +kernel
  exact ⟨by cbv, hplain, halone, parse_printAll hplain halone⟩

end Promptsmith.Template
