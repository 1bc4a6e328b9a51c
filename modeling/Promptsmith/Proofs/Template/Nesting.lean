import Mathlib
import Promptsmith.Template.Node

/-!
# Nesting loses no token

A tree can be read back as the lexemes it was nested from. The reader of tokens accepts exactly the
words whose tags are well nested, and the tree it builds reads back as the word it was given.
-/
namespace Promptsmith.Template

mutual

/-- The lexemes that a node stands for, in the order of the text. -/
def Node.lexemes : Node → List Lexeme
  | .literal text => [.literal text]
  | .variable name => [.tag (.variable name)]
  | .block kind name body =>
    .tag (.opening kind name) :: (lexemesOf body ++ [.tag (.closing kind)])

/-- The lexemes of nodes in order. -/
def lexemesOf : List Node → List Lexeme
  | [] => []
  | n :: ns => n.lexemes ++ lexemesOf ns

end

@[simp] theorem lexemesOf_nil : lexemesOf [] = [] := by rw [lexemesOf]
@[simp] theorem lexemesOf_cons (n : Node) (ns : List Node) :
    lexemesOf (n :: ns) = n.lexemes ++ lexemesOf ns := by rw [lexemesOf]

@[simp] theorem lexemesOf_append (ns ms : List Node) :
    lexemesOf (ns ++ ms) = lexemesOf ns ++ lexemesOf ms := by
  induction ns with
  | nil => simp
  | cons n ns ih => simp [ih]

/-- The kinds of the open blocks after a lexeme, the innermost first. -/
def Lexeme.turn (kinds : List BlockKind) : Lexeme → List BlockKind
  | .tag (.opening kind _) => kind :: kinds
  | .tag (.closing _) => kinds.tail
  | _ => kinds

/-- The kinds of the blocks that a word leaves open, where `kinds` are open before it. -/
def openAfter (kinds : List BlockKind) (word : List Lexeme) : List BlockKind :=
  word.foldl Lexeme.turn kinds

@[simp] theorem openAfter_nil (kinds : List BlockKind) : openAfter kinds [] = kinds := rfl
@[simp] theorem openAfter_cons (kinds : List BlockKind) (l : Lexeme) (word : List Lexeme) :
    openAfter kinds (l :: word) = openAfter (l.turn kinds) word := rfl

/-- Each closing tag has the kind of the innermost block still open, and no block is left open. -/
structure WellNested (kinds : List BlockKind) (word : List Lexeme) : Prop where
  closes : ∀ before kind after, word = before ++ .tag (.closing kind) :: after →
    (openAfter kinds before).head? = some kind
  closed : openAfter kinds word = []

theorem wellNested_nil_iff {kinds : List BlockKind} : WellNested kinds [] ↔ kinds = [] := by
  constructor
  · intro h
    exact h.closed
  · intro h
    exact ⟨by simp, h⟩

theorem wellNested_cons_iff {kinds : List BlockKind} {l : Lexeme} {word : List Lexeme} :
    WellNested kinds (l :: word) ↔
      (∀ kind, l = .tag (.closing kind) → kinds.head? = some kind) ∧
        WellNested (l.turn kinds) word := by
  constructor
  · intro h
    refine ⟨fun kind hl => h.closes [] kind word (by simp [hl]), ?_, h.closed⟩
    intro before kind after hw
    exact h.closes (l :: before) kind after (by simp [hw])
  · rintro ⟨hl, h⟩
    refine ⟨?_, h.closed⟩
    intro before kind after hw
    cases before with
    | nil => exact hl kind (List.cons.inj hw).1
    | cons m before =>
      obtain ⟨hm, ht⟩ := List.cons.inj hw
      rw [openAfter_cons, ← hm]
      exact h.closes before kind after ht

/-- The word that brought the reader to its open blocks and to the siblings of the innermost. -/
def wordRead : List OpenBlock → List Node → List Lexeme
  | [], siblings => lexemesOf siblings
  | b :: outer, siblings =>
    wordRead outer b.before ++ .tag (.opening b.kind b.name) :: lexemesOf siblings

theorem wordRead_append (blocks : List OpenBlock) (siblings ns : List Node) :
    wordRead blocks (siblings ++ ns) = wordRead blocks siblings ++ lexemesOf ns := by
  cases blocks with
  | nil => simp [wordRead]
  | cons b outer => simp [wordRead]

/-- What has been read and what is still to be read make up the lexemes of the result. -/
theorem lexemesOf_of_nest {blocks : List OpenBlock} {siblings nodes : List Node}
    {ts : List Token} (h : nest blocks siblings ts = .ok nodes) :
    lexemesOf nodes = wordRead blocks siblings ++ ts.map Token.lexeme := by
  fun_induction nest blocks siblings ts with
  | case1 siblings => simp_all [wordRead]
  | case2 => simp at h
  | case3 blocks siblings t ts text ht ih =>
    rw [ih h, wordRead_append]
    simp [ht, Node.lexemes]
  | case4 blocks siblings t ts name ht ih =>
    rw [ih h, wordRead_append]
    simp [ht, Node.lexemes]
  | case5 blocks siblings t ts kind name ht ih =>
    rw [ih h]
    simp [ht, wordRead]
  | case6 => simp at h
  | case7 siblings t ts b outer ht ih =>
    rw [ih h, wordRead_append]
    simp [ht, wordRead, Node.lexemes]
  | case8 => simp at h

/-- The reader accepts a word exactly when it is well nested in the blocks that are open. -/
theorem exists_nest_iff {blocks : List OpenBlock} {siblings : List Node} {ts : List Token} :
    (∃ nodes, nest blocks siblings ts = .ok nodes) ↔
      WellNested (blocks.map OpenBlock.kind) (ts.map Token.lexeme) := by
  fun_induction nest blocks siblings ts with
  | case1 => simp [wellNested_nil_iff]
  | case2 => simp [wellNested_nil_iff]
  | case3 blocks siblings t ts text ht ih =>
    rw [ih, List.map_cons, wellNested_cons_iff]
    simp [ht, Lexeme.turn]
  | case4 blocks siblings t ts name ht ih =>
    rw [ih, List.map_cons, wellNested_cons_iff]
    simp [ht, Lexeme.turn]
  | case5 blocks siblings t ts kind name ht ih =>
    rw [ih, List.map_cons (l := ts), wellNested_cons_iff]
    simp [ht, Lexeme.turn]
  | case6 siblings t ts kind ht =>
    rw [List.map_cons (l := ts), wellNested_cons_iff]
    simp [ht]
  | case7 siblings t ts b outer ht ih =>
    rw [ih, List.map_cons (l := ts), wellNested_cons_iff]
    simp [ht, Lexeme.turn]
  | case8 siblings t ts kind ht b outer hk =>
    rw [List.map_cons (l := ts), wellNested_cons_iff]
    simp [ht, hk]

mutual

/-- The lexemes of a node are read as that node. -/
theorem nest_lexemes (n : Node) (blocks : List OpenBlock) (siblings : List Node)
    (us ts : List Token) (h : us.map Token.lexeme = n.lexemes) :
    nest blocks siblings (us ++ ts) = nest blocks (siblings ++ [n]) ts := by
  match n with
  | .literal text =>
    obtain ⟨u, rfl, hu⟩ := List.map_eq_singleton_iff.mp (h.trans (by rw [Node.lexemes]))
    cases blocks <;> simp [nest, hu]
  | .variable name =>
    obtain ⟨u, rfl, hu⟩ := List.map_eq_singleton_iff.mp (h.trans (by rw [Node.lexemes]))
    cases blocks <;> simp [nest, hu]
  | .block kind name body =>
    rw [Node.lexemes] at h
    obtain ⟨o, rest, rfl, ho, hrest⟩ := List.map_eq_cons_iff.mp h
    obtain ⟨vs, cs, rfl, hvs, hcs⟩ := List.map_eq_append_iff.mp hrest
    obtain ⟨c, rfl, hc⟩ := List.map_eq_singleton_iff.mp hcs
    have hbody := nest_lexemesOf body (⟨kind, name, o.position, siblings⟩ :: blocks) [] vs
      (c :: ts) hvs
    have hopen : nest blocks siblings (o :: (vs ++ c :: ts)) =
        nest (⟨kind, name, o.position, siblings⟩ :: blocks) [] (vs ++ c :: ts) := by
      cases blocks <;> simp [nest, ho]
    simp only [List.cons_append, List.append_assoc, List.nil_append]
    rw [hopen, hbody]
    simp [nest, hc]

theorem nest_lexemesOf (ns : List Node) (blocks : List OpenBlock) (siblings : List Node)
    (us ts : List Token) (h : us.map Token.lexeme = lexemesOf ns) :
    nest blocks siblings (us ++ ts) = nest blocks (siblings ++ ns) ts := by
  match ns with
  | [] =>
    have hus : us = [] := by simpa using h
    simp [hus]
  | n :: ns =>
    rw [lexemesOf_cons] at h
    obtain ⟨vs, ws, rfl, hvs, hws⟩ := List.map_eq_append_iff.mp h
    rw [List.append_assoc, nest_lexemes n blocks siblings vs (ws ++ ts) hvs,
      nest_lexemesOf ns blocks (siblings ++ [n]) ws ts hws]
    simp

end

/-- The tree of a template is the only one that reads back as its tokens. -/
theorem nest_eq_ok_iff {ts : List Token} {nodes : List Node} :
    nest [] [] ts = .ok nodes ↔ lexemesOf nodes = ts.map Token.lexeme := by
  constructor
  · intro h
    simpa [wordRead] using lexemesOf_of_nest h
  · intro h
    have hread := nest_lexemesOf nodes [] [] ts [] h.symm
    simpa [nest] using hread

/-- A template that can be cut into tokens has a tree exactly when its tags are well nested, and
the tree is the only one that reads back as the tokens. -/
theorem parse_ok_iff_wellNested {text : String} {tokens : List Token}
    (h : tokenize text = .ok tokens) :
    ((∃ nodes, parse text = .ok nodes) ↔ WellNested [] (tokens.map Token.lexeme)) ∧
      ∀ nodes, parse text = .ok nodes ↔ lexemesOf nodes = tokens.map Token.lexeme := by
  have hp : parse text = nest [] [] tokens := by
    rw [parse, h]
    rfl
  constructor
  · rw [hp]
    exact exists_nest_iff
  · intro nodes
    rw [hp]
    exact nest_eq_ok_iff

theorem parse_ok_iff_wellNested_loop :
    let text := "\x7b\x7b#each xs\x7d\x7d\x7b\x7b#if @last\x7d\x7d" ++
      "\x7b\x7bthis\x7d\x7d\x7b\x7b/if\x7d\x7d\x7b\x7b/each\x7d\x7d"
    let tokens : List Token := [⟨.tag (.opening .each "xs"), 0⟩,
      ⟨.tag (.opening .when "@last"), 12⟩, ⟨.tag (.variable "this"), 25⟩,
      ⟨.tag (.closing .when), 33⟩, ⟨.tag (.closing .each), 40⟩]
    tokenize text = .ok tokens ∧
      ((∃ nodes, parse text = .ok nodes) ↔ WellNested [] (tokens.map Token.lexeme)) ∧
        ∀ nodes, parse text = .ok nodes ↔ lexemesOf nodes = tokens.map Token.lexeme := by
  intro text tokens
  have h : tokenize text = .ok tokens := by cbv
  exact ⟨h, parse_ok_iff_wellNested h⟩

end Promptsmith.Template
