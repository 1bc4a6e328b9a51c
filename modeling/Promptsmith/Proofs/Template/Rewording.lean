import Mathlib
import Promptsmith.Proofs.Template.Printing

/-!
# Words tell the tree

Where its tokens stand in the text has no say in what a template is: of two texts whose tokens say
the same, both have the same tree, or both show the same fault. If the tokens of the one say what
those of the other do but for their literals, so do the trees.
-/
namespace Promptsmith.Template

mutual

/-- The node with other literal texts. -/
def Node.reword (f : String → String) : Node → Node
  | .literal text => .literal (f text)
  | .variable name => .variable name
  | .block kind name body => .block kind name (rewordAll f body)

/-- The nodes with other literal texts. -/
def rewordAll (f : String → String) : List Node → List Node
  | [] => []
  | n :: ns => n.reword f :: rewordAll f ns

end

theorem rewordAll_append (f : String → String) (ns ms : List Node) :
    rewordAll f (ns ++ ms) = rewordAll f ns ++ rewordAll f ms := by
  induction ns with
  | nil => rw [List.nil_append, rewordAll, List.nil_append]
  | cons n ns ih => rw [List.cons_append, rewordAll, ih, rewordAll, List.cons_append]

/-- A node goes behind its siblings. -/
theorem rewordAll_concat (f : String → String) (ns : List Node) (n : Node) :
    rewordAll f (ns ++ [n]) = rewordAll f ns ++ [n.reword f] := by
  rw [rewordAll_append, rewordAll, rewordAll]

mutual

theorem Node.reword_id (n : Node) : n.reword id = n := by
  match n with
  | .literal text => rw [Node.reword, id]
  | .variable name => rw [Node.reword]
  | .block kind name body => rw [Node.reword, rewordAll_id body]

theorem rewordAll_id (ns : List Node) : rewordAll id ns = ns := by
  match ns with
  | [] => rw [rewordAll]
  | n :: ns => rw [rewordAll, n.reword_id, rewordAll_id ns]

end

def Lexeme.reword (f : String → String) : Lexeme → Lexeme
  | .literal text => .literal (f text)
  | .tag t => .tag t

theorem Lexeme.reword_id (l : Lexeme) : l.reword id = l := by
  cases l <;> rfl

/-- The same block with other literals before it, elsewhere in the text. -/
structure OpenBlock.Reworded (f : String → String) (b c : OpenBlock) : Prop where
  kind : c.kind = b.kind
  name : c.name = b.name
  before : c.before = rewordAll f b.before

/-- The result of a reader, without the place of its fault. -/
def unplaced {α : Type} (x : Except SyntaxError α) : Except Fault α :=
  x.mapError SyntaxError.fault

@[simp] theorem unplaced_ok {α : Type} (a : α) :
    unplaced (.ok a : Except SyntaxError α) = .ok a := rfl
@[simp] theorem unplaced_error {α : Type} (e : SyntaxError) :
    unplaced (.error e : Except SyntaxError α) = .error e.fault := rfl

/-- Words that differ in their literals are nested in step. -/
theorem unplaced_nest {f : String → String} {blocks blocks' : List OpenBlock}
    {siblings : List Node} {ts ts' : List Token}
    (hblocks : List.Forall₂ (OpenBlock.Reworded f) blocks blocks')
    (hword : ts'.map Token.lexeme = ts.map fun t => t.lexeme.reword f) :
    unplaced (nest blocks' (rewordAll f siblings) ts') =
      unplaced ((nest blocks siblings ts).map (rewordAll f)) := by
  fun_induction nest blocks siblings ts generalizing blocks' ts' with
  | case1 siblings =>
    obtain rfl := List.map_eq_nil_iff.mp hword
    cases hblocks
    rfl
  | case2 siblings b outer =>
    obtain rfl := List.map_eq_nil_iff.mp hword
    cases hblocks with
    | cons hb _ =>
      rw [nest]
      simp [Except.map, hb.kind, hb.name]
  | case3 blocks siblings t ts text ht ih =>
    obtain ⟨t', us, rfl, ht' : t'.lexeme = t.lexeme.reword f, hword⟩ :=
      List.map_eq_cons_iff.mp hword
    rw [ht, Lexeme.reword] at ht'
    have hrest := ih hblocks hword
    rw [rewordAll_concat, Node.reword] at hrest
    cases blocks' <;> simpa [nest, ht'] using hrest
  | case4 blocks siblings t ts name ht ih =>
    obtain ⟨t', us, rfl, ht' : t'.lexeme = t.lexeme.reword f, hword⟩ :=
      List.map_eq_cons_iff.mp hword
    rw [ht, Lexeme.reword] at ht'
    have hrest := ih hblocks hword
    rw [rewordAll_concat, Node.reword] at hrest
    cases blocks' <;> simpa [nest, ht'] using hrest
  | case5 blocks siblings t ts kind name ht ih =>
    obtain ⟨t', us, rfl, ht' : t'.lexeme = t.lexeme.reword f, hword⟩ :=
      List.map_eq_cons_iff.mp hword
    rw [ht, Lexeme.reword] at ht'
    have hopened : OpenBlock.Reworded f ⟨kind, name, t.position, siblings⟩
        ⟨kind, name, t'.position, rewordAll f siblings⟩ := ⟨rfl, rfl, rfl⟩
    have hrest := ih (.cons hopened hblocks) hword
    rw [rewordAll] at hrest
    cases blocks' <;> simpa [nest, ht'] using hrest
  | case6 siblings t ts kind ht =>
    obtain ⟨t', us, rfl, ht' : t'.lexeme = t.lexeme.reword f, hword⟩ :=
      List.map_eq_cons_iff.mp hword
    rw [ht, Lexeme.reword] at ht'
    cases hblocks
    simp [nest, ht', Except.map]
  | case7 siblings t ts b outer ht ih =>
    obtain ⟨t', us, rfl, ht' : t'.lexeme = t.lexeme.reword f, hword⟩ :=
      List.map_eq_cons_iff.mp hword
    rw [ht, Lexeme.reword] at ht'
    cases hblocks with
    | @cons _ c _ _ hb hblocks =>
      have hrest := ih hblocks hword
      rw [rewordAll_concat, Node.reword] at hrest
      simpa [nest, ht', hb.kind, hb.name, hb.before] using hrest
  | case8 siblings t ts kind ht b outer hk =>
    obtain ⟨t', us, rfl, ht' : t'.lexeme = t.lexeme.reword f, hword⟩ :=
      List.map_eq_cons_iff.mp hword
    rw [ht, Lexeme.reword] at ht'
    cases hblocks with
    | cons hb _ => simp [nest, ht', hb.kind, hb.name, hk, Except.map]

/-- What segments say, or the fault, their places aside. -/
def worded (x : Except SyntaxError (List Segment)) : Except Fault (List Lexeme) :=
  unplaced (x.map (·.map (·.token.lexeme)))

@[simp] theorem worded_error (e : SyntaxError) : worded (.error e) = .error e.fault := rfl

@[simp] theorem worded_literal (n : Nat) (s : List Char) :
    worded (.ok (literalSegment n s)) = .ok (literalLexeme s) :=
  congrArg Except.ok (lexemes_literalSegment n s)

/-- A literal and a tag in front. -/
theorem worded_map_tag (x : Except SyntaxError (List Segment)) (n : Nat) (lead : List Char)
    (indent source tail : List Char) (tag : Tag) (k : Nat) :
    worded (x.map fun rest =>
        literalSegment n lead ++ ⟨indent, source, tail, ⟨.tag tag, k⟩⟩ :: rest) =
      (worded x).map fun word => literalLexeme lead ++ .tag tag :: word := by
  cases x with
  | error e => rfl
  | ok rest =>
    refine congrArg Except.ok ?_
    dsimp only
    rw [List.map_append, lexemes_literalSegment, List.map_cons]

/-- What a text says, or its fault. -/
def wording (s : List Char) : Except Fault (List Lexeme) :=
  worded (segments s)

/-- The wording of a text tells its tree. -/
theorem unplaced_parse {f : String → String} {text text' : String}
    (h : wording text'.toList = (wording text.toList).map (·.map (·.reword f))) :
    unplaced (parse text') = unplaced ((parse text).map (rewordAll f)) := by
  unfold wording worded at h
  unfold parse tokenize
  cases hsegs : segments text.toList with
  | error e =>
    cases hsegs' : segments text'.toList with
    | error e' =>
      rw [hsegs, hsegs'] at h
      exact congrArg Except.error (Except.error.inj h)
    | ok segs' =>
      rw [hsegs, hsegs'] at h
      cases h
  | ok segs =>
    cases hsegs' : segments text'.toList with
    | error e' =>
      rw [hsegs, hsegs'] at h
      cases h
    | ok segs' =>
      rw [hsegs, hsegs'] at h
      have hword : (segs'.map Segment.token).map Token.lexeme =
          (segs.map Segment.token).map fun t => t.lexeme.reword f := by
        have hwords := Except.ok.inj h
        dsimp only at hwords
        rw [List.map_map] at hwords
        rw [List.map_map, List.map_map]
        exact hwords
      have hnest := @unplaced_nest f [] [] [] _ _ .nil hword
      rw [rewordAll] at hnest
      exact hnest

/-- Texts that say the same have the same tree. -/
theorem unplaced_parse_eq {text text' : String} (h : wording text'.toList = wording text.toList) :
    unplaced (parse text') = unplaced (parse text) := by
  have hparse := @unplaced_parse id text text' (by
    rw [h]
    cases wording text.toList with
    | error fault => rfl
    | ok word => simp [Except.map, Lexeme.reword_id])
  rw [hparse]
  cases parse text with
  | error e => rfl
  | ok nodes => exact congrArg Except.ok (rewordAll_id nodes)

end Promptsmith.Template
