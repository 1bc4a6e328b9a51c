import Promptsmith.Proofs.Template.Printing

/-!
# Lists written by a loop

A template may write a list itself: a loop over the items with a separator after each but the last.
Whatever the separator, this joins the texts of the items with it; with a comma and a space it is
what the name of the list alone stands for.
-/
namespace Promptsmith.Template

open Promptsmith.Text

/-! ### Tags next to one another -/

theorem Tag.exists_print (t : Tag) : ∃ r, t.print.toList = '{' :: (r ++ ['}']) := by
  match t with
  | .variable name => exact ⟨'{' :: (name.toList ++ ['}']), by simp [print]⟩
  | .opening kind name =>
    exact ⟨'{' :: ((kind.openingTag name).toList ++ ['}']), by simp [print]⟩
  | .closing kind => exact ⟨'{' :: (kind.closingTag.toList ++ ['}']), by simp [print]⟩

/-- A line with a closing brace on it is not blank. -/
theorem not_alone_of_brace_before {r after indent tail : List Char} :
    ¬ Alone (r ++ ['}']) after indent tail := by
  rintro ⟨⟨lines, hbefore, hlines⟩, hblank, -⟩
  rcases List.eq_nil_or_concat indent with rfl | ⟨front, c, rfl⟩
  · rw [List.append_nil] at hbefore
    rcases hlines with rfl | ⟨q, rfl⟩
    · simp at hbefore
    · simp at hbefore
  · rw [List.concat_eq_append, ← List.append_assoc] at hbefore
    obtain ⟨-, hc⟩ := List.append_inj' hbefore rfl
    obtain rfl := (List.cons.inj hc).1
    exact absurd (hblank '}' (by simp)) (by decide)

theorem not_alone_of_brace_after {before r indent tail : List Char} :
    ¬ Alone before ('{' :: r) indent tail := by
  intro halone
  have hsome := lineEnd?_eq_some_iff.mpr halone.ends
  simp [lineEnd?, isIndent] at hsome

section

variable {left : List Char} {word : List Lexeme}

/-- A tag with another one right after it is not alone. -/
theorem NoneAlone.cons_tag_tag {t u : Tag}
    (h : NoneAlone (left ++ t.print.toList) (.tag u :: word)) :
    NoneAlone left (.tag t :: .tag u :: word) := by
  refine noneAlone_cons_iff.mpr ⟨fun _ => wholeMargin?_eq_none_iff.mpr ?_, h⟩
  intro indent tail
  obtain ⟨r, hr⟩ := u.exists_print
  rw [written_cons, Lexeme.print, hr]
  exact not_alone_of_brace_after

/-- Nor is a tag with another one right before it. -/
theorem NoneAlone.cons_tag_of_tag {t u : Tag}
    (h : NoneAlone (left ++ u.print.toList ++ t.print.toList) word) :
    NoneAlone (left ++ u.print.toList) (.tag t :: word) := by
  refine noneAlone_cons_iff.mpr ⟨fun _ => wholeMargin?_eq_none_iff.mpr ?_, h⟩
  intro indent tail
  obtain ⟨r, hr⟩ := u.exists_print
  rw [hr, ← List.cons_append, ← List.append_assoc]
  exact not_alone_of_brace_before

theorem NoneAlone.cons_literal {text : String} (h : NoneAlone (left ++ text.toList) word) :
    NoneAlone left (.literal text :: word) :=
  noneAlone_cons_iff.mpr ⟨nofun, h⟩

end

/-! ### The loop -/

/-- The loop that writes the items of a list with a separator after each but the last. -/
def joinLoop (list separator : String) : String :=
  "\x7b\x7b#each " ++ list ++ "\x7d\x7d\x7b\x7bthis\x7d\x7d\x7b\x7b#unless @last\x7d\x7d" ++
    separator ++ "\x7b\x7b/unless\x7d\x7d\x7b\x7b/each\x7d\x7d"

/-- The literal node of a text; there is none for the empty text. -/
def literalNode (text : String) : List Node :=
  if text = "" then [] else [.literal text]

def joinTree (list separator : String) : List Node :=
  [.block .each list [.variable "this", .block .unless "@last" (literalNode separator)]]

theorem printAll_literalNode (text : String) : printAll (literalNode text) = text := by
  unfold literalNode
  split
  · next h => rw [h, printAll]
  · simp [printAll, Node.print]

theorem printAll_joinTree (list separator : String) :
    printAll (joinTree list separator) = joinLoop list separator := by
  rw [← String.toList_inj]
  simp [joinTree, joinLoop, printAll, Node.print, printAll_literalNode, Tag.print,
    BlockKind.openingTag, BlockKind.closingTag, BlockKind.keyword]

theorem plainAll_joinTree {list separator : String} (hlist : isName list.toList)
    (hseparator : '{' ∉ separator.toList) : PlainAll (joinTree list separator) := by
  have hbody : PlainAll (literalNode separator) := by
    unfold literalNode
    split
    · trivial
    · next hne => simp [PlainAll, Node.Plain, hne, hseparator]
  have hthis : isName "this".toList := by decide
  have hlast : isName "@last".toList := by decide
  simp only [joinTree, PlainAll, Node.Plain]
  exact ⟨⟨hlist, hthis, by simp [Node.isLiteral], ⟨hlast, hbody⟩, by simp, trivial⟩, by simp,
    trivial⟩

theorem noneAlone_joinTree (list separator : String) :
    NoneAlone [] (lexemesOf (joinTree list separator)) := by
  unfold joinTree literalNode
  split
  · simp only [lexemesOf_cons, lexemesOf_nil, Node.lexemes, List.cons_append, List.nil_append,
      List.append_nil]
    exact .cons_tag_tag (.cons_tag_tag (.cons_tag_tag (.cons_tag_tag (.cons_tag_of_tag
      (noneAlone_nil _)))))
  · simp only [lexemesOf_cons, lexemesOf_nil, Node.lexemes, List.cons_append, List.nil_append,
      List.append_nil]
    exact .cons_tag_tag (.cons_tag_tag (.cons_tag_of_tag (.cons_literal (.cons_tag_tag
      (.cons_tag_of_tag (noneAlone_nil _))))))

theorem parse_of_tokenize {text : String} {tokens : List Token} {nodes : List Node}
    (htokens : tokenize text = .ok tokens) (hlex : tokens.map Token.lexeme = lexemesOf nodes) :
    parse text = .ok nodes := by
  rw [parse, htokens]
  exact nest_eq_ok_iff.mpr hlex.symm

theorem parse_joinLoop {list separator : String} (hlist : isName list.toList)
    (hseparator : '{' ∉ separator.toList) :
    parse (joinLoop list separator) = .ok (joinTree list separator) := by
  obtain ⟨tokens, htokens, hlex⟩ := exists_tokenize_printAll
    (plainAll_joinTree hlist hseparator) (noneAlone_joinTree list separator)
  rw [printAll_joinTree] at htokens
  exact parse_of_tokenize htokens hlex

theorem parse_variable {name : String} (hname : isName name.toList) :
    parse (Tag.variable name).print = .ok [.variable name] := by
  have hplain : PlainAll [.variable name] := by simp [PlainAll, Node.Plain, hname]
  have halone : NoneAlone [] (lexemesOf [.variable name]) := by
    simp only [lexemesOf_cons, lexemesOf_nil, Node.lexemes, List.append_nil]
    exact noneAlone_cons_iff.mpr ⟨nofun, noneAlone_nil _⟩
  obtain ⟨tokens, htokens, hlex⟩ := exists_tokenize_printAll hplain halone
  have hprint : printAll [.variable name] = (Tag.variable name).print := by
    simp [printAll, Node.print]
  rw [hprint] at htokens
  exact parse_of_tokenize htokens hlex

/-! ### Its turns -/

/-- Texts that are each but the last followed by a separator are joined by it. -/
theorem join_mapIdx_separated {α : Type} (separator : String) (text : α → String) (xs : List α) :
    String.join (xs.mapIdx fun i x => text x ++ if i + 1 = xs.length then "" else separator) =
      separator.intercalate (xs.map text) := by
  induction xs with
  | nil => simp
  | cons x xs ih =>
    cases xs with
    | nil => simp
    | cons y ys =>
      rw [List.mapIdx_cons, String.join_cons]
      simp only [List.length_cons, Nat.add_right_cancel_iff] at ih ⊢
      rw [ih]
      simp

theorem map_frames {α : Type} (g : Frame → α) (items : List Value) :
    (frames items).map g = items.mapIdx fun i x => g ⟨x, i, items.length⟩ := by
  refine List.ext_getElem? fun i => ?_
  simp [frames, Function.comp_def]

theorem renderAll_literalNode (context : Fields) (scopes : List Frame) (text : String) :
    renderAll context scopes (literalNode text) = text := by
  unfold literalNode
  split
  · next h => rw [h, renderAll]
  · simp [renderAll, Node.render]

theorem evaluate_joinTree {list : String} (separator : String) {context : Fields}
    {items : List Value} (hloop : LoopVariable.ofName? list = none)
    (hitems : (context.get list).items? = some items) :
    evaluate (joinTree list separator) context =
      separator.intercalate (items.map Value.display) := by
  have hlist : lookup context [] list = context.get list := by rw [lookup, hloop]
  have hturn : ∀ f : Frame, renderAll context [f]
      [.variable "this", .block .unless "@last" (literalNode separator)] =
        f.item.display ++ if f.index + 1 = f.length then "" else separator := by
    intro f
    have hthis : lookup context [f] "this" = f.item := by
      rw [lookup, show LoopVariable.ofName? "this" = some .this by decide]
      rfl
    have hlast : lookup context [f] "@last" = .bool (f.index + 1 == f.length) := by
      rw [lookup, show LoopVariable.ofName? "@last" = some .last by decide]
      rfl
    simp [renderAll, Node.render, hthis, hlast, Value.truthy, renderAll_literalNode]
  rw [evaluate, joinTree, renderAll, renderAll, Node.render, hlist, hitems, String.append_empty]
  simp only [hturn, map_frames]
  exact join_mapIdx_separated separator Value.display items

theorem display_of_items? {v : Value} {items : List Value} (h : v.items? = some items) :
    v.display = String.intercalate ", " (items.map Value.display) := by
  cases v with
  | list xs =>
    obtain rfl := Option.some.inj h
    rw [Value.display, Value.displayAll_eq_map]
  | tuple xs =>
    obtain rfl := Option.some.inj h
    rw [Value.display, Value.displayAll_eq_map]
  | _ => cases h

/-- The loop renders to the texts of the items joined by the separator, which may be any text
without an opening brace; with a comma and a space that is what the name of the list alone renders
to. -/
theorem render_joinLoop {list separator : String} {context : Fields} {items : List Value}
    (hlist : isName list.toList) (hloop : LoopVariable.ofName? list = none)
    (hseparator : '{' ∉ separator.toList) (hitems : (context.get list).items? = some items) :
    render (joinLoop list separator) context =
        .ok (separator.intercalate (items.map Value.display)) ∧
      (separator = ", " → render (joinLoop list separator) context =
        render ("\x7b\x7b" ++ list ++ "\x7d\x7d") context) := by
  have hjoin : render (joinLoop list separator) context =
      .ok (separator.intercalate (items.map Value.display)) := by
    rw [render, parse_joinLoop hlist hseparator]
    exact congrArg Except.ok (evaluate_joinTree separator hloop hitems)
  refine ⟨hjoin, ?_⟩
  rintro rfl
  have hname : render (Tag.variable list).print context = .ok (context.get list).display := by
    rw [render, parse_variable hlist, Except.map, evaluate, renderAll, renderAll, Node.render,
      lookup, hloop, String.append_empty]
  rw [hjoin, ← display_of_items? hitems, ← hname]
  rfl

/-- Items of several kinds, and a separator that holds line breaks and closing braces. -/
theorem render_joinLoop_mixed :
    let separator := "\n\x7d\x7d\t\n"
    let items : List Value := [.text "\x7b\x7bthis\x7d\x7d", .list [.int 1, .bool true], .null]
    let context : Fields := [("this", .null), ("xs-1", .tuple items)]
    isName "xs-1".toList ∧ LoopVariable.ofName? "xs-1" = none ∧ '{' ∉ separator.toList ∧
      (context.get "xs-1").items? = some items ∧
      render (joinLoop "xs-1" separator) context =
        .ok (separator.intercalate (items.map Value.display)) ∧
      (separator = ", " → render (joinLoop "xs-1" separator) context =
        render ("\x7b\x7b" ++ "xs-1" ++ "\x7d\x7d") context) := by
  intro separator items context
  have hlist : isName "xs-1".toList := by decide
  have hloop : LoopVariable.ofName? "xs-1" = none := by decide
  have hseparator : '{' ∉ separator.toList := by simp [separator]
  have hitems : (context.get "xs-1").items? = some items := rfl
  exact ⟨hlist, hloop, hseparator, hitems, render_joinLoop hlist hloop hseparator hitems⟩

end Promptsmith.Template
