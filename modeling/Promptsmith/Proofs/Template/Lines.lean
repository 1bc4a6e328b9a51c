import Mathlib
import Promptsmith.Proofs.Template.Prefix

/-!
# Templates compose by whole lines

Fragments that consist of whole lines can be put one after the other, and around one of them a block
whose two tags stand on lines of their own. The parts are rendered as they are alone, and the lines
of the tags add nothing.
-/
namespace Promptsmith.Template

open Promptsmith.Text

/-! ### Trees in turn -/

/-- Two trees in turn; a literal that ends the one and a literal that starts the other are one. -/
def joinNodes : List Node → List Node → List Node
  | [], ms => ms
  | [.literal s], .literal t :: ms => .literal (s ++ t) :: ms
  | n :: ns, ms => n :: joinNodes ns ms

theorem renderAll_joinNodes (context : Fields) (scopes : List Frame) (ns ms : List Node) :
    renderAll context scopes (joinNodes ns ms) =
      renderAll context scopes ns ++ renderAll context scopes ms := by
  fun_induction joinNodes ns ms with
  | case1 ms => simp [renderAll]
  | case2 s t ms => simp [renderAll, Node.render, String.append_assoc]
  | case3 n ns ms _ ih => simp [renderAll, ih, String.append_assoc]

theorem renderAll_append (context : Fields) (scopes : List Frame) (ns ms : List Node) :
    renderAll context scopes (ns ++ ms) =
      renderAll context scopes ns ++ renderAll context scopes ms := by
  induction ns with
  | nil => simp [renderAll]
  | cons n ns ih => simp [renderAll, ih, String.append_assoc]

theorem joinWords_cons {l : Lexeme} {v w : List Lexeme}
    (h : v ≠ [] ∨ ∀ m ∈ w.head?, m.isLiteral = false) :
    joinWords (l :: v) w = l :: joinWords v w := by
  cases v with
  | cons m v => cases l <;> rfl
  | nil =>
    cases w with
    | nil => cases l <;> rfl
    | cons m w =>
      have hm : m.isLiteral = false := by simpa using h
      cases m with
      | literal t => cases hm
      | tag t => cases l <;> rfl

/-- Trees run together as their words do. -/
theorem lexemesOf_joinNodes (ns ms : List Node) :
    lexemesOf (joinNodes ns ms) = joinWords (lexemesOf ns) (lexemesOf ms) := by
  fun_induction joinNodes ns ms with
  | case1 ms => simp [joinWords]
  | case2 s t ms => simp [Node.lexemes, joinWords]
  | case3 n ns ms hne ih =>
    rw [lexemesOf_cons, lexemesOf_cons, ih]
    rcases n with text | name | ⟨kind, name, body⟩
    · rw [Node.lexemes, List.singleton_append, List.singleton_append]
      refine (joinWords_cons ?_).symm
      cases ns with
      | cons m ns => exact Or.inl (by cases m <;> simp [Node.lexemes])
      | nil =>
        -- A literal can only be followed by another node than a literal here.
        refine Or.inr ?_
        rcases ms with _ | ⟨t | name | ⟨kind, name, body⟩, ms⟩
        · simp
        · exact absurd rfl (hne text t ms rfl rfl)
        · simp [Node.lexemes, Lexeme.isLiteral]
        · simp [Node.lexemes, Lexeme.isLiteral]
    · rw [Node.lexemes]
      exact (joinWords_tag [] (lexemesOf ns) (lexemesOf ms) (.variable name)).symm
    · rw [Node.lexemes]
      simpa using (joinWords_tag (.tag (.opening kind name) :: lexemesOf body) (lexemesOf ns)
        (lexemesOf ms) (.closing kind)).symm

/-! ### Texts in turn -/

/-- The tree of a text says what its cut does. -/
theorem parse_eq_ok_iff_reads {text : String} {nodes : List Node} :
    parse text = .ok nodes ↔ Reads [] (Cut.ofText text.toList) (lexemesOf nodes) := by
  constructor
  · intro h
    obtain ⟨tokens, htokens, hlex⟩ := exists_tokens_of_parse h
    obtain ⟨segs, hsegs, rfl⟩ := exists_of_map_eq_ok htokens
    exact ⟨segs, segments_eq_ok_iff.mp hsegs, by rw [hlex, List.map_map]; rfl⟩
  · rintro ⟨segs, hreading, hlex⟩
    have htokens : tokenize text = .ok (segs.map Segment.token) := by
      rw [tokenize, segments_eq_ok_iff.mpr hreading]
      rfl
    have hnest : nest [] [] (segs.map Segment.token) = .ok nodes := by
      refine nest_eq_ok_iff.mpr ?_
      rw [← hlex, List.map_map]
      rfl
    rw [parse, htokens]
    exact hnest

/-- Whole lines are read as they are alone, and what follows them as it is after them. -/
theorem Reads.append_lines {s : List Char} (hclosed : Closed s) (hends : EndsLine s)
    {left t : List Char} (hleft : EndsLine left) {v w : List Lexeme}
    (hv : Reads [] (Cut.ofText s) v) (hw : Reads (left ++ s) (Cut.ofText t) w) :
    Reads left (Cut.ofText (s ++ t)) (joinWords v w) := by
  obtain ⟨segs, hsegs, rfl⟩ := hv
  obtain ⟨more, hmore, hword⟩ := hsegs.shift hleft
  rw [List.append_nil] at hmore
  rw [Cut.ofText_append_of_closed hclosed hends, ← hword]
  exact hmore.append (Cut.sound_ofText s) (by simpa using hends) (by simpa using hw)

/-! ### Fragments of whole lines -/

/-- A fragment of whole lines that is a template on its own and leaves no pair to what follows. -/
structure LineComplete (text : String) (nodes : List Node) : Prop where
  ends : EndsLine text.toList
  parses : parse text = .ok nodes
  closed : Closed text.toList

theorem LineComplete.reads {text : String} {nodes : List Node} (h : LineComplete text nodes)
    {left t : List Char} (hleft : EndsLine left) {w : List Lexeme}
    (hw : Reads (left ++ text.toList) (Cut.ofText t) w) :
    Reads left (Cut.ofText (text.toList ++ t)) (joinWords (lexemesOf nodes) w) :=
  .append_lines h.closed h.ends hleft (parse_eq_ok_iff_reads.mp h.parses) hw

/-- A text is read the same after whole lines as at the start. -/
theorem Reads.of_parse {text : String} {nodes : List Node} (h : parse text = .ok nodes)
    {left : List Char} (hleft : EndsLine left) :
    Reads left (Cut.ofText text.toList) (lexemesOf nodes) := by
  obtain ⟨segs, hsegs, hword⟩ := parse_eq_ok_iff_reads.mp h
  have hshift := hsegs.shift hleft
  rwa [List.append_nil, hword] at hshift

theorem parse_append {above below : String} {nodes more : List Node}
    (habove : LineComplete above nodes) (hbelow : parse below = .ok more) :
    parse (above ++ below) = .ok (joinNodes nodes more) := by
  rw [parse_eq_ok_iff_reads, String.toList_append, lexemesOf_joinNodes]
  have hstart : EndsLine [] := Or.inl rfl
  exact habove.reads hstart (.of_parse hbelow (hstart.append habove.ends))

/-! ### Tags on lines of their own -/

/-- Spaces and tabs. -/
def IsMargin (s : String) : Prop :=
  ∀ c ∈ s.toList, isIndent c

instance (s : String) : Decidable (IsMargin s) :=
  decidable_of_iff (s.toList.all isIndent = true) List.all_eq_true

theorem IsMargin.not_mem {s : String} (h : IsMargin s) : '{' ∉ s.toList := by
  intro hmem
  exact absurd (h _ hmem) (by decide)

/-- A tag with a line to itself. -/
def tagLine (indent : String) (tag : Tag) (blanks : String) : String :=
  indent ++ tag.print ++ blanks ++ "\n"

theorem endsLine_tagLine (indent : String) (tag : Tag) (blanks : String) :
    EndsLine (tagLine indent tag blanks).toList :=
  Or.inr ⟨(indent ++ tag.print ++ blanks).toList, by simp [tagLine]⟩

/-- The line of a block tag is read as the tag and nothing else. -/
theorem Reads.cons_tagLine {left s : List Char} {indent blanks : String} {t : Tag}
    {w : List Lexeme} (hleft : EndsLine left) (ht : (Lexeme.tag t).Plain) (hblock : t.isBlock)
    (hindent : IsMargin indent) (hblanks : IsMargin blanks)
    (h : Reads (left ++ (tagLine indent t blanks).toList) (Cut.ofText s) w) :
    Reads left (Cut.ofText ((tagLine indent t blanks).toList ++ s)) (.tag t :: w) := by
  obtain ⟨inner, hread, hpair⟩ := ht.markup.read?
  have htail : '{' ∉ blanks.toList ++ ['\n'] := by simpa using hblanks.not_mem
  have hcut : Cut.ofText ((tagLine indent t blanks).toList ++ s) =
      .pair ([] ++ indent.toList) ⟨t.print.toList, inner⟩
        ((Cut.ofText s).prepend (blanks.toList ++ ['\n'])) := by
    have htext : (tagLine indent t blanks).toList ++ s =
        indent.toList ++ (t.print.toList ++ (blanks.toList ++ ['\n'] ++ s)) := by simp [tagLine]
    rw [htext, Cut.ofText_append hindent.not_mem, Cut.ofText_of_read? (hpair _),
      Cut.ofText_append htail]
    simp [Cut.prepend]
  have halone : Alone (left ++ [] ++ indent.toList)
      (blanks.toList ++ ['\n'] ++ (Cut.ofText s).text) indent.toList
      (blanks.toList ++ ['\n']) := by
    refine ⟨⟨left, by simp, hleft⟩, hindent, ?_⟩
    simpa using LineEnd.lf blanks.toList (Cut.ofText s).text hblanks
  rw [hcut]
  exact .alone hread hblock halone (by simpa [tagLine] using h)

/-- A block whose tags have lines to themselves is one node between the nodes of what stands above
and below it. -/
theorem parse_block {above body below : String} {a b c : List Node} (habove : LineComplete above a)
    (hbody : LineComplete body b) (hbelow : parse below = .ok c) (kind : BlockKind) {name : String}
    (hname : isName name.toList) {i₁ b₁ i₂ b₂ : String} (hi₁ : IsMargin i₁) (hb₁ : IsMargin b₁)
    (hi₂ : IsMargin i₂) (hb₂ : IsMargin b₂) :
    parse (above ++ tagLine i₁ (.opening kind name) b₁ ++ body ++ tagLine i₂ (.closing kind) b₂ ++
      below) = .ok (a ++ .block kind name b :: c) := by
  have hstart : EndsLine [] := Or.inl rfl
  have hopened := hstart.append habove.ends
  have hinside := hopened.append (endsLine_tagLine i₁ (.opening kind name) b₁)
  have hclosed := hinside.append hbody.ends
  have hlast := hclosed.append (endsLine_tagLine i₂ (.closing kind) b₂)
  -- The parts are read from the last to the first.
  have hclosing := Reads.cons_tagLine (t := .closing kind) hclosed trivial rfl hi₂ hb₂
    (.of_parse hbelow hlast)
  have hopening := Reads.cons_tagLine (t := .opening kind name) hopened hname rfl hi₁ hb₁
    (hbody.reads hinside hclosing)
  have hall := habove.reads hstart hopening
  rw [joinWords_of_tag, joinWords_of_tag] at hall
  rw [parse_eq_ok_iff_reads]
  simpa [Node.lexemes] using hall

/-- What a block adds to the output, where `v` is the value of its name. -/
def contribution (context : Fields) (v : Value) (body : List Node) : BlockKind → String
  | .each => String.join ((frames (v.items?.getD [])).map fun f => renderAll context [f] body)
  | .when => if v.truthy then evaluate body context else ""
  | .unless => if v.truthy then "" else evaluate body context

theorem render_block {name : String} (hname : LoopVariable.ofName? name = none)
    (context : Fields) (kind : BlockKind) (body : List Node) :
    (Node.block kind name body).render context [] =
      contribution context (context.get name) body kind := by
  have hlookup : lookup context [] name = context.get name := by simp [lookup, hname]
  cases kind
  · rw [Node.render, hlookup, contribution]
    cases (context.get name).items? with
    | none => simp [frames]
    | some items => rfl
  · rw [Node.render, hlookup, contribution, evaluate]
  · rw [Node.render, hlookup, contribution, evaluate]

/-- A fragment of whole lines is rendered in front of another text as it is alone. Between them a
block whose tags have lines to themselves adds what its body gives, and the lines of the tags add
nothing. -/
theorem render_lines {above body below : String} {a b c : List Node}
    (habove : LineComplete above a) (hbody : LineComplete body b) (hbelow : parse below = .ok c)
    (context : Fields) (kind : BlockKind) {name : String} (hname : isName name.toList)
    (hloop : LoopVariable.ofName? name = none) {i₁ b₁ i₂ b₂ : String} (hi₁ : IsMargin i₁)
    (hb₁ : IsMargin b₁) (hi₂ : IsMargin i₂) (hb₂ : IsMargin b₂) :
    render (above ++ tagLine i₁ (.opening kind name) b₁ ++ body ++ tagLine i₂ (.closing kind) b₂ ++
        below) context =
        .ok (evaluate a context ++ contribution context (context.get name) b kind ++
          evaluate c context) ∧
      render (above ++ below) context = .ok (evaluate a context ++ evaluate c context) := by
  constructor
  · rw [render, parse_block habove hbody hbelow kind hname hi₁ hb₁ hi₂ hb₂]
    refine congrArg Except.ok ?_
    simp only [evaluate, renderAll_append, renderAll, render_block hloop, String.append_assoc]
  · rw [render, parse_append habove hbelow]
    exact congrArg Except.ok (renderAll_joinNodes context [] a c)

/-- A list between a title and a last line. -/
theorem render_lines_list :
    let above := "# Tasks\n"
    let body := "- \x7b\x7bthis\x7d\x7d\x7b\x7b#unless @last\x7d\x7d,\x7b\x7b/unless\x7d\x7d\n"
    let below := "\x7b\x7bnote\x7d\x7d"
    let a : List Node := [.literal "# Tasks\n"]
    let b : List Node := [.literal "- ", .variable "this",
      .block .unless "@last" [.literal ","], .literal "\n"]
    let c : List Node := [.variable "note"]
    let context : Fields := [("tasks", .list [.text "a", .int 2]), ("note", .text "End.")]
    LineComplete above a ∧ LineComplete body b ∧ parse below = .ok c ∧ isName "tasks".toList ∧
      LoopVariable.ofName? "tasks" = none ∧ IsMargin "  " ∧ IsMargin "\t" ∧ IsMargin "" ∧
      render (above ++ tagLine "  " (.opening .each "tasks") "\t" ++ body ++
          tagLine "" (.closing .each) "" ++ below) context =
        .ok (evaluate a context ++ contribution context (context.get "tasks") b .each ++
          evaluate c context) ∧
      render (above ++ below) context = .ok (evaluate a context ++ evaluate c context) := by
  intro above body below a b c context
  have habove : LineComplete above a :=
    ⟨Or.inr ⟨"# Tasks".toList, by decide⟩, by cbv, by decide +kernel⟩
  have hbody : LineComplete body b :=
    ⟨Or.inr ⟨body.toList.dropLast, by decide⟩, by cbv, by decide +kernel⟩
  have hbelow : parse below = .ok c := by cbv
  have hname : isName "tasks".toList := by decide
  have hloop : LoopVariable.ofName? "tasks" = none := by decide
  have hi : IsMargin "  " := by decide
  have hb : IsMargin "\t" := by decide
  have he : IsMargin "" := by decide
  exact ⟨habove, hbody, hbelow, hname, hloop, hi, hb, he,
    render_lines habove hbody hbelow context .each hname hloop hi hb he he⟩

end Promptsmith.Template
