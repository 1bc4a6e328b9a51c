import Promptsmith.Proofs.Template.Scanning

/-!
# What a rendering may depend on

Nodes can be rendered by a walk that keeps one stack of loop turns and one buffer: a loop pushes a
turn, walks its body and pops the turn again. What a walk writes depends on the values of the names
that occur and on the innermost turn, and it leaves the stack as it found it.
-/
namespace Promptsmith.Template

/-! ### The walk -/

/-- The turns of the loops around, the innermost first, and the text written so far. -/
structure Walk where
  scopes : List Frame
  output : String

namespace Walk

def write (w : Walk) (text : String) : Walk :=
  { w with output := w.output ++ text }

def push (w : Walk) (f : Frame) : Walk :=
  { w with scopes := f :: w.scopes }

def pop (w : Walk) : Walk :=
  { w with scopes := w.scopes.tail }

@[simp] theorem write_empty (w : Walk) : w.write "" = w := by
  simp [write]

@[simp] theorem write_write (w : Walk) (s t : String) :
    (w.write s).write t = w.write (s ++ t) := by
  simp [write, String.append_assoc]

@[simp] theorem scopes_write (w : Walk) (text : String) : (w.write text).scopes = w.scopes := rfl

@[simp] theorem pop_write_push (w : Walk) (f : Frame) (text : String) :
    ((w.push f).write text).pop = w.write text := rfl

end Walk

mutual

def Node.walk (context : Fields) : Node → Walk → Walk
  | .literal text, w => w.write text
  | .variable name, w => w.write (lookup context w.scopes name).display
  | .block .each name body, w =>
    match (lookup context w.scopes name).items? with
    | none => w
    | some items => (frames items).foldl (fun w f => (walkAll context body (w.push f)).pop) w
  | .block .when name body, w =>
    if (lookup context w.scopes name).truthy then walkAll context body w else w
  | .block .unless name body, w =>
    if (lookup context w.scopes name).truthy then w else walkAll context body w

/-- Walks through nodes in order. -/
def walkAll (context : Fields) : List Node → Walk → Walk
  | [], w => w
  | n :: ns, w => walkAll context ns (n.walk context w)

end

/-- Turns that write something each write it all, one after the other. -/
theorem Walk.foldl_write (text : List Frame → Frame → String) (fs : List Frame) (w : Walk) :
    fs.foldl (fun w f => w.write (text w.scopes f)) w =
      w.write (String.join (fs.map (text w.scopes))) := by
  induction fs generalizing w with
  | nil => simp
  | cons f fs ih => rw [List.foldl_cons, ih, Walk.write_write, Walk.scopes_write]; simp

mutual

/-- A node is walked by writing what it renders to; the stack is as before. -/
theorem Node.walk_eq (context : Fields) (n : Node) (w : Walk) :
    n.walk context w = w.write (n.render context w.scopes) := by
  match n with
  | .literal text => rw [Node.walk, Node.render]
  | .variable name => rw [Node.walk, Node.render]
  | .block .each name body =>
    rw [Node.walk, Node.render]
    cases (lookup context w.scopes name).items? with
    | none => simp
    | some items =>
      have hturn : ∀ (w : Walk) (f : Frame), (walkAll context body (w.push f)).pop =
          w.write (renderAll context (f :: w.scopes) body) := by
        intro w f
        rw [walkAll_eq context body (w.push f), Walk.pop_write_push]
        rfl
      simp only [hturn]
      exact Walk.foldl_write (fun scopes f => renderAll context (f :: scopes) body) _ w
  | .block .when name body =>
    rw [Node.walk, Node.render]
    split
    · exact walkAll_eq context body w
    · simp
  | .block .unless name body =>
    rw [Node.walk, Node.render]
    split
    · simp
    · exact walkAll_eq context body w

theorem walkAll_eq (context : Fields) (ns : List Node) (w : Walk) :
    walkAll context ns w = w.write (renderAll context w.scopes ns) := by
  match ns with
  | [] => simp [walkAll, renderAll]
  | n :: ns =>
    rw [walkAll, renderAll, n.walk_eq context w, walkAll_eq context ns, Walk.write_write,
      Walk.scopes_write]

end

/-! ### What is read -/

/-- The contexts give the same value to each of the names that is no loop variable. -/
def SameValues (names : List String) (context context' : Fields) : Prop :=
  ∀ name ∈ names, LoopVariable.ofName? name = none → context.get name = context'.get name

theorem SameValues.mono {names more : List String} {context context' : Fields}
    (h : SameValues more context context') (hsub : names ⊆ more) :
    SameValues names context context' :=
  fun name hname => h name (hsub hname)

theorem lookup_congr {names : List String} {context context' : Fields}
    {scopes scopes' : List Frame} {name : String} (hvalues : SameValues names context context')
    (hscopes : scopes.head? = scopes'.head?) (hname : name ∈ names) :
    lookup context scopes name = lookup context' scopes' name := by
  unfold lookup
  cases hloop : LoopVariable.ofName? name with
  | none => exact hvalues name hname hloop
  | some v => rw [hscopes]

mutual

theorem Node.render_congr {context context' : Fields} {scopes scopes' : List Frame} (n : Node)
    (hvalues : SameValues n.names context context') (hscopes : scopes.head? = scopes'.head?) :
    n.render context scopes = n.render context' scopes' := by
  match n with
  | .literal text => rw [Node.render, Node.render]
  | .variable name =>
    rw [Node.names] at hvalues
    rw [Node.render, Node.render, lookup_congr hvalues hscopes (List.mem_singleton_self name)]
  | .block kind name body =>
    rw [Node.names] at hvalues
    have hname := lookup_congr hvalues hscopes List.mem_cons_self
    have hbody := hvalues.mono (List.subset_cons_self name (namesIn body))
    match kind with
    | .each =>
      rw [Node.render, Node.render, hname]
      cases (lookup context' scopes' name).items? with
      | none => rfl
      | some items =>
        -- Inside the loop both stacks have the turn on top, whatever lies below it.
        have hturn : ∀ f : Frame, renderAll context (f :: scopes) body =
            renderAll context' (f :: scopes') body :=
          fun f => renderAll_congr body hbody rfl
        simp only [hturn]
    | .when =>
      rw [Node.render, Node.render, hname, renderAll_congr body hbody hscopes]
    | .unless =>
      rw [Node.render, Node.render, hname, renderAll_congr body hbody hscopes]

/-- Nodes render the same where the names that occur have the same values and the innermost turns
are the same. -/
theorem renderAll_congr {context context' : Fields} {scopes scopes' : List Frame} (ns : List Node)
    (hvalues : SameValues (namesIn ns) context context')
    (hscopes : scopes.head? = scopes'.head?) :
    renderAll context scopes ns = renderAll context' scopes' ns := by
  match ns with
  | [] => rw [renderAll, renderAll]
  | n :: ns =>
    rw [namesIn] at hvalues
    have hfirst := hvalues.mono (List.subset_append_left n.names (namesIn ns))
    have hrest := hvalues.mono (List.subset_append_right n.names (namesIn ns))
    rw [renderAll, renderAll, n.render_congr hfirst hscopes, renderAll_congr ns hrest hscopes]

end

theorem sameValues_put (names : List String) (context : Fields) (x : LoopVariable) (v : Value) :
    SameValues names (context.put x.name v) context := by
  intro name _ hloop
  have hne : name ≠ x.name := by
    rintro rfl
    rw [LoopVariable.ofName?_name] at hloop
    cases hloop
  rw [Fields.get, Fields.get, Fields.get?_put_of_ne context v hne]

/-- Nodes render to the same text where the contexts agree on the names that occur, loop variables
aside, and the stacks have the same innermost turn or none; walks append that text and leave each
stack as it was. So what a context holds under the name of a loop variable is never read, the turns
of outer loops do not show through an inner one, and any other name has inside loops the value that
the context gives it. -/
theorem renders_locally {ns : List Node} {context context' : Fields} {scopes scopes' : List Frame}
    (hvalues : SameValues (namesIn ns) context context')
    (hscopes : scopes.head? = scopes'.head?) :
    (∃ text, renderAll context scopes ns = text ∧ renderAll context' scopes' ns = text ∧
      (∀ output, walkAll context ns ⟨scopes, output⟩ = ⟨scopes, output ++ text⟩) ∧
      ∀ output, walkAll context' ns ⟨scopes', output⟩ = ⟨scopes', output ++ text⟩) ∧
    (∀ (x : LoopVariable) (v : Value),
      renderAll (context.put x.name v) scopes ns = renderAll context scopes ns) ∧
    (∀ (f : Frame) (outer : List Frame),
      renderAll context (f :: outer) ns = renderAll context [f] ns) ∧
    ∀ name, LoopVariable.ofName? name = none → lookup context scopes name = context.get name := by
  have hsame := renderAll_congr ns hvalues hscopes
  refine ⟨⟨renderAll context scopes ns, rfl, hsame.symm, ?_, ?_⟩, ?_, ?_, ?_⟩
  · intro output
    exact walkAll_eq context ns ⟨scopes, output⟩
  · intro output
    rw [hsame]
    exact walkAll_eq context' ns ⟨scopes', output⟩
  · intro x v
    exact renderAll_congr ns (sameValues_put _ context x v) rfl
  · intro f outer
    exact renderAll_congr ns (fun _ _ _ => rfl) rfl
  · intro name hloop
    rw [lookup, hloop]

/-- A loop over the items of each item, in two contexts that differ in the name of a loop variable
and in one that does not occur. -/
theorem renders_locally_rows :
    let ns : List Node := [
      .block .each "rows" [.block .each "this" [.variable "this", .variable "mark"]],
      .variable "this"]
    let rows : Value := .list [.list [.int 1, .text "b"], .tuple [], .text "c"]
    let context : Fields := [("this", .text "x"), ("rows", rows), ("mark", .text "!")]
    let context' : Fields := [("mark", .text "!"), ("other", .null), ("rows", rows)]
    let turn : Frame := ⟨.text "d", 0, 2⟩
    SameValues (namesIn ns) context context' ∧
      [turn].head? = [turn, ⟨.null, 3, 4⟩].head? ∧
      (∃ text, renderAll context [turn] ns = text ∧
        renderAll context' [turn, ⟨.null, 3, 4⟩] ns = text ∧
        (∀ output, walkAll context ns ⟨[turn], output⟩ = ⟨[turn], output ++ text⟩) ∧
        ∀ output, walkAll context' ns ⟨[turn, ⟨.null, 3, 4⟩], output⟩ =
          ⟨[turn, ⟨.null, 3, 4⟩], output ++ text⟩) ∧
      (∀ (x : LoopVariable) (v : Value),
        renderAll (context.put x.name v) [turn] ns = renderAll context [turn] ns) ∧
      (∀ (f : Frame) (outer : List Frame),
        renderAll context (f :: outer) ns = renderAll context [f] ns) ∧
      ∀ name, LoopVariable.ofName? name = none →
        lookup context [turn] name = context.get name := by
  intro ns rows context context' turn
  have hvalues : SameValues (namesIn ns) context context' := by
    intro name hname hloop
    simp only [ns, namesIn, Node.names, List.append_nil, List.cons_append, List.nil_append,
      List.mem_cons, List.not_mem_nil, or_false] at hname
    rcases hname with rfl | rfl | rfl | rfl | rfl
    · rfl
    · exact absurd hloop (by decide)
    · exact absurd hloop (by decide)
    · rfl
    · exact absurd hloop (by decide)
  exact ⟨hvalues, rfl, renders_locally hvalues rfl⟩

end Promptsmith.Template
