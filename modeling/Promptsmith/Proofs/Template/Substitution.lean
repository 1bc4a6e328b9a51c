import Promptsmith.Template.Node
import Promptsmith.Template.Render

/-!
# Substituted values are data

The text of a value is written as it stands wherever its name is a variable, and has no other effect
on the output. So for a name that no block depends on, the output is one fixed list of texts joined
by the value's text.
-/
namespace Promptsmith.Template

mutual

/-- The names that the blocks of a node depend on, at any depth. -/
def Node.blockNames : Node → List String
  | .literal _ => []
  | .variable _ => []
  | .block _ name body => name :: blockNamesIn body

/-- The names that the blocks of nodes depend on, at any depth. -/
def blockNamesIn : List Node → List String
  | [] => []
  | n :: ns => n.blockNames ++ blockNamesIn ns

end

/-- Two lists of texts with the last of the one and the first of the other run together. -/
def splice : List String → List String → List String
  | [], qs => qs
  | [p], [] => [p]
  | [p], q :: qs => (p ++ q) :: qs
  | p :: p' :: ps, qs => p :: splice (p' :: ps) qs

theorem splice_cons_ne_nil (p : String) (ps qs : List String) : splice (p :: ps) qs ≠ [] := by
  cases ps with
  | nil => cases qs <;> simp [splice]
  | cons p' ps => simp [splice]

theorem intercalate_splice (sep : String) (ps qs : List String) :
    sep.intercalate (splice ps qs) = sep.intercalate ps ++ sep.intercalate qs := by
  fun_induction splice ps qs with
  | case1 qs => simp
  | case2 p => simp
  | case3 p q qs => simp
  | case4 p p' ps qs ih =>
    rw [String.intercalate_cons_of_ne_nil (splice_cons_ne_nil p' ps qs), ih,
      String.intercalate_cons_cons]
    simp only [String.append_assoc]

/-- For the values with a property the output is the same texts joined by the value's own. -/
def JoinedOn (P : Value → Prop) (output : Value → String) : Prop :=
  ∃ pieces : List String, ∀ v, P v → output v = String.intercalate v.display pieces

/-- The output is the same texts joined by the value's own, whatever the value. -/
def Joined (output : Value → String) : Prop :=
  ∃ pieces : List String, ∀ v, output v = String.intercalate v.display pieces

/-- Blocks take the values with a property alike. -/
def TakenAlike (P : Value → Prop) : Prop :=
  ∃ truthy items, ∀ v, P v → v.truthy = truthy ∧ v.items? = items

section

variable {P : Value → Prop}

theorem joinedOn_const (text : String) : JoinedOn P fun _ => text :=
  ⟨[text], fun _ _ => by simp⟩

theorem joinedOn_display : JoinedOn P Value.display :=
  ⟨["", ""], fun _ _ => by simp⟩

theorem JoinedOn.append {f g : Value → String} (hf : JoinedOn P f) (hg : JoinedOn P g) :
    JoinedOn P fun v => f v ++ g v := by
  obtain ⟨ps, hps⟩ := hf
  obtain ⟨qs, hqs⟩ := hg
  refine ⟨splice ps qs, ?_⟩
  intro v hv
  rw [intercalate_splice, ← hps v hv, ← hqs v hv]

theorem joinedOn_join {α : Type} {f : α → Value → String} (h : ∀ x, JoinedOn P (f x))
    (xs : List α) : JoinedOn P fun v => String.join (xs.map fun x => f x v) := by
  induction xs with
  | nil => exact joinedOn_const ""
  | cons x xs ih => simpa using (h x).append ih

theorem JoinedOn.congr {f g : Value → String} (hg : JoinedOn P g) (h : ∀ v, P v → f v = g v) :
    JoinedOn P f := by
  obtain ⟨pieces, hpieces⟩ := hg
  exact ⟨pieces, fun v hv => (h v hv).trans (hpieces v hv)⟩

end

theorem lookup_put_of_ne {name x : String} (h : name ≠ x) (context : Fields)
    (scopes : List Frame) (v : Value) :
    lookup (context.put x v) scopes name = lookup context scopes name := by
  unfold lookup
  cases LoopVariable.ofName? name with
  | none => simp [Fields.get, Fields.get?_put_of_ne, h]
  | some loop => rfl

theorem lookup_put_self {x : String} (hx : LoopVariable.ofName? x = none) (context : Fields)
    (scopes : List Frame) (v : Value) : lookup (context.put x v) scopes x = v := by
  simp [lookup, hx, Fields.get]

/-- What a name in a block stands for is always the same, or blocks take it alike. -/
theorem exists_taken {P : Value → Prop} {x : String} (hx : LoopVariable.ofName? x = none)
    (context : Fields) (scopes : List Frame) {name : String} (h : name ≠ x ∨ TakenAlike P) :
    ∃ truthy items, ∀ v, P v → (lookup (context.put x v) scopes name).truthy = truthy ∧
      (lookup (context.put x v) scopes name).items? = items := by
  by_cases hname : name = x
  · subst hname
    simp only [lookup_put_self hx]
    exact h.resolve_left (not_not_intro rfl)
  · simp only [lookup_put_of_ne hname]
    exact ⟨_, _, fun _ _ => ⟨rfl, rfl⟩⟩

mutual

/-- The value shows in the output of a node as its own text, and otherwise in what blocks make of it
at most. -/
theorem Node.joinedOn_render {P : Value → Prop} {x : String}
    (hx : LoopVariable.ofName? x = none) (context : Fields) (n : Node)
    (h : x ∉ n.blockNames ∨ TakenAlike P) (scopes : List Frame) :
    JoinedOn P fun v => n.render (context.put x v) scopes := by
  match n with
  | .literal text => simpa only [Node.render] using joinedOn_const text
  | .variable name =>
    simp only [Node.render]
    by_cases hname : name = x
    · subst hname
      simpa only [lookup_put_self hx] using joinedOn_display
    · simpa only [lookup_put_of_ne hname] using joinedOn_const _
  | .block kind name body =>
    rw [Node.blockNames, List.mem_cons, not_or] at h
    obtain ⟨truthy, items, htaken⟩ :=
      exists_taken hx context scopes (h.imp_left fun h => Ne.symm h.1)
    have hbody := joinedOn_renderAll hx context body (h.imp_left And.right)
    match kind with
    | .each =>
      cases items with
      | none =>
        refine (joinedOn_const "").congr ?_
        intro v hv
        simp only [Node.render, (htaken v hv).2]
      | some items =>
        refine (joinedOn_join (fun f => hbody (f :: scopes)) (frames items)).congr ?_
        intro v hv
        simp only [Node.render, (htaken v hv).2]
    | .when =>
      have hbranch : JoinedOn P fun v =>
          if truthy then renderAll (context.put x v) scopes body else "" := by
        cases truthy with
        | true => exact hbody scopes
        | false => exact joinedOn_const ""
      refine hbranch.congr ?_
      intro v hv
      rw [Node.render, (htaken v hv).1]
    | .unless =>
      have hbranch : JoinedOn P fun v =>
          if truthy then "" else renderAll (context.put x v) scopes body := by
        cases truthy with
        | true => exact joinedOn_const ""
        | false => exact hbody scopes
      refine hbranch.congr ?_
      intro v hv
      rw [Node.render, (htaken v hv).1]

theorem joinedOn_renderAll {P : Value → Prop} {x : String} (hx : LoopVariable.ofName? x = none)
    (context : Fields) (ns : List Node) (h : x ∉ blockNamesIn ns ∨ TakenAlike P)
    (scopes : List Frame) : JoinedOn P fun v => renderAll (context.put x v) scopes ns := by
  match ns with
  | [] => simpa only [renderAll] using joinedOn_const ""
  | n :: ns =>
    rw [blockNamesIn, List.mem_append, not_or] at h
    simp only [renderAll]
    exact (n.joinedOn_render hx context (h.imp_left And.left) scopes).append
      (joinedOn_renderAll hx context ns (h.imp_left And.right) scopes)

end

theorem joined_renderAll {x : String} (hx : LoopVariable.ofName? x = none) (context : Fields)
    (ns : List Node) (h : x ∉ blockNamesIn ns) (scopes : List Frame) :
    Joined fun v => renderAll (context.put x v) scopes ns := by
  obtain ⟨pieces, hpieces⟩ := joinedOn_renderAll (P := fun _ => True) hx context ns (.inl h) scopes
  exact ⟨pieces, fun v => hpieces v trivial⟩

/-- A name that is no loop variable and that no block depends on: whatever its value, the output is
the same texts joined by the text of the value. -/
theorem evaluate_eq_intercalate {nodes : List Node} {x : String}
    (hx : LoopVariable.ofName? x = none) (hblocks : x ∉ blockNamesIn nodes) (context : Fields) :
    ∃ pieces : List String, ∀ v : Value,
      evaluate nodes (context.put x v) = String.intercalate v.display pieces :=
  joined_renderAll hx context nodes hblocks []

/-- A loop that writes the name in each turn. -/
theorem evaluate_eq_intercalate_loop :
    let nodes : List Node := [.block .each "ys" [.variable "x", .variable "this"], .literal "."]
    let context : Fields := [("x", .null), ("ys", .list [.int 1, .text "\x7b\x7bx\x7d\x7d"])]
    LoopVariable.ofName? "x" = none ∧ "x" ∉ blockNamesIn nodes ∧
      ∃ pieces : List String, ∀ v : Value,
        evaluate nodes (context.put "x" v) = String.intercalate v.display pieces := by
  intro nodes context
  have hx : LoopVariable.ofName? "x" = none := by decide
  have hblocks : "x" ∉ blockNamesIn nodes := by simp [nodes, blockNamesIn, Node.blockNames]
  exact ⟨hx, hblocks, evaluate_eq_intercalate hx hblocks context⟩

end Promptsmith.Template
