import Promptsmith.Context
import Promptsmith.Host
import Promptsmith.Score
import Promptsmith.Template.Render

/-!
# Values that can be written

A host writes every number of no more digits than can be read back. Values that hold no longer
number can be written, and so can what a template shows of them and what is scored.
-/
namespace Promptsmith

/-- No number of the value has more digits than can be read back. -/
def Value.Spelt (v : Value) : Prop :=
  ∀ n ∈ v.numbers, n.natAbs < Decimal.tenTo Decimal.maxDigits

namespace Value

theorem numbersOfAll_eq_flatMap (xs : List Value) : numbersOfAll xs = xs.flatMap numbers := by
  induction xs with
  | nil => rfl
  | cons x xs ih => rw [numbersOfAll, ih, List.flatMap_cons]

theorem spelt_text (s : String) : (text s).Spelt := by simp [Spelt, numbers]
theorem spelt_null : null.Spelt := by simp [Spelt, numbers]
theorem spelt_bool (b : Bool) : (bool b).Spelt := by simp [Spelt, numbers]

/-- One digit is never too many. -/
theorem spelt_int {n : Int} (h : n.natAbs < 10) : (int n).Spelt := by
  have hten {k : Nat} (hk : k ≠ 0) : 10 ≤ Decimal.tenTo k := Nat.le_self_pow hk 10
  intro m hm
  obtain rfl := List.mem_singleton.mp hm
  exact Nat.lt_of_lt_of_le h (hten (by decide))

theorem spelt_list {xs : List Value} : (list xs).Spelt ↔ ∀ x ∈ xs, x.Spelt := by
  simp only [Spelt, numbers, numbersOfAll_eq_flatMap, List.mem_flatMap]
  exact ⟨fun h x hx n hn => h n ⟨x, hx, hn⟩, fun h n ⟨x, hx, hn⟩ => h x hx n hn⟩

theorem spelt_tuple {xs : List Value} : (tuple xs).Spelt ↔ ∀ x ∈ xs, x.Spelt := spelt_list

theorem spelt_texts (ss : List String) : (texts ss).Spelt := by
  refine spelt_list.mpr ?_
  intro x hx
  obtain ⟨s, -, rfl⟩ := List.mem_map.mp hx
  exact spelt_text s

theorem Spelt.items {v : Value} (h : v.Spelt) {xs : List Value} (hitems : v.items? = some xs) :
    ∀ x ∈ xs, x.Spelt := by
  cases v with
  | list ys =>
    cases hitems
    exact spelt_list.mp h
  | tuple ys =>
    cases hitems
    exact spelt_tuple.mp h
  | _ => cases hitems

/-- What a spelt value yields in turn is spelt. -/
theorem Spelt.iterate {v : Value} (h : v.Spelt) {xs : List Value} (hiterate : v.iterate = .ok xs) :
    ∀ x ∈ xs, x.Spelt := by
  have htexts {α : Type} (f : α → String) (as : List α) :
      ∀ x ∈ as.map fun a => text (f a), x.Spelt := by
    intro x hx
    obtain ⟨a, -, rfl⟩ := List.mem_map.mp hx
    exact spelt_text (f a)
  cases v with
  | list ys =>
    cases hiterate
    exact spelt_list.mp h
  | tuple ys =>
    cases hiterate
    exact spelt_tuple.mp h
  | map es =>
    cases hiterate
    exact htexts (·.1) es
  | text s =>
    cases hiterate
    exact htexts Char.toString s.toList
  | label l =>
    cases hiterate
    exact htexts Char.toString l.text.toList
  | _ => cases hiterate

end Value

theorem Host.write_eq_ok [Host] {vs : List Value} (h : ∀ v ∈ vs, v.Spelt) :
    write vs = .ok () := by
  have hnone : (vs.flatMap Value.numbers).findSome? overlong? = none := by
    rw [List.findSome?_eq_none_iff]
    intro n hn
    obtain ⟨v, hv, hn⟩ := List.mem_flatMap.mp hn
    exact spells (h v hv n hn)
  rw [write, hnone]

theorem Host.overlong_of_write [Host] {vs : List Value} {f : Failure} (h : write vs = .error f) :
    ∃ message, f = .overlong message := by
  unfold write at h
  split at h
  · next message _ => exact ⟨message, (Except.error.inj h).symm⟩
  · cases h

namespace Fields

theorem mem_put {fs : Fields} {name : String} {v : Value} {e : String × Value}
    (h : e ∈ fs.put name v) : e ∈ fs ∨ e = (name, v) := by
  induction fs with
  | nil => exact .inr (List.mem_singleton.mp h)
  | cons f fs ih =>
    obtain ⟨n, w⟩ := f
    rw [put] at h
    split at h
    · next hn =>
      subst hn
      rcases List.mem_cons.mp h with h | h
      · exact .inr h
      · exact .inl (List.mem_cons_of_mem _ h)
    · rcases List.mem_cons.mp h with h | h
      · exact .inl (List.mem_cons.mpr (.inl h))
      · exact (ih h).imp_left (List.mem_cons_of_mem _)

theorem mem_putAll {fs more : Fields} {e : String × Value} (h : e ∈ fs.putAll more) :
    e ∈ fs ∨ e ∈ more := by
  induction more generalizing fs with
  | nil => exact .inl h
  | cons f more ih =>
    rcases ih h with h | h
    · rcases mem_put h with h | h
      · exact .inl h
      · exact .inr (List.mem_cons.mpr (.inl h))
    · exact .inr (List.mem_cons_of_mem f h)

end Fields

/-- No value holds a number of more digits than can be read back. -/
def Fields.Spelt (values : Fields) : Prop :=
  ∀ entry ∈ values, entry.2.Spelt

namespace Fields.Spelt

variable {values : Fields}

theorem get (h : values.Spelt) (name : String) : (values.get name).Spelt := by
  unfold Fields.get get?
  cases hfound : List.lookup name values with
  | none => exact Value.spelt_null
  | some v =>
    obtain ⟨before, after, rfl, -⟩ := List.lookup_eq_some_iff.mp hfound
    exact h (name, v) (by simp)

theorem put (h : values.Spelt) (name : String) {v : Value} (hv : v.Spelt) :
    (values.put name v).Spelt := by
  intro entry hentry
  rcases mem_put hentry with hentry | rfl
  · exact h entry hentry
  · exact hv

end Fields.Spelt

theorem TechStack.spelt_value (stack : TechStack) : stack.value.Spelt := by
  cases stack with
  | line s => exact Value.spelt_text s
  | names ss => exact Value.spelt_texts ss

theorem PromptContext.spelt_flag (b : Option Bool) : (flag b).Spelt := by
  cases b with
  | none => exact Value.spelt_null
  | some b => exact Value.spelt_bool b

/-- The fields of a context hold no numbers of their own. -/
theorem PromptContext.spelt_toFields {c : PromptContext} (h : c.extras.Spelt) :
    c.toFields.Spelt := by
  simp only [toFields, Fields.Spelt, List.forall_mem_append, List.forall_mem_cons]
  refine ⟨⟨?_, ?_, ?_, ?_, ?_, ?_, ?_, ?_, ?_, ?_, List.forall_mem_nil _⟩, h⟩
  all_goals first
    | exact Value.spelt_text _
    | exact Value.spelt_texts _
    | exact c.techStack.spelt_value
    | exact spelt_flag _

namespace Template

theorem spelt_lookup {context : Fields} (hcontext : context.Spelt) {scopes : List Frame}
    (hscopes : ∀ f ∈ scopes, f.item.Spelt) {name : String}
    (hname : name ≠ LoopVariable.index.name) : (lookup context scopes name).Spelt := by
  unfold lookup
  cases hloop : LoopVariable.ofName? name with
  | none => exact hcontext.get name
  | some loop =>
    cases scopes with
    | nil => exact Value.spelt_null
    | cons f outer =>
      cases loop with
      | this => exact hscopes f List.mem_cons_self
      | last => exact Value.spelt_bool _
      | first => exact Value.spelt_bool _
      | index =>
        have hindex := List.find?_some hloop
        exact absurd (beq_iff_eq.mp hindex).symm hname

theorem spelt_of_lookup_items {context : Fields} (hcontext : context.Spelt) {scopes : List Frame}
    (hscopes : ∀ f ∈ scopes, f.item.Spelt) {name : String} {items : List Value}
    (hitems : (lookup context scopes name).items? = some items) : ∀ item ∈ items, item.Spelt := by
  by_cases hname : name = LoopVariable.index.name
  · subst hname
    rw [lookup, LoopVariable.ofName?_name] at hitems
    cases scopes <;> cases hitems
  · exact (spelt_lookup hcontext hscopes hname).items hitems

mutual

/-- What a node shows of spelt values is spelt. -/
theorem Node.spelt_shown {context : Fields} (hcontext : context.Spelt) (n : Node)
    (scopes : List Frame) (hscopes : ∀ f ∈ scopes, f.item.Spelt) :
    ∀ v ∈ n.shown context scopes, v.Spelt := by
  match n with
  | .literal text =>
    rw [Node.shown]
    exact List.forall_mem_nil _
  | .variable name =>
    rw [Node.shown]
    split
    · exact List.forall_mem_nil _
    · next hname => exact List.forall_mem_singleton.mpr (spelt_lookup hcontext hscopes hname)
  | .block kind name body =>
    have hbody := spelt_shownAll hcontext body
    match kind with
    | .each =>
      rw [Node.shown]
      cases hitems : (lookup context scopes name).items? with
      | none => exact List.forall_mem_nil _
      | some items =>
        have hspelt := spelt_of_lookup_items hcontext hscopes hitems
        intro v hv
        obtain ⟨f, hf, hv⟩ := List.mem_flatMap.mp hv
        obtain ⟨i, hi, rfl⟩ := List.mem_mapIdx.mp hf
        refine hbody _ ?_ v hv
        exact List.forall_mem_cons.mpr ⟨hspelt _ (List.getElem_mem hi), hscopes⟩
    | .when =>
      rw [Node.shown]
      split
      · exact hbody scopes hscopes
      · exact List.forall_mem_nil _
    | .unless =>
      rw [Node.shown]
      split
      · exact List.forall_mem_nil _
      · exact hbody scopes hscopes

theorem spelt_shownAll {context : Fields} (hcontext : context.Spelt) (ns : List Node)
    (scopes : List Frame) (hscopes : ∀ f ∈ scopes, f.item.Spelt) :
    ∀ v ∈ shownAll context scopes ns, v.Spelt := by
  match ns with
  | [] =>
    rw [shownAll]
    exact List.forall_mem_nil _
  | n :: ns =>
    rw [shownAll, List.forall_mem_append]
    exact ⟨n.spelt_shown hcontext scopes hscopes, spelt_shownAll hcontext ns scopes hscopes⟩

end

theorem write_shown [Host] {context : Fields} (h : context.Spelt) (text : String) :
    Host.write (shown text context) = .ok () := by
  refine Host.write_eq_ok ?_
  unfold shown
  cases (parse text).toOption with
  | none => exact List.forall_mem_nil _
  | some nodes => exact spelt_shownAll h nodes [] (List.forall_mem_nil _)

end Template

theorem Score.write_written [Host] {context : Fields} (h : context.Spelt) :
    Host.write (written context) = .ok () := by
  refine Host.write_eq_ok ?_
  unfold written
  rw [List.forall_mem_cons, List.forall_mem_cons]
  refine ⟨h.get _, h.get _, ?_⟩
  cases hitems : (context.get "tech_stack").iterate with
  | error f => exact List.forall_mem_nil _
  | ok items => exact (h.get _).iterate hitems

end Promptsmith
