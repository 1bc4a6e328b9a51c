import Mathlib
import Promptsmith.Proofs.Template.Markup

/-!
# Which fault is reported

The reader of a template reports one fault. A malformed directive comes before all others, and the
first of them is reported. Without one it is the first closing tag that closes no block or another
one than the innermost, and without such a tag the innermost block that is open at the end.
-/
namespace Promptsmith.Template

open Promptsmith.Text

/-! ### Malformed directives -/

def Sigil.char : Sigil → Char
  | .opening => '#'
  | .closing => '/'

/-- The shape of a directive: word characters right after the sigil, then white space or the end. -/
inductive Directive : List Char → Sigil → List Char → List Char → Prop
  | mk {sigil : Sigil} {word rest : List Char} (hne : word ≠ []) (hword : ∀ c ∈ word, isWord c)
      (hrest : ∀ c ∈ rest.head?, isBlank c) :
      Directive (sigil.char :: (word ++ rest)) sigil word (trim rest)

theorem isWord_of_isBlank {c : Char} (h : isBlank c) : isWord c = false := by
  by_contra hword
  have hname : isNameChar c := by simp [isNameChar, isNamePart, Bool.eq_true_of_not_eq_false hword]
  rw [isBlank_of_isNameChar hname] at h
  cases h

theorem span_word {word rest : List Char} (hword : ∀ c ∈ word, isWord c)
    (hrest : ∀ c ∈ rest.head?, isBlank c) :
    (word ++ rest).takeWhile isWord = word ∧ (word ++ rest).dropWhile isWord = rest := by
  cases rest with
  | nil =>
    rw [List.append_nil]
    exact ⟨List.takeWhile_eq_self_iff.mpr hword, List.dropWhile_eq_nil_iff.mpr hword⟩
  | cons c r => exact span_append hword (isWord_of_isBlank (hrest c rfl)) r

theorem directive?_cons (sigil : Sigil) (r : List Char) :
    directive? (sigil.char :: r) =
      if (r.takeWhile isWord).isEmpty || !((r.dropWhile isWord).head?.all isBlank) then none
      else some (sigil, r.takeWhile isWord, trim (r.dropWhile isWord)) := by
  cases sigil <;> rfl

theorem exists_of_directive? {inner word argument : List Char} {sigil : Sigil}
    (h : directive? inner = some (sigil, word, argument)) : ∃ r, inner = sigil.char :: r := by
  unfold directive? at h
  split at h
  · next r =>
    dsimp only at h
    split at h
    · cases h
    · cases h
      exact ⟨r, rfl⟩
  · next r =>
    dsimp only at h
    split at h
    · cases h
    · cases h
      exact ⟨r, rfl⟩
  · cases h

theorem directive?_eq_some_iff {inner word argument : List Char} {sigil : Sigil} :
    directive? inner = some (sigil, word, argument) ↔ Directive inner sigil word argument := by
  constructor
  · intro h
    obtain ⟨r, rfl⟩ := exists_of_directive? h
    rw [directive?_cons] at h
    split at h
    · cases h
    · next hshape =>
      cases h
      simp only [Bool.or_eq_true, List.isEmpty_iff, not_or, Bool.not_eq_true',
        Bool.not_eq_false, Option.all_eq_true] at hshape
      have hmk := @Directive.mk sigil _ _ hshape.1 (all_takeWhile isWord r) hshape.2
      rwa [List.takeWhile_append_dropWhile] at hmk
  · rintro ⟨hne, hword, hrest⟩
    obtain ⟨htake, hdrop⟩ := span_word hword hrest
    rw [directive?_cons, htake, hdrop, if_neg]
    simp only [Bool.or_eq_true, List.isEmpty_iff, not_or, Bool.not_eq_true',
      Bool.not_eq_false, Option.all_eq_true]
    exact ⟨hne, hrest⟩

/-- The word is none of the keywords. -/
def NoKeyword (word : List Char) : Prop :=
  ∀ k : BlockKind, word ≠ k.keyword.toList

theorem ofKeyword?_eq_none_iff {word : List Char} :
    BlockKind.ofKeyword? (String.ofList word) = none ↔ NoKeyword word := by
  constructor
  · rintro h k rfl
    simp at h
  · intro h
    by_contra hne
    obtain ⟨k, hk⟩ := Option.ne_none_iff_exists'.mp hne
    exact h k (toList_ofKeyword? hk)

/-- A directive that is not well formed: its keyword is unknown, an opening one has no name, or a
closing one has one. -/
inductive Malformed (inner : List Char) : Fault → Prop
  | unknownOpening {word argument : List Char} (h : Directive inner .opening word argument)
      (hword : NoKeyword word) :
      Malformed inner (.unknownOpening (String.ofList inner) (String.ofList word))
  | nameless {kind : BlockKind} {argument : List Char}
      (h : Directive inner .opening kind.keyword.toList argument) (hname : ¬ isName argument) :
      Malformed inner (.nameless (String.ofList inner) kind)
  | unknownClosing {word argument : List Char} (h : Directive inner .closing word argument)
      (hword : NoKeyword word) : Malformed inner (.unknownClosing (String.ofList inner))
  | named {kind : BlockKind} {argument : List Char}
      (h : Directive inner .closing kind.keyword.toList argument) (hname : argument ≠ []) :
      Malformed inner (.unknownClosing (String.ofList inner))

theorem read_eq_error_iff {inner : List Char} {fault : Fault} :
    Tag.read inner = .error fault ↔ Malformed inner fault := by
  constructor
  · intro h
    unfold Tag.read at h
    dsimp only at h
    split at h
    · cases h
    · next word argument hdir =>
      have hshape := directive?_eq_some_iff.mp hdir
      split at h
      · next hnone =>
        cases h
        exact .unknownOpening hshape (ofKeyword?_eq_none_iff.mp hnone)
      · next kind hkind =>
        rw [toList_ofKeyword? hkind] at hshape
        split at h
        · cases h
        · next hname =>
          cases h
          exact .nameless hshape hname
    · next word argument hdir =>
      have hshape := directive?_eq_some_iff.mp hdir
      split at h
      · next hnone =>
        cases h
        exact .unknownClosing hshape (ofKeyword?_eq_none_iff.mp hnone)
      · next kind hkind =>
        rw [toList_ofKeyword? hkind] at hshape
        split at h
        · cases h
        · next hname =>
          cases h
          exact .named hshape (by simpa using hname)
  · intro h
    cases h with
    | unknownOpening h hword =>
      simp [Tag.read, directive?_eq_some_iff.mpr h, ofKeyword?_eq_none_iff.mpr hword]
    | nameless h hname => simp [Tag.read, directive?_eq_some_iff.mpr h, hname]
    | unknownClosing h hword =>
      simp [Tag.read, directive?_eq_some_iff.mpr h, ofKeyword?_eq_none_iff.mpr hword]
    | named h hname => simp [Tag.read, directive?_eq_some_iff.mpr h, hname]

/-- The fault that a pair shows by itself, with its offset. -/
def faultAt? (e : Nat × Pair) : Option SyntaxError :=
  match Tag.read e.2.inner with
  | .error fault => some ⟨fault, e.1⟩
  | .ok _ => none

theorem map_eq_error_iff {ε α β : Type} {f : α → β} {x : Except ε α} {e : ε} :
    x.map f = .error e ↔ x = .error e := by
  cases x <;> simp [Except.map]

/-- The cutter of segments fails with the first malformed directive that is left to it. -/
theorem segmentsFrom_eq_error_iff {cut : Cut} {left before : List Char} {fresh : Bool} {skip : Nat}
    {e : SyntaxError} (hs : cut.Sound) (he : cut.isLast = false → Edge fresh left) :
    segmentsFrom left.length fresh before skip cut = .error e ↔
      (((cut.dropLead skip).prepend before).pairsFrom left.length).findSome? faultAt? =
        some e := by
  induction cut generalizing left before fresh skip with
  | rest text => simp [segmentsFrom, Cut.dropLead, Cut.prepend, Cut.pairsFrom]
  | pair gap p next ih =>
    have hedge := he rfl
    have hpast := hs.exists_edge
    have hcut : ((Cut.pair gap p next).dropLead skip).prepend before =
        .pair (before ++ gap.drop skip) p next := rfl
    rw [hcut]
    generalize hlead : before ++ gap.drop skip = lead
    simp only [segmentsFrom, hlead, margin?_eq hedge lead hs.2, Cut.pairsFrom]
    rw [List.findSome?_cons]
    cases hread : Tag.read p.inner with
    | error fault => simp [faultAt?, hread]
    | ok tag? =>
      simp only [faultAt?, hread]
      cases tag? with
      | none =>
        have hrest := @ih left (lead ++ p.source) fresh 0 hs.2 (fun _ => hedge)
        simpa [Nat.add_assoc] using hrest
      | some tag =>
        cases hmargin : if tag.isBlock then wholeMargin? (left ++ lead) next.text else none with
        | none =>
          have hrest := @ih (left ++ lead ++ p.source) [] false 0 hs.2
            (fun _ => hpast (left ++ lead))
          simpa [hmargin, map_eq_error_iff, ← Nat.add_assoc] using hrest
        | some margin =>
          obtain ⟨indent, tail⟩ := margin
          have hblock : tag.isBlock := by
            by_contra hb
            simp [hb] at hmargin
          have hsome := hmargin
          rw [if_pos hblock] at hsome
          have halone := wholeMargin?_eq_some_iff.mp hsome
          obtain ⟨after, hafter⟩ := halone.ends.exists_lead hs.2
          have hback := Cut.pairsFrom_prepend (left ++ lead ++ p.source).length tail
            (next.dropLead tail.length)
          rw [Cut.prepend_dropLead hafter] at hback
          have hrest := @ih (left ++ lead ++ p.source ++ tail) [] true tail.length hs.2
            (halone.ends.edge hs.2 _)
          simp only [List.length_append, Cut.prepend_nil] at hback hrest
          simp only [hmargin, map_eq_error_iff, hrest, hback]

theorem segments_eq_error_iff {s : List Char} {e : SyntaxError} :
    segments s = .error e ↔ (pairs s).findSome? faultAt? = some e := by
  have h := @segmentsFrom_eq_error_iff _ [] [] true 0 e (Cut.sound_ofText s)
    (fun _ => .fresh (Or.inl rfl))
  simpa [segments, pairs] using h

theorem faultAt?_eq_some_iff {found : Nat × Pair} {e : SyntaxError} :
    faultAt? found = some e ↔ Malformed found.2.inner e.fault ∧ e.position = found.1 := by
  rw [← read_eq_error_iff, faultAt?]
  cases Tag.read found.2.inner with
  | error fault =>
    obtain ⟨f, n⟩ := e
    simp [eq_comm]
  | ok tag? => simp

theorem faultAt?_eq_none_iff {found : Nat × Pair} :
    faultAt? found = none ↔ ∀ fault, ¬ Malformed found.2.inner fault := by
  simp only [← read_eq_error_iff, faultAt?]
  cases Tag.read found.2.inner <;> simp

/-! ### Misplaced tags -/

/-- The lexemes of tags with their offsets. -/
def tagWord (tags : List (Nat × Tag)) : List Lexeme :=
  tags.map fun e => .tag e.2

@[simp] theorem tagWord_nil : tagWord [] = [] := rfl
@[simp] theorem tagWord_cons (e : Nat × Tag) (tags : List (Nat × Tag)) :
    tagWord (e :: tags) = .tag e.2 :: tagWord tags := rfl
@[simp] theorem tagWord_append (tags more : List (Nat × Tag)) :
    tagWord (tags ++ more) = tagWord tags ++ tagWord more := List.map_append

/-- What a closing tag does wrong after other tags. Since the innermost open block was opened only
whole blocks have been read, and if none is open this holds of all that has been read. -/
inductive Clash (before : List (Nat × Tag)) (kind : BlockKind) : Fault → Prop
  | unmatched (h : WellNested [] (tagWord before)) : Clash before kind (.unmatched kind)
  | crossed {outer inside : List (Nat × Tag)} {n : Nat} {opened : BlockKind} {name : String}
      (hbefore : before = outer ++ (n, .opening opened name) :: inside)
      (h : WellNested [] (tagWord inside)) (hne : opened ≠ kind) :
      Clash before kind (.crossed kind opened name)

/-- Each closing tag closes the innermost open block. -/
def Closes (tags : List (Nat × Tag)) : Prop :=
  ∀ before n kind after, tags = before ++ (n, .closing kind) :: after →
    ∀ fault, ¬ Clash before kind fault

/-- The fault of misplaced tags: the first closing tag that is at fault, or the innermost block that
is open at the end. -/
inductive Misnested (tags : List (Nat × Tag)) : SyntaxError → Prop
  | clash {before after : List (Nat × Tag)} {n : Nat} {kind : BlockKind} {fault : Fault}
      (htags : tags = before ++ (n, .closing kind) :: after) (hfirst : Closes before)
      (h : Clash before kind fault) : Misnested tags ⟨fault, n⟩
  | unclosed {outer inside : List (Nat × Tag)} {n : Nat} {kind : BlockKind} {name : String}
      (htags : tags = outer ++ (n, .opening kind name) :: inside) (hcloses : Closes tags)
      (h : WellNested [] (tagWord inside)) : Misnested tags ⟨.unclosed kind name, n⟩

theorem Lexeme.turn_append {l : Lexeme} {inner : List BlockKind}
    (h : ∀ kind, l = .tag (.closing kind) → inner.head? = some kind) (outer : List BlockKind) :
    l.turn (inner ++ outer) = l.turn inner ++ outer := by
  match l with
  | .literal text => rfl
  | .tag (.variable name) => rfl
  | .tag (.opening kind name) => rfl
  | .tag (.closing kind) =>
    obtain ⟨kinds, rfl⟩ := List.head?_eq_some_iff.mp (h kind rfl)
    rfl

/-- Whole blocks do not change which blocks are open. -/
theorem WellNested.append_iff {word : List Lexeme} {inner : List BlockKind}
    (h : WellNested inner word) (outer : List BlockKind) (more : List Lexeme) :
    WellNested (inner ++ outer) (word ++ more) ↔ WellNested outer more := by
  induction word generalizing inner with
  | nil => simp [wellNested_nil_iff.mp h]
  | cons l word ih =>
    obtain ⟨hl, hword⟩ := wellNested_cons_iff.mp h
    rw [List.cons_append, wellNested_cons_iff, Lexeme.turn_append hl, ih hword]
    refine and_iff_right ?_
    intro kind hkind
    rw [List.head?_append, hl kind hkind]
    rfl

theorem WellNested.openAfter_append {word : List Lexeme} {inner : List BlockKind}
    (h : WellNested inner word) (outer : List BlockKind) :
    openAfter (inner ++ outer) word = outer := by
  induction word generalizing inner with
  | nil => simp [wellNested_nil_iff.mp h]
  | cons l word ih =>
    obtain ⟨hl, hword⟩ := wellNested_cons_iff.mp h
    rw [openAfter_cons, Lexeme.turn_append hl, ih hword]

theorem WellNested.append {word more : List Lexeme} (h : WellNested [] word)
    (hmore : WellNested [] more) : WellNested [] (word ++ more) :=
  (h.append_iff [] more).mpr hmore

/-- A block around whole blocks is one. -/
theorem WellNested.block {word : List Lexeme} (h : WellNested [] word) (kind : BlockKind)
    (name : String) :
    WellNested [] (.tag (.opening kind name) :: (word ++ [.tag (.closing kind)])) := by
  have hclose : WellNested [kind] [.tag (.closing kind)] := by
    simp [wellNested_cons_iff, wellNested_nil_iff, Lexeme.turn]
  refine wellNested_cons_iff.mpr ⟨by simp, ?_⟩
  exact (h.append_iff [kind] _).mpr hclose

/-- A block that is not closed is no whole block. -/
theorem not_wellNested_of_opening {outer inside : List (Nat × Tag)} {n : Nat} {kind : BlockKind}
    {name : String} (h : WellNested [] (tagWord inside)) :
    ¬ WellNested [] (tagWord (outer ++ (n, .opening kind name) :: inside)) := by
  intro hall
  have hopen := h.openAfter_append (kind :: openAfter [] (tagWord outer))
  have hclosed := hall.closed
  rw [tagWord_append, openAfter, List.foldl_append] at hclosed
  rw [List.nil_append] at hopen
  exact absurd (hopen.symm.trans hclosed) (List.cons_ne_nil _ _)

/-- There is at most one innermost open block. -/
theorem innermost_unique {outer inside outer' inside' : List (Nat × Tag)} {n n' : Nat}
    {kind kind' : BlockKind} {name name' : String}
    (heq : outer ++ (n, .opening kind name) :: inside =
      outer' ++ (n', .opening kind' name') :: inside')
    (h : WellNested [] (tagWord inside)) (h' : WellNested [] (tagWord inside')) :
    n = n' ∧ kind = kind' ∧ name = name' := by
  rcases List.append_eq_append_iff.mp heq with ⟨mid, -, hmid⟩ | ⟨mid, -, hmid⟩
  · cases mid with
    | nil => simpa using (List.cons.inj hmid).1
    | cons t mid =>
      obtain ⟨-, rfl⟩ := List.cons.inj hmid
      exact absurd h (not_wellNested_of_opening h')
  · cases mid with
    | nil => simpa [eq_comm] using (List.cons.inj hmid).1
    | cons t mid =>
      obtain ⟨-, rfl⟩ := List.cons.inj hmid
      exact absurd h' (not_wellNested_of_opening h)

/-- The open blocks after some tags, the innermost first: between and in them stand whole blocks. -/
inductive Opened : List OpenBlock → List (Nat × Tag) → Prop
  | none {tags : List (Nat × Tag)} (h : WellNested [] (tagWord tags)) : Opened [] tags
  | inside {b : OpenBlock} {outer : List OpenBlock} {before tags : List (Nat × Tag)}
      (houter : Opened outer before) (h : WellNested [] (tagWord tags)) :
      Opened (b :: outer) (before ++ (b.position, .opening b.kind b.name) :: tags)

theorem Opened.append {blocks : List OpenBlock} {tags more : List (Nat × Tag)}
    (h : Opened blocks tags) (hmore : WellNested [] (tagWord more)) :
    Opened blocks (tags ++ more) := by
  cases h with
  | none h => exact .none (by simpa using h.append hmore)
  | inside houter h =>
    rw [List.append_assoc]
    exact .inside houter (by simpa using h.append hmore)

theorem Opened.close {b : OpenBlock} {outer : List OpenBlock} {tags : List (Nat × Tag)}
    (h : Opened (b :: outer) tags) (n : Nat) : Opened outer (tags ++ [(n, .closing b.kind)]) := by
  obtain _ | @⟨_, _, before, inside, houter, hin⟩ := h
  rw [List.append_assoc]
  exact houter.append (by simpa using hin.block b.kind b.name)

theorem Opened.clash_iff_of_none {tags : List (Nat × Tag)} (h : Opened [] tags)
    {kind : BlockKind} {fault : Fault} : Clash tags kind fault ↔ fault = .unmatched kind := by
  obtain ⟨hnested⟩ := h
  constructor
  · intro hclash
    cases hclash with
    | unmatched => rfl
    | crossed htags hin =>
      subst htags
      exact absurd hnested (not_wellNested_of_opening hin)
  · rintro rfl
    exact .unmatched hnested

theorem Opened.clash_iff {b : OpenBlock} {outer : List OpenBlock} {tags : List (Nat × Tag)}
    (h : Opened (b :: outer) tags) {kind : BlockKind} {fault : Fault} :
    Clash tags kind fault ↔ b.kind ≠ kind ∧ fault = .crossed kind b.kind b.name := by
  obtain _ | @⟨_, _, before, inside, houter, hin⟩ := h
  constructor
  · intro hclash
    cases hclash with
    | unmatched hall => exact absurd hall (not_wellNested_of_opening hin)
    | crossed htags hopened hne =>
      obtain ⟨-, rfl, rfl⟩ := innermost_unique htags hin hopened
      exact ⟨hne, rfl⟩
  · rintro ⟨hne, rfl⟩
    exact .crossed rfl hin hne

theorem closes_nil : Closes [] := by
  intro before n kind after h
  simp at h

theorem Closes.append_singleton {tags : List (Nat × Tag)} {t : Nat × Tag} (h : Closes tags)
    (ht : ∀ kind, t.2 = .closing kind → ∀ fault, ¬ Clash tags kind fault) :
    Closes (tags ++ [t]) := by
  intro before n kind after heq fault
  rcases List.eq_nil_or_concat after with rfl | ⟨rest, u, rfl⟩
  · obtain ⟨rfl, hlast⟩ := List.append_inj' heq rfl
    exact ht kind (by rw [(List.cons.inj hlast).1]) fault
  · rw [List.concat_eq_append, ← List.cons_append, ← List.append_assoc] at heq
    obtain ⟨hrest, -⟩ := List.append_inj' heq rfl
    exact h before n kind rest hrest fault

/-- After tags that close what is open, a closing tag that does not is the fault. -/
theorem misnested_iff_of_clash {before after : List (Nat × Tag)} {n : Nat} {kind : BlockKind}
    {fault : Fault} (hcloses : Closes before) (h : ∀ f, Clash before kind f ↔ f = fault)
    {e : SyntaxError} :
    Misnested (before ++ (n, .closing kind) :: after) e ↔ e = ⟨fault, n⟩ := by
  have hclash := (h fault).mpr rfl
  constructor
  · intro hm
    cases hm with
    | @clash first _ m k f htags hfirst hf =>
      rcases List.append_eq_append_iff.mp htags with ⟨mid, rfl, hmid⟩ | ⟨mid, rfl, hmid⟩
      · cases mid with
        | nil =>
          obtain ⟨hhead, -⟩ := List.cons.inj hmid
          cases hhead
          rw [List.append_nil] at hf
          rw [(h f).mp hf]
        | cons t mid =>
          obtain ⟨rfl, -⟩ := List.cons.inj hmid
          exact absurd hclash (hfirst before n kind mid rfl fault)
      · cases mid with
        | nil =>
          obtain ⟨hhead, -⟩ := List.cons.inj hmid
          cases hhead
          rw [← List.append_nil first] at hf
          rw [(h f).mp hf]
        | cons t mid =>
          obtain ⟨rfl, -⟩ := List.cons.inj hmid
          exact absurd hf (hcloses first m k mid rfl f)
    | unclosed _ hall => exact absurd hclash (hall before n kind after rfl fault)
  · rintro rfl
    exact .clash rfl hcloses hclash

theorem Opened.misnested_iff {b : OpenBlock} {outer : List OpenBlock} {tags : List (Nat × Tag)}
    (h : Opened (b :: outer) tags) (hcloses : Closes tags) {e : SyntaxError} :
    Misnested tags e ↔ e = ⟨.unclosed b.kind b.name, b.position⟩ := by
  obtain _ | @⟨_, _, before, inside, houter, hin⟩ := h
  constructor
  · intro hm
    cases hm with
    | clash htags hfirst hf => exact absurd hf (hcloses _ _ _ _ htags _)
    | unclosed htags hall hopened =>
      obtain ⟨hn, hkind, hname⟩ := innermost_unique htags hin hopened
      rw [hn, hkind, hname]
  · rintro rfl
    exact .unclosed rfl hcloses hin

theorem Opened.not_misnested {tags : List (Nat × Tag)} (h : Opened [] tags)
    (hcloses : Closes tags) (e : SyntaxError) : ¬ Misnested tags e := by
  obtain ⟨hnested⟩ := h
  intro hm
  cases hm with
  | clash htags hfirst hf => exact hcloses _ _ _ _ htags _ hf
  | unclosed htags hall hopened =>
    subst htags
    exact not_wellNested_of_opening hopened hnested

theorem Token.tag?_of_lexeme {t : Token} {tag : Tag} (h : t.lexeme = .tag tag) :
    t.tag? = some (t.position, tag) := by
  simp [Token.tag?, h]

/-- The nester fails with the fault of the tags, where `tags` are those read so far. -/
theorem nest_eq_error_iff {blocks : List OpenBlock} {siblings : List Node} {ts : List Token}
    {tags : List (Nat × Tag)} (hopen : Opened blocks tags) (hcloses : Closes tags)
    {e : SyntaxError} :
    nest blocks siblings ts = .error e ↔ Misnested (tags ++ ts.filterMap Token.tag?) e := by
  fun_induction nest blocks siblings ts generalizing tags with
  | case1 siblings => simpa using hopen.not_misnested hcloses e
  | case2 siblings b outer => simpa [eq_comm] using (hopen.misnested_iff hcloses).symm
  | case3 blocks siblings t ts text ht ih =>
    have hnone : t.tag? = none := by simp [Token.tag?, ht]
    rw [List.filterMap_cons_none hnone]
    exact ih hopen hcloses
  | case4 blocks siblings t ts name ht ih =>
    rw [List.filterMap_cons_some (Token.tag?_of_lexeme ht), List.append_cons tags]
    have hname : WellNested [] (tagWord [(t.position, .variable name)]) := by
      simp [wellNested_cons_iff, wellNested_nil_iff, Lexeme.turn]
    exact ih (hopen.append hname) (hcloses.append_singleton (by simp))
  | case5 blocks siblings t ts kind name ht ih =>
    rw [List.filterMap_cons_some (Token.tag?_of_lexeme ht), List.append_cons tags]
    have hinside : WellNested [] (tagWord []) := wellNested_nil_iff.mpr rfl
    exact ih (.inside hopen hinside) (hcloses.append_singleton (by simp))
  | case6 siblings t ts kind ht =>
    rw [List.filterMap_cons_some (Token.tag?_of_lexeme ht),
      misnested_iff_of_clash hcloses fun f => hopen.clash_iff_of_none]
    simp [eq_comm]
  | case7 siblings t ts b outer ht ih =>
    rw [List.filterMap_cons_some (Token.tag?_of_lexeme ht), List.append_cons tags]
    refine ih (hopen.close t.position) (hcloses.append_singleton ?_)
    intro kind hkind fault hclash
    cases hkind
    exact (hopen.clash_iff.mp hclash).1 rfl
  | case8 siblings t ts kind ht b outer hk =>
    have hclash : ∀ f, Clash tags kind f ↔ f = .crossed kind b.kind b.name := by
      intro f
      rw [hopen.clash_iff]
      exact and_iff_right hk
    rw [List.filterMap_cons_some (Token.tag?_of_lexeme ht), misnested_iff_of_clash hcloses hclash]
    simp [eq_comm]

/-! ### The whole text -/

/-- The fault of a text: the first malformed directive, or if there is none the fault of its
tags. -/
inductive Reported (text : List Char) : SyntaxError → Prop
  | malformed {before after : List (Nat × Pair)} {n : Nat} {p : Pair} {fault : Fault}
      (hpairs : pairs text = before ++ (n, p) :: after)
      (hfirst : ∀ e ∈ before, ∀ f, ¬ Malformed e.2.inner f) (h : Malformed p.inner fault) :
      Reported text ⟨fault, n⟩
  | misnested {e : SyntaxError} (hnone : ∀ e ∈ pairs text, ∀ f, ¬ Malformed e.2.inner f)
      (h : Misnested ((pairs text).filterMap tagAt?) e) : Reported text e

theorem findSome?_faultAt?_eq_none_iff {found : List (Nat × Pair)} :
    found.findSome? faultAt? = none ↔ ∀ e ∈ found, ∀ f, ¬ Malformed e.2.inner f := by
  simp only [List.findSome?_eq_none_iff, faultAt?_eq_none_iff]

theorem findSome?_faultAt?_eq_some_iff {found : List (Nat × Pair)} {e : SyntaxError} :
    found.findSome? faultAt? = some e ↔ ∃ before p after,
      found = before ++ (e.position, p) :: after ∧
        (∀ e ∈ before, ∀ f, ¬ Malformed e.2.inner f) ∧ Malformed p.inner e.fault := by
  rw [List.findSome?_eq_some_iff]
  simp only [faultAt?_eq_none_iff, faultAt?_eq_some_iff]
  constructor
  · rintro ⟨before, ⟨n, p⟩, after, rfl, ⟨hfault, hn⟩, hfirst⟩
    exact ⟨before, p, after, by rw [hn], hfirst, hfault⟩
  · rintro ⟨before, p, after, rfl, hfirst, hfault⟩
    exact ⟨before, (e.position, p), after, rfl, ⟨hfault, rfl⟩, hfirst⟩

theorem reported_iff {text : List Char} {e : SyntaxError} :
    Reported text e ↔ (pairs text).findSome? faultAt? = some e ∨
      (pairs text).findSome? faultAt? = none ∧ Misnested ((pairs text).filterMap tagAt?) e := by
  rw [findSome?_faultAt?_eq_some_iff, findSome?_faultAt?_eq_none_iff]
  constructor
  · intro h
    cases h with
    | malformed hpairs hfirst h => exact Or.inl ⟨_, _, _, hpairs, hfirst, h⟩
    | misnested hnone h => exact Or.inr ⟨hnone, h⟩
  · rintro (⟨before, p, after, hpairs, hfirst, h⟩ | ⟨hnone, h⟩)
    · exact .malformed hpairs hfirst h
    · exact .misnested hnone h

theorem parse_eq_error_iff {text : String} {e : SyntaxError} :
    parse text = .error e ↔ Reported text.toList e := by
  rw [reported_iff]
  cases hsegs : segments text.toList with
  | error first =>
    have hparse : parse text = .error first := by
      rw [parse, tokenize, hsegs]
      rfl
    simp [hparse, segments_eq_error_iff.mp hsegs]
  | ok segs =>
    have hnone : (pairs text.toList).findSome? faultAt? = none := by
      by_contra hne
      obtain ⟨first, hfirst⟩ := Option.ne_none_iff_exists'.mp hne
      rw [segments_eq_error_iff.mpr hfirst] at hsegs
      cases hsegs
    have hparse : parse text = nest [] [] (segs.map Segment.token) := by
      rw [parse, tokenize, hsegs]
      rfl
    have htags : (segs.map Segment.token).filterMap Token.tag? =
        (pairs text.toList).filterMap tagAt? := by
      rw [List.filterMap_map]
      exact (tiling_of_segments hsegs).tags
    have hnest := @nest_eq_error_iff [] [] (segs.map Segment.token) []
      (.none (wellNested_nil_iff.mpr rfl)) closes_nil e
    rw [hparse, hnest, htags]
    simp [hnone]

/-- Two opening braces stand at the offset of a pair. -/
theorem Cut.Sound.exists_of_mem {cut : Cut} (hs : cut.Sound) {left : List Char} {e : Nat × Pair}
    (he : e ∈ cut.pairsFrom left.length) :
    ∃ before after, left ++ cut.text = before ++ '{' :: '{' :: after ∧ before.length = e.1 := by
  induction cut generalizing left with
  | rest text => simp [Cut.pairsFrom] at he
  | pair gap p next ih =>
    rw [Cut.pairsFrom, List.mem_cons] at he
    rcases he with rfl | he
    · obtain ⟨mid, hmid⟩ := Pair.exists_source hs.1
      exact ⟨left ++ gap, mid ++ ['}', '}'] ++ next.text, by simp [Cut.text, hmid], by simp⟩
    · obtain ⟨before, after, htext, hlen⟩ :=
        @ih hs.2 (left ++ gap ++ p.source) (by simpa [Nat.add_assoc] using he)
      exact ⟨before, after, by simpa [Cut.text] using htext, hlen⟩

theorem Misnested.exists_mem {tags : List (Nat × Tag)} {e : SyntaxError} (h : Misnested tags e) :
    ∃ tag, (e.position, tag) ∈ tags := by
  cases h with
  | clash htags hfirst h => exact ⟨_, htags ▸ List.mem_append_right _ List.mem_cons_self⟩
  | unclosed htags hcloses h => exact ⟨_, htags ▸ List.mem_append_right _ List.mem_cons_self⟩

theorem fst_of_tagAt? {found : Nat × Pair} {t : Nat × Tag} (h : tagAt? found = some t) :
    t.1 = found.1 := by
  unfold tagAt? at h
  split at h <;> cases h
  rfl

theorem Reported.exists_mem {text : List Char} {e : SyntaxError} (h : Reported text e) :
    ∃ p, (e.position, p) ∈ pairs text := by
  cases h with
  | @malformed before after n p fault hpairs hfirst h => exact ⟨p, by simp [hpairs]⟩
  | misnested hnone h =>
    obtain ⟨tag, htag⟩ := h.exists_mem
    obtain ⟨⟨n, p⟩, hmem, hat⟩ := List.mem_filterMap.mp htag
    exact ⟨p, by rwa [show e.position = n from fst_of_tagAt? hat]⟩

/-- A text has a tree exactly when it has no fault to report, else its fault is reported, and at the
offset of two opening braces. -/
theorem parse_reports (text : String) :
    (∀ e, parse text = .error e ↔ Reported text.toList e) ∧
      ((∃ nodes, parse text = .ok nodes) ↔ ∀ e, ¬ Reported text.toList e) ∧
      ∀ e, parse text = .error e → ∃ before after,
        text.toList = before ++ '{' :: '{' :: after ∧ before.length = e.position := by
  refine ⟨fun e => parse_eq_error_iff, ?_, ?_⟩
  · simp only [← parse_eq_error_iff]
    cases parse text <;> simp
  · intro e h
    obtain ⟨p, hp⟩ := (parse_eq_error_iff.mp h).exists_mem
    have hfound := @Cut.Sound.exists_of_mem _ (Cut.sound_ofText text.toList) [] _ hp
    rwa [List.nil_append, Cut.text_ofText] at hfound

/-- The first malformed directive is reported, though a stray closing tag stands before it and
another malformed directive after it. -/
theorem parse_reports_nameless :
    let text := "\x7b\x7b/if\x7d\x7d \x7b\x7b a: 1 \x7d\x7d\n  \x7b\x7b#each\x7d\x7d\n" ++
      "\x7b\x7b#foo x\x7d\x7d"
    let e : SyntaxError := ⟨.nameless "#each" .each, 21⟩
    parse text = .error e ∧ Reported text.toList e ∧ ∃ before after,
      text.toList = before ++ '{' :: '{' :: after ∧ before.length = e.position := by
  intro text e
  have h : parse text = .error e := by cbv
  obtain ⟨hreported, -, hoffset⟩ := parse_reports text
  exact ⟨h, (hreported e).mp h, hoffset e h⟩

end Promptsmith.Template
