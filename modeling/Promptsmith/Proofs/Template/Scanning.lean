import Mathlib
import Promptsmith.Proofs.Template.Nesting
import Promptsmith.Proofs.Template.Tiling
import Promptsmith.Template.Names

/-!
# Scanned names and the names of the tree

The scanner of names reads the brace pairs on its own, without nesting them. It reports only names
that the tree refers to, and all of them but those that occur only in opening directives with other
white space than a space after the keyword.
-/
namespace Promptsmith.Template

open Promptsmith.Text

/-! ### Sets of names -/

theorem pairwise_insertName {name : String} {names : List String}
    (h : names.Pairwise (· < ·)) : (insertName name names).Pairwise (· < ·) := by
  induction names with
  | nil => simp [insertName]
  | cons n r ih =>
    obtain ⟨hn, hr⟩ := List.pairwise_cons.mp h
    rw [insertName]
    split
    · next hlt =>
      refine List.pairwise_cons.mpr ⟨?_, h⟩
      intro m hm
      rcases List.mem_cons.mp hm with rfl | hm
      · exact hlt
      · exact lt_trans hlt (hn m hm)
    · next hge =>
      split
      · exact h
      · next hne =>
        refine List.pairwise_cons.mpr ⟨?_, ih hr⟩
        intro m hm
        rcases mem_insertName.mp hm with rfl | hm
        · exact lt_of_le_of_ne (not_lt.mp hge) (Ne.symm hne)
        · exact hn m hm

theorem pairwise_nameSet (names : List String) : (nameSet names).Pairwise (· < ·) := by
  induction names with
  | nil => simp [nameSet]
  | cons n r ih => exact pairwise_insertName ih

/-- A set of names is known by its members. -/
theorem nameSet_eq_iff {names more : List String} :
    nameSet names = nameSet more ↔ ∀ n, n ∈ names ↔ n ∈ more := by
  constructor
  · intro h n
    rw [← mem_nameSet, h, mem_nameSet]
  · intro h
    refine (pairwise_nameSet names).eq_of_mem_iff (pairwise_nameSet more) ?_
    intro n
    rw [mem_nameSet, mem_nameSet, h]

/-! ### Names in trees -/

/-- The name that a tag looks up. -/
def Tag.name? : Tag → Option String
  | .variable name => some name
  | .opening _ name => some name
  | .closing _ => none

def Lexeme.name? : Lexeme → Option String
  | .literal _ => none
  | .tag t => t.name?

mutual

/-- The names that occur in a node, at any depth. -/
def Node.names : Node → List String
  | .literal _ => []
  | .variable name => [name]
  | .block _ name body => name :: namesIn body

/-- The names that occur in nodes, at any depth. -/
def namesIn : List Node → List String
  | [] => []
  | n :: ns => n.names ++ namesIn ns

end

mutual

theorem Node.filterMap_lexemes (n : Node) : n.lexemes.filterMap Lexeme.name? = n.names := by
  match n with
  | .literal text => rw [Node.lexemes, Node.names]; rfl
  | .variable name => rw [Node.lexemes, Node.names]; rfl
  | .block kind name body =>
    have h := filterMap_lexemesOf body
    rw [Node.lexemes, Node.names]
    simp [Lexeme.name?, Tag.name?, h]

theorem filterMap_lexemesOf (ns : List Node) :
    (lexemesOf ns).filterMap Lexeme.name? = namesIn ns := by
  match ns with
  | [] => rw [lexemesOf, namesIn]; rfl
  | n :: ns =>
    rw [lexemesOf_cons, namesIn, List.filterMap_append, n.filterMap_lexemes,
      filterMap_lexemesOf ns]

end

theorem name?_lexeme (t : Token) : t.lexeme.name? = t.tag?.bind (·.2.name?) := by
  cases h : t.lexeme <;> simp [Token.tag?, h, Lexeme.name?]

theorem exists_tokens_of_parse {text : String} {nodes : List Node} (h : parse text = .ok nodes) :
    ∃ tokens, tokenize text = .ok tokens ∧ lexemesOf nodes = tokens.map Token.lexeme := by
  cases ht : tokenize text with
  | error e => simp [parse, ht, Except.bind] at h
  | ok tokens =>
    have hn : nest [] [] tokens = .ok nodes := by simpa [parse, ht, Except.bind] using h
    exact ⟨tokens, rfl, nest_eq_ok_iff.mp hn⟩

/-- The names of a tree are those of the brace pairs that are read as tags, in order. -/
theorem namesIn_of_parse {text : String} {nodes : List Node} (h : parse text = .ok nodes) :
    namesIn nodes = ((pairs text.toList).filterMap tagAt?).filterMap (·.2.name?) := by
  obtain ⟨tokens, htokens, hlex⟩ := exists_tokens_of_parse h
  obtain ⟨segs, hsegs, hok⟩ := exists_of_map_eq_ok htokens
  rw [← filterMap_lexemesOf, hlex, ← hok, ← (tiling_of_segments hsegs).tags]
  simp only [List.filterMap_map, List.filterMap_filterMap]
  congr 1
  funext s
  exact name?_lexeme s.token

theorem mem_namesIn_iff {text : String} {nodes : List Node} (h : parse text = .ok nodes)
    {name : String} :
    name ∈ namesIn nodes ↔ ∃ e ∈ pairs text.toList, ∃ tag,
      Tag.read e.2.inner = .ok (some tag) ∧ tag.name? = some name := by
  rw [namesIn_of_parse h]
  constructor
  · intro hmem
    obtain ⟨⟨n, tag⟩, htag, hname⟩ := List.mem_filterMap.mp hmem
    obtain ⟨e, he, hat⟩ := List.mem_filterMap.mp htag
    refine ⟨e, he, tag, ?_, hname⟩
    unfold tagAt? at hat
    split at hat
    · next found hread =>
      cases hat
      exact hread
    · simp at hat
  · rintro ⟨e, he, tag, hread, hname⟩
    exact List.mem_filterMap.mpr
      ⟨(e.1, tag), List.mem_filterMap.mpr ⟨e, he, tagAt?_of_read hread⟩, hname⟩

/-! ### One pair -/

/-- A name that is looked up in the values: no loop variable, and not marked as one. -/
def IsValueName (name : String) : Prop :=
  name.toList.head? ≠ some '@' ∧ LoopVariable.ofName? name = none

instance (name : String) : Decidable (IsValueName name) :=
  inferInstanceAs (Decidable (_ ∧ _))

/-- An opening directive has a space right after its keyword. -/
def Spaced (inner : List Char) : Prop :=
  ∀ r, inner = '#' :: r → (r.dropWhile isWord).head? = some ' '

theorem isWord_keyword (k : BlockKind) : ∀ c ∈ k.keyword.toList, isWord c ∧ c ≠ ' ' := by
  have hall : k.keyword.toList.all fun c => isWord c && c != ' ' := by
    cases k <;> decide
  intro c hc
  have h := List.all_eq_true.mp hall c hc
  simpa using h

theorem keyword_of_ofKeyword? {word : String} {k : BlockKind}
    (h : BlockKind.ofKeyword? word = some k) : word = k.keyword := by
  have hk := List.find?_some h
  exact (beq_iff_eq.mp hk).symm

theorem declared?_eq_some_iff {inner : List Char} {name : String} :
    declared? inner = some name ↔ ∃ n, mentioned? inner = some n ∧ isName n ∧
      IsValueName name ∧ name = String.ofList n := by
  unfold declared?
  cases mentioned? inner with
  | none => simp
  | some n =>
    simp only [Option.some.injEq, exists_eq_left']
    constructor
    · intro h
      split at h
      · next hc =>
        cases h
        exact ⟨hc.1, ⟨by simpa using hc.2.1, hc.2.2⟩, rfl⟩
      · simp at h
    · rintro ⟨hn, ⟨hat, hloop⟩, rfl⟩
      rw [String.toList_ofList] at hat
      rw [if_pos ⟨hn, hat, hloop⟩]

theorem toList_ofKeyword? {word : List Char} {k : BlockKind}
    (h : BlockKind.ofKeyword? (String.ofList word) = some k) : word = k.keyword.toList := by
  rw [← keyword_of_ofKeyword? h, String.toList_ofList]

/-! An opening directive whose keyword is followed by a space. -/

theorem mentioned?_spaced (k : BlockKind) (rest : List Char) :
    mentioned? ('#' :: (k.keyword.toList ++ ' ' :: rest)) = some (trim rest) := by
  have hword : ∀ c ∈ k.keyword.toList, decide (c ≠ ' ') = true := by
    intro c hc
    exact decide_eq_true (isWord_keyword k c hc).2
  have htake : (k.keyword.toList ++ ' ' :: rest).takeWhile (· ≠ ' ') = k.keyword.toList :=
    (span_append hword (by simp) rest).1
  have hdrop : (k.keyword.toList ++ ' ' :: rest).drop (k.keyword.toList.length + 1) = rest := by
    simp [List.drop_append, List.drop_eq_nil_of_le]
  simp only [mentioned?, htake, String.ofList_toList, BlockKind.ofKeyword?_keyword, hdrop]

theorem dropWhile_spaced (k : BlockKind) (rest : List Char) :
    (k.keyword.toList ++ ' ' :: rest).takeWhile isWord = k.keyword.toList ∧
      (k.keyword.toList ++ ' ' :: rest).dropWhile isWord = ' ' :: rest :=
  span_append (fun c hc => (isWord_keyword k c hc).1) (by decide) rest

theorem trim_space (rest : List Char) : trim (' ' :: rest) = trim rest := by
  have h : isBlank ' ' = true := by decide
  simp [trim, trimStart, h]

theorem read_spaced (k : BlockKind) (rest : List Char) (h : isName (trim rest)) :
    Tag.read ('#' :: (k.keyword.toList ++ ' ' :: rest)) =
      .ok (some (.opening k (String.ofList (trim rest)))) := by
  obtain ⟨htake, hdrop⟩ := dropWhile_spaced k rest
  have hempty : k.keyword.toList.isEmpty = false := by cases k <;> decide
  have hblank : isBlank ' ' = true := by decide
  simp [Tag.read, directive?, htake, hdrop, hempty, hblank, trim_space, h]

theorem exists_of_mentioned? {r n : List Char} (h : mentioned? ('#' :: r) = some n)
    (hn : isName n) :
    ∃ (k : BlockKind) (rest : List Char), r = k.keyword.toList ++ ' ' :: rest ∧ n = trim rest := by
  have hsplit : r.takeWhile (· ≠ ' ') ++ r.dropWhile (· ≠ ' ') = r :=
    List.takeWhile_append_dropWhile
  obtain ⟨k, hk, heq⟩ : ∃ k, BlockKind.ofKeyword? (String.ofList (r.takeWhile (· ≠ ' '))) = some k ∧
      trim (r.drop ((r.takeWhile (· ≠ ' ')).length + 1)) = n := by
    simp only [mentioned?] at h
    split at h
    · simp at h
    · next k hk => exact ⟨k, hk, Option.some.inj h⟩
  cases hd : r.dropWhile (· ≠ ' ') with
  | nil =>
    have hnil : r.drop ((r.takeWhile (· ≠ ' ')).length + 1) = [] := by
      rw [hd, List.append_nil] at hsplit
      rw [hsplit]
      exact List.drop_eq_nil_of_le (Nat.le_succ _)
    rw [hnil] at heq
    rw [← heq] at hn
    simp [trim, trimStart, trimEnd, isName] at hn
  | cons c rest =>
    have hc := List.head?_dropWhile_not (· ≠ ' ') r
    rw [hd] at hc hsplit
    have hspace : c = ' ' := by simpa using hc
    rw [toList_ofKeyword? hk, hspace] at hsplit
    rw [← hsplit, mentioned?_spaced] at h
    exact ⟨k, rest, hsplit.symm, (Option.some.inj h).symm⟩

theorem exists_of_read_spaced {r : List Char} {tag : Tag} {name : String}
    (h : Tag.read ('#' :: r) = .ok (some tag)) (hname : tag.name? = some name)
    (hs : Spaced ('#' :: r)) :
    ∃ (k : BlockKind) (rest : List Char), r = k.keyword.toList ++ ' ' :: rest ∧
      isName (trim rest) ∧ name = String.ofList (trim rest) := by
  have hsplit : r.takeWhile isWord ++ r.dropWhile isWord = r := List.takeWhile_append_dropWhile
  have hspace := hs r rfl
  obtain ⟨rest, hrest⟩ : ∃ rest, r.dropWhile isWord = ' ' :: rest := by
    cases hd : r.dropWhile isWord with
    | nil => simp [hd] at hspace
    | cons c rest =>
      rw [hd] at hspace
      exact ⟨rest, by simpa using hspace⟩
  rw [hrest] at hsplit
  simp only [Tag.read, directive?, hrest, trim_space] at h
  split at h
  · simp [isName, isNameStart] at h
  · next word argument hdir =>
    split at hdir
    · simp at hdir
    · cases hdir
      split at h
      · simp at h
      · next k hk =>
        split at h
        · next hisName =>
          cases h
          cases hname
          rw [toList_ofKeyword? hk] at hsplit
          exact ⟨k, rest, hsplit.symm, hisName, rfl⟩
        · simp at h
  · next word argument hdir =>
    split at hdir <;> simp at hdir

theorem name?_of_read_closing {r : List Char} {tag : Tag}
    (h : Tag.read ('/' :: r) = .ok (some tag)) : tag.name? = none := by
  simp only [Tag.read, directive?] at h
  split at h
  · simp [isName, isNameStart] at h
  · next word argument hdir => split at hdir <;> simp at hdir
  · next word argument hdir =>
    split at h
    · simp at h
    · split at h
      · cases h
        rfl
      · simp at h

/-- Without a sigil the pair holds a name or nothing. -/
theorem read_plain {inner : List Char} (hopen : inner.head? ≠ some '#')
    (hclose : inner.head? ≠ some '/') :
    mentioned? inner = some inner ∧ Tag.read inner =
      .ok (if isName inner then some (.variable (String.ofList inner)) else none) := by
  cases inner with
  | nil => exact ⟨rfl, rfl⟩
  | cons c r =>
    have ho : c ≠ '#' := by simpa using hopen
    have hc : c ≠ '/' := by simpa using hclose
    constructor
    · unfold mentioned?
      split <;> simp_all
    · unfold Tag.read directive?
      split <;> simp_all

/-- The scanner takes a name of a value from the pairs that are read as a tag with that name, but
not from an opening directive with other white space than a space after its keyword. -/
theorem declared?_eq_some_iff_read {inner : List Char} {name : String} :
    declared? inner = some name ↔ IsValueName name ∧ Spaced inner ∧
      ∃ tag, Tag.read inner = .ok (some tag) ∧ tag.name? = some name := by
  rw [declared?_eq_some_iff]
  by_cases hopen : inner.head? = some '#'
  · obtain ⟨r, rfl⟩ := List.head?_eq_some_iff.mp hopen
    constructor
    · rintro ⟨n, hm, hn, hvalue, rfl⟩
      obtain ⟨k, rest, rfl, rfl⟩ := exists_of_mentioned? hm hn
      refine ⟨hvalue, ?_, _, read_spaced k rest hn, rfl⟩
      intro r hr
      cases hr
      rw [(dropWhile_spaced k rest).2]
      rfl
    · rintro ⟨hvalue, hs, tag, hread, hname⟩
      obtain ⟨k, rest, rfl, hn, rfl⟩ := exists_of_read_spaced hread hname hs
      exact ⟨_, mentioned?_spaced k rest, hn, hvalue, rfl⟩
  · by_cases hclose : inner.head? = some '/'
    · obtain ⟨r, rfl⟩ := List.head?_eq_some_iff.mp hclose
      constructor
      · rintro ⟨n, hm, -⟩
        simp [mentioned?] at hm
      · rintro ⟨-, -, tag, hread, hname⟩
        simp [name?_of_read_closing hread] at hname
    · obtain ⟨hm, hread⟩ := read_plain hopen hclose
      rw [hm, hread]
      constructor
      · rintro ⟨n, hn, hisName, hvalue, rfl⟩
        cases hn
        refine ⟨hvalue, ?_, .variable (String.ofList inner), by simp [hisName], rfl⟩
        rintro r rfl
        exact absurd rfl hopen
      · rintro ⟨hvalue, -, tag, htag, hname⟩
        split at htag
        · next hisName =>
          cases htag
          cases hname
          exact ⟨inner, rfl, hisName, hvalue, rfl⟩
        · simp at htag

/-! ### Whole texts -/

/-- The names that a tree looks up in the values. -/
def valueNames (nodes : List Node) : List String :=
  (namesIn nodes).filter IsValueName

theorem mem_scanNames_iff {text name : String} :
    name ∈ scanNames text ↔ IsValueName name ∧ ∃ e ∈ pairs text.toList, Spaced e.2.inner ∧
      ∃ tag, Tag.read e.2.inner = .ok (some tag) ∧ tag.name? = some name := by
  simp only [scanNames, mem_nameSet, List.mem_filterMap, declared?_eq_some_iff_read]
  constructor
  · rintro ⟨e, he, hvalue, hrest⟩
    exact ⟨hvalue, e, he, hrest⟩
  · rintro ⟨hvalue, e, he, hrest⟩
    exact ⟨e, he, hvalue, hrest⟩

/-- The scanner reports no name that the tree does not look up, and it reports them all exactly
when each occurs in a pair that is no opening directive with other white space than a space after
its keyword. -/
theorem scanNames_eq_iff_spaced {text : String} {nodes : List Node}
    (h : parse text = .ok nodes) :
    (∀ name ∈ scanNames text, name ∈ valueNames nodes) ∧
      (scanNames text = nameSet (valueNames nodes) ↔
        ∀ name ∈ valueNames nodes, ∃ e ∈ pairs text.toList, Spaced e.2.inner ∧
          ∃ tag, Tag.read e.2.inner = .ok (some tag) ∧ tag.name? = some name) := by
  have hmem : ∀ name, name ∈ valueNames nodes ↔ IsValueName name ∧ ∃ e ∈ pairs text.toList,
      ∃ tag, Tag.read e.2.inner = .ok (some tag) ∧ tag.name? = some name := by
    intro name
    simp [valueNames, mem_namesIn_iff h, and_comm]
  have hsub : ∀ name ∈ scanNames text, name ∈ valueNames nodes := by
    intro name hname
    obtain ⟨hvalue, e, he, -, htag⟩ := mem_scanNames_iff.mp hname
    exact (hmem name).mpr ⟨hvalue, e, he, htag⟩
  refine ⟨hsub, ?_⟩
  rw [scanNames, nameSet_eq_iff]
  constructor
  · intro heq name hname
    have hscan : name ∈ scanNames text := mem_nameSet.mpr ((heq name).mpr hname)
    exact (mem_scanNames_iff.mp hscan).2
  · intro hall name
    rw [← mem_nameSet, ← scanNames]
    constructor
    · exact hsub name
    · intro hname
      exact mem_scanNames_iff.mpr ⟨((hmem name).mp hname).1, hall name hname⟩

theorem scanNames_eq_iff_spaced_nested :
    let text := "\x7b\x7b#if x\x7d\x7d\x7b\x7b#each\tys\x7d\x7d" ++
      "\x7b\x7bthis\x7d\x7d\x7b\x7b/each\x7d\x7d\x7b\x7b/if\x7d\x7d"
    let nodes : List Node := [.block .when "x" [.block .each "ys" [.variable "this"]]]
    parse text = .ok nodes ∧ (∀ name ∈ scanNames text, name ∈ valueNames nodes) ∧
      (scanNames text = nameSet (valueNames nodes) ↔
        ∀ name ∈ valueNames nodes, ∃ e ∈ pairs text.toList, Spaced e.2.inner ∧
          ∃ tag, Tag.read e.2.inner = .ok (some tag) ∧ tag.name? = some name) := by
  intro text nodes
  have h : parse text = .ok nodes := by cbv
  exact ⟨h, scanNames_eq_iff_spaced h⟩

/-- The name of a block whose keyword is followed by a tab is not reported. -/
theorem scanNames_misses_tabbed_name :
    let text := "\x7b\x7b#if\tx\x7d\x7da\x7b\x7b/if\x7d\x7d"
    let nodes : List Node := [.block .when "x" [.literal "a"]]
    parse text = .ok nodes ∧ valueNames nodes = ["x"] ∧ scanNames text = [] := by
  intro text nodes
  refine ⟨?_, ?_, ?_⟩
  · cbv
  · cbv
  · cbv

end Promptsmith.Template
