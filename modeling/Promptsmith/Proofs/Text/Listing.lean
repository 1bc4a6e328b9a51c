import Promptsmith.Proofs.Text.Splitting

/-!
# Lists in one text

A text lists its items between commas. The items of joined texts are those of one after the other,
so what a list may hold is settled part by part: white space around an item is trimmed away, and a
part of white space alone, or an empty one, lists nothing. Every text is made of such parts.
-/
namespace Promptsmith.Text

/-! ### What is listed -/

/-- A text that a list can hold: it is not empty, no comma is in it, and it neither starts nor ends
with white space. -/
structure IsItem (s : String) : Prop where
  nonempty : s ≠ ""
  noComma : ',' ∉ s.toList
  starts : ∀ c ∈ s.toList.head?, isBlank c = false
  ends : ∀ c ∈ s.toList.getLast?, isBlank c = false

/-- The parts between the commas of a list: its names in order, each with white space around it, and
blank parts anywhere. -/
inductive Listing : List String → List String → Prop
  | none : Listing [] []
  | blank {part : String} {names parts : List String} (h : ∀ c ∈ part.toList, isBlank c)
      (hrest : Listing names parts) : Listing names (part :: parts)
  | name {before name after : String} {names parts : List String}
      (hbefore : ∀ c ∈ before.toList, isBlank c) (hafter : ∀ c ∈ after.toList, isBlank c)
      (hrest : Listing names parts) : Listing (name :: names) ((before ++ name ++ after) :: parts)

theorem comma_notMem_of_blank {s : String} (h : ∀ c ∈ s.toList, isBlank c) : ',' ∉ s.toList :=
  fun hmem => absurd (h _ hmem) (by decide)

theorem isItem_of_mem_items {s name : String} (h : name ∈ items s) : IsItem name := by
  rw [items, splitTrimmed, List.mem_filter, List.mem_map] at h
  obtain ⟨⟨part, hpart, rfl⟩, hne⟩ := h
  obtain ⟨hstart, hend⟩ := trim_eq_self_iff.mp (trim_trim part)
  obtain ⟨before, after, htext, -, -⟩ := exists_trim_append part
  have hcomma : ',' ∉ trim part := by
    intro hmem
    have hplain := mem_of_mem_splitAt hpart ',' (by rw [htext]; simp [hmem])
    cases hplain
  exact ⟨by simpa using hne, by simpa using hcomma, by simpa using hstart, by simpa using hend⟩

/-! ### Items of joined texts -/

theorem items_append_comma (s t : String) : items (s ++ "," ++ t) = items s ++ items t := by
  have hsplit := @splitTrimmed_append (· == ',') s "" t ',' rfl nofun
  rw [String.append_empty] at hsplit
  rw [items, items, items, ← List.filter_append, ← hsplit]
  rfl

/-- The items of texts joined by commas are the items of each, whether or not commas are in them. -/
theorem items_intercalate (parts : List String) :
    items (",".intercalate parts) = parts.flatMap items := by
  induction parts with
  | nil => rfl
  | cons part parts ih =>
    cases parts with
    | nil => rw [String.intercalate_singleton, List.flatMap_singleton]
    | cons next parts =>
      rw [String.intercalate_cons_cons, items_append_comma, ih]
      rfl

/-! ### Items of a part -/

theorem items_of_noComma {s : String} (h : ',' ∉ s.toList) :
    items s = [trimmed s].filter (· ≠ "") := by
  have hnone : ∀ c ∈ s.toList, (c == ',') = false := by
    intro c hc
    rw [beq_eq_false_iff_ne]
    rintro rfl
    exact h hc
  rw [items, splitTrimmed, splitAt_of_forall hnone]
  rfl

theorem items_of_blank {s : String} (h : ∀ c ∈ s.toList, isBlank c) : items s = [] := by
  have htrim : trimmed s = "" := by
    have hdrop := trim_append [] h
    rw [List.nil_append] at hdrop
    rw [trimmed, hdrop]
    rfl
  rw [items_of_noComma (comma_notMem_of_blank h), htrim]
  rfl

/-- White space around an item is not part of it. -/
theorem IsItem.items_padded {before name after : String} (h : IsItem name)
    (hbefore : ∀ c ∈ before.toList, isBlank c) (hafter : ∀ c ∈ after.toList, isBlank c) :
    items (before ++ name ++ after) = [name] := by
  have hcomma : ',' ∉ (before ++ name ++ after).toList := by
    simpa [comma_notMem_of_blank hbefore, comma_notMem_of_blank hafter] using h.noComma
  have htrim : trimmed (before ++ name ++ after) = name := by
    rw [trimmed, String.toList_append, String.toList_append, trim_append _ hafter,
      trim_prepend _ hbefore, trim_eq_self_iff.mpr ⟨h.starts, h.ends⟩, String.ofList_toList]
  rw [items_of_noComma hcomma, htrim]
  exact List.filter_cons_of_pos (by simpa using h.nonempty)

/-! ### Items of a list -/

section

variable {names parts : List String}

theorem Listing.flatMap_items (h : Listing names parts) (hnames : ∀ name ∈ names, IsItem name) :
    parts.flatMap items = names := by
  induction h with
  | none => rfl
  | blank h _ ih => rw [List.flatMap_cons, items_of_blank h, ih hnames, List.nil_append]
  | name hbefore hafter _ ih =>
    rw [List.forall_mem_cons] at hnames
    rw [List.flatMap_cons, hnames.1.items_padded hbefore hafter, ih hnames.2, List.singleton_append]

/-- A list may be written without any white space. -/
theorem listing_self (names : List String) : Listing names names := by
  induction names with
  | nil => exact .none
  | cons name names ih =>
    have hname := @Listing.name "" name "" _ _ nofun nofun ih
    rwa [String.empty_append, String.append_empty] at hname

/-- A part without a comma is blank or one item with white space around it. -/
theorem Listing.cons {part : String} (h : Listing names parts) (hcomma : ',' ∉ part.toList) :
    Listing (items part ++ names) (part :: parts) := by
  obtain ⟨before, after, hpart, hbefore, hafter⟩ := exists_trim_append part.toList
  rw [items_of_noComma hcomma]
  -- Which of the two it is, what is left by trimming tells.
  by_cases htrim : trimmed part = ""
  · have hnil : trim part.toList = [] := by simpa [trimmed] using htrim
    have hblank : ∀ c ∈ part.toList, isBlank c := by
      intro c hc
      rw [hpart, hnil, List.append_nil] at hc
      exact (List.mem_append.mp hc).elim (hbefore c) (hafter c)
    rw [List.filter_cons_of_neg (by simpa using htrim)]
    exact .blank hblank h
  · have htext : String.ofList before ++ trimmed part ++ String.ofList after = part := by
      rw [← String.toList_inj]
      simpa [trimmed] using hpart.symm
    have hname := @Listing.name (String.ofList before) (trimmed part) (String.ofList after) _ _
      (by simpa using hbefore) (by simpa using hafter) h
    rw [List.filter_cons_of_pos (by simpa using htrim)]
    rwa [htext] at hname

theorem listing_flatMap_items (h : ∀ part ∈ parts, ',' ∉ part.toList) :
    Listing (parts.flatMap items) parts := by
  induction parts with
  | nil => exact .none
  | cons part parts ih =>
    rw [List.forall_mem_cons] at h
    exact (ih h.2).cons h.1

end

/-! ### Every text is a list -/

/-- What stands between the commas of a text. -/
def commaParts (s : String) : List String :=
  (splitAt (· == ',') s.toList).map String.ofList

theorem intercalate_commaParts (s : String) : ",".intercalate (commaParts s) = s :=
  intercalate_ofList_splitAt ',' s

theorem listing_commaParts (s : String) : Listing (items s) (commaParts s) := by
  have hnone : ∀ part ∈ commaParts s, ',' ∉ part.toList := by
    intro part hpart hmem
    obtain ⟨p, hp, rfl⟩ := List.mem_map.mp hpart
    have hplain := mem_of_mem_splitAt hp ',' (by simpa using hmem)
    cases hplain
  have hlisting := listing_flatMap_items hnone
  rwa [← items_intercalate, intercalate_commaParts] at hlisting

/-- Names joined by commas are the items of the text again, whatever white space is put around them
and whatever blank parts between them. Every text is joined in this way from its own items, and
these are the items also of the text that they are joined to by commas alone. -/
theorem items_listed :
    (∀ names parts : List String, (∀ name ∈ names, IsItem name) → Listing names parts →
      items (",".intercalate parts) = names) ∧
    ∀ s : String, (∀ name ∈ items s, IsItem name) ∧
      (∃ parts, Listing (items s) parts ∧ ",".intercalate parts = s) ∧
      items (",".intercalate (items s)) = items s := by
  have hjoined (names parts : List String) (hnames : ∀ name ∈ names, IsItem name)
      (hlisting : Listing names parts) : items (",".intercalate parts) = names := by
    rw [items_intercalate, hlisting.flatMap_items hnames]
  refine ⟨hjoined, ?_⟩
  intro s
  have hitems : ∀ name ∈ items s, IsItem name := fun _ => isItem_of_mem_items
  exact ⟨hitems, ⟨commaParts s, listing_commaParts s, intercalate_commaParts s⟩,
    hjoined _ _ hitems (listing_self _)⟩

/-- An empty part in front and behind, one of a wide space, and a name of two words. -/
theorem items_listed_blanks :
    let names := ["full text", "api"]
    let parts := ["", "\tfull text ", "\u2003", "api", ""]
    (∀ name ∈ names, IsItem name) ∧ Listing names parts ∧
      ",".intercalate parts = ",\tfull text ,\u2003,api," ∧
      items (",".intercalate parts) = names := by
  intro names parts
  have hnames : items "full text,api" = names := by decide +kernel
  have hitems : ∀ name ∈ names, IsItem name := hnames ▸ (items_listed.2 "full text,api").1
  have hblank {s : String} (h : s.toList.all isBlank) : ∀ c ∈ s.toList, isBlank c :=
    List.all_eq_true.mp h
  have hlisting : Listing names parts := by
    apply @Listing.blank "" _ _ nofun
    apply @Listing.name "\t" "full text" " " _ _ (hblank (by decide)) (hblank (by decide))
    apply @Listing.blank "\u2003" _ _ (hblank (by decide))
    apply @Listing.name "" "api" "" _ _ nofun nofun
    exact .blank nofun .none
  exact ⟨hitems, hlisting, by decide +kernel, items_listed.1 names parts hitems hlisting⟩

end Promptsmith.Text
