import Promptsmith.Files.Tree

/-!
# Files put into trees

A file that is put into a tree stands at its path, below directories, and stays there when others
are put beside it. What stands at a path of sound names is found and read.
-/
namespace Promptsmith.Files

namespace Tree

variable {t : Tree} {parts more q : List String} {c d : Content}

theorem lookup_replace (entries : List (List String × Entry)) (p q : List String) (e : Entry) :
    List.lookup q (entries.map fun f => if f.1 == p then (p, e) else f) =
      if q = p ∧ entries.any (·.1 == p) then some e else List.lookup q entries := by
  induction entries with
  | nil => simp
  | cons f entries ih =>
    obtain ⟨r, e'⟩ := f
    simp only [beq_iff_eq] at ih ⊢
    by_cases hr : r = p
    · subst hr
      by_cases hq : q = r
      · simp [hq]
      · simp [List.lookup_cons, hq, beq_false_of_ne, ih]
    · by_cases hq : q = r
      · subst hq
        simp [hr]
      · have hrp : (r == p) = false := by simpa using hr
        simp only [List.map_cons, hr, if_false, List.lookup_cons, beq_false_of_ne hq, ih,
          List.any_cons, hrp, Bool.false_or]

@[simp] theorem entry?_nil : t.entry? [] = some .directory := rfl

theorem entry?_cons {name : String} {rest : List String} :
    t.entry? (name :: rest) = t.entries.lookup (name :: rest) := rfl

theorem entry?_put (hparts : parts ≠ []) (e : Entry) :
    entry? (t.put parts e) q = if q = parts then some e else t.entry? q := by
  cases q with
  | nil => rw [if_neg (Ne.symm hparts), entry?_nil, entry?_nil]
  | cons name rest =>
    rw [entry?_cons, entry?_cons, put]
    split
    · next hany =>
      rw [lookup_replace]
      simp [hany]
    · next hany =>
      rw [List.lookup_append]
      by_cases hq : name :: rest = parts
      · have hnone : t.entries.lookup (name :: rest) = none := by
          rw [List.lookup_eq_none_iff]
          intro f hf
          simp only [List.any_eq_true, not_exists, not_and] at hany
          rw [hq, bne_iff_ne]
          rintro rfl
          exact hany f hf BEq.rfl
        rw [hnone, if_pos hq, hq]
        simp
      · rw [if_neg hq]
        simp [List.lookup_cons, beq_false_of_ne hq]

theorem entry?_foldl_put {ds : List (List String)} (hds : ∀ p ∈ ds, p ≠ []) :
    entry? (ds.foldl (fun t p => t.put p .directory) t) q =
      if q ∈ ds then some .directory else t.entry? q := by
  induction ds generalizing t with
  | nil => simp
  | cons p ds ih =>
    rw [List.forall_mem_cons] at hds
    rw [List.foldl_cons, ih hds.2, entry?_put hds.1]
    by_cases hq : q = p <;> simp [hq]

theorem mem_prefixes_iff : q ∈ prefixes parts ↔ q ≠ [] ∧ q <+: parts := by
  simp only [prefixes, List.mem_map, List.mem_range]
  constructor
  · rintro ⟨n, hn, rfl⟩
    refine ⟨?_, List.take_prefix _ _⟩
    intro hnil
    have hlength := congrArg List.length hnil
    rw [List.length_take, List.length_nil] at hlength
    omega
  · rintro ⟨hne, hq⟩
    have hpos := List.length_pos_iff.mpr hne
    refine ⟨q.length - 1, ?_, ?_⟩
    · have hle := hq.length_le
      omega
    · rw [Nat.sub_add_cancel hpos]
      exact (List.prefix_iff_eq_take.mp hq).symm

theorem entry?_putFile (hparts : parts ≠ []) :
    entry? (t.putFile parts c) q =
      if q = parts then some (.file c)
      else if q ≠ [] ∧ q <+: parts.dropLast then some .directory else t.entry? q := by
  rw [putFile, entry?_put hparts, entry?_foldl_put fun p hp => (mem_prefixes_iff.mp hp).1]
  simp only [mem_prefixes_iff]

/-- The file stands at the path, and above it are directories. -/
structure Placed (t : Tree) (parts : List String) (c : Content) : Prop where
  file : t.entry? parts = some (.file c)
  above : ∀ q, q <+: parts.dropLast → t.entry? q = some .directory

theorem ne_of_prefix_dropLast (hq : q <+: parts.dropLast) (hlength : parts.length = more.length)
    (hmore : more ≠ []) : q ≠ more := by
  rintro rfl
  have hle := hq.length_le
  have hpos := List.length_pos_iff.mpr hmore
  rw [List.length_dropLast] at hle
  omega

theorem placed_putFile (hparts : parts ≠ []) : (t.putFile parts c).Placed parts c := by
  constructor
  · rw [entry?_putFile hparts, if_pos rfl]
  · intro q hq
    rw [entry?_putFile hparts, if_neg (ne_of_prefix_dropLast hq rfl hparts)]
    by_cases hnil : q = []
    · subst hnil
      simp
    · rw [if_pos ⟨hnil, hq⟩]

/-- A file put elsewhere at the same depth moves nothing. -/
theorem Placed.putFile (h : t.Placed parts c) (hlength : parts.length = more.length)
    (hmore : more ≠ []) (hne : parts ≠ more) : (t.putFile more d).Placed parts c := by
  constructor
  · rw [entry?_putFile hmore, if_neg hne, if_neg, h.file]
    rintro ⟨hparts, hprefix⟩
    exact ne_of_prefix_dropLast hprefix hlength.symm hparts rfl
  · intro q hq
    rw [entry?_putFile hmore, if_neg (ne_of_prefix_dropLast hq hlength hmore), h.above q hq]
    split <;> rfl

theorem Placed.foldl_putFile {files : List (List String × Content)} {n : Nat}
    (h : t.Placed parts c) (hparts : parts.length = n + 1)
    (hfiles : ∀ f ∈ files, f.1.length = n + 1 ∧ parts ≠ f.1) :
    (files.foldl (fun t f => t.putFile f.1 f.2) t).Placed parts c := by
  induction files generalizing t with
  | nil => exact h
  | cons f files ih =>
    rw [List.forall_mem_cons] at hfiles
    obtain ⟨⟨hlength, hne⟩, hfiles⟩ := hfiles
    exact ih (h.putFile (hparts.trans hlength.symm) (List.ne_nil_of_length_eq_add_one hlength) hne)
      hfiles

/-- Of files put one after the other at different paths of one depth each stands at its own. -/
theorem placed_of_mem {files : List (List String × Content)} {n : Nat}
    (hlengths : ∀ f ∈ files, f.1.length = n + 1) (hdistinct : (files.map Prod.fst).Nodup)
    {f : List String × Content} (hf : f ∈ files) :
    (files.foldl (fun t f => t.putFile f.1 f.2) t).Placed f.1 f.2 := by
  induction files generalizing t with
  | nil => cases hf
  | cons g files ih =>
    rw [List.forall_mem_cons] at hlengths
    rw [List.map_cons, List.nodup_cons] at hdistinct
    rw [List.foldl_cons]
    rcases List.mem_cons.mp hf with rfl | hf
    · refine (placed_putFile (List.ne_nil_of_length_eq_add_one hlengths.1)).foldl_putFile
        hlengths.1 ?_
      intro g hg
      refine ⟨hlengths.2 g hg, ?_⟩
      intro heq
      exact hdistinct.1 (heq ▸ List.mem_map_of_mem hg)
    · exact ih hlengths.2 hdistinct.2 hf

end Tree

/-! ### Looking up -/

/-- An absolute path that is not too long, of names that are not too long either and none of which
leads upwards. -/
structure Path.Sound (p : Path) : Prop where
  absolute : p.isAbsolute
  noNull : '\x00' ∉ p.text.toList
  short : p.text.utf8ByteSize ≤ maxPathBytes
  names : ∀ name ∈ p.parts, name ≠ ".." ∧ name.utf8ByteSize ≤ maxNameBytes

namespace Tree

variable {t : Tree} {c : Content} {p : Path}

theorem Placed.walk {parts : List String} (h : t.Placed parts c) {place rest : List String}
    (hsplit : place ++ rest = parts)
    (hnames : ∀ name ∈ rest, name ≠ ".." ∧ name.utf8ByteSize ≤ maxNameBytes) :
    t.walk place rest = .ok parts := by
  induction rest generalizing place with
  | nil => rw [Tree.walk, ← hsplit, List.append_nil]
  | cons name rest ih =>
    rw [List.forall_mem_cons] at hnames
    obtain ⟨⟨hup, hshort⟩, hnames⟩ := hnames
    have hsplit' : place ++ [name] ++ rest = parts := by simpa using hsplit
    unfold Tree.walk
    rw [if_neg hup, if_neg (Nat.not_lt.mpr hshort)]
    cases rest with
    | nil =>
      rw [List.append_nil] at hsplit'
      rw [hsplit', h.file]
    | cons next rest =>
      have habove : place ++ [name] <+: parts.dropLast := by
        rw [← hsplit', List.dropLast_append_of_ne_nil (List.cons_ne_nil _ _)]
        exact List.prefix_append _ _
      rw [h.above _ habove]
      exact ih hsplit' hnames

theorem Placed.find? (h : t.Placed p.parts c) (hp : p.Sound) :
    t.find? p = .ok (some (.file c)) := by
  have hresolve : t.resolve p = .ok p.parts := by
    rw [resolve, if_neg hp.noNull, if_neg (Nat.not_lt.mpr hp.short), if_pos hp.absolute,
      h.walk (List.nil_append _) hp.names]
    rfl
  rw [Tree.find?, hresolve, Except.map, h.file]

theorem Placed.isFile (h : t.Placed p.parts c) (hp : p.Sound) : t.isFile p = .ok true := by
  rw [Tree.isFile, test, h.find? hp]
  rfl

/-- A text without carriage returns is read as it is. -/
theorem Placed.read {s : String} (h : t.Placed p.parts (.text s)) (hp : p.Sound)
    (hlines : '\r' ∉ s.toList) : t.read p = .ok s := by
  rw [Tree.read, h.find? hp]
  dsimp only
  rw [Content.read, Text.unifyLines_of_not_mem hlines, String.ofList_toList]
  rfl

end Tree

end Promptsmith.Files
