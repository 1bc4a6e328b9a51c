import Promptsmith.Proofs.Files.Normal
import Promptsmith.Proofs.Files.Placing

/-!
# Directories of texts

A directory holds some text files and no others. Of every path of plain names it is then told
whether it is one of theirs, and theirs are read as they are decoded, with their line endings
unified.
-/
namespace Promptsmith

namespace Files

namespace Path

/-- A name that a file may have and that leads nowhere else. -/
structure IsPlain (name : String) : Prop extends IsName name where
  notUp : name ≠ ".."
  noNull : '\x00' ∉ name.toList
  short : name.utf8ByteSize ≤ maxNameBytes

instance (name : String) : Decidable (IsPlain name) :=
  decidable_of_iff (('/' ∉ name.toList ∧ name ≠ "" ∧ name ≠ ".") ∧
      name ≠ ".." ∧ '\x00' ∉ name.toList ∧ name.utf8ByteSize ≤ maxNameBytes)
    ⟨fun h => ⟨⟨h.1.1, h.1.2.1, h.1.2.2⟩, h.2.1, h.2.2.1, h.2.2.2⟩,
      fun h => ⟨⟨h.noSlash, h.nonempty, h.noDot⟩, h.notUp, h.noNull, h.short⟩⟩

/-- A text of plain names between single slashes that is not too long below a directory. -/
structure Fits (dir : Path) (below : String) : Prop where
  names : ∀ part ∈ Text.splitAt (· == '/') below.toList, IsPlain (String.ofList part)
  short : (dir.join below).text.utf8ByteSize ≤ maxPathBytes

instance (dir : Path) (below : String) : Decidable (dir.Fits below) :=
  decidable_of_iff ((∀ part ∈ Text.splitAt (· == '/') below.toList, IsPlain (String.ofList part)) ∧
      (dir.join below).text.utf8ByteSize ≤ maxPathBytes)
    ⟨fun h => ⟨h.1, h.2⟩, fun h => ⟨h.names, h.short⟩⟩

namespace Fits

variable {dir : Path} {below other : String}

theorem components_eq (h : dir.Fits below) :
    components below = (Text.splitAt (· == '/') below.toList).map String.ofList := by
  rw [components, List.filter_eq_self]
  intro name hname
  obtain ⟨part, hpart, rfl⟩ := List.mem_map.mp hname
  rw [decide_eq_true_iff]
  exact ⟨(h.names part hpart).nonempty, (h.names part hpart).noDot⟩

theorem isPlain (h : dir.Fits below) : ∀ name ∈ components below, IsPlain name := by
  rw [h.components_eq]
  intro name hname
  obtain ⟨part, hpart, rfl⟩ := List.mem_map.mp hname
  exact h.names part hpart

theorem intercalate_components (h : dir.Fits below) :
    String.intercalate "/" (components below) = below := by
  rw [h.components_eq]
  exact Text.intercalate_ofList_splitAt '/' below

/-- Different texts that fit are different paths. -/
theorem eq_of_components (h : dir.Fits below) (h' : dir.Fits other)
    (heq : components below = components other) : below = other := by
  rw [← h.intercalate_components, ← h'.intercalate_components, heq]

end Fits

theorem mem_text_iff {c : Char} (hslash : c ≠ '/') (hdot : c ≠ '.') (p : Path) :
    c ∈ p.text.toList ↔ c ∈ p.root.toList ∨ ∃ name ∈ p.parts, c ∈ name.toList := by
  have hjoined : c ∈ (String.intercalate "/" p.parts).toList ↔
      ∃ name ∈ p.parts, c ∈ name.toList := by
    rw [String.toList_intercalate, List.intercalate]
    induction p.parts with
    | nil => simp
    | cons name rest ih =>
      cases rest with
      | nil => simp
      | cons next rest => simp_all
  unfold text
  split
  · next h => simp [h.1, h.2, hdot]
  · rw [String.toList_append, List.mem_append, hjoined]

end Path

/-! ### Walking below a directory -/

namespace Tree

variable {t : Tree} {start place : List String} {name : String}

theorem walk_up (rest : List String) : t.walk start (".." :: rest) = t.walk start.dropLast rest := by
  conv => lhs; unfold walk
  rw [if_pos rfl]

theorem walk_down (hup : name ≠ "..") (hshort : ¬ maxNameBytes < name.utf8ByteSize)
    (hentry : t.entry? (start ++ [name]) = some .directory) (rest : List String) :
    t.walk start (name :: rest) = t.walk (start ++ [name]) rest := by
  conv => lhs; unfold walk
  rw [if_neg hup, if_neg hshort, hentry]

/-- A walk that ends at a directory can be gone on from there. -/
theorem walk_append {front : List String} (hwalk : t.walk start front = .ok place)
    (hplace : t.entry? place = some .directory) (back : List String) :
    t.walk start (front ++ back) = t.walk place back := by
  induction front generalizing start with
  | nil =>
    obtain rfl := Except.ok.inj hwalk
    rfl
  | cons name rest ih =>
    unfold walk at hwalk
    split at hwalk
    · next hup =>
      rw [List.cons_append, hup, walk_up]
      exact ih hwalk
    next hup =>
    split at hwalk
    · cases hwalk
    next hshort =>
    cases hentry : t.entry? (start ++ [name]) with
    | some entry =>
      rw [hentry] at hwalk
      cases entry with
      | directory =>
        rw [List.cons_append, walk_down hup hshort hentry]
        exact ih hwalk
      | file content =>
        cases rest with
        | nil =>
          obtain rfl := Except.ok.inj hwalk
          rw [hentry] at hplace
          cases hplace
        | cons next rest => cases hwalk
    | none =>
      rw [hentry] at hwalk
      cases rest with
      | nil =>
        obtain rfl := Except.ok.inj hwalk
        rw [hentry] at hplace
        cases hplace
      | cons next rest => cases hwalk

/-- Plain names lead straight down, or what is missing on the way is no matter of length. -/
theorem walk_plain {names : List String} (h : ∀ name ∈ names, Path.IsPlain name) :
    t.walk place names = .ok (place ++ names) ∨
      ∃ cause, cause ≠ .tooLong ∧ t.walk place names = .error cause := by
  induction names generalizing place with
  | nil =>
    rw [List.append_nil]
    exact .inl rfl
  | cons name rest ih =>
    rw [List.forall_mem_cons] at h
    have hshort := Nat.not_lt.mpr h.1.short
    cases hentry : t.entry? (place ++ [name]) with
    | some entry =>
      cases entry with
      | directory =>
        rw [walk_down h.1.notUp hshort hentry, List.append_cons place name rest]
        exact ih h.2
      | file content =>
        unfold walk
        rw [if_neg h.1.notUp, if_neg hshort, hentry]
        cases rest with
        | nil => exact .inl rfl
        | cons next rest => exact .inr ⟨.notDirectory, by decide, rfl⟩
    | none =>
      unfold walk
      rw [if_neg h.1.notUp, if_neg hshort, hentry]
      cases rest with
      | nil => exact .inl rfl
      | cons next rest => exact .inr ⟨.notFound, by decide, rfl⟩

theorem resolve_join {dir : Path} {below : String} (hdir : t.resolve dir = .ok place)
    (hplace : t.entry? place = some .directory) (hfits : dir.Fits below) :
    t.resolve (dir.join below) = (t.walk place (Path.components below)).mapError fun cause =>
      .system cause (dir.join below).text := by
  unfold resolve at hdir
  split at hdir
  · cases hdir
  next hnull =>
  split at hdir
  · cases hdir
  cases hwalk : t.walk (if dir.isAbsolute then [] else t.here) dir.parts with
  | error cause =>
    rw [hwalk] at hdir
    cases hdir
  | ok place' =>
    rw [hwalk] at hdir
    obtain rfl := Except.ok.inj hdir
    have hnull' : '\x00' ∉ (dir.join below).text.toList := by
      rw [Path.mem_text_iff (by decide) (by decide)] at hnull ⊢
      rintro (hroot | ⟨name, hname, hmem⟩)
      · exact hnull (.inl hroot)
      · rcases List.mem_append.mp hname with hname | hname
        · exact hnull (.inr ⟨name, hname, hmem⟩)
        · exact (hfits.isPlain name hname).noNull hmem
    rw [resolve, if_neg hnull', if_neg (Nat.not_lt.mpr hfits.short)]
    exact congrArg _ (walk_append hwalk hplace _)

theorem test_of_resolve {p : Path} (h : t.resolve p = .ok place) (kind : Entry → Bool) :
    t.test p kind = .ok ((t.entry? place).any kind) := by
  rw [test, find?, h]
  rfl

/-- Where a path leads nowhere, for another cause than a length, nothing is there. -/
theorem test_of_resolve_error {p : Path} {cause : Cause} {path : String}
    (h : t.resolve p = .error (.system cause path)) (hcause : cause ≠ .tooLong)
    (kind : Entry → Bool) : t.test p kind = .ok false := by
  rw [test, find?, h]
  cases cause with
  | tooLong => exact absurd rfl hcause
  | _ => rfl

end Tree

/-! ### Text files -/

/-- The characters of a file: those of its text, or those that its bytes spell. -/
def Content.decoded : Content → Except Text.Utf8Fault (List Char)
  | .text s => .ok s.toList
  | .raw bytes => Text.decodeUtf8 bytes

theorem Content.read_eq (c : Content) :
    c.read = c.decoded.map fun chars => String.ofList (Text.unifyLines chars) := by
  cases c <;> rfl

/-- A file that can be decoded, under its path below a directory. -/
structure TextFile where
  path : String
  content : Content
  chars : List Char
  decoded : content.decoded = .ok chars

namespace TextFile

/-- What is read of the file: its characters, with CR LF and lone CR turned into line feeds. -/
def body (f : TextFile) : String :=
  String.ofList (Text.unifyLines f.chars)

theorem read_content (f : TextFile) : f.content.read = .ok f.body := by
  rw [Content.read_eq, f.decoded]
  rfl

def names (f : TextFile) : List String :=
  Path.components f.path

end TextFile

namespace Tree

/-- The directory at a place holds the files and no others. -/
structure Holds (t : Tree) (place : List String) (files : List TextFile) : Prop where
  directory : t.entry? place = some .directory
  placed : ∀ f ∈ files, t.Placed (place ++ f.names) f.content
  only : ∀ parts c, t.entry? (place ++ parts) = some (.file c) → ∃ f ∈ files, f.names = parts

namespace Holds

variable {t : Tree} {place : List String} {files : List TextFile} {dir : Path} {f : TextFile}

theorem find?_of_mem (h : t.Holds place files) (hdir : t.resolve dir = .ok place) (hf : f ∈ files)
    (hfits : dir.Fits f.path) : t.find? (dir.join f.path) = .ok (some (.file f.content)) := by
  have hnames : ∀ name ∈ f.names, name ≠ ".." ∧ name.utf8ByteSize ≤ maxNameBytes := by
    intro name hname
    exact ⟨(hfits.isPlain name hname).notUp, (hfits.isPlain name hname).short⟩
  have hwalk : t.walk place (Path.components f.path) = .ok (place ++ f.names) :=
    (h.placed f hf).walk rfl hnames
  rw [find?, resolve_join hdir h.directory hfits, hwalk]
  exact congrArg Except.ok (h.placed f hf).file

theorem isFile_of_mem (h : t.Holds place files) (hdir : t.resolve dir = .ok place) (hf : f ∈ files)
    (hfits : dir.Fits f.path) : t.isFile (dir.join f.path) = .ok true := by
  rw [isFile, test, h.find?_of_mem hdir hf hfits]
  rfl

theorem read_of_mem (h : t.Holds place files) (hdir : t.resolve dir = .ok place) (hf : f ∈ files)
    (hfits : dir.Fits f.path) : t.read (dir.join f.path) = .ok f.body := by
  rw [Tree.read, h.find?_of_mem hdir hf hfits]
  dsimp only
  rw [f.read_content]
  rfl

theorem isFile_of_forall_ne {below : String} (h : t.Holds place files)
    (hdir : t.resolve dir = .ok place) (hfiles : ∀ f ∈ files, dir.Fits f.path)
    (hfits : dir.Fits below) (hne : ∀ f ∈ files, f.path ≠ below) :
    t.isFile (dir.join below) = .ok false := by
  have hresolve := resolve_join hdir h.directory hfits
  rcases walk_plain hfits.isPlain with hwalk | ⟨cause, hcause, hwalk⟩
  · rw [hwalk] at hresolve
    rw [isFile, test_of_resolve hresolve]
    cases hentry : t.entry? (place ++ Path.components below) with
    | none => rfl
    | some entry =>
      cases entry with
      | directory => rfl
      | file c =>
        obtain ⟨f, hf, hnames⟩ := h.only _ c hentry
        exact absurd ((hfiles f hf).eq_of_components hfits hnames) (hne f hf)
  · rw [hwalk] at hresolve
    exact test_of_resolve_error hresolve hcause _

end Holds

/-! ### Filling a directory -/

/-- Neither file stands where the other needs a directory, nor do they stand at one place. -/
def Apart (f g : TextFile) : Prop :=
  ¬ f.names <+: g.names ∧ ¬ g.names <+: f.names

instance (f g : TextFile) : Decidable (Apart f g) :=
  inferInstanceAs (Decidable (¬ f.names <+: g.names ∧ ¬ g.names <+: f.names))

/-- A directory filled with files, the last one first. -/
def filled (t : Tree) (place : List String) (files : List TextFile) : Tree :=
  files.foldr (fun f t => t.putFile (place ++ f.names) f.content) t

variable {t : Tree} {place : List String} {files : List TextFile}

/-- A tree without files holds none. -/
theorem holds_nil (hplace : t.entry? place = some .directory)
    (hentries : ∀ entry ∈ t.entries, entry.2 = .directory) : t.Holds place [] := by
  refine ⟨hplace, nofun, ?_⟩
  intro parts c hentry
  cases hparts : place ++ parts with
  | nil =>
    rw [hparts] at hentry
    cases hentry
  | cons name rest =>
    rw [hparts, entry?_cons] at hentry
    obtain ⟨front, back, hsplit, -⟩ := List.lookup_eq_some_iff.mp hentry
    cases hentries _ (by rw [hsplit]; exact List.mem_append_right _ List.mem_cons_self)

theorem Holds.putFile {f : TextFile} (h : t.Holds place files) (hf : f.names ≠ [])
    (hapart : ∀ g ∈ files, Apart f g) :
    (t.putFile (place ++ f.names) f.content).Holds place (f :: files) := by
  have hne : place ++ f.names ≠ [] := List.append_ne_nil_of_right_ne_nil _ hf
  constructor
  · rw [entry?_putFile hne, h.directory, if_neg]
    · split <;> rfl
    · rwa [List.self_eq_append_right]
  · intro g hg
    rcases List.mem_cons.mp hg with rfl | hg
    · exact placed_putFile hne
    obtain ⟨hfg, hgf⟩ := hapart g hg
    constructor
    · rw [entry?_putFile hne, if_neg, if_neg, (h.placed g hg).file]
      · rintro ⟨-, hprefix⟩
        have habove := hprefix.trans (List.dropLast_prefix _)
        exact hgf ((List.prefix_append_right_inj place).mp habove)
      · intro heq
        exact hgf (List.append_cancel_left heq ▸ List.prefix_rfl)
    · intro q hq
      rw [entry?_putFile hne, if_neg, (h.placed g hg).above q hq]
      · split <;> rfl
      · rintro rfl
        have habove := hq.trans (List.dropLast_prefix _)
        exact hfg ((List.prefix_append_right_inj place).mp habove)
  · intro parts c hentry
    rw [entry?_putFile hne] at hentry
    split at hentry
    · next heq => exact ⟨f, List.mem_cons_self, (List.append_cancel_left heq).symm⟩
    split at hentry
    · cases hentry
    · obtain ⟨g, hg, hnames⟩ := h.only parts c hentry
      exact ⟨g, List.mem_cons_of_mem f hg, hnames⟩

/-- Every finite set of files that can stand side by side fills a directory that held none. -/
theorem holds_filled (h : t.Holds place []) (hnames : ∀ f ∈ files, f.names ≠ [])
    (hapart : files.Pairwise Apart) : (t.filled place files).Holds place files := by
  induction files with
  | nil => exact h
  | cons f files ih =>
    rw [List.forall_mem_cons] at hnames
    rw [List.pairwise_cons] at hapart
    exact (ih hnames.2 hapart.2).putFile hnames.1 hapart.1

end Tree

end Files

end Promptsmith
