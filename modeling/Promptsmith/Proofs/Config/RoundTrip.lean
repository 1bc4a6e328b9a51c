import Promptsmith.Config
import Promptsmith.Proofs.Engine.Describing
import Promptsmith.Proofs.Files.Normal
import Promptsmith.Proofs.Files.Saving
import Promptsmith.Proofs.Json.Spelling
import Promptsmith.Proofs.Record.Accepted

/-!
# Saving and loading a configuration

The text of a configuration is the JSON of its fields, and its fields pass their checks: a path in
its normal form, a length of one at least, and words of the vocabularies. So a configuration that
was accepted once is loaded again from the file that it was saved to.
-/
namespace Promptsmith

open Json

variable {mode : Mode}

namespace Config

/-! ### Reading what was written -/

theorem readItems_lines {ss : List String} (hne : ss ≠ []) {fuel : Nat}
    (hfuel : ([',', '\n'].intercalate (ss.map fun s => [' ', ' ', ' ', ' '] ++ writeString s)).length
      ≤ fuel) (rest : List Char) :
    readItems mode fuel (skipBlanks
      ([',', '\n'].intercalate (ss.map fun s => [' ', ' ', ' ', ' '] ++ writeString s) ++
        '\n' :: ' ' :: ' ' :: ']' :: rest)) = .ok (ss.map .text, rest) := by
  induction ss generalizing fuel with
  | nil => exact absurd rfl hne
  | cons s ss ih =>
    have hs : Spells mode (writeString s) (.text s) := spells_writeString s
    have hindent (more : List Char) : skipBlanks ([' ', ' ', ' ', ' '] ++ writeString s ++ more) =
        writeString s ++ more := hs.skipBlanks more
    by_cases hss : ss = []
    · subst hss
      rw [List.map_singleton, List.intercalate_singleton] at hfuel ⊢
      simp only [List.length_append, List.length_cons, List.length_nil] at hfuel
      obtain ⟨fuel, rfl⟩ : ∃ n, fuel = n + 1 := ⟨fuel - 1, by omega⟩
      rw [hindent]
      exact readItems_last hs (by omega) rfl
    · rw [List.map_cons, List.intercalate_cons_of_ne_nil (by simpa using hss)] at hfuel ⊢
      simp only [List.length_append, List.length_cons, List.length_nil] at hfuel
      obtain ⟨fuel, rfl⟩ : ∃ n, fuel = n + 1 := ⟨fuel - 1, by omega⟩
      rw [List.append_assoc, List.append_assoc, hindent]
      exact readItems_next hs (by omega) (ih hss (by omega))

theorem spells_writeTexts (ss : List String) : Spells mode (writeTexts ss) (.texts ss) := by
  unfold writeTexts
  split
  · next hss =>
    obtain rfl : ss = [] := by simpa using hss
    refine ⟨⟨'[', _, rfl, by decide⟩, by decide, ?_⟩
    intro fuel rest hfuel _
    obtain ⟨fuel, rfl⟩ : ∃ n, fuel = n + 1 := ⟨fuel - 1, by simp at hfuel; omega⟩
    rfl
  · next hss =>
    have hlines : '\r' ∉ [',', '\n'].intercalate
        (ss.map fun s => [' ', ' ', ' ', ' '] ++ writeString s) := by
      refine notMem_intercalate (by decide) ?_
      simp [return_notMem_writeString]
    refine ⟨⟨'[', _, rfl, by decide⟩, by simpa using hlines, ?_⟩
    intro fuel rest hfuel _
    rw [List.length_append, List.length_cons, List.length_cons] at hfuel
    obtain ⟨fuel, rfl⟩ : ∃ n, fuel = n + 1 := ⟨fuel - 1, by omega⟩
    rw [List.cons_append, List.cons_append, List.append_assoc]
    exact readValue_list (readItems_lines (by simpa using hss) (by omega) rest)

/-- An entry of an object: its name, its text, and the value that the text spells. -/
structure Member where
  name : String
  text : List Char
  value : Value

/-- The entries of a configuration. -/
def members (c : Config) : List Member := [
  ⟨"templates_dir", writeString c.templatesDir, .text c.templatesDir⟩,
  ⟨"tool_version", writeString c.toolVersion, .text c.toolVersion⟩,
  ⟨"preview_length", (toString c.previewLength).toList, .int c.previewLength⟩,
  ⟨"default_experience", writeString c.experience.name, .text c.experience.name⟩,
  ⟨"default_phase", writeString c.phase.name, .text c.phase.name⟩,
  ⟨"base_files", writeTexts c.baseFiles, .texts c.baseFiles⟩]

theorem readMembers_lines {ms : List Member} (hms : ∀ m ∈ ms, Spells mode m.text m.value)
    (hne : ms ≠ []) {fuel : Nat}
    (hfuel : ([',', '\n'].intercalate (ms.map fun m => writeMember m.name m.text)).length ≤ fuel)
    (rest : List Char) :
    readMembers mode fuel (skipBlanks
      ([',', '\n'].intercalate (ms.map fun m => writeMember m.name m.text) ++
        '\n' :: '\x7d' :: rest)) = .ok (ms.map fun m => (m.name, m.value), rest) := by
  induction ms generalizing fuel with
  | nil => exact absurd rfl hne
  | cons m ms ih =>
    rw [List.forall_mem_cons] at hms
    have hindent (more : List Char) : skipBlanks (writeMember m.name m.text ++ more) =
        writeString m.name ++ ':' :: ' ' :: (m.text ++ more) := by
      simp [writeMember, writeString, skipBlanks, isBlank]
    have hlength : m.text.length < (writeMember m.name m.text).length := by
      simp only [writeMember, List.length_append, List.length_cons]
      omega
    by_cases hrest : ms = []
    · subst hrest
      rw [List.map_singleton, List.intercalate_singleton] at hfuel ⊢
      obtain ⟨fuel, rfl⟩ : ∃ n, fuel = n + 1 := ⟨fuel - 1, by omega⟩
      rw [hindent]
      exact readMembers_last m.name hms.1 (by omega) rfl
    · rw [List.map_cons, List.intercalate_cons_of_ne_nil (by simpa using hrest)] at hfuel ⊢
      rw [List.length_append, List.length_append] at hfuel
      obtain ⟨fuel, rfl⟩ : ∃ n, fuel = n + 1 := ⟨fuel - 1, by omega⟩
      rw [List.append_assoc, List.append_assoc, hindent]
      exact readMembers_next m.name hms.1 (by omega) (ih hms.2 hrest (by omega))

/-! ### Accepted configurations -/

/-- The configuration comes from fields that pass their checks. -/
def Accepted (c : Config) : Prop := ∃ fs, check fs = .valid c

end Config

theorem Check.choice_text {α : Type} [Vocabulary α] {name : String} {a : α}
    (h : Vocabulary.ofName? name = some a) : choice α (.text name) = .valid a := by
  rw [choice, wordOf, Value.text?, Option.bind_some, h]

namespace Config

theorem check_toFields {c : Config} (hpath : Files.normalText c.templatesDir = c.templatesDir)
    (hlength : 1 ≤ c.previewLength) : check c.toFields = .valid c := by
  have htexts : Check.texts (.texts c.baseFiles) = .valid c.baseFiles := by
    rw [Check.texts_eq_valid (Value.isTexts_texts _), Value.textItems_texts]
  have hpositive : (Check.int (.int c.previewLength)).andThen (Check.atLeast 1) =
      .valid c.previewLength := if_pos hlength
  have hexperience : Check.choice Experience (.text c.experience.name) = .valid c.experience :=
    Check.choice_text (Vocabulary.ofName?_name c.experience)
  have hphase : Check.choice Phase (.text c.phase.name) = .valid c.phase :=
    Check.choice_text (Vocabulary.ofName?_name c.phase)
  have hdirectory : Check.path (.text c.templatesDir) = .valid c.templatesDir :=
    congrArg Checked.valid hpath
  simp only [check, toFields, Fields.optional, Fields.get?_cons, if_true, String.reduceEq, if_false,
    htexts, hpositive, hexperience, hphase, hdirectory]
  rfl

/-- A configuration is accepted just when its path is in its normal form and it shows one character
at least. -/
theorem accepted_iff {c : Config} :
    c.Accepted ↔ Files.normalText c.templatesDir = c.templatesDir ∧ 1 ≤ c.previewLength := by
  constructor
  · rintro ⟨fs, h⟩
    simp only [check, Checked.seq_eq_valid, Checked.map_eq_valid] at h
    obtain ⟨_, _, ⟨_, _, ⟨_, _, ⟨_, length, ⟨_, _, ⟨directory, hdirectory, rfl⟩, _, rfl⟩, hlength, rfl⟩,
      _, rfl⟩, _, rfl⟩, _, rfl⟩ := h
    constructor
    · change Files.normalText directory = directory
      rcases Fields.optional_eq_valid_iff.mp hdirectory with ⟨-, rfl⟩ | ⟨v, -, hv⟩
      · decide +kernel
      · unfold Check.path at hv
        split at hv
        · cases hv
          exact Files.normalText_normalText _
        · cases hv
    · change 1 ≤ length
      rcases Fields.optional_eq_valid_iff.mp hlength with ⟨-, rfl⟩ | ⟨v, -, hv⟩
      · decide
      · unfold Checked.andThen Check.atLeast at hv
        split at hv
        · split at hv
          · next hlow =>
            cases hv
            exact hlow
          · cases hv
        · cases hv
  · rintro ⟨hpath, hlength⟩
    exact ⟨c.toFields, check_toFields hpath hlength⟩

/-! ### The written configuration -/

theorem spells_previewLength {n : Int} (hlow : 1 ≤ n)
    (hdigits : (toString n).length ≤ Decimal.maxDigits) :
    Spells mode (toString n).toList (.int n) := by
  obtain ⟨n, rfl⟩ := Int.eq_ofNat_of_zero_le (Int.le_trans (by decide) hlow)
  have hwritten : (toString (n : Int)).toList = Nat.toDigits 10 n := by
    change n.repr.toList = _
    exact Nat.toList_repr
  rw [hwritten]
  refine spells_toDigits (by omega) ?_
  rw [← hwritten]
  exact hdigits

theorem spells_members {c : Config} (hlow : 1 ≤ c.previewLength)
    (hdigits : (toString c.previewLength).length ≤ Decimal.maxDigits) :
    ∀ m ∈ c.members, Spells mode m.text m.value := by
  simp only [members, List.forall_mem_cons, List.not_mem_nil, false_implies, implies_true, and_true]
  exact ⟨spells_writeString _, spells_writeString _, spells_previewLength hlow hdigits,
    spells_writeString _, spells_writeString _, spells_writeTexts _⟩

theorem toList_toJson (c : Config) : c.toJson.toList = '\x7b' :: '\n' ::
    ([',', '\n'].intercalate (c.members.map fun m => writeMember m.name m.text) ++
      ['\n', '\x7d']) := by
  rw [toJson, String.toList_ofList]
  rfl

theorem read_toJson {c : Config} (hlow : 1 ≤ c.previewLength)
    (hdigits : (toString c.previewLength).length ≤ Decimal.maxDigits) :
    Json.read mode c.toJson = .ok (.map c.toFields) := by
  have hfields : Fields.ofEntries (c.members.map fun m => (m.name, m.value)) = c.toFields := by
    simp [Fields.ofEntries, Fields.putAll, Fields.put, members, toFields]
  have hread (fuel : Nat) (hfuel : c.toJson.toList.length ≤ fuel) :
      readValue mode (fuel + 1) c.toJson.toList = .ok (.map c.toFields, []) := by
    rw [toList_toJson] at hfuel ⊢
    rw [List.length_cons, List.length_cons, List.length_append] at hfuel
    rw [← hfields]
    refine readValue_object ?_
    exact readMembers_lines (spells_members hlow hdigits) (by simp [members]) (by omega) []
  have hskip : skipBlanks c.toJson.toList = c.toJson.toList := by
    rw [toList_toJson]
    rfl
  have hmark : c.toJson.toList.head? ≠ some '\ufeff' := by
    rw [toList_toJson, List.head?_cons]
    decide
  rw [Json.read, readText, if_neg hmark, hskip, hread _ (by omega)]
  rfl

theorem return_notMem_toJson {c : Config} (hlow : 1 ≤ c.previewLength)
    (hdigits : (toString c.previewLength).length ≤ Decimal.maxDigits) :
    '\r' ∉ c.toJson.toList := by
  have hlines : '\r' ∉ [',', '\n'].intercalate
      (c.members.map fun m => writeMember m.name m.text) := by
    refine notMem_intercalate (by decide) ?_
    intro line hline
    obtain ⟨m, hm, rfl⟩ := List.mem_map.mp hline
    have hspells : Spells .strict m.text m.value := spells_members hlow hdigits m hm
    simp [writeMember, return_notMem_writeString, hspells.noReturn]
  rw [toList_toJson]
  simpa using hlines

/-- What was saved is loaded again. The file holds the text of the configuration, and reading it
unifies no line endings, since there are none to unify. -/
theorem load_of_save {c : Config} (haccepted : c.Accepted)
    (hdigits : (toString c.previewLength).length ≤ Decimal.maxDigits) {t u : Files.Tree}
    {p : Files.Path} (hsave : c.save t p = (u, .ok ())) :
    u.find? p = .ok (some (.file (.text c.toJson))) ∧ u.read p = .ok c.toJson ∧
      load u p = .ok c := by
  obtain ⟨hpath, hlow⟩ := accepted_iff.mp haccepted
  have hsaved := Files.Tree.saved_of_save hsave
  have hread : u.read p = .ok c.toJson := by
    rw [hsaved.read, Text.unifyLines_of_not_mem (return_notMem_toJson hlow hdigits),
      String.ofList_toList]
  refine ⟨hsaved.find?, hread, ?_⟩
  have hchecked : Check.fields check (.map c.toFields) = .valid c := check_toFields hpath hlow
  rw [load, hread]
  dsimp only
  rw [ofJson, read_toJson hlow hdigits]
  dsimp only
  rw [hchecked]

/-- Quotes, backslashes, control characters, every kind of line break and other scripts. -/
def intricate : Config where
  templatesDir := "/srv/a \"b\"\\c\n/é"
  toolVersion := "\x00\x1f\x7f\r\n\t\x08\x0c\"\\\\\"\u2028"
  previewLength := 123456789012345678901234567890
  experience := .expert
  phase := .planning
  baseFiles := ["", "\"", "\\", "\r", "ünï\n日本 😀.md"]

theorem load_of_save_intricate :
    intricate.Accepted ∧ (toString intricate.previewLength).length ≤ Decimal.maxDigits ∧
      ∃ u, intricate.save (.empty ["home"]) (.ofText "deep/er/config.json") = (u, .ok ()) ∧
        u.find? (.ofText "deep/er/config.json") = .ok (some (.file (.text intricate.toJson))) ∧
        u.read (.ofText "deep/er/config.json") = .ok intricate.toJson ∧
        load u (.ofText "deep/er/config.json") = .ok intricate := by
  have haccepted : intricate.Accepted := accepted_iff.mpr ⟨by decide +kernel, by decide⟩
  have hdigits : (toString intricate.previewLength).length ≤ Decimal.maxDigits := by
    decide +kernel
  have hok : (Files.Tree.save (.empty ["home"]) (.ofText "deep/er/config.json") "").2 = .ok () := by
    decide +kernel
  obtain ⟨u, hsave⟩ := Files.Tree.exists_save hok intricate.toJson
  exact ⟨haccepted, hdigits, u, hsave, load_of_save haccepted hdigits hsave⟩

end Config

end Promptsmith
