import Promptsmith.Config
import Promptsmith.Proofs.Engine.History
import Promptsmith.Proofs.Files.Placing
import Promptsmith.Proofs.Template.Tidy

/-!
# The bundled bodies

Every bundled body is a tidy template without carriage returns, and base guidance has no brace at
all. The bundled store serves each of them as it is written.
-/
namespace Promptsmith

/-! ### The texts -/

namespace Bodies

open Template

theorem toList_ofLines_nil : (ofLines []).toList = [] := by
  simp [ofLines]

theorem toList_ofLines_cons (line : String) (lines : List String) :
    (ofLines (line :: lines)).toList = line.toList ++ '\n' :: (ofLines lines).toList := by
  simp [ofLines, String.toList_join]

set_option maxRecDepth 10000 in
-- The bodies are spelled out before they are read, since evaluation is slow to decode strings.
theorem isTidy_of_mem_all : ∀ f ∈ all, isTidy f.2.toList && !f.2.toList.contains '\r' := by
  intro f hf
  simp only [all, List.mem_cons, List.not_mem_nil, or_false] at hf
  rcases hf with rfl | rfl | rfl | rfl | rfl | rfl | rfl | rfl | rfl | rfl | rfl | rfl | rfl | rfl |
    rfl | rfl
  all_goals
    dsimp only [baseCore, baseBestPractices, baseTechStackGuide, ecommerceMainPrompt,
      ecommerceBeginnerGuide, ecommerceArchitectureFocused, ecommerceBestPractices, saasMainPrompt,
      saasMvpFocused, saasEnterpriseGrade, blogMainPrompt, blogSimpleBlog, portfolioMainPrompt,
      portfolioCreativeFocused, dashboardMainPrompt, dashboardAnalyticsFocused, featureLoop,
      -String.reduceToList, -String.reduceAppend]
    simp only [toList_ofLines_cons, toList_ofLines_nil, String.toList_append,
      -String.reduceToList, -String.reduceAppend]
    repeat rw [String.toList_ofList]
    decide +kernel

theorem isTidy_of_mem {f : String × String} (hf : f ∈ all) : isTidy f.2.toList :=
  (Bool.and_eq_true_iff.mp (isTidy_of_mem_all f hf)).1

theorem not_mem_of_mem {f : String × String} (hf : f ∈ all) : '\r' ∉ f.2.toList := by
  simpa using (Bool.and_eq_true_iff.mp (isTidy_of_mem_all f hf)).2

theorem braceless_base : ∀ body ∈ [baseCore, baseBestPractices, baseTechStackGuide],
    Braceless body := by
  intro body hbody
  simp only [List.mem_cons, List.not_mem_nil, or_false] at hbody
  unfold Braceless
  rcases hbody with rfl | rfl | rfl
  all_goals
    dsimp only [baseCore, baseBestPractices, baseTechStackGuide, -String.reduceToList]
    simp only [toList_ofLines_cons, toList_ofLines_nil, -String.reduceToList]
    repeat rw [String.toList_ofList]
    decide +kernel

/-- The body of a base file. -/
theorem exists_base {path : String} (hpath : path ∈ defaultBaseFiles) :
    ∃ body, (path, body) ∈ all ∧ Braceless body := by
  simp only [defaultBaseFiles, List.mem_cons, List.not_mem_nil, or_false] at hpath
  rcases hpath with rfl | rfl | rfl
  · exact ⟨baseCore, by simp [all], braceless_base _ (by simp)⟩
  · exact ⟨baseBestPractices, by simp [all], braceless_base _ (by simp)⟩
  · exact ⟨baseTechStackGuide, by simp [all], braceless_base _ (by simp)⟩

end Bodies

/-! ### The store -/

open Files

instance (p : Path) : Decidable p.Sound :=
  decidable_of_iff
    (p.isAbsolute ∧ '\x00' ∉ p.text.toList ∧ p.text.utf8ByteSize ≤ maxPathBytes ∧
      ∀ name ∈ p.parts, name ≠ ".." ∧ name.utf8ByteSize ≤ maxNameBytes)
    ⟨fun ⟨habsolute, hnull, hshort, hnames⟩ => ⟨habsolute, hnull, hshort, hnames⟩,
      fun h => ⟨h.absolute, h.noNull, h.short, h.names⟩⟩

/-- Where a body lies below the directory of the bundled ones. -/
def Bodies.place (path : String) : Path :=
  (Path.ofText bundledRoot).join path

theorem Bodies.sound_place : ∀ f ∈ Bodies.all, (Bodies.place f.1).Sound := by decide +kernel

theorem Bodies.length_place : ∀ f ∈ Bodies.all, (Bodies.place f.1).parts.length = 5 + 1 := by
  decide +kernel

theorem Bodies.nodup_place : (Bodies.all.map fun f => (Bodies.place f.1).parts).Nodup := by
  decide +kernel

/-- Wherever bundled bodies are put, each stands at its place. -/
theorem placed_withBundled (t : Tree) {f : String × String} (hf : f ∈ Bodies.all) :
    t.withBundled.Placed (Bodies.place f.1).parts (.text f.2) := by
  have hfold : t.withBundled =
      (Bodies.all.map fun f => ((Bodies.place f.1).parts, Content.text f.2)).foldl
        (fun t f => t.putFile f.1 f.2) t := by
    rw [List.foldl_map]
    rfl
  rw [hfold]
  refine Tree.placed_of_mem (n := 5) ?_ ?_ (List.mem_map_of_mem hf)
  · intro g hg
    obtain ⟨f, hf, rfl⟩ := List.mem_map.mp hg
    exact Bodies.length_place f hf
  · rw [List.map_map]
    exact Bodies.nodup_place

namespace Store

/-- The store has each of the bodies and reads it as it is. -/
structure Serves (s : Store) (bodies : List (String × String)) : Prop where
  has : ∀ f ∈ bodies, s.has f.1 = .ok true
  read : ∀ f ∈ bodies, s.read f.1 = .ok f.2

/-- The bundled bodies are served from their directory, whatever else the tree holds. -/
theorem serves_withBundled (t : Tree) :
    (Store.ofDirectory t.withBundled bundledRoot).Serves Bodies.all where
  has _ hf := (placed_withBundled t hf).isFile (Bodies.sound_place _ hf)
  read f hf := by
    have hread :=
      (placed_withBundled t hf).read (Bodies.sound_place f hf) (Bodies.not_mem_of_mem hf)
    change ((t.withBundled.read (Bodies.place f.1)).mapError Source.faultOf) = .ok f.2
    rw [hread]
    rfl

theorem recoverable_ofDirectory (t : Tree) (root : String) :
    (Store.ofDirectory t root).Recoverable :=
  recoverable_of_reasons nofun

end Store

end Promptsmith
