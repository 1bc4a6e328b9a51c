import Promptsmith.Proofs.Command.Ways
import Promptsmith.Proofs.Files.Saving

/-!
# What a run does to the files

Nothing is written before everything else is done. So a run that ends with an error leaves the files
as they were, and one that ends well has at most saved its prompt in the file that was asked for.
-/
namespace Promptsmith.Command

section

variable [Console] [Host] {s : Scene} {c : Config} {request : Request} {report : Report}

/-- The file that is to hold the result of a request. -/
def Request.output? : Request → Option String
  | .generate o => o.output
  | _ => none

/-- What a request that ends well does to the files: its prompt is saved if that was asked for, and
else nothing is done. -/
inductive Does (s : Scene) (c : Config) : Request → Files.Tree → Prop
  | nothing {request : Request} (houtput : request.output? = none) : Does s c request s.files
  | saved {o : GenerateOptions} {r : Rendering} {notes : List Event} {path prompt : String}
      {files : Files.Tree} (houtput : o.output = some path)
      (hresult : Generates s c o (.ok r) notes) (hprompt : r.prompt? = some prompt)
      (hsaved : s.files.Saved files (.ofText path) prompt) : Does s c (.generate o) files

theorem Closes.files_of_one {before events : List Event} {code : Nat} {files : Files.Tree}
    (h : Closes s c request before events code files) (hcode : code = 1) : files = s.files := by
  cases h with
  | saved => cases hcode
  | _ => rfl

theorem Closes.does {before events : List Event} {code : Nat} {files : Files.Tree}
    (h : Closes s c request before events code files) (hcode : code = 0) :
    Does s c request files := by
  cases h with
  | shown hresult houtcome houtput => exact .nothing houtput
  | @saved o r notes prompt path tree hresult houtcome htaken houtput hsave =>
    have hprompt : r.prompt? = some prompt := by rw [Rendering.prompt?, houtcome]
    exact .saved houtput hresult hprompt (Files.Tree.saved_of_save hsave)
  | analyzed | previewed | listed => exact .nothing rfl
  | _ => cases hcode

/-- Whatever is refused of its last events, a request that closes has saved its prompt or has left
the files as they were. -/
theorem Closes.files_or_does {before events : List Event} {code : Nat} {files : Files.Tree}
    (h : Closes s c request before events code files) :
    files = s.files ∨ Does s c request files := by
  cases h with
  | saved hresult houtcome htaken houtput hsave =>
    have hcloses := Closes.saved hresult houtcome htaken houtput hsave
    exact .inr (hcloses.does rfl)
  | _ => exact .inl rfl

/-- A run that is broken off while it saves may have made directories, and one that is broken off
when it tells of what it saved has saved it. -/
theorem Way.files_of_broken {f : Failure} (h : Way s c request report)
    (hend : report.ending = .broken f) :
    report.files = s.files ∨
      (∃ path, request.output? = some path ∧
        s.files.Furnished report.files (Files.Path.ofText path).parent) ∨
      ∃ message, f = .markup message ∧
        (∃ event ∈ report.events, event.refusal? = some message) ∧
        Does s c request report.files := by
  cases h with
  | closes h =>
    obtain ⟨message, rfl, hrefusal⟩ := Report.closing_broken hend
    rw [Report.files_closing]
    exact h.files_or_does.imp_right fun hdoes =>
      .inr ⟨message, rfl, Report.mem_closing hrefusal, hdoes⟩
  | unsaved hresult houtcome htaken houtput hsave =>
    exact .inr (.inl ⟨_, houtput, Files.Tree.furnished_of_save hsave⟩)
  | _ => exact .inl rfl

/-- A run that ends with an error, or whose arguments are refused, leaves the files as they were.
One that ends well does at most what its output asks for, and one that is broken off makes at most
the directories for it, unless the console refuses what is told in the end. -/
theorem run_files (s : Scene) (arguments : List String) :
    ((run s arguments).ending = .exit 1 → (run s arguments).files = s.files) ∧
    (∀ refusal, (run s arguments).ending = .refused refusal →
      (run s arguments).files = s.files) ∧
    ((run s arguments).ending = .exit 0 → ∃ i c, Invocation.ofArguments arguments = .ok i ∧
      loadConfig s i.config = .ok c ∧ Does s c i.request (run s arguments).files) ∧
    (∀ f, (run s arguments).ending = .broken f → (run s arguments).files = s.files ∨
      (∃ i path, Invocation.ofArguments arguments = .ok i ∧ i.request.output? = some path ∧
        s.files.Furnished (run s arguments).files (Files.Path.ofText path).parent) ∨
      ∃ i c message, Invocation.ofArguments arguments = .ok i ∧ loadConfig s i.config = .ok c ∧
        f = .markup message ∧
        (∃ event ∈ (run s arguments).events, event.refusal? = some message) ∧
        Does s c i.request (run s arguments).files) := by
  generalize hrun : run s arguments = report
  have hgoes : Goes s arguments report := hrun ▸ goes_run s arguments
  cases hgoes with
  | refused h => exact ⟨nofun, fun _ _ => rfl, nofun, nofun⟩
  | unconfigured h hconfig =>
    refine ⟨fun _ => Report.files_closing, fun _ _ => Report.files_closing, ?_, ?_⟩
    · intro hend
      cases (Report.closing_exit hend).2
    · exact fun _ _ => .inl Report.files_closing
  | @answered i c report h hconfig hway =>
    refine ⟨?_, ?_, ?_, ?_⟩
    · intro hend
      obtain ⟨before, events, files, hcloses, -, rfl⟩ := hway.exists_closes hend
      exact hcloses.files_of_one rfl
    · intro refusal hend
      exact absurd hend (hway.not_refused refusal)
    · intro hend
      obtain ⟨before, events, files, hcloses, -, rfl⟩ := hway.exists_closes hend
      exact ⟨i, c, h, hconfig, hcloses.does rfl⟩
    · intro f hend
      refine (hway.files_of_broken hend).imp_right (.imp ?_ ?_)
      · rintro ⟨path, houtput, hfurnished⟩
        exact ⟨i, path, h, houtput, hfurnished⟩
      · rintro ⟨message, hf, hrefused, hdoes⟩
        exact ⟨i, c, message, h, hconfig, hf, hrefused, hdoes⟩

end

attribute [local instance] Console.quiet Host.plain

/-- From an empty directory a prompt is saved two levels down. -/
theorem run_files_saved :
    let s : Scene := ⟨[], .empty ["home"], ⟨"2024-01-01", "2024-01-01T00:00:00"⟩⟩
    let report := run s ["generate", "A blog", "-o", "docs/blog/prompt.md"]
    report.ending = .exit 0 ∧ ∃ i c, Invocation.ofArguments
        ["generate", "A blog", "-o", "docs/blog/prompt.md"] = .ok i ∧
      loadConfig s i.config = .ok c ∧ i.request.output? = some "docs/blog/prompt.md" ∧
      Does s c i.request report.files := by
  intro s report
  have hparse : Invocation.ofArguments ["generate", "A blog", "-o", "docs/blog/prompt.md"] =
      .ok ⟨none, .generate (.toFile "A blog" "docs/blog/prompt.md")⟩ := by decide +kernel
  have hend : report.ending = .exit 0 := by
    obtain ⟨r, notes, prompt, hresult, houtcome⟩ :=
      exists_generates_default s (by decide : "A blog" ≠ "") "docs/blog/prompt.md"
    have hok : (Files.Tree.save (.empty ["home"]) (.ofText "docs/blog/prompt.md") "").2 =
        .ok () := by decide +kernel
    obtain ⟨tree, hsave⟩ := Files.Tree.exists_save hok prompt
    have hway := Way.closes (.saved hresult houtcome (Event.refusal?_quiet _) rfl hsave)
    have hrun : report = _ := (Goes.answered hparse (loadConfig_default _ _) hway).run_eq
    rw [hrun, Report.closing_of_taken fun event _ => event.refusal?_quiet]
  obtain ⟨-, -, hexit, -⟩ := run_files s ["generate", "A blog", "-o", "docs/blog/prompt.md"]
  obtain ⟨i, c, h, hconfig, hdoes⟩ := hexit hend
  have hi := h.symm.trans hparse
  cases hi
  exact ⟨hend, _, c, h, hconfig, rfl, hdoes⟩

end Promptsmith.Command
