import Promptsmith.Proofs.Command.Ways
import Promptsmith.Proofs.Engine.Availability
import Promptsmith.Proofs.Engine.Caching
import Promptsmith.Proofs.Files.Saving

/-!
# How a run ends

What is wrong with the configuration, the feedback or a template is shown, and the exit code is one.
Some failures are not caught: the file system cannot tell whether a file is there, since its path is
too long; the prompt cannot be saved; the feedback is nested too deep to be read; or the console
refuses what is shown.
-/
namespace Promptsmith

/-! ### What an engine fails for -/

namespace Engine

section

attribute [local instance] Console.quiet

variable {e : Engine} {hint : String} {f : Failure}

theorem silent_of_preview (he : e.Sound) (hrec : e.store.Recoverable)
    (h : ((preview hint).start e).1 = .error f) : e.store.Silent f := by
  rw [(gives_preview hrec hint).start he] at h
  rcases bind_eq_error_iff.mp h with h | ⟨main, hmain, h⟩
  · exact silent_of_mainFor h
  · cases main with
    | none => cases h
    | some a =>
      rcases bind_eq_error_iff.mp h with h | ⟨body, -, h⟩
      · exact absurd h (hrec.fetch_ne (mainFor_eq_some_iff.mp hmain).2 f)
      · cases body <;> cases h

theorem silent_of_list (hrec : e.store.Recoverable)
    (h : (Registry.list.start e).1 = .error f) : e.store.Silent f := by
  have hends := Registry.descriptors_end Vocabulary.all (.start e) hrec
  unfold Act.start Registry.list at h
  generalize Vocabulary.all.mapM Registry.descriptor (.start e) = result at hends h
  cases hends with
  | ok => cases h
  | error hgrown ha hhas =>
    cases h
    exact ⟨_, _, hhas, rfl⟩

end

end Engine

theorem Store.tooLong_of_silent {tree : Files.Tree} {root : String} {f : Failure}
    (h : (Store.ofDirectory tree root).Silent f) : ∃ path, f = .file (.system .tooLong path) := by
  obtain ⟨path, e, hhas, rfl⟩ := h
  obtain ⟨full, rfl⟩ := Files.Tree.tooLong_of_isFile hhas
  exact ⟨full, rfl⟩

namespace Command

/-! ### Failures that are not caught -/

section

variable [Console] [Host]

/-- What a request fails for without catching it. -/
inductive Unguarded (s : Scene) (c : Config) : Request → Failure → Prop
  | feedback {o : GenerateOptions} {f : Failure} (hasked : o.IsAsked)
      (hfeedback : feedbackOf s.files o.feedback = .error f) : Unguarded s c (.generate o) f
  | generation {o : GenerateOptions} {f : Failure} {notes : List Event}
      (hresult : Generates s c o (.error f) notes) : Unguarded s c (.generate o) f
  | output {o : GenerateOptions} {r : Rendering} {notes : List Event} {path prompt : String}
      {tree : Files.Tree} {e : Files.FileError} (hresult : Generates s c o (.ok r) notes)
      (houtcome : r.outcome = .prompt prompt) (htaken : (Event.rendering r).refusal? = none)
      (houtput : o.output = some path)
      (hsave : s.files.save (.ofText path) prompt = (tree, .error e)) :
      Unguarded s c (.generate o) (.file e)
  | preview {hint : String} {f : Failure} {t : Session}
      (hresult : (Engine.preview hint).start (engineOf c s.files s.clock) = (.error f, t)) :
      Unguarded s c (.preview hint) f
  | list {f : Failure} {t : Session}
      (hresult : Registry.list.start (engineOf c s.files s.clock) = (.error f, t)) :
      Unguarded s c .list f
  | hindered {o : GenerateOptions} {r : Rendering} {notes : List Event}
      {prompt path message : String} (hresult : Generates s c o (.ok r) notes)
      (houtcome : r.outcome = .prompt prompt) (houtput : o.output = some path)
      (hrefusal : (Event.rendering r).refusal? = some message) :
      Unguarded s c (.generate o) (.markup message)
  | closing {request : Request} {before events : List Event} {code : Nat} {files : Files.Tree}
      {message : String} (h : Closes s c request before events code files)
      (hrefusal : events.findSome? Event.refusal? = some message) :
      Unguarded s c request (.markup message)

section

variable {s : Scene} {c : Config} {request : Request} {report : Report} {f : Failure}

theorem Way.unguarded (h : Way s c request report) (hend : report.ending = .broken f) :
    Unguarded s c request f := by
  cases h with
  | closes h =>
    obtain ⟨message, rfl, hrefusal⟩ := Report.closing_broken hend
    exact .closing h hrefusal
  | unlooked hasked hfeedback =>
    cases hend
    exact .feedback hasked hfeedback
  | failed hresult =>
    cases hend
    exact .generation hresult
  | hindered hresult houtcome houtput hrefusal =>
    cases hend
    exact .hindered hresult houtcome houtput hrefusal
  | unsaved hresult houtcome htaken houtput hsave =>
    cases hend
    exact .output hresult houtcome htaken houtput hsave
  | unviewed hresult =>
    cases hend
    exact .preview hresult
  | unlisted hresult =>
    cases hend
    exact .list hresult

theorem Unguarded.exists_way (h : Unguarded s c request f) :
    ∃ report, Way s c request report ∧ report.ending = .broken f := by
  cases h with
  | feedback hasked hfeedback => exact ⟨_, .unlooked hasked hfeedback, rfl⟩
  | generation hresult => exact ⟨_, .failed hresult, rfl⟩
  | output hresult houtcome htaken houtput hsave =>
    exact ⟨_, .unsaved hresult houtcome htaken houtput hsave, rfl⟩
  | preview hresult => exact ⟨_, .unviewed hresult, rfl⟩
  | list hresult => exact ⟨_, .unlisted hresult, rfl⟩
  | hindered hresult houtcome houtput hrefusal =>
    exact ⟨_, .hindered hresult houtcome houtput hrefusal, rfl⟩
  | closing h hrefusal =>
    refine ⟨_, .closes h, ?_⟩
    rw [Report.closing, hrefusal]

/-- What a run may be broken off for: a path that is too long to be looked at, a prompt that cannot
be saved, feedback that is nested too deep, or an event that the console refuses. -/
inductive Cause (s : Scene) : Request → Report → Failure → Prop
  | tooLong {request : Request} {report : Report} (path : String) :
      Cause s request report (.file (.system .tooLong path))
  | unsaved {o : GenerateOptions} {report : Report} {path prompt : String} {tree : Files.Tree}
      {e : Files.FileError} (houtput : o.output = some path)
      (hsave : s.files.save (.ofText path) prompt = (tree, .error e)) :
      Cause s (.generate o) report (.file e)
  | nesting {o : GenerateOptions} {report : Report} {path message : String}
      (hfeedback : o.feedback = some path)
      (hnesting : nesting? s.files (.ofText path) = some message) :
      Cause s (.generate o) report (.nesting message)
  | refused {request : Request} {report : Report} {event : Event} {message : String}
      (hevent : event ∈ report.events) (hrefusal : event.refusal? = some message) :
      Cause s request report (.markup message)

/-- Feedback that cannot be read is told of, unless its path cannot be looked at or it is nested too
deep. -/
theorem cause_of_feedbackOf {o : GenerateOptions}
    (h : feedbackOf s.files o.feedback = .error f) (report : Report) :
    Cause s (.generate o) report f := by
  unfold feedbackOf at h
  split at h
  · cases h
  · next path hpath =>
    split at h
    · next hfile =>
      cases h
      obtain ⟨full, rfl⟩ := Files.Tree.tooLong_of_isFile hfile
      exact .tooLong full
    · cases h
    · split at h
      · next message hnesting =>
        cases h
        exact .nesting hpath hnesting
      · cases h

/-- Notes that are refused are events of the report. -/
theorem cause_of_notes {t : Session} {ending : Ending} {files : Files.Tree}
    (h : (∃ path, f = .file (.system .tooLong path)) ∨
      ∃ message, f = .markup message ∧ Refused t message) :
    Cause s request ⟨ending, t.notes.map .line, files⟩ f := by
  rcases h with ⟨path, rfl⟩ | ⟨message, rfl, hrefused⟩
  · exact .tooLong path
  · obtain ⟨event, hevent, hrefusal⟩ := mem_refused hrefused
    exact .refused hevent hrefusal

theorem Way.cause (h : Way s c request report) (hend : report.ending = .broken f) :
    Cause s request report f := by
  have hrec : (engineOf c s.files s.clock).store.Recoverable := Store.recoverable_ofDirectory _ _
  cases h with
  | closes h =>
    obtain ⟨message, rfl, hrefusal⟩ := Report.closing_broken hend
    obtain ⟨event, hevent, hrefused⟩ := Report.mem_closing hrefusal
    exact .refused hevent hrefused
  | unlooked hasked hfeedback =>
    cases hend
    exact cause_of_feedbackOf hfeedback _
  | failed hresult =>
    cases hend
    obtain ⟨hasked, hfeedback, hresult⟩ := hresult
    refine cause_of_notes ?_
    simpa only [hresult] using cause_of_generation (congrArg Prod.fst hresult)
  | hindered hresult houtcome houtput hrefusal =>
    cases hend
    exact .refused (List.mem_append_right _ List.mem_cons_self) hrefusal
  | unsaved hresult houtcome htaken houtput hsave =>
    cases hend
    exact .unsaved houtput hsave
  | unviewed hresult =>
    cases hend
    have hfails := Act.start_error (Engine.heeds_preview _) (congrArg Prod.fst hresult)
    rw [hresult] at hfails
    refine cause_of_notes (hfails.imp_left fun hquiet => ?_)
    exact Store.tooLong_of_silent
      (Engine.silent_of_preview (Engine.sound_of_cache_eq_nil rfl) hrec hquiet)
  | unlisted hresult =>
    cases hend
    have hfails := Act.start_error Registry.heeds_list (congrArg Prod.fst hresult)
    rw [hresult] at hfails
    refine cause_of_notes (hfails.imp_left fun hquiet => ?_)
    exact Store.tooLong_of_silent (Engine.silent_of_list hrec hquiet)

end

/-! ### Endings -/

/-- What the ending of a run tells. Arguments are refused just when they stand for no invocation,
and no exit code is above one. A request for nothing, a configuration that cannot be loaded,
feedback that is not there or not valid and a template that gives no prompt are each shown, with
exit code one unless the console refuses what is shown. What breaks a run off is a failure that is
not caught. -/
structure Tells (s : Scene) (arguments : List String) (report : Report) : Prop where
  refused_iff : ∀ refusal, report.ending = .refused refusal ↔
    Invocation.ofArguments arguments = .error refusal
  exit_le : ∀ code, report.ending = .exit code → code ≤ 1
  idle : ∀ config o c, Invocation.ofArguments arguments = .ok ⟨config, .generate o⟩ →
    loadConfig s config = .ok c → ¬o.IsAsked →
    report = ⟨.exit 1, [.error "Provide a description or --type"], s.files⟩
  unconfigured : ∀ i f, Invocation.ofArguments arguments = .ok i →
    loadConfig s i.config = .error f →
    report = .closing [] [.error ("Could not load configuration: " ++ f.report)] 1 s.files
  misinformed : ∀ config o c message, Invocation.ofArguments arguments = .ok ⟨config, .generate o⟩ →
    loadConfig s config = .ok c → o.IsAsked → feedbackOf s.files o.feedback = .ok (.error message) →
    report = .closing [] [.error message] 1 s.files
  declined : ∀ config o c r notes message,
    Invocation.ofArguments arguments = .ok ⟨config, .generate o⟩ → loadConfig s config = .ok c →
    Generates s c o (.ok r) notes → r.outcome = .error message →
    report = .closing notes
      [.panel ("[red]" ++ message ++ "[/red]") "Generation Failed" "red"] 1 s.files
  broken_iff : ∀ f, report.ending = .broken f ↔ ∃ i, Invocation.ofArguments arguments = .ok i ∧
    ((∃ f' message, loadConfig s i.config = .error f' ∧ f = .markup message ∧
        (Event.error ("Could not load configuration: " ++ f'.report)).refusal? = some message) ∨
      ∃ c, loadConfig s i.config = .ok c ∧ Unguarded s c i.request f)
  cause : ∀ f, report.ending = .broken f →
    ∃ i, Invocation.ofArguments arguments = .ok i ∧ Cause s i.request report f

section

variable {s : Scene} {arguments : List String} {report : Report}

theorem Goes.refusal {refusal : Refusal} (h : Goes s arguments report)
    (hend : report.ending = .refused refusal) :
    Invocation.ofArguments arguments = .error refusal := by
  cases h with
  | refused h =>
    cases hend
    exact h
  | unconfigured => exact absurd hend (Report.closing_not_refused refusal)
  | answered h hconfig hway => exact absurd hend (hway.not_refused refusal)

theorem Goes.exit_le {code : Nat} (h : Goes s arguments report)
    (hend : report.ending = .exit code) : code ≤ 1 := by
  cases h with
  | refused => cases hend
  | unconfigured =>
    obtain ⟨-, rfl⟩ := Report.closing_exit hend
    decide
  | answered h hconfig hway =>
    obtain ⟨before, events, files, hcloses, -, -⟩ := hway.exists_closes hend
    exact hcloses.code_le

theorem Goes.broken {f : Failure} (h : Goes s arguments report)
    (hend : report.ending = .broken f) : ∃ i, Invocation.ofArguments arguments = .ok i ∧
      ((∃ f' message, loadConfig s i.config = .error f' ∧ f = .markup message ∧
          (Event.error ("Could not load configuration: " ++ f'.report)).refusal? = some message) ∨
        ∃ c, loadConfig s i.config = .ok c ∧ Unguarded s c i.request f) := by
  cases h with
  | refused => cases hend
  | @unconfigured i f' h hconfig =>
    obtain ⟨message, rfl, hrefusal⟩ := Report.closing_broken hend
    rw [List.findSome?_singleton] at hrefusal
    exact ⟨i, h, .inl ⟨f', message, hconfig, rfl, hrefusal⟩⟩
  | @answered i c report h hconfig hway => exact ⟨i, h, .inr ⟨c, hconfig, hway.unguarded hend⟩⟩

theorem Goes.cause {f : Failure} (h : Goes s arguments report)
    (hend : report.ending = .broken f) :
    ∃ i, Invocation.ofArguments arguments = .ok i ∧ Cause s i.request report f := by
  cases h with
  | refused => cases hend
  | @unconfigured i f' h hconfig =>
    obtain ⟨message, rfl, hrefusal⟩ := Report.closing_broken hend
    obtain ⟨event, hevent, hrefused⟩ := Report.mem_closing hrefusal
    exact ⟨i, h, .refused hevent hrefused⟩
  | @answered i c report h hconfig hway => exact ⟨i, h, hway.cause hend⟩

end

/-- The ending of every run tells what went wrong, unless a failure is not caught. -/
theorem run_tells (s : Scene) (arguments : List String) : Tells s arguments (run s arguments) where
  refused_iff refusal := by
    refine ⟨(goes_run s arguments).refusal, ?_⟩
    intro h
    rw [run_of_refusal h]
  exit_le _ hend := (goes_run s arguments).exit_le hend
  idle config o c h hconfig hidle := by
    have hway : Way s c (.generate o) _ := .closes (.idle hidle)
    rw [(Goes.answered h hconfig hway).run_eq, Report.closing_of_taken]
    · rfl
    · exact List.forall_mem_singleton.mpr (Event.refusal?_error (by decide))
  unconfigured i f h hconfig := run_of_loadConfig_error h hconfig
  misinformed config o c message h hconfig hasked hfeedback :=
    (Goes.answered h hconfig (.closes (.misinformed hasked hfeedback))).run_eq
  declined config o c r notes message h hconfig hresult houtcome := by
    have hway : Way s c (.generate o) _ := .closes (.declined hresult houtcome)
    rw [(Goes.answered h hconfig hway).run_eq, Event.rendering, houtcome]
  broken_iff f := by
    refine ⟨(goes_run s arguments).broken, ?_⟩
    rintro ⟨i, h, ⟨f', message, hconfig, rfl, hrefusal⟩ | ⟨c, hconfig, hunguarded⟩⟩
    · rw [run_of_loadConfig_error h hconfig, Report.closing, List.findSome?_singleton, hrefusal]
    · obtain ⟨report, hway, hend⟩ := hunguarded.exists_way
      rw [(Goes.answered h hconfig hway).run_eq, hend]
  cause f hend := (goes_run s arguments).cause hend

end

attribute [local instance] Console.quiet Host.plain

/-- A prompt that is to stand where a directory stands breaks the run off. -/
theorem run_generate_ontoDirectory :
    let s : Scene := ⟨[], .empty ["home"], ⟨"2024-01-01", "2024-01-01T00:00:00"⟩⟩
    Invocation.ofArguments ["generate", "A blog", "-o", "."] =
        .ok ⟨none, .generate (.toFile "A blog" ".")⟩ ∧
      (run s ["generate", "A blog", "-o", "."]).ending =
        .broken (.file (.system .isDirectory ".")) := by
  intro s
  have hparse : Invocation.ofArguments ["generate", "A blog", "-o", "."] =
      .ok ⟨none, .generate (.toFile "A blog" ".")⟩ := by decide +kernel
  obtain ⟨r, notes, prompt, hresult, houtcome⟩ :=
    exists_generates_default s (by decide : "A blog" ≠ "") "."
  have hfails : (Files.Tree.save (.empty ["home"]) (.ofText ".") "").2 =
      .error (.system .isDirectory ".") := by decide +kernel
  obtain ⟨tree, hsave⟩ := Files.Tree.exists_save hfails prompt
  have hway := Way.unsaved hresult houtcome (Event.refusal?_quiet _) rfl hsave
  refine ⟨hparse, ?_⟩
  rw [(Goes.answered hparse (loadConfig_default _ _) hway).run_eq]

end Command

end Promptsmith
