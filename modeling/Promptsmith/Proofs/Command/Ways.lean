import Promptsmith.Proofs.Command.Agreement

/-!
# The ways of a command

Once there is a configuration, a request goes one of a few ways, each with its own ending. On most
of them it closes: it shows its last events and exits, unless the console refuses one of them. On
the others a failure breaks it off. Every run goes one of these ways, and each of them is gone when
its conditions hold, so whatever is asked about the ending of a run, or about the files that it
leaves, is settled way by way.
-/
namespace Promptsmith.Command

variable {s : Scene} {c : Config} {o : GenerateOptions}

/-- There is something to generate from. -/
def GenerateOptions.IsAsked (o : GenerateOptions) : Prop :=
  ¬(o.description = "" ∧ o.archetype = none)

namespace Job

variable {tree : Files.Tree} {p : Files.Path} {text : String} {d : Desk}

theorem save_ok (h : d.files.save p text = (tree, .ok ())) :
    save p text d = .ok () { d with files := tree } := by
  unfold save
  refine (EStateM.bind_ok (files_run d)).trans ?_
  rw [h]
  rfl

theorem save_error {e : Files.FileError} (h : d.files.save p text = (tree, .error e)) :
    save p text d = .error (.file e) { d with files := tree } := by
  unfold save
  refine (EStateM.bind_ok (files_run d)).trans ?_
  rw [h]
  rfl

end Job

section

variable [Console] [Host]

/-- The engine is asked, with feedback that is valid, and comes to a result; it notes some lines on
the way. -/
inductive Generates (s : Scene) (c : Config) (o : GenerateOptions) :
    Except Failure Rendering → List Event → Prop
  | intro {feedback : List Feedback} {result : Except Failure Rendering} {t : Session}
      (hasked : o.IsAsked) (hfeedback : feedbackOf s.files o.feedback = .ok (.ok feedback))
      (hresult : generation o c s.files s.clock feedback = (result, t)) :
      Generates s c o result (t.notes.map .line)

/-- How a request closes: what it showed before, its last events, its exit code and the files. -/
inductive Closes (s : Scene) (c : Config) :
    Request → List Event → List Event → Nat → Files.Tree → Prop
  | idle {o : GenerateOptions} (hidle : ¬o.IsAsked) :
      Closes s c (.generate o) [] [.error "Provide a description or --type"] 1 s.files
  | misinformed {o : GenerateOptions} {message : String} (hasked : o.IsAsked)
      (hfeedback : feedbackOf s.files o.feedback = .ok (.error message)) :
      Closes s c (.generate o) [] [.error message] 1 s.files
  | declined {o : GenerateOptions} {r : Rendering} {notes : List Event} {message : String}
      (hresult : Generates s c o (.ok r) notes) (houtcome : r.outcome = .error message) :
      Closes s c (.generate o) notes [.rendering r] 1 s.files
  | shown {o : GenerateOptions} {r : Rendering} {notes : List Event} {prompt : String}
      (hresult : Generates s c o (.ok r) notes) (houtcome : r.outcome = .prompt prompt)
      (houtput : o.output = none) :
      Closes s c (.generate o) notes (.rendering r ::
        (Event.header (Text.fileName o.projectName ++ " prompt") ++ [.plain prompt])) 0 s.files
  | saved {o : GenerateOptions} {r : Rendering} {notes : List Event} {prompt path : String}
      {tree : Files.Tree} (hresult : Generates s c o (.ok r) notes)
      (houtcome : r.outcome = .prompt prompt) (htaken : (Event.rendering r).refusal? = none)
      (houtput : o.output = some path)
      (hsave : s.files.save (.ofText path) prompt = (tree, .ok ())) :
      Closes s c (.generate o) (notes ++ [.rendering r])
        [.success ("Prompt written to " ++ (Files.Path.ofText path).text)] 0 tree
  | analyzed (description : String) :
      Closes s c (.analyze description) [] (Event.intentSummary
          (Analysis.analyze description [] []) ++
          (Analysis.warnings (Analysis.analyze description [] [])).map .warning)
        (if Analysis.isTrusted (Analysis.analyze description [] []) then 0 else 1) s.files
  | previewed {hint text : String} {t : Session}
      (hresult : (Engine.preview hint).start (engineOf c s.files s.clock) = (.ok (some text), t)) :
      Closes s c (.preview hint) (t.notes.map .line) [.plain text] 0 s.files
  | unknown {hint : String} {t : Session}
      (hresult : (Engine.preview hint).start (engineOf c s.files s.clock) = (.ok none, t)) :
      Closes s c (.preview hint) (t.notes.map .line)
        [.error ("No template found for project type: " ++ hint)] 1 s.files
  | listed {ds : List Descriptor} {t : Session}
      (hresult : Registry.list.start (engineOf c s.files s.clock) = (.ok ds, t)) :
      Closes s c .list (t.notes.map .line) [.descriptors ds] 0 s.files

/-- The ways of a request, and what each of them leaves. -/
inductive Way (s : Scene) (c : Config) : Request → Report → Prop
  | closes {request : Request} {before events : List Event} {code : Nat} {files : Files.Tree}
      (h : Closes s c request before events code files) :
      Way s c request (.closing before events code files)
  | unlooked {o : GenerateOptions} {f : Failure} (hasked : o.IsAsked)
      (hfeedback : feedbackOf s.files o.feedback = .error f) :
      Way s c (.generate o) ⟨.broken f, [], s.files⟩
  | failed {o : GenerateOptions} {f : Failure} {notes : List Event}
      (hresult : Generates s c o (.error f) notes) :
      Way s c (.generate o) ⟨.broken f, notes, s.files⟩
  | hindered {o : GenerateOptions} {r : Rendering} {notes : List Event}
      {prompt path message : String} (hresult : Generates s c o (.ok r) notes)
      (houtcome : r.outcome = .prompt prompt) (houtput : o.output = some path)
      (hrefusal : (Event.rendering r).refusal? = some message) :
      Way s c (.generate o) ⟨.broken (.markup message), notes ++ [.rendering r], s.files⟩
  | unsaved {o : GenerateOptions} {r : Rendering} {notes : List Event} {prompt path : String}
      {tree : Files.Tree} {e : Files.FileError} (hresult : Generates s c o (.ok r) notes)
      (houtcome : r.outcome = .prompt prompt) (htaken : (Event.rendering r).refusal? = none)
      (houtput : o.output = some path)
      (hsave : s.files.save (.ofText path) prompt = (tree, .error e)) :
      Way s c (.generate o) ⟨.broken (.file e), notes ++ [.rendering r], tree⟩
  | unviewed {hint : String} {f : Failure} {t : Session}
      (hresult : (Engine.preview hint).start (engineOf c s.files s.clock) = (.error f, t)) :
      Way s c (.preview hint) ⟨.broken f, t.notes.map .line, s.files⟩
  | unlisted {f : Failure} {t : Session}
      (hresult : Registry.list.start (engineOf c s.files s.clock) = (.error f, t)) :
      Way s c .list ⟨.broken f, t.notes.map .line, s.files⟩

/-- The report of a request. -/
def reported (s : Scene) (c : Config) (request : Request) : Report :=
  .ofResult (answer (engineOf c s.files s.clock) c request ⟨[], s.files⟩)

/-! ### Each way is gone -/

theorem Generates.reported_eq {r : Rendering} {notes : List Event}
    (h : Generates s c o (.ok r) notes) :
    reported s c (.generate o) = .ofResult (conclude o r ⟨notes, s.files⟩) := by
  obtain ⟨hasked, hfeedback, hresult⟩ := h
  change Report.ofResult (generate _ _ _ _) = _
  rw [generate_run hasked hfeedback, hresult]

/-- What is amiss with the feedback ends a request before the engine is asked. -/
theorem reported_of_feedbackOf_error {f : Failure} (hasked : o.IsAsked)
    (hfeedback : feedbackOf s.files o.feedback = .error f) :
    reported s c (.generate o) = ⟨.broken f, [], s.files⟩ := by
  have hgiven : Job.ofExcept (feedbackOf s.files o.feedback) ⟨[], s.files⟩ =
      .error f ⟨[], s.files⟩ := by
    rw [hfeedback]
    rfl
  change Report.ofResult (generate _ _ _ _) = _
  rw [generate, if_neg hasked, EStateM.bind_ok (Job.files_run _), EStateM.bind_error hgiven]
  rfl

theorem reported_of_feedbackOf_ok_error {message : String} (hasked : o.IsAsked)
    (hfeedback : feedbackOf s.files o.feedback = .ok (.error message)) :
    reported s c (.generate o) = .closing [] [.error message] 1 s.files := by
  have hgiven : Job.ofExcept (feedbackOf s.files o.feedback) ⟨[], s.files⟩ =
      .ok (.error message) ⟨[], s.files⟩ := by
    rw [hfeedback]
    rfl
  change Report.ofResult (generate _ _ _ _) = _
  rw [generate, if_neg hasked, EStateM.bind_ok (Job.files_run _), EStateM.bind_ok hgiven]
  exact ofResult_emit rfl rfl

omit [Host] in
/-- A request whose prompt is not to be saved closes with its rendering and its prompt. -/
theorem conclude_shown {r : Rendering} {notes : List Event} {prompt : String}
    (houtcome : r.outcome = .prompt prompt) (houtput : o.output = none) :
    Report.ofResult (conclude o r ⟨notes, s.files⟩) = .closing notes (.rendering r ::
      (Event.header (Text.fileName o.projectName ++ " prompt") ++ [.plain prompt])) 0 s.files := by
  cases hrefusal : (Event.rendering r).refusal? with
  | some message =>
    have hfirst (events : List Event) :
        (Event.rendering r :: events).findSome? Event.refusal? = some message := by
      rw [List.findSome?_cons, hrefusal]
    rw [conclude_refused hrefusal, Report.closing, hfirst]
    simp [Event.handed, hrefusal, Report.ofResult]
  | none =>
    rw [conclude_taken hrefusal, houtcome]
    dsimp only
    rw [EStateM.bind_ok (deliver_shown houtput prompt _), Report.closing_of_taken]
    · simp [Report.ofResult, pure, EStateM.pure]
    · refine List.forall_mem_cons.mpr ⟨hrefusal, List.forall_mem_append.mpr ?_⟩
      exact ⟨taken_header _, List.forall_mem_singleton.mpr (Event.refusal?_plain prompt)⟩

theorem Closes.reported_eq {request : Request} {before events : List Event} {code : Nat}
    {files : Files.Tree} (h : Closes s c request before events code files) :
    reported s c request = .closing before events code files := by
  cases h with
  | @idle o hidle =>
    change Report.ofResult (generate _ _ _ _) = _
    rw [generate, if_pos (Decidable.not_not.mp hidle)]
    exact ofResult_emit rfl rfl
  | misinformed hasked hfeedback => exact reported_of_feedbackOf_ok_error hasked hfeedback
  | @declined o r notes message hresult houtcome =>
    have hconclude : conclude o r = (do
        Job.emit [.rendering r]
        return 1 : Job Nat) := by
      rw [conclude, houtcome]
    rw [hresult.reported_eq, hconclude]
    exact ofResult_emit rfl rfl
  | shown hresult houtcome houtput =>
    rw [hresult.reported_eq]
    exact conclude_shown houtcome houtput
  | saved hresult houtcome htaken houtput hsave =>
    rw [hresult.reported_eq, conclude_taken htaken, houtcome]
    dsimp only
    rw [deliver, houtput]
    dsimp only
    rw [bind_assoc, EStateM.bind_ok (Job.save_ok hsave)]
    exact ofResult_emit rfl rfl
  | analyzed description => exact ofResult_emit rfl rfl
  | previewed hresult =>
    change Report.ofResult (preview _ _ _) = _
    rw [preview, EStateM.bind_ok (Job.onEngine_ok hresult _)]
    exact ofResult_emit rfl rfl
  | unknown hresult =>
    change Report.ofResult (preview _ _ _) = _
    rw [preview, EStateM.bind_ok (Job.onEngine_ok hresult _)]
    exact ofResult_emit rfl rfl
  | listed hresult =>
    change Report.ofResult (list _ _) = _
    rw [list, EStateM.bind_ok (Job.onEngine_ok hresult _)]
    exact ofResult_emit rfl rfl

theorem Way.reported_eq {request : Request} {report : Report} (h : Way s c request report) :
    reported s c request = report := by
  cases h with
  | closes h => exact h.reported_eq
  | unlooked hasked hfeedback => exact reported_of_feedbackOf_error hasked hfeedback
  | failed hresult =>
    obtain ⟨hasked, hfeedback, hresult⟩ := hresult
    change Report.ofResult (generate _ _ _ _) = _
    rw [generate_run hasked hfeedback, hresult]
    rfl
  | hindered hresult houtcome houtput hrefusal =>
    rw [hresult.reported_eq, conclude_refused hrefusal]
    rfl
  | unsaved hresult houtcome htaken houtput hsave =>
    rw [hresult.reported_eq, conclude_taken htaken, houtcome]
    dsimp only
    rw [deliver, houtput]
    dsimp only
    rw [bind_assoc, EStateM.bind_error (Job.save_error hsave)]
    rfl
  | unviewed hresult =>
    change Report.ofResult (preview _ _ _) = _
    rw [preview, EStateM.bind_error (Job.onEngine_error hresult _)]
    rfl
  | unlisted hresult =>
    change Report.ofResult (list _ _) = _
    rw [list, EStateM.bind_error (Job.onEngine_error hresult _)]
    rfl

/-! ### Every request goes a way -/

theorem exists_way_of_prompt {r : Rendering} {notes : List Event} {prompt : String}
    (hresult : Generates s c o (.ok r) notes) (houtcome : r.outcome = .prompt prompt) :
    ∃ report, Way s c (.generate o) report := by
  cases houtput : o.output with
  | none => exact ⟨_, .closes (.shown hresult houtcome houtput)⟩
  | some path =>
    cases hrefusal : (Event.rendering r).refusal? with
    | some message => exact ⟨_, .hindered hresult houtcome houtput hrefusal⟩
    | none =>
      match hsave : s.files.save (.ofText path) prompt with
      | (tree, .ok ()) => exact ⟨_, .closes (.saved hresult houtcome hrefusal houtput hsave)⟩
      | (tree, .error e) => exact ⟨_, .unsaved hresult houtcome hrefusal houtput hsave⟩

theorem exists_way (s : Scene) (c : Config) (request : Request) :
    ∃ report, Way s c request report := by
  cases request with
  | generate o =>
    by_cases hasked : o.IsAsked
    · match hfeedback : feedbackOf s.files o.feedback with
      | .error f => exact ⟨_, .unlooked hasked hfeedback⟩
      | .ok (.error message) => exact ⟨_, .closes (.misinformed hasked hfeedback)⟩
      | .ok (.ok feedback) =>
        match hresult : generation o c s.files s.clock feedback with
        | (.error f, t) => exact ⟨_, .failed (.intro hasked hfeedback hresult)⟩
        | (.ok r, t) =>
          have hgenerates := Generates.intro hasked hfeedback hresult
          cases houtcome : r.outcome with
          | error message => exact ⟨_, .closes (.declined hgenerates houtcome)⟩
          | prompt prompt => exact exists_way_of_prompt hgenerates houtcome
    · exact ⟨_, .closes (.idle hasked)⟩
  | analyze description => exact ⟨_, .closes (.analyzed description)⟩
  | preview hint =>
    match hresult : (Engine.preview hint).start (engineOf c s.files s.clock) with
    | (.ok (some text), t) => exact ⟨_, .closes (.previewed hresult)⟩
    | (.ok none, t) => exact ⟨_, .closes (.unknown hresult)⟩
    | (.error f, t) => exact ⟨_, .unviewed hresult⟩
  | list =>
    match hresult : Registry.list.start (engineOf c s.files s.clock) with
    | (.ok ds, t) => exact ⟨_, .closes (.listed hresult)⟩
    | (.error f, t) => exact ⟨_, .unlisted hresult⟩

/-- The ways are just the reports of requests. -/
theorem way_iff {request : Request} {report : Report} :
    Way s c request report ↔ reported s c request = report := by
  constructor
  · exact Way.reported_eq
  · rintro rfl
    obtain ⟨report, h⟩ := exists_way s c request
    rwa [h.reported_eq]

/-- Only arguments are refused. -/
theorem Way.not_refused {request : Request} {report : Report} (h : Way s c request report)
    (refusal : Refusal) : report.ending ≠ .refused refusal := by
  cases h with
  | closes => exact Report.closing_not_refused refusal
  | _ => nofun

/-- A request that exits has closed, and nothing was refused. -/
theorem Way.exists_closes {request : Request} {report : Report} {code : Nat}
    (h : Way s c request report) (hend : report.ending = .exit code) :
    ∃ before events files, Closes s c request before events code files ∧ Taken events ∧
      report = ⟨.exit code, before ++ events, files⟩ := by
  cases h with
  | closes h =>
    obtain ⟨htaken, rfl⟩ := Report.closing_exit hend
    exact ⟨_, _, _, h, htaken, Report.closing_of_taken htaken⟩
  | _ => cases hend

theorem Closes.code_le {request : Request} {before events : List Event} {code : Nat}
    {files : Files.Tree} (h : Closes s c request before events code files) : code ≤ 1 := by
  cases h with
  | analyzed description => split <;> decide
  | _ => decide

end

/-! ### Prompts from the bundled bodies -/

/-- The configuration of an environment that sets nothing. -/
def defaultConfig : Config :=
  ⟨bundledRoot, "1.0.0", 200, .intermediate, .development, defaultBaseFiles⟩

theorem loadConfig_default (files : Files.Tree) (clock : Clock) :
    loadConfig ⟨[], files, clock⟩ none = .ok defaultConfig := by
  change Config.ofEnvironment [] = _
  decide +kernel

section

variable [Console] [Host]

theorem generates_of_fst {feedback : List Feedback} {result : Except Failure Rendering}
    (hasked : o.IsAsked) (hfeedback : feedbackOf s.files o.feedback = .ok (.ok feedback))
    (hresult : (generation o c s.files s.clock feedback).1 = result) :
    ∃ notes, Generates s c o result notes := by
  generalize hpair : generation o c s.files s.clock feedback = pair at hresult
  obtain ⟨fst, t⟩ := pair
  cases hresult
  exact ⟨_, .intro hasked hfeedback hpair⟩

omit [Console] [Host] in
theorem Rendering.exists_prompt {r : Rendering} (h : r.prompt?.isSome) :
    ∃ prompt, r.outcome = .prompt prompt := by
  unfold Rendering.prompt? at h
  cases houtcome : r.outcome with
  | prompt text => exact ⟨text, rfl⟩
  | error message =>
    rw [houtcome] at h
    cases h

/-- The bundled bodies have a prompt for every request. -/
theorem exists_generates_bundled (s : Scene) (hasked : o.IsAsked) (hfeedback : o.feedback = none) :
    ∃ r notes prompt, Generates s defaultConfig o (.ok r) notes ∧ r.outcome = .prompt prompt := by
  obtain ⟨r, hr, hsome⟩ := generation_served (o := o) (c := defaultConfig) rfl rfl s.files s.clock
    (List.forall_mem_nil _)
  have hgiven : feedbackOf s.files o.feedback = .ok (.ok []) := by
    rw [hfeedback]
    rfl
  obtain ⟨notes, hresult⟩ := generates_of_fst hasked hgiven hr
  obtain ⟨prompt, houtcome⟩ := Rendering.exists_prompt hsome
  exact ⟨r, notes, prompt, hresult, houtcome⟩

/-- The options of a request with a description and an output. -/
def GenerateOptions.toFile (description path : String) : GenerateOptions :=
  { GenerateOptions.ofDescription description with output := some path }

/-- The bundled bodies have a prompt for every description. -/
theorem exists_generates_default (s : Scene) {description : String}
    (hdescription : description ≠ "") (path : String) :
    ∃ r notes prompt, Generates s defaultConfig (.toFile description path) (.ok r) notes ∧
      r.outcome = .prompt prompt :=
  exists_generates_bundled s (fun h => hdescription h.1) rfl

end

/-! ### Runs -/

section

variable [Console] [Host] {arguments : List String} {i : Invocation}

theorem run_of_refusal {refusal : Refusal} (h : Invocation.ofArguments arguments = .error refusal) :
    run s arguments = ⟨.refused refusal, [], s.files⟩ := by
  rw [run, h]

/-- What is wrong with the configuration is shown. -/
theorem run_of_loadConfig_error {f : Failure} (h : Invocation.ofArguments arguments = .ok i)
    (hconfig : loadConfig s i.config = .error f) :
    run s arguments =
      .closing [] [.error ("Could not load configuration: " ++ f.report)] 1 s.files := by
  rw [run_eq_ofResult h, perform, hconfig]
  exact ofResult_emit rfl rfl

theorem run_eq_reported (h : Invocation.ofArguments arguments = .ok i)
    (hconfig : loadConfig s i.config = .ok c) : run s arguments = reported s c i.request := by
  rw [run_eq_ofResult h, perform, hconfig]
  rfl

/-- How a run can go: its arguments are refused, there is no configuration, or a request goes one of
its ways. -/
inductive Goes (s : Scene) (arguments : List String) : Report → Prop
  | refused {refusal : Refusal} (h : Invocation.ofArguments arguments = .error refusal) :
      Goes s arguments ⟨.refused refusal, [], s.files⟩
  | unconfigured {i : Invocation} {f : Failure} (h : Invocation.ofArguments arguments = .ok i)
      (hconfig : loadConfig s i.config = .error f) :
      Goes s arguments
        (.closing [] [.error ("Could not load configuration: " ++ f.report)] 1 s.files)
  | answered {i : Invocation} {c : Config} {report : Report}
      (h : Invocation.ofArguments arguments = .ok i) (hconfig : loadConfig s i.config = .ok c)
      (hway : Way s c i.request report) : Goes s arguments report

theorem goes_run (s : Scene) (arguments : List String) : Goes s arguments (run s arguments) := by
  match h : Invocation.ofArguments arguments with
  | .error refusal =>
    rw [run_of_refusal h]
    exact .refused h
  | .ok i =>
    match hconfig : loadConfig s i.config with
    | .error f =>
      rw [run_of_loadConfig_error h hconfig]
      exact .unconfigured h hconfig
    | .ok c =>
      rw [run_eq_reported h hconfig]
      exact .answered h hconfig (way_iff.mpr rfl)

theorem Goes.run_eq {report : Report} (h : Goes s arguments report) : run s arguments = report := by
  cases h with
  | refused h => exact run_of_refusal h
  | unconfigured h hconfig => exact run_of_loadConfig_error h hconfig
  | answered h hconfig hway => rw [run_eq_reported h hconfig, hway.reported_eq]

end

end Promptsmith.Command
