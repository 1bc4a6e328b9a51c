import Promptsmith.Command.Run
import Promptsmith.Proofs.Engine.Heeding
import Promptsmith.Proofs.Host.Markup
import Promptsmith.Proofs.Text.Hyphens

/-!
# Events and the console

A command hands its events to the console one by one, and goes on if none of them is refused. The
first that is refused is the last that is handed over, and the console's complaint ends the command.
Headers, and messages without brackets, are never refused.
-/
namespace Promptsmith.Command

namespace Job

variable {α : Type}

theorem files_run (d : Desk) : files d = .ok d.files d := rfl

theorem onEngine_ok {e : Engine} {act : Act α} {a : α} {t : Session} (h : act.start e = (.ok a, t))
    (d : Desk) :
    onEngine e act d = .ok a { d with events := d.events ++ t.notes.map .line } := by
  unfold onEngine
  rw [h]
  rfl

theorem onEngine_error {e : Engine} {act : Act α} {f : Failure} {t : Session}
    (h : act.start e = (.error f, t)) (d : Desk) :
    onEngine e act d = .error f { d with events := d.events ++ t.notes.map .line } := by
  unfold onEngine
  rw [h]
  rfl

end Job

theorem untagged_fileName (name : String) : Untagged (Text.fileName name) := by
  intro c hc
  rw [Text.fileName, String.toList_ofList] at hc
  rcases (Text.isFileName_hyphenated _).plain c hc with hplain | rfl
  · constructor
    · rintro rfl
      cases hplain
    · rintro rfl
      cases hplain
  · decide

variable [Console]

/-- What is wrong with an event that the console does not take. -/
def Event.refusal? (event : Event) : Option String :=
  event.markups.findSome? Console.refusal?

/-- The console takes every event. -/
def Taken (events : List Event) : Prop :=
  ∀ event ∈ events, event.refusal? = none

/-- The events up to the first that is refused. -/
def Event.handed : List Event → List Event
  | [] => []
  | event :: events => if event.refusal? = none then event :: handed events else [event]

theorem taken_iff {events : List Event} :
    Taken events ↔ events.findSome? Event.refusal? = none :=
  List.findSome?_eq_none_iff.symm

theorem Event.refusal?_of_markup {event : Event} (h : ∀ text ∈ event.markups, Markup text) :
    event.refusal? = none :=
  List.findSome?_eq_none_iff.mpr fun text htext => Console.takes (h text htext)

@[simp] theorem Event.refusal?_plain (text : String) : (Event.plain text).refusal? = none := rfl

theorem Event.refusal?_line (text : String) :
    (Event.line text).refusal? = Console.refusal? text := by
  simp [refusal?, markups]

/-- Notes that are refused on the way are the events that are refused. -/
theorem mem_refused {notes : List String} {message : String}
    (h : ∃ note ∈ notes, Console.refusal? note = some message) :
    ∃ event ∈ notes.map Event.line, event.refusal? = some message := by
  obtain ⟨note, hnote, hrefused⟩ := h
  exact ⟨.line note, List.mem_map_of_mem hnote, (Event.refusal?_line note).trans hrefused⟩

omit [Console] in
theorem Event.refusal?_quiet (event : Event) : @Event.refusal? .quiet event = none :=
  List.findSome?_eq_none_iff.mpr fun _ _ => rfl

theorem Event.mem_handed {events : List Event} {message : String}
    (h : events.findSome? refusal? = some message) :
    ∃ event ∈ handed events, event.refusal? = some message := by
  induction events with
  | nil => cases h
  | cons event events ih =>
    rw [handed]
    cases hrefusal : event.refusal? with
    | some complaint =>
      rw [List.findSome?_cons, hrefusal] at h
      cases h
      exact ⟨event, by simp, hrefusal⟩
    | none =>
      rw [List.findSome?_cons, hrefusal] at h
      obtain ⟨refused, hmem, hrefused⟩ := ih h
      exact ⟨refused, by simp [hmem], hrefused⟩

/-! ### Jobs -/

namespace Job

theorem hand_run (event : Event) (d : Desk) :
    hand event d =
      match event.refusal? with
      | some message => .error (.markup message) { d with events := d.events ++ [event] }
      | none => .ok () { d with events := d.events ++ [event] } := by
  have hlog : (modify fun d => { d with events := d.events ++ [event] } : Job Unit) d =
      .ok () { d with events := d.events ++ [event] } := rfl
  have hrun : hand event d = _ := EStateM.bind_ok hlog
  rw [hrun, Event.refusal?]
  cases event.markups.findSome? Console.refusal? <;> rfl

theorem emit_run (events : List Event) (d : Desk) :
    emit events d =
      match events.findSome? Event.refusal? with
      | some message =>
        .error (.markup message) { d with events := d.events ++ Event.handed events }
      | none => .ok () { d with events := d.events ++ events } := by
  induction events generalizing d with
  | nil => simp [emit, pure, EStateM.pure]
  | cons event events ih =>
    have hhand := hand_run event d
    rw [List.findSome?_cons, Event.handed]
    cases hrefusal : event.refusal? with
    | some message =>
      rw [hrefusal] at hhand
      exact EStateM.bind_error hhand
    | none =>
      rw [hrefusal] at hhand
      have hrun : emit (event :: events) d = _ := EStateM.bind_ok hhand
      rw [hrun]
      refine (ih _).trans ?_
      cases events.findSome? Event.refusal? <;> simp

theorem emit_ok {events : List Event} (h : Taken events) (d : Desk) :
    emit events d = .ok () { d with events := d.events ++ events } := by
  rw [emit_run, taken_iff.mp h]

end Job

/-! ### Reports -/

def Report.ofResult : EStateM.Result Failure Desk Nat → Report
  | .ok code d => ⟨.exit code, d.events, d.files⟩
  | .error failure d => ⟨.broken failure, d.events, d.files⟩

/-- The report of a run that shows some more events and exits, unless one of them is refused. -/
def Report.closing (before events : List Event) (code : Nat) (files : Files.Tree) : Report :=
  match events.findSome? Event.refusal? with
  | some message => ⟨.broken (.markup message), before ++ Event.handed events, files⟩
  | none => ⟨.exit code, before ++ events, files⟩

section

variable {before events : List Event} {code : Nat} {files : Files.Tree}

theorem Report.closing_of_taken (h : Taken events) :
    closing before events code files = ⟨.exit code, before ++ events, files⟩ := by
  rw [closing, taken_iff.mp h]

theorem Report.closing_exit {n : Nat} (h : (closing before events code files).ending = .exit n) :
    Taken events ∧ n = code := by
  unfold closing at h
  split at h
  · cases h
  · next htaken =>
    cases h
    exact ⟨taken_iff.mpr htaken, rfl⟩

theorem Report.closing_broken {f : Failure}
    (h : (closing before events code files).ending = .broken f) :
    ∃ message, f = .markup message ∧ events.findSome? Event.refusal? = some message := by
  unfold closing at h
  split at h
  · next message hrefused =>
    cases h
    exact ⟨message, rfl, hrefused⟩
  · cases h

theorem Report.closing_not_refused (refusal : Refusal) :
    (closing before events code files).ending ≠ .refused refusal := by
  unfold closing
  split <;> nofun

@[simp] theorem Report.files_closing : (closing before events code files).files = files := by
  unfold closing
  split <;> rfl

/-- The event that is refused is shown. -/
theorem Report.mem_closing {message : String}
    (h : events.findSome? Event.refusal? = some message) :
    ∃ event ∈ (closing before events code files).events, event.refusal? = some message := by
  obtain ⟨event, hmem, hrefused⟩ := Event.mem_handed h
  refine ⟨event, ?_, hrefused⟩
  rw [closing, h]
  exact List.mem_append_right _ hmem

/-- A job that shows its last events and exits closes. -/
theorem ofResult_emit {d : Desk} (hfiles : d.files = files) (hbefore : d.events = before) :
    Report.ofResult ((do
      Job.emit events
      return code : Job Nat) d) = .closing before events code files := by
  have hemit := Job.emit_run events d
  rw [Report.closing, ← hfiles, ← hbefore]
  cases hrefused : events.findSome? Event.refusal? with
  | some message =>
    rw [hrefused] at hemit
    rw [EStateM.bind_error hemit]
    rfl
  | none =>
    rw [hrefused] at hemit
    rw [EStateM.bind_ok hemit]
    rfl

end

/-! ### Events that every console takes -/

theorem Event.refusal?_styled {style text : String} (hstyle : IsStyle style) (h : Untagged text) :
    (Event.line ("[" ++ style ++ "]" ++ text ++ "[/" ++ style ++ "]")).refusal? = none := by
  rw [refusal?_line]
  exact Console.takes (.styled_untagged hstyle h)

theorem Event.refusal?_error {message : String} (h : Untagged message) :
    (Event.error message).refusal? = none := by
  have htext : "[bold red]" ++ message ++ "[/bold red]" =
      "[" ++ "bold red" ++ "]" ++ message ++ "[/" ++ "bold red" ++ "]" := by
    simp [← String.toList_inj]
  rw [error, htext]
  exact refusal?_styled (by decide) h

theorem Event.refusal?_warning {message : String} (h : Untagged message) :
    (Event.warning message).refusal? = none := by
  have htext : "[bold yellow]" ++ message ++ "[/bold yellow]" =
      "[" ++ "bold yellow" ++ "]" ++ message ++ "[/" ++ "bold yellow" ++ "]" := by
    simp [← String.toList_inj]
  rw [warning, htext]
  exact refusal?_styled (by decide) h

theorem taken_header (name : String) : Taken (Event.header (Text.fileName name ++ " prompt")) := by
  have htext : "[bold bright_cyan] " ++ (Text.fileName name ++ " prompt") ++
      " [/bold bright_cyan]" =
        "[" ++ "bold bright_cyan" ++ "]" ++ (" " ++ Text.fileName name ++ " prompt ") ++ "[/" ++
          "bold bright_cyan" ++ "]" := by
    simp [← String.toList_inj]
  have hinner : Markup (" " ++ Text.fileName name ++ " prompt ") := by
    have hspace : Untagged " " := by decide
    have hprompt : Untagged " prompt " := by decide
    exact (hspace.markup.append (untagged_fileName name).markup).append hprompt.markup
  have hrule : Markup ("[bold bright_cyan] " ++ (Text.fileName name ++ " prompt") ++
      " [/bold bright_cyan]") := by
    rw [htext]
    exact .styled (by decide) hinner
  intro event hevent
  refine Event.refusal?_of_markup ?_
  intro text hmarkup
  simp only [Event.header, List.mem_cons, List.not_mem_nil, or_false] at hevent
  rcases hevent with rfl | rfl | rfl
  · cases hmarkup
  · rwa [List.mem_singleton.mp hmarkup]
  · cases hmarkup

end Promptsmith.Command
