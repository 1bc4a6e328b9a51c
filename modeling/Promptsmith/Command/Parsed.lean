import Promptsmith.Command.Grammar

/-!
# Parsed arguments

The marks of a command's arguments are read from left to right. The first plain argument fills the
open place of the grammar, flags take their values, and what nothing takes is left over. A value of
a flag that comes again is replaced.
-/
namespace Promptsmith.Command

structure Parsed where
  values : List (String × String)
  positional : Option String
  leftOver : List String
  deriving DecidableEq, Repr

/-- Why arguments are not parsed to their end: help was asked for, or they are faulty. -/
inductive Halt where
  | help
  | fault (fault : UsageFault)
  deriving DecidableEq, Repr

namespace Parsed

def empty : Parsed := ⟨[], none, []⟩

/-- The value of a flag, unless it is empty. -/
def value? (p : Parsed) (flag : String) : Option String :=
  (p.values.lookup flag).filter (· ≠ "")

/-- Adds a value that was given before the rest. -/
def withValue (f : Flag) (value : String) (p : Parsed) : Parsed :=
  let name := f.names.headD ""
  if (p.values.lookup name).isSome then p else { p with values := (name, value) :: p.values }

def withPositional (argument : String) (p : Parsed) : Parsed :=
  { p with positional := some argument }

def withLeftOver (argument : String) (p : Parsed) : Parsed :=
  { p with leftOver := argument :: p.leftOver }

end Parsed

/-- The flag's value is one of its choices. -/
def Flag.check (f : Flag) (value : String) : Except Halt Unit :=
  match f.kind with
  | .value (c :: choices) =>
    if value ∈ c :: choices then .ok ()
    else .error (.fault (.noChoice f.title value (c :: choices)))
  | _ => .ok ()

/-- A value attached to a flag. Two hyphens alone stand for none and need be no choice. -/
def ofAttached (value : String) : String :=
  if value = "--" then "" else value

def Flag.checkAttached (f : Flag) (value : String) : Except Halt String := do
  if value ≠ "--" then f.check value
  return ofAttached value

/-- What letters after a flag for help come to. They are flags themselves; the first of them that
takes a value takes what is left, and one that is no flag is a fault of the flag before it. -/
def askHelp (g : Grammar) (f : Flag) (next : Option Mark) : List Char → Halt
  | [] => .help
  | c :: r =>
    match g.flag? ['-', c] with
    | none => .fault (.unexpectedValue f.title (String.ofList (c :: r)))
    | some inner =>
      match inner.kind, r, next with
      | .help, r, next => askHelp g inner next r
      | .value _, _ :: _, _ => .help
      | .value _, [], some (.plain _) => .help
      | .value _, [], _ => .fault (.missingValue inner.title)

def haltForHelp (g : Grammar) (f : Flag) (next : Option Mark) : Attached → Halt
  | .nothing => .help
  | .toWord value => .fault (.unexpectedValue f.title value)
  | .toLetter value =>
    if value = "" then .fault (.unexpectedValue f.title value)
    else askHelp g f next value.toList

/-- The arguments that are plain. -/
def plainOnes (ms : List Mark) : List String :=
  ms.filterMap fun
    | .plain argument => some argument
    | _ => none

/-- What is left after the divider: the open place is filled first. -/
def afterDivider (place : Option Positional) (ms : List Mark) : Except Halt Parsed :=
  match place, plainOnes ms with
  | none, rest => .ok ⟨[], none, "--" :: rest⟩
  | some p, [] =>
    if p.isOptional then .ok .empty else .error (.fault (.missing p.name))
  | some _, argument :: rest => .ok ⟨[], some argument, rest⟩

/-- Reads marks; `place` is the argument that is still open. -/
def Grammar.read (g : Grammar) (place : Option Positional) : List Mark → Except Halt Parsed
  | [] =>
    match place with
    | some ⟨name, false⟩ => .error (.fault (.missing name))
    | _ => .ok .empty
  | .divider :: rest => afterDivider place rest
  | .unknown argument :: rest => (g.read place rest).map (·.withLeftOver argument)
  | .plain argument :: .divider :: rest =>
    match place with
    | some _ => .ok ⟨[], some argument, plainOnes rest⟩
    | none => .ok ⟨[], none, argument :: "--" :: plainOnes rest⟩
  | .plain argument :: rest =>
    match place with
    | some _ => (g.read none rest).map (·.withPositional argument)
    | none => (g.read none rest).map (·.withLeftOver argument)
  | .flag f attached :: rest =>
    match f.kind, attached, rest with
    | .help, attached, rest => .error (haltForHelp g f rest.head? attached)
    | .value _, .nothing, .plain value :: rest => do
      f.check value
      (g.read place rest).map (Parsed.withValue f value)
    | .value _, .nothing, _ => .error (.fault (.missingValue f.title))
    | .value _, .toWord value, rest => do
      let value ← f.checkAttached value
      (g.read place rest).map (Parsed.withValue f value)
    | .value _, .toLetter value, rest => do
      let value ← f.checkAttached value
      (g.read place rest).map (Parsed.withValue f value)

/-- Parses the arguments of a command. -/
def Grammar.parse (g : Grammar) (arguments : List String) : Except Halt Parsed :=
  match g.marks arguments with
  | .error e => .error (.fault e)
  | .ok ms => g.read g.positional ms

end Promptsmith.Command
