import Promptsmith.Text.Quoted

/-!
# UTF-8

Bytes are read one at a time by a machine that knows how many continuation bytes are owed and
between which bounds the next one lies. The fault says where the offending bytes are and why they
are refused.
-/
namespace Promptsmith.Text

inductive Utf8Defect where
  | start
  | continuation
  | truncated
  deriving DecidableEq, Repr

def Utf8Defect.message : Utf8Defect → String
  | .start => "invalid start byte"
  | .continuation => "invalid continuation byte"
  | .truncated => "unexpected end of data"

/-- The bytes from `position` on, `count` of them, cannot be read; `first` is the first of them. -/
structure Utf8Fault where
  position : Nat
  count : Nat
  first : UInt8
  defect : Utf8Defect
  deriving DecidableEq, Repr

def Utf8Fault.message (f : Utf8Fault) : String :=
  let place :=
    if f.count = 1 then
      "byte 0x" ++ String.ofList (hex 2 f.first.toNat) ++ " in position " ++ toString f.position
    else
      "bytes in position " ++ toString f.position ++ "-" ++ toString (f.position + f.count - 1)
  "'utf-8' codec can't decode " ++ place ++ ": " ++ f.defect.message

/-- A character begun: its first byte and place, the bytes read, the value so far, the bytes still
owed and the bounds of the next one. -/
structure Utf8Partial where
  position : Nat
  first : UInt8
  count : Nat
  value : Nat
  owed : Nat
  low : Nat
  high : Nat
  deriving DecidableEq, Repr

/-- What a first byte begins: `none` if no character starts with it. -/
def Utf8Partial.begin? (position : Nat) (b : UInt8) : Option Utf8Partial :=
  let n := b.toNat
  if n < 0x80 then some ⟨position, b, 1, n, 0, 0x80, 0xBF⟩
  else if n < 0xC2 then none
  else if n < 0xE0 then some ⟨position, b, 1, n - 0xC0, 1, 0x80, 0xBF⟩
  else if n < 0xF0 then
    some ⟨position, b, 1, n - 0xE0, 2, if n = 0xE0 then 0xA0 else 0x80,
      if n = 0xED then 0x9F else 0xBF⟩
  else if n < 0xF5 then
    some ⟨position, b, 1, n - 0xF0, 3, if n = 0xF0 then 0x90 else 0x80,
      if n = 0xF4 then 0x8F else 0xBF⟩
  else none

def Utf8Partial.fault (p : Utf8Partial) (d : Utf8Defect) : Utf8Fault :=
  ⟨p.position, p.count, p.first, d⟩

/-- Reads on, with a character begun or none. -/
def decodeFrom (position : Nat) : Option Utf8Partial → List UInt8 → Except Utf8Fault (List Char)
  | none, [] => .ok []
  | some p, [] => .error (p.fault .truncated)
  | none, b :: r =>
    match Utf8Partial.begin? position b with
    | none => .error ⟨position, 1, b, .start⟩
    | some p =>
      if p.owed = 0 then (decodeFrom (position + 1) none r).map (Char.ofNat p.value :: ·)
      else decodeFrom (position + 1) (some p) r
  | some p, b :: r =>
    if p.low ≤ b.toNat ∧ b.toNat ≤ p.high then
      let q : Utf8Partial :=
        ⟨p.position, p.first, p.count + 1, p.value * 64 + (b.toNat - 0x80), p.owed - 1, 0x80, 0xBF⟩
      if q.owed = 0 then (decodeFrom (position + 1) none r).map (Char.ofNat q.value :: ·)
      else decodeFrom (position + 1) (some q) r
    else .error (p.fault .continuation)

/-- The text that bytes spell, or the first fault in them. -/
def decodeUtf8 (bytes : List UInt8) : Except Utf8Fault (List Char) :=
  decodeFrom 0 none bytes

end Promptsmith.Text
