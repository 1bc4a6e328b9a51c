import Promptsmith.Record.Problem

/-!
# Checked values

The outcome of a check is a value or the list of all problems found: two checks side by side report
the problems of both, in order.
-/
namespace Promptsmith

inductive Checked (α : Type) where
  | valid (value : α)
  | invalid (problems : List Problem)
  deriving DecidableEq, Repr

namespace Checked

variable {α β : Type}

def map (f : α → β) : Checked α → Checked β
  | .valid a => .valid (f a)
  | .invalid ps => .invalid ps

/-- Applies a checked function to a checked argument; the problems of both add up. -/
def apply (f : Checked (α → β)) (x : Checked α) : Checked β :=
  match f, x with
  | .valid f, .valid a => .valid (f a)
  | .valid _, .invalid ps => .invalid ps
  | .invalid ps, .valid _ => .invalid ps
  | .invalid ps, .invalid qs => .invalid (ps ++ qs)

instance : Applicative Checked where
  pure := .valid
  map := map
  seq f x := apply f (x ())

/-- Both parts of an accepted pair of checks are accepted. -/
theorem seq_eq_valid {f : Checked (α → β)} {x : Checked α} {b : β} :
    f <*> x = .valid b ↔ ∃ g a, f = .valid g ∧ x = .valid a ∧ g a = b := by
  cases f <;> cases x <;> simp [Seq.seq, apply]

theorem map_eq_valid {f : α → β} {x : Checked α} {b : β} :
    f <$> x = .valid b ↔ ∃ a, x = .valid a ∧ f a = b := by
  cases x <;> simp [Functor.map, map]

def fail (reason : Reason) : Checked α :=
  .invalid [⟨[], reason⟩]

/-- Reports problems one level further out. -/
def under (name : String) : Checked α → Checked α
  | .valid a => .valid a
  | .invalid ps => .invalid (ps.map (·.under name))

@[simp] theorem under_eq_valid {name : String} {x : Checked α} {a : α} :
    x.under name = .valid a ↔ x = .valid a := by
  cases x <;> simp [under]

/-- A further check of an accepted value. -/
def andThen (x : Checked α) (f : α → Checked β) : Checked β :=
  match x with
  | .valid a => f a
  | .invalid ps => .invalid ps

/-- Checks the items of a list, each located by its index. -/
def allFrom (check : α → Checked β) (index : Nat) : List α → Checked (List β)
  | [] => .valid []
  | a :: r =>
    (fun b bs => b :: bs) <$> (check a).under (toString index) <*> allFrom check (index + 1) r

def all (check : α → Checked β) (xs : List α) : Checked (List β) :=
  allFrom check 0 xs

end Checked

end Promptsmith
