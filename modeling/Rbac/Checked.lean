namespace Rbac

/-- What is wrong with an input: each place with its message. -/
abbrev Flaws := List (String × String)

/-- A reading that reports all flaws of its parts. -/
inductive Checked (α : Type) where
  | ok (value : α)
  | flawed (flaws : Flaws)

namespace Checked

variable {α β : Type}

def map (f : α → β) : Checked α → Checked β
  | .ok value => .ok (f value)
  | .flawed flaws => .flawed flaws

/-- Both readings count; the flaws of the first come first. -/
def both (f : Checked (α → β)) (x : Checked α) : Checked β :=
  match f, x with
  | .ok f, .ok value => .ok (f value)
  | .ok _, .flawed flaws => .flawed flaws
  | .flawed flaws, .ok _ => .flawed flaws
  | .flawed first, .flawed second => .flawed (first ++ second)

instance : Applicative Checked where
  pure := .ok
  seq f x := both f (x ())

def all : List (Checked α) → Checked (List α)
  | [] => .ok []
  | reading :: rest => both (reading.map List.cons) (all rest)

def toExcept : Checked α → Except Flaws α
  | .ok value => .ok value
  | .flawed flaws => .error flaws

end Checked

end Rbac
