import Rbac.Uuid.Basic

namespace Rbac

/-- The identifiers of a supply in drawing order, and how many are drawn already. -/
structure Supply where
  ids : Nat → Uuid
  used : Nat

namespace Supply

def next (supply : Supply) : Uuid :=
  supply.ids supply.used

def advance (supply : Supply) : Supply :=
  { supply with used := supply.used + 1 }

def after (base : Nat) : Supply :=
  ⟨fun n => Uuid.ofNat (base + n + 1), 0⟩

end Supply

/-- A computation that draws identifiers. -/
inductive Draw (α : Type) where
  | done (value : α)
  | draw (next : Uuid → Draw α)

namespace Draw

variable {α β : Type}

def bind : Draw α → (α → Draw β) → Draw β
  | .done value, f => f value
  | .draw next, f => .draw fun id => (next id).bind f

instance : Monad Draw where
  pure := .done
  bind := bind

def fresh : Draw Uuid :=
  .draw .done

def run : Draw α → Supply → α × Supply
  | .done value, supply => (value, supply)
  | .draw next, supply => (next supply.next).run supply.advance

@[simp] theorem run_pure (value : α) (supply : Supply) :
    (pure value : Draw α).run supply = (value, supply) := rfl

@[simp] theorem run_bind (d : Draw α) (f : α → Draw β) (supply : Supply) :
    (d >>= f).run supply = (f (d.run supply).1).run (d.run supply).2 := by
  change (d.bind f).run supply = _
  induction d generalizing supply with
  | done value => rfl
  | draw next ih => exact ih supply.next supply.advance

@[simp] theorem run_fresh (supply : Supply) :
    fresh.run supply = (supply.next, supply.advance) := rfl

end Draw
end Rbac
