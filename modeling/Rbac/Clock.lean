import Rbac.Instant

namespace Rbac

/-- What the clock shows within one step, reading after reading, and what the counter beside it
makes of the time that serving takes, in tenths of a millisecond. -/
structure Clock where
  reading : Nat → Instant
  elapsed : Nat := 0

namespace Clock

def still (moment : Instant) : Clock := { reading := fun _ => moment }

def epoch : Clock := still .epoch

/-- The clock once it has been read some times. -/
def past (clock : Clock) (readings : Nat) : Clock :=
  { clock with reading := fun n => clock.reading (readings + n) }

@[simp] theorem reading_still (moment : Instant) (n : Nat) : (still moment).reading n = moment :=
  rfl

@[simp] theorem reading_past (clock : Clock) (readings n : Nat) :
    (clock.past readings).reading n = clock.reading (readings + n) := rfl

end Clock
end Rbac
