import TronGateway.Action
set_option autoImplicit false

/-!
# A clock that is told the time

Time in milliseconds passes only when somebody waits. A beat that is missed comes late and takes
nothing from those behind it. At some moment the activity may be told to stop, which ends every
wait.
-/

namespace TronGateway.Rehearsal

structure Clock where
  now : Nat
  interval : Nat
  /-- When the next beat is due; the first one is due at once. -/
  beat : Option Nat
  /-- When the activity is told to stop. -/
  stop : Option Nat

namespace Clock

def initial : Clock := ⟨0, 0, none, none⟩

/-- The clock for an activity with an interval that is told to stop after `duration`. -/
def start (clock : Clock) (interval duration : Nat) : Clock :=
  ⟨clock.now, interval, none, some (clock.now + duration)⟩

def finish (clock : Clock) : Clock := ⟨clock.now, 0, none, none⟩

def isStopped (clock : Clock) : Bool :=
  match clock.stop with
  | some stop => stop ≤ clock.now
  | none => false

def pass (clock : Clock) (duration : Nat) : Clock :=
  { clock with now := clock.now + duration }

def waitUntil (clock : Clock) (due : Nat) : Wake × Clock :=
  let due := max clock.now due
  match clock.stop with
  | some stop =>
    if stop ≤ due then (.stopped, { clock with now := max clock.now stop })
    else (.elapsed, { clock with now := due })
  | none => (.elapsed, { clock with now := due })

/-- Waits for the end of a pause. An interval of no length has no beats. -/
def wait (clock : Clock) : Pause → Option Wake × Clock
  | .beat =>
    if clock.interval = 0 then (none, clock)
    else
      let due := clock.beat.getD clock.now
      ofWait ({ clock with beat := some (due + clock.interval) }.waitUntil due)
  | .retry => ofWait (clock.waitUntil (clock.now + clock.interval / 2))
  | .restart => ofWait (clock.waitUntil (clock.now + 1000))
where
  ofWait (waited : Wake × Clock) : Option Wake × Clock := (some waited.1, waited.2)

end Clock
end TronGateway.Rehearsal
