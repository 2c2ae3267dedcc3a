import HeatStack.Lifecycle.Status

/-! # Options of a run

Times are whole milliseconds throughout a run, in its options as in its waits and answers; finer
ones are not told apart.  The time between polls is never below a second. -/
set_option autoImplicit false
namespace HeatStack.Lifecycle

def defaultInterval : Nat := 10000

def defaultMaxFailures : UInt32 := 3

/-- A run never polls more often than once in this time. -/
def shortestInterval : Nat := 1000

/-- How long a run may poll.  It is shown in whole seconds. -/
structure Timeout where
  milliseconds : Nat
deriving DecidableEq

def Timeout.ofSeconds (n : Nat) : Timeout := ⟨n * 1000⟩

instance : ToString Timeout := ⟨fun limit => toString (limit.milliseconds / 1000)⟩

structure Options where
  stack : String
  action : Action
  interval : Nat
  /-- Without a timeout a run waits as long as it takes. -/
  timeout : Option Timeout
  /-- How many polls in a row may fail. -/
  maxFailures : UInt32
deriving DecidableEq

namespace Options

def new (stack : String) (action : Action) : Options :=
  ⟨stack, action, defaultInterval, none, defaultMaxFailures⟩

def withIntervalSeconds (o : Options) (seconds : UInt64) : Options :=
  { o with interval := max (seconds.toNat * 1000) shortestInterval }

/-- Nothing below one second is a timeout. -/
def withTimeoutSeconds (o : Options) (seconds : Int64) : Options :=
  { o with timeout := if 0 < seconds.toInt then some (.ofSeconds seconds.toInt.toNat) else none }

def withMaxFailures (o : Options) (n : UInt32) : Options := { o with maxFailures := n }

def effectiveInterval (o : Options) : Nat := max o.interval shortestInterval

theorem shortestInterval_le_effectiveInterval (o : Options) :
    shortestInterval ≤ o.effectiveInterval := Nat.le_max_right ..

end Options
end HeatStack.Lifecycle
