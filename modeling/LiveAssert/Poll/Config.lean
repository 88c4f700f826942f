import LiveAssert.Duration.Notation

namespace LiveAssert

inductive ConfigError
  | invalidDuration (input : String) (fault : DurationFault)
  | nonPositiveTimeout
  | nonPositiveInterval
deriving DecidableEq

def ConfigError.message : ConfigError → String
  | .invalidDuration input fault => "invalid duration '" ++ input ++ "': " ++ fault.message
  | .nonPositiveTimeout => "timeout must be greater than zero"
  | .nonPositiveInterval => "poll interval must be greater than zero"

def readDuration (text : String) : Except ConfigError Duration :=
  (Duration.read text).mapError (.invalidDuration text)

def validateWindow (timeout interval : Duration) : Except ConfigError Unit :=
  if timeout.isZero then .error .nonPositiveTimeout
  else if interval.isZero then .error .nonPositiveInterval
  else .ok ()

structure PollConfig where
  defaultTimeout : Duration
  interval : Duration
deriving DecidableEq

namespace PollConfig

def default : PollConfig := ⟨.ofSeconds 1, .ofMillis 10⟩

def validate (c : PollConfig) : Except ConfigError Unit := validateWindow c.defaultTimeout c.interval

def override (current : Duration) : Option String → Except ConfigError Duration
  | none => .ok current
  | some text => readDuration text

def withOverrides (c : PollConfig) (timeout interval : Option String) :
    Except ConfigError PollConfig := do
  let defaultTimeout ← override c.defaultTimeout timeout
  let interval ← override c.interval interval
  let c : PollConfig := ⟨defaultTimeout, interval⟩
  c.validate
  .ok c

end PollConfig

end LiveAssert
