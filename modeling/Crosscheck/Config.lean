import Crosscheck.Compare
import Crosscheck.Device.Program
import Crosscheck.Matrix.Basic
import Crosscheck.Text.Blank
import Crosscheck.Yaml.Record

/-!
# Crosscheck.Config

**The configuration of a run.** It is a YAML record in which every field has a default, so that a
blank text is a configuration too. Fields nobody knows are mistakes.
-/

namespace Crosscheck

/-- The configuration of a run. -/
structure RunConfig where
  /-- The seed of all random inputs. -/
  seed : Word
  /-- Random rows per point. -/
  randomSamples : Nat
  /-- How long a device may take for a point, in milliseconds. -/
  timeoutMillis : UInt64
  /-- How many points are in work at once; zero stands for as many as there are processors. -/
  jobs : Nat
  /-- The largest tolerated distance of two floats. -/
  maxUlp : Word
  /-- What shift amounts at or beyond the width do. -/
  shiftPolicy : ShiftPolicy
  /-- Whether bit fields of length zero are tested. -/
  zeroLength : Bool
  /-- How many mismatching elements of a point are listed. -/
  maxListed : Nat
  /-- The device, if it is a program. -/
  device : Option DeviceProgram
  deriving DecidableEq, Repr

namespace DeviceProgram

/-- The device of a YAML value. -/
def ofYaml? (v : Yaml.Value) : Option DeviceProgram := do
  let [program, args, concurrency] ← v.record? false ["program", "args", "concurrency"] | none
  some {
    program := ← (← program).string?
    args := ← Yaml.Value.withDefault [] (·.list? Yaml.Value.string?) args
    concurrency := ← Yaml.Value.withDefault 1 Yaml.Value.count? concurrency }

end DeviceProgram

namespace RunConfig

/-- The configuration of a blank text. -/
def standard : RunConfig where
  seed := 0
  randomSamples := 64
  timeoutMillis := 10000
  jobs := 0
  maxUlp := 0
  shiftPolicy := .clamp
  zeroLength := true
  maxListed := 8
  device := none

/-- The configuration of a YAML value. -/
def ofYaml? (v : Yaml.Value) : Option RunConfig := do
  let [seed, samples, timeout, jobs, maxUlp, policy, zeroLength, maxListed, device] ← v.record? false
    ["seed", "random_samples", "timeout_ms", "jobs", "float_max_ulp", "shift_policy",
      "zero_length_bit_fields", "max_reported_mismatches", "driver"] | none
  let count (fallback : Nat) := Yaml.Value.withDefault fallback Yaml.Value.count?
  some {
    seed := BitVec.ofNat 64 (← count standard.seed.toNat seed)
    randomSamples := ← count standard.randomSamples samples
    timeoutMillis := UInt64.ofNat (← count standard.timeoutMillis.toNat timeout)
    jobs := ← count standard.jobs jobs
    maxUlp := BitVec.ofNat 64 (← count standard.maxUlp.toNat maxUlp)
    shiftPolicy := ← Yaml.Value.withDefault standard.shiftPolicy
      (·.choice? ShiftPolicy.ofName?) policy
    zeroLength := ← Yaml.Value.withDefault standard.zeroLength Yaml.Value.bool? zeroLength
    maxListed := ← count standard.maxListed maxListed
    device := ← Yaml.Value.withDefault standard.device
      (·.optional? DeviceProgram.ofYaml?) device }

/-- The configuration of a text. -/
def ofText (text : String) : Except CheckError RunConfig :=
  if Text.isBlankText text then .ok standard
  else
    match (Yaml.Value.ofText? text).bind ofYaml? with
    | some c => .ok c
    | none => .error (.invalidYaml "not a run configuration")

/-- How long a device may take for a point. -/
def timeout (c : RunConfig) : Duration := .ofMillis c.timeoutMillis

/-- What decides how many points and elements there are. -/
def matrixOptions (c : RunConfig) : MatrixOptions := ⟨c.seed, c.randomSamples, c.zeroLength⟩

/-- How outputs are compared. -/
def comparator (c : RunConfig) : Comparator := ⟨c.maxUlp, c.maxListed⟩

/-- How many points are in work at once, given the number of processors and how many calls the device
takes: at least one. -/
def workers (c : RunConfig) (processors limit : Nat) : Nat :=
  max 1 (min (if c.jobs = 0 then processors else c.jobs) limit)

end RunConfig

end Crosscheck
