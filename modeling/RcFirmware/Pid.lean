import RcFirmware.Lib.Clamp
import Mathlib.Data.Rat.Init

/-!
# The PID controller

The controller kept in `old_code`, with its `float` arithmetic over the rationals. An update stores its
three terms in the controller, the integral one clamped, and returns their clamped sum.
-/

namespace RcFirmware.Pid

/-- `struct limits`, the right way round. -/
structure Limits where
  min : Rat
  max : Rat
  min_le_max : min ≤ max

/-- `struct pid_gains`, none of them negative. -/
structure PidGains where
  kP : Rat
  kI : Rat
  kD : Rat
  kP_nonneg : 0 ≤ kP
  kI_nonneg : 0 ≤ kI
  kD_nonneg : 0 ≤ kD

structure PidController where
  pidGains : PidGains
  outputLimits : Limits
  integratorLimits : Limits
  T : Rat
  T_pos : 0 < T
  proportional : Rat
  prevError : Rat
  integrator : Rat
  prevMeasurement : Rat
  differentiator : Rat
  out : Rat

def Limits.clamp (limits : Limits) (x : Rat) : Rat := Clamp.clamp limits.min limits.max x

def pidControllerInit (pid : PidController) : PidController :=
  { pid with
    integrator := 0
    prevError := 0
    differentiator := 0
    prevMeasurement := 0
    out := 0 }

/-- The derivative term is that of the measurement, with the sign of the measurement. -/
def pidControllerUpdate (pid : PidController) (setpoint measurement : Rat) : PidController × Rat :=
  let error := setpoint - measurement
  let pid := { pid with proportional := pid.pidGains.kP * error }
  let pid :=
    { pid with
      integrator := pid.integrator + 0.5 * pid.pidGains.kI * pid.T * (error + pid.prevError) }
  let pid := { pid with integrator := pid.integratorLimits.clamp pid.integrator }
  let pid :=
    { pid with
      differentiator := pid.pidGains.kD * (measurement - pid.prevMeasurement) / pid.T }
  let pid := { pid with out := pid.proportional + pid.integrator + pid.differentiator }
  let pid := { pid with out := pid.outputLimits.clamp pid.out }
  let pid := { pid with prevError := error, prevMeasurement := measurement }
  (pid, pid.out)

end RcFirmware.Pid
