import RcFirmware.Pid
import Mathlib.Tactic.NormNum
import Mathlib.Tactic.Ring

/-!
# The feedback of the PID controller

A larger measurement makes the proportional and the integral term smaller. The derivative term, which
has lost its minus sign, it makes larger, by `K_d / T` against the `K_p` of the proportional term; the
integral term is bounded and cannot make up for what is left.
-/

namespace RcFirmware.Pid

def Limits.Contains (limits : Limits) (x : Rat) : Prop := limits.min ≤ x ∧ x ≤ limits.max

/-- A larger measurement never gives a larger output, and every update keeps the limits. -/
structure NegativeFeedback (pid : PidController) (setpoint : Rat) : Prop where
  falls : ∀ m1 m2, m1 ≤ m2 →
    (pidControllerUpdate pid setpoint m2).2 ≤ (pidControllerUpdate pid setpoint m1).2
  integrator : ∀ m, pid.integratorLimits.Contains (pidControllerUpdate pid setpoint m).1.integrator
  out : ∀ m, pid.outputLimits.Contains (pidControllerUpdate pid setpoint m).2

/-- Each of the three terms opposes the measurement. -/
structure TermsOppose (pid : PidController) (setpoint : Rat) : Prop where
  proportional : Antitone fun m => (pidControllerUpdate pid setpoint m).1.proportional
  integrator : Antitone fun m => (pidControllerUpdate pid setpoint m).1.integrator
  differentiator : Antitone fun m => (pidControllerUpdate pid setpoint m).1.differentiator

namespace Limits

variable (limits : Limits)

theorem contains_clamp (x : Rat) : limits.Contains (limits.clamp x) :=
  ⟨Clamp.lo_le_clamp limits.min_le_max x, Clamp.clamp_le_hi limits.min_le_max x⟩

theorem clamp_monotone : Monotone limits.clamp := Clamp.clamp_monotone limits.min_le_max

end Limits

section

variable (pid : PidController) (setpoint : Rat)

/-! ### One update -/

theorem update_proportional (m : Rat) :
    (pidControllerUpdate pid setpoint m).1.proportional = pid.pidGains.kP * (setpoint - m) :=
  rfl

theorem update_integrator (m : Rat) :
    (pidControllerUpdate pid setpoint m).1.integrator
      = pid.integratorLimits.clamp
          (pid.integrator + 0.5 * pid.pidGains.kI * pid.T * (setpoint - m + pid.prevError)) :=
  rfl

theorem update_differentiator (m : Rat) :
    (pidControllerUpdate pid setpoint m).1.differentiator
      = pid.pidGains.kD * (m - pid.prevMeasurement) / pid.T :=
  rfl

theorem update_out (m : Rat) :
    (pidControllerUpdate pid setpoint m).2
      = pid.outputLimits.clamp ((pidControllerUpdate pid setpoint m).1.proportional
          + (pidControllerUpdate pid setpoint m).1.integrator
          + (pidControllerUpdate pid setpoint m).1.differentiator) :=
  rfl

theorem integrator_contained (m : Rat) :
    pid.integratorLimits.Contains (pidControllerUpdate pid setpoint m).1.integrator :=
  pid.integratorLimits.contains_clamp _

theorem out_contained (m : Rat) :
    pid.outputLimits.Contains (pidControllerUpdate pid setpoint m).2 :=
  pid.outputLimits.contains_clamp _

/-! ### The terms -/

theorem proportional_antitone :
    Antitone fun m => (pidControllerUpdate pid setpoint m).1.proportional := by
  intro m1 m2 hm
  simp only [update_proportional]
  exact mul_le_mul_of_nonneg_left (sub_le_sub_left hm setpoint) pid.pidGains.kP_nonneg

theorem integrator_antitone :
    Antitone fun m => (pidControllerUpdate pid setpoint m).1.integrator := by
  intro m1 m2 hm
  have hgain : 0 ≤ 0.5 * pid.pidGains.kI * pid.T :=
    mul_nonneg (mul_nonneg (by norm_num) pid.pidGains.kI_nonneg) pid.T_pos.le
  have herror : setpoint - m2 + pid.prevError ≤ setpoint - m1 + pid.prevError := by linarith
  simp only [update_integrator]
  apply pid.integratorLimits.clamp_monotone
  exact add_le_add_right (mul_le_mul_of_nonneg_left herror hgain) _

/-- The derivative term follows the measurement, unless it has no gain. -/
theorem differentiator_antitone_iff :
    Antitone (fun m => (pidControllerUpdate pid setpoint m).1.differentiator)
      ↔ pid.pidGains.kD = 0 := by
  constructor
  · intro hfalls
    have hstep := hfalls (zero_le_one' Rat)
    simp only [update_differentiator] at hstep
    rw [div_le_div_iff_of_pos_right pid.T_pos] at hstep
    have hgain := pid.pidGains.kD_nonneg
    linarith
  · intro hgain m1 m2 _
    simp only [update_differentiator, hgain, zero_mul, le_refl]

theorem termsOppose_iff : TermsOppose pid setpoint ↔ pid.pidGains.kD = 0 := by
  rw [← differentiator_antitone_iff pid setpoint]
  constructor
  · exact TermsOppose.differentiator
  · intro hderivative
    exact ⟨proportional_antitone pid setpoint, integrator_antitone pid setpoint, hderivative⟩

/-! ### The output -/

/-- Without the integral term the sum is a line, of slope `K_d / T - K_p`. -/
theorem update_out_line (m : Rat) :
    (pidControllerUpdate pid setpoint m).2
      = Clamp.clamp pid.outputLimits.min pid.outputLimits.max
          ((pid.pidGains.kD / pid.T - pid.pidGains.kP) * m
            + (pid.pidGains.kP * setpoint - pid.pidGains.kD * pid.prevMeasurement / pid.T)
            + (pidControllerUpdate pid setpoint m).1.integrator) := by
  rw [update_out, update_proportional, update_differentiator, Limits.clamp]
  congr 1
  ring

theorem slope_nonpos_iff :
    pid.pidGains.kD / pid.T - pid.pidGains.kP ≤ 0 ↔ pid.pidGains.kD ≤ pid.pidGains.kP * pid.T := by
  rw [sub_nonpos, div_le_iff₀ pid.T_pos]

theorem out_antitone_iff :
    Antitone (fun m => (pidControllerUpdate pid setpoint m).2)
      ↔ pid.pidGains.kD ≤ pid.pidGains.kP * pid.T
        ∨ pid.outputLimits.min = pid.outputLimits.max := by
  simp only [update_out_line]
  rw [Clamp.antitone_clamp_line_iff pid.outputLimits.min_le_max _
    (integrator_contained pid setpoint) (integrator_antitone pid setpoint),
    slope_nonpos_iff]

/-- **Feedback.** From every state and for every setpoint: the terms of an update each oppose the
measurement exactly when there is no derivative gain, and the output does exactly when the derivative
gain is no more than the proportional one makes up for in a sample time, or the output is fixed. -/
theorem negativeFeedback_iff :
    (NegativeFeedback pid setpoint ↔ pid.pidGains.kD ≤ pid.pidGains.kP * pid.T
        ∨ pid.outputLimits.min = pid.outputLimits.max)
      ∧ (TermsOppose pid setpoint ↔ pid.pidGains.kD = 0) := by
  refine ⟨?_, termsOppose_iff pid setpoint⟩
  rw [← out_antitone_iff pid setpoint]
  constructor
  · intro hfeedback m1 m2 hm
    exact hfeedback.falls m1 m2 hm
  · intro hfalls
    exact ⟨fun m1 m2 hm => hfalls hm, integrator_contained pid setpoint,
      out_contained pid setpoint⟩

end

/-- A controller fresh from its initialisation, with a derivative gain only. -/
def derivativeOnly : PidController :=
  pidControllerInit
    { pidGains := ⟨0, 0, 1, le_rfl, le_rfl, zero_le_one⟩
      outputLimits := ⟨-10, 10, by norm_num⟩
      integratorLimits := ⟨-10, 10, by norm_num⟩
      T := 1
      T_pos := one_pos
      proportional := 0
      prevError := 0
      integrator := 0
      prevMeasurement := 0
      differentiator := 0
      out := 0 }

/-- Measured at 0 it puts out 0, and measured at 1 it puts out 1. -/
theorem derivativeOnly_follows : ¬ NegativeFeedback derivativeOnly 0 := by
  intro hfeedback
  have hfalls := hfeedback.falls 0 1 zero_le_one
  have hzero : (pidControllerUpdate derivativeOnly 0 0).2 = 0 := by
    norm_num [pidControllerUpdate, derivativeOnly, pidControllerInit, Limits.clamp, Clamp.clamp]
  have hone : (pidControllerUpdate derivativeOnly 0 1).2 = 1 := by
    norm_num [pidControllerUpdate, derivativeOnly, pidControllerInit, Limits.clamp, Clamp.clamp]
  rw [hzero, hone] at hfalls
  exact absurd hfalls zero_lt_one.not_ge

end RcFirmware.Pid
