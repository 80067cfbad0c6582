import RcFirmware.Lib.Machine
import RcFirmware.Proof.PidFeedback
import Mathlib.Data.List.Forall2

/-!
# Runs of the PID controller

From one update to the next the controller keeps the clamped integral term, the error and the
measurement. What it keeps orders the runs of two controllers as it orders their next outputs, so that
the feedback of one update is that of whole runs. And the clamp makes the integral term forget: an
error that stays on one side long enough leaves nothing of what came before.
-/

namespace RcFirmware.Pid

open StepMachine Clamp

structure Input where
  setpoint : Rat
  measurement : Rat

def Input.error (input : Input) : Rat := input.setpoint - input.measurement

def step (pid : PidController) (input : Input) : PidController :=
  (pidControllerUpdate pid input.setpoint input.measurement).1

/-- What the updates return. -/
def outputs (pid : PidController) : List Input → List Rat
  | [] => []
  | input :: inputs =>
      (pidControllerUpdate pid input.setpoint input.measurement).2 :: outputs (step pid input) inputs

/-! ### Feedback over runs -/

/-- `low` asks for no more than `high` and measures no less. -/
structure Input.Below (low high : Input) : Prop where
  setpoint : low.setpoint ≤ high.setpoint
  measurement : high.measurement ≤ low.measurement

/-- Two controllers that are set up alike. -/
structure SameSetup (pid other : PidController) : Prop where
  pidGains : pid.pidGains = other.pidGains
  outputLimits : pid.outputLimits = other.outputLimits
  integratorLimits : pid.integratorLimits = other.integratorLimits
  T : pid.T = other.T

/-- `low` has behind it no more error than `high`, and no smaller a measurement. -/
structure Lags (low high : PidController) : Prop extends SameSetup low high where
  prevError : low.prevError ≤ high.prevError
  integrator : low.integrator ≤ high.integrator
  prevMeasurement : high.prevMeasurement ≤ low.prevMeasurement

theorem SameSetup.step {pid other : PidController} (hsame : SameSetup pid other)
    (input input' : Input) : SameSetup (step pid input) (step other input') :=
  ⟨hsame.pidGains, hsame.outputLimits, hsame.integratorLimits, hsame.T⟩

theorem Input.Below.error_le {low high : Input} (hbelow : low.Below high) :
    low.error ≤ high.error :=
  sub_le_sub hbelow.setpoint hbelow.measurement

section

variable {low high : PidController} {input input' : Input}

theorem Lags.integrator_le (hlags : Lags low high) (hbelow : input.Below input') :
    (Pid.step low input).integrator ≤ (Pid.step high input').integrator := by
  have hgain : 0 ≤ 0.5 * low.pidGains.kI * low.T :=
    mul_nonneg (mul_nonneg (by norm_num) low.pidGains.kI_nonneg) low.T_pos.le
  have herror : input.setpoint - input.measurement + low.prevError
      ≤ input'.setpoint - input'.measurement + high.prevError :=
    add_le_add hbelow.error_le hlags.prevError
  rw [Pid.step, Pid.step, update_integrator, update_integrator, ← hlags.integratorLimits,
    ← hlags.pidGains, ← hlags.T]
  apply low.integratorLimits.clamp_monotone
  exact add_le_add hlags.integrator (mul_le_mul_of_nonneg_left herror hgain)

theorem Lags.step (hlags : Lags low high) (hbelow : input.Below input') :
    Lags (Pid.step low input) (Pid.step high input') where
  toSameSetup := hlags.toSameSetup.step input input'
  prevError := hbelow.error_le
  integrator := hlags.integrator_le hbelow
  prevMeasurement := hbelow.measurement

theorem Lags.out_le (hlags : Lags low high) (hbelow : input.Below input')
    (hfeedback : low.pidGains.kD ≤ low.pidGains.kP * low.T
      ∨ low.outputLimits.min = low.outputLimits.max) :
    (pidControllerUpdate low input.setpoint input.measurement).2
      ≤ (pidControllerUpdate high input'.setpoint input'.measurement).2 := by
  rw [update_out, update_out, ← hlags.outputLimits]
  obtain hgain | hfixed := hfeedback
  · apply low.outputLimits.clamp_monotone
    have hintegrator := hlags.integrator_le hbelow
    have hsetpoint := mul_le_mul_of_nonneg_left hbelow.setpoint low.pidGains.kP_nonneg
    have hmeasurement := hbelow.measurement
    have hprev := div_le_div_of_nonneg_right
      (mul_le_mul_of_nonneg_left hlags.prevMeasurement low.pidGains.kD_nonneg) low.T_pos.le
    have hslope := mul_le_mul_of_nonpos_left hmeasurement ((slope_nonpos_iff low).mpr hgain)
    simp only [update_proportional, update_differentiator, ← hlags.pidGains, ← hlags.T]
    have hline : ∀ s m prev : Rat, low.pidGains.kP * (s - m) + low.pidGains.kD * (m - prev) / low.T =
        (low.pidGains.kD / low.T - low.pidGains.kP) * m + low.pidGains.kP * s
          - low.pidGains.kD * prev / low.T := by
      intro s m prev
      ring
    rw [Pid.step, Pid.step] at hintegrator
    rw [add_right_comm, hline, add_right_comm (low.pidGains.kP * _), hline]
    linarith
  · rw [Limits.clamp, Limits.clamp, hfixed, clamp_self, clamp_self]

theorem Lags.outputs_le (hlags : Lags low high)
    (hfeedback : low.pidGains.kD ≤ low.pidGains.kP * low.T
      ∨ low.outputLimits.min = low.outputLimits.max) {lows highs : List Input}
    (hbelow : List.Forall₂ Input.Below lows highs) :
    List.Forall₂ (· ≤ ·) (outputs low lows) (outputs high highs) := by
  induction hbelow generalizing low high with
  | nil => exact .nil
  | cons hfirst hrest ih => exact .cons (hlags.out_le hfirst hfeedback) (ih (hlags.step hfirst) hfeedback)

end

/-- **Feedback over runs.** Two runs of a controller, of which one asks for no more and measures no
less at every update, put out no more at every update, whatever the runs, exactly when the derivative
gain is no more than the proportional one makes up for in a sample time, or the output is fixed. -/
theorem outputs_ordered_iff (pid : PidController) :
    (∀ lows highs, List.Forall₂ Input.Below lows highs →
        List.Forall₂ (· ≤ ·) (outputs pid lows) (outputs pid highs))
      ↔ pid.pidGains.kD ≤ pid.pidGains.kP * pid.T
        ∨ pid.outputLimits.min = pid.outputLimits.max := by
  constructor
  · intro hordered
    rw [← out_antitone_iff pid 0]
    intro m1 m2 hm
    have hbelow : Input.Below ⟨0, m2⟩ ⟨0, m1⟩ := ⟨le_rfl, hm⟩
    cases hordered [⟨0, m2⟩] [⟨0, m1⟩] (.cons hbelow .nil) with
    | cons hout _ => exact hout
  · intro hfeedback lows highs hbelow
    have hlags : Lags pid pid := ⟨⟨rfl, rfl, rfl, rfl⟩, le_rfl, le_rfl, le_rfl⟩
    exact hlags.outputs_le hfeedback hbelow

/-! ### The integral term forgets -/

/-- What each update adds to the integral term before the clamp. -/
def increments (pid : PidController) : List Input → List Rat
  | [] => []
  | input :: inputs =>
      0.5 * pid.pidGains.kI * pid.T * (input.error + pid.prevError)
        :: increments (step pid input) inputs

theorem integrator_run (pid : PidController) (inputs : List Input) :
    (run step pid inputs).integrator =
      clampedSum pid.integratorLimits.min pid.integratorLimits.max pid.integrator
        (increments pid inputs) := by
  induction inputs generalizing pid with
  | nil => rfl
  | cons input inputs ih =>
      rw [run_cons, ih, increments, clampedSum_cons]
      rfl

theorem length_increments (pid : PidController) (inputs : List Input) :
    (increments pid inputs).length = inputs.length := by
  induction inputs generalizing pid with
  | nil => rfl
  | cons input inputs ih => rw [increments, List.length_cons, ih, List.length_cons]

section

variable {pid : PidController} {inputs : List Input} {ε : Rat}

theorem increments_le (hprev : pid.prevError ≤ -ε) (herror : ∀ input ∈ inputs, input.error ≤ -ε) :
    ∀ d ∈ increments pid inputs, d ≤ -(pid.pidGains.kI * pid.T * ε) := by
  induction inputs generalizing pid with
  | nil => rintro _ ⟨⟩
  | cons input inputs ih =>
      obtain ⟨hfirst, hrest⟩ := List.forall_mem_cons.mp herror
      refine List.forall_mem_cons.mpr ⟨?_, ih hfirst hrest⟩
      have hgain : 0 ≤ 0.5 * pid.pidGains.kI * pid.T :=
        mul_nonneg (mul_nonneg (by norm_num) pid.pidGains.kI_nonneg) pid.T_pos.le
      calc
        0.5 * pid.pidGains.kI * pid.T * (input.error + pid.prevError)
          ≤ 0.5 * pid.pidGains.kI * pid.T * (-ε + -ε) :=
            mul_le_mul_of_nonneg_left (add_le_add hfirst hprev) hgain
        _ = -(pid.pidGains.kI * pid.T * ε) := by ring

theorem le_increments (hprev : ε ≤ pid.prevError) (herror : ∀ input ∈ inputs, ε ≤ input.error) :
    ∀ d ∈ increments pid inputs, pid.pidGains.kI * pid.T * ε ≤ d := by
  induction inputs generalizing pid with
  | nil => rintro _ ⟨⟩
  | cons input inputs ih =>
      obtain ⟨hfirst, hrest⟩ := List.forall_mem_cons.mp herror
      refine List.forall_mem_cons.mpr ⟨?_, ih hfirst hrest⟩
      have hgain : 0 ≤ 0.5 * pid.pidGains.kI * pid.T :=
        mul_nonneg (mul_nonneg (by norm_num) pid.pidGains.kI_nonneg) pid.T_pos.le
      calc
        pid.pidGains.kI * pid.T * ε = 0.5 * pid.pidGains.kI * pid.T * (ε + ε) := by ring
        _ ≤ 0.5 * pid.pidGains.kI * pid.T * (input.error + pid.prevError) :=
            mul_le_mul_of_nonneg_left (add_le_add hfirst hprev) hgain

/-- From within its limits the integral term is pushed across to one of them, whichever state it
started in. -/
theorem integrator_pushed {other : PidController} (hsame : SameSetup pid other)
    (hpid : pid.integratorLimits.Contains pid.integrator)
    (hother : other.integratorLimits.Contains other.integrator) (hε : 0 ≤ ε)
    (hside : (pid.prevError ≤ -ε ∧ other.prevError ≤ -ε ∧ ∀ input ∈ inputs, input.error ≤ -ε)
      ∨ ε ≤ pid.prevError ∧ ε ≤ other.prevError ∧ ∀ input ∈ inputs, ε ≤ input.error)
    (hlong : pid.integratorLimits.max - pid.integratorLimits.min
      ≤ inputs.length * (pid.pidGains.kI * pid.T * ε)) :
    (run step pid inputs).integrator = (run step other inputs).integrator := by
  have hstep : 0 ≤ pid.pidGains.kI * pid.T * ε :=
    mul_nonneg (mul_nonneg pid.pidGains.kI_nonneg pid.T_pos.le) hε
  rw [integrator_run, integrator_run]
  obtain ⟨hgains, -, hlimits, hT⟩ := hsame
  obtain ⟨hprev, hprev', herror⟩ | ⟨hprev, hprev', herror⟩ := hside
  · rw [clampedSum_eq_lo hpid.1 hpid.2 hstep (increments_le hprev herror)
        (by rwa [length_increments]),
      clampedSum_eq_lo hother.1 hother.2 (hgains ▸ hT ▸ hstep) (increments_le hprev' herror)
        (by rwa [length_increments, ← hgains, ← hT, ← hlimits]), hlimits]
  · rw [clampedSum_eq_hi hpid.1 hpid.2 hstep (le_increments hprev herror)
        (by rwa [length_increments]),
      clampedSum_eq_hi hother.1 hother.2 (hgains ▸ hT ▸ hstep) (le_increments hprev' herror)
        (by rwa [length_increments, ← hgains, ← hT, ← hlimits]), hlimits]

end

/-- Two controllers that differ in their integral terms at most, as far as the next update can tell. -/
structure Alike (pid other : PidController) : Prop extends SameSetup pid other where
  prevError : pid.prevError = other.prevError
  prevMeasurement : pid.prevMeasurement = other.prevMeasurement

theorem SameSetup.alike_step {pid other : PidController} (hsame : SameSetup pid other)
    (input : Input) : Alike (Pid.step pid input) (Pid.step other input) :=
  ⟨hsame.step input input, rfl, rfl⟩

theorem Alike.run {pid other : PidController} (halike : Alike pid other) (inputs : List Input) :
    Alike (StepMachine.run Pid.step pid inputs) (StepMachine.run Pid.step other inputs) :=
  run_related_same (Q := fun _ => True) (fun _ _ input h _ => h.toSameSetup.alike_step input) halike
    fun _ _ => trivial

theorem SameSetup.eq {pid other : PidController} (hsame : SameSetup pid other)
    (hproportional : pid.proportional = other.proportional) (hprevError : pid.prevError = other.prevError)
    (hintegrator : pid.integrator = other.integrator)
    (hprevMeasurement : pid.prevMeasurement = other.prevMeasurement)
    (hdifferentiator : pid.differentiator = other.differentiator) (hout : pid.out = other.out) :
    pid = other := by
  obtain ⟨hgains, houtput, hlimits, hT⟩ := hsame
  cases pid
  cases other
  cases hgains
  cases houtput
  cases hlimits
  cases hT
  cases hproportional
  cases hprevError
  cases hintegrator
  cases hprevMeasurement
  cases hdifferentiator
  cases hout
  rfl

/-- The integral term is all that an update can carry over a difference in. -/
theorem Alike.step_eq {pid other : PidController} (halike : Alike pid other) {input : Input}
    (hintegrator : (Pid.step pid input).integrator = (Pid.step other input).integrator) :
    Pid.step pid input = Pid.step other input := by
  have hproportional : (Pid.step pid input).proportional = (Pid.step other input).proportional := by
    rw [Pid.step, Pid.step, update_proportional, update_proportional, halike.pidGains]
  have hdifferentiator :
      (Pid.step pid input).differentiator = (Pid.step other input).differentiator := by
    rw [Pid.step, Pid.step, update_differentiator, update_differentiator, halike.pidGains,
      halike.prevMeasurement, halike.T]
  have hout : ∀ p : PidController, (Pid.step p input).out = p.outputLimits.clamp
      ((Pid.step p input).proportional + (Pid.step p input).integrator
        + (Pid.step p input).differentiator) := fun _ => rfl
  apply (halike.toSameSetup.step input input).eq hproportional rfl hintegrator rfl hdifferentiator
  rw [hout, hout, hproportional, hintegrator, hdifferentiator, halike.outputLimits]

theorem sameSetup_run (pid : PidController) (inputs : List Input) :
    SameSetup (run step pid inputs) pid := by
  induction inputs generalizing pid with
  | nil => exact ⟨rfl, rfl, rfl, rfl⟩
  | cons input inputs ih =>
      obtain ⟨hgains, houtput, hlimits, hT⟩ := ih (step pid input)
      exact ⟨hgains, houtput, hlimits, hT⟩

/-- The error stays on one side. -/
def OneSided (ε : Rat) (inputs : List Input) : Prop :=
  (∀ input ∈ inputs, input.error ≤ -ε) ∨ ∀ input ∈ inputs, ε ≤ input.error

theorem SameSetup.run_eq {pid other : PidController} (hsame : SameSetup pid other)
    {inputs : List Input} {ε : Rat} (hε : 0 ≤ ε) (hside : OneSided ε inputs)
    (htwo : 2 ≤ inputs.length)
    (hlong : pid.integratorLimits.max - pid.integratorLimits.min
      ≤ ((inputs.length : Rat) - 1) * (pid.pidGains.kI * pid.T * ε)) :
    StepMachine.run Pid.step pid inputs = StepMachine.run Pid.step other inputs := by
  cases inputs with
  | nil => exact absurd htwo (by decide)
  | cons first rest =>
      have halike := hsame.alike_step first
      have hpushed : (StepMachine.run Pid.step (Pid.step pid first) rest).integrator =
          (StepMachine.run Pid.step (Pid.step other first) rest).integrator := by
        apply integrator_pushed halike.toSameSetup (integrator_contained pid _ _)
          (integrator_contained other _ _) hε
        · obtain hside | hside := hside
          · obtain ⟨hfirst, hrest⟩ := List.forall_mem_cons.mp hside
            exact .inl ⟨hfirst, hfirst, hrest⟩
          · obtain ⟨hfirst, hrest⟩ := List.forall_mem_cons.mp hside
            exact .inr ⟨hfirst, hfirst, hrest⟩
        · rwa [List.length_cons, Nat.cast_add, Nat.cast_one, add_sub_cancel_right] at hlong
      obtain rfl | ⟨before, last, rfl⟩ := List.eq_nil_or_concat' rest
      · exact absurd htwo (Nat.lt_irrefl 1)
      · rw [run_concat, run_concat] at hpushed
        rw [run_cons, run_cons, run_concat, run_concat]
        exact (halike.run before).step_eq hpushed

/-- **The integral term forgets.** Inputs whose error stays on one side, by `ε` at least, leave a
controller in the same state whatever it has been through before, once they have pushed the integral
term across its range. However long a windup has been, the recovery takes no longer. -/
theorem history_forgotten (pid : PidController) (history other : List Input) {inputs : List Input}
    {ε : Rat} (hε : 0 ≤ ε) (hside : OneSided ε inputs) (htwo : 2 ≤ inputs.length)
    (hlong : pid.integratorLimits.max - pid.integratorLimits.min
      ≤ ((inputs.length : Rat) - 1) * (pid.pidGains.kI * pid.T * ε)) :
    run step pid (history ++ inputs) = run step pid (other ++ inputs) := by
  obtain ⟨hgains, houtput, hlimits, hT⟩ := sameSetup_run pid history
  obtain ⟨hgains', houtput', hlimits', hT'⟩ := sameSetup_run pid other
  have hsame : SameSetup (run step pid history) (run step pid other) :=
    ⟨hgains.trans hgains'.symm, houtput.trans houtput'.symm, hlimits.trans hlimits'.symm,
      hT.trans hT'.symm⟩
  rw [run_append, run_append]
  apply hsame.run_eq hε hside htwo
  rwa [hlimits, hgains, hT]

/-- An integral term that may reach 10 either way forgets in three updates with an error of 10. -/
theorem history_forgotten_example :
    let pid : PidController := { derivativeOnly with pidGains := ⟨0, 1, 0, le_rfl, zero_le_one, le_rfl⟩ }
    run step pid (List.replicate 1000 ⟨5, 0⟩ ++ List.replicate 3 ⟨0, 10⟩) =
      run step pid ([] ++ List.replicate 3 ⟨0, 10⟩) := by
  intro pid
  have hside : OneSided 10 (List.replicate 3 ⟨0, 10⟩) := by
    left
    intro input hinput
    rw [List.eq_of_mem_replicate hinput]
    norm_num [Input.error]
  apply history_forgotten pid _ _ (show (0 : Rat) ≤ 10 by norm_num) hside (by decide)
  norm_num [pid, derivativeOnly, pidControllerInit]

end RcFirmware.Pid
