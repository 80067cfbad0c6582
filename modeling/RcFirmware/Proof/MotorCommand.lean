import RcFirmware.Motor

/-!
# What a sequence of commands leaves on the bridges

The purpose of the module is a drive that holds, for each motor, the last valid command given to it.
A valid command does what it says whatever came before. A command out of range is refused by the
controller on the input it modulates and accepted on the other, so it is without effect exactly when
that other input already is at the full pulse.
-/

namespace RcFirmware.Motor

open StepMachine

def Encodes (pulses : Pulses) (bridge : Bridge) (direction : Direction) (speed : BitVec 32) : Prop :=
  pulses bridge.dev (bridge.modulatedPin direction) = some (200 - speed)
    ∧ pulses bridge.dev (bridge.fullPin direction) = some 200

def SameInputs (bridge : Bridge) (pulses next : Pulses) : Prop :=
  ∀ direction,
    next bridge.dev (bridge.fullPin direction) = pulses bridge.dev (bridge.fullPin direction)

/-- The law of one command: a valid one is encoded on its bridge and touches no other, and any other
one touches nothing. -/
def Obeys (pulses : Pulses) (command : Command) : Prop :=
  match command.target? with
  | some (bridge, direction) =>
      if command.InRange then
        Encodes (step pulses command) bridge direction command.speed
          ∧ ∀ other, other ≠ bridge → SameInputs other pulses (step pulses command)
      else ∀ other, SameInputs other pulses (step pulses command)
  | none => ∀ other, SameInputs other pulses (step pulses command)

/-- A command out of range finds the input it would set to the full pulse already there. -/
def FullInputHeld (pulses : Pulses) (command : Command) : Prop :=
  ∀ bridge direction, command.target? = some (bridge, direction) → ¬ command.InRange →
    pulses bridge.dev (bridge.fullPin direction) = some 200

/-! ### The abstract drive -/

abbrev Drive := Bridge → Option (Direction × BitVec 32)

def Drive.step (drive : Drive) (command : Command) : Drive :=
  match command.target? with
  | some (bridge, direction) =>
      if command.InRange then Function.update drive bridge (some (direction, command.speed))
      else drive
  | none => drive

/-- The bridges show the drive: its command on a motor that has one, and what was there at the start
on a motor that has none. -/
def Drive.Shown (start : Pulses) (drive : Drive) (pulses : Pulses) : Prop :=
  ∀ bridge,
    match drive bridge with
    | some (direction, speed) => Encodes pulses bridge direction speed
    | none => SameInputs bridge start pulses

/-! ### One command -/

theorem obeys_iff_fullInputHeld (pulses : Pulses) (command : Command) :
    Obeys pulses command ↔ FullInputHeld pulses command := by
  cases htarget : command.target? with
  | none =>
      simp only [Obeys, FullInputHeld, htarget, step_of_no_target htarget]
      simp [SameInputs]
  | some target =>
      obtain ⟨bridge, direction⟩ := target
      have hpins := bridge.fullPin_ne_modulatedPin direction
      by_cases hrange : command.InRange
      · simp only [Obeys, FullInputHeld, htarget, hrange, step_of_target htarget, if_true,
          not_true_eq_false, false_implies, implies_true, iff_true]
        refine ⟨⟨?_, Pulses.set_self _ _ _ _⟩, fun other hother direction' => ?_⟩
        · rw [Pulses.set_of_pin_ne _ _ _ hpins.symm, Pulses.set_self]
        · have hdev : other.dev ≠ bridge.dev := fun h => hother (Bridge.dev_injective h)
          rw [Pulses.set_of_dev_ne _ _ _ hdev, Pulses.set_of_dev_ne _ _ _ hdev]
      · simp only [Obeys, FullInputHeld, htarget, hrange, step_of_target htarget, if_false]
        constructor
        · rintro hsame _ _ heq -
          cases heq
          rw [← hsame bridge direction, Pulses.set_self]
        · intro hheld other direction'
          have hfull := hheld bridge direction rfl not_false
          by_cases hdev : other.dev = bridge.dev
          · obtain rfl := Bridge.dev_injective hdev
            by_cases hpin : other.fullPin direction' = other.fullPin direction
            · rw [hpin, Pulses.set_self, hfull]
            · rw [Pulses.set_of_pin_ne _ _ _ hpin]
          · rw [Pulses.set_of_dev_ne _ _ _ hdev]

theorem Encodes.of_sameInputs {pulses next : Pulses} {bridge : Bridge} {direction : Direction}
    {speed : BitVec 32} (hencodes : Encodes pulses bridge direction speed)
    (hsame : SameInputs bridge pulses next) : Encodes next bridge direction speed := by
  have hforward := hsame .forward
  have hreverse := hsame .reverse
  unfold Encodes at hencodes ⊢
  cases bridge <;> cases direction <;> simp_all [Bridge.fullPin, Bridge.modulatedPin]

/-- A bridge whose inputs stay as they are goes on showing what it did. -/
theorem Drive.Shown.of_sameInputs {start pulses next : Pulses} {drive : Drive} {bridge : Bridge}
    (hshown : drive.Shown start pulses) (hsame : SameInputs bridge pulses next) :
    match drive bridge with
    | some (direction, speed) => Encodes next bridge direction speed
    | none => SameInputs bridge start next := by
  have hbridge := hshown bridge
  cases hdrive : drive bridge with
  | none =>
      rw [hdrive] at hbridge
      exact fun direction => (hsame direction).trans (hbridge direction)
  | some last =>
      rw [hdrive] at hbridge
      exact hbridge.of_sameInputs hsame

theorem Drive.step_shown {start pulses : Pulses} {drive : Drive} {command : Command}
    (hshown : drive.Shown start pulses) (hobeys : Obeys pulses command) :
    (drive.step command).Shown start (Motor.step pulses command) := by
  intro bridge
  cases htarget : command.target? with
  | none =>
      simp only [Obeys, htarget] at hobeys
      simpa only [step, htarget] using hshown.of_sameInputs (hobeys bridge)
  | some target =>
      obtain ⟨aimed, direction⟩ := target
      by_cases hrange : command.InRange
      · simp only [Obeys, htarget, if_pos hrange] at hobeys
        simp only [step, htarget, if_pos hrange]
        by_cases haimed : bridge = aimed
        · subst haimed
          simpa only [Function.update_self] using hobeys.1
        · rw [Function.update_of_ne haimed]
          exact hshown.of_sameInputs (hobeys.2 bridge haimed)
      · simp only [Obeys, htarget, if_neg hrange] at hobeys
        simpa only [step, htarget, if_neg hrange] using hshown.of_sameInputs (hobeys bridge)

/-! ### Whole sequences -/

theorem run_shown {pulses : Pulses} {commands : List Command}
    (hobeys : Along step Obeys pulses commands) :
    (run Drive.step (fun _ => none) commands).Shown pulses (run step pulses commands) := by
  have hstart : Drive.Shown pulses (fun _ => none) pulses := fun _ _ => rfl
  have hfree : Along Drive.step (fun _ _ => True) (fun _ => none) (commands.map id) :=
    along_event_iff.mpr fun _ _ => trivial
  have hrelated := run_related (R := fun pulses' (drive : Drive) => drive.Shown pulses pulses')
    (fun _ _ _ hshown hobeys _ => Drive.step_shown hshown hobeys) hstart hobeys hfree
  simpa using hrelated

/-- **The command law.** Every command of a sequence obeys the law, and each motor ends up showing
its last valid command, exactly when each command out of range finds its full input at the full
pulse. -/
theorem commandLaw_iff_fullInputHeld (pulses : Pulses) (commands : List Command) :
    (Along step Obeys pulses commands
      ∧ (run Drive.step (fun _ => none) commands).Shown pulses (run step pulses commands))
      ↔ Along step FullInputHeld pulses commands := by
  rw [← along_congr obeys_iff_fullInputHeld]
  exact ⟨And.left, fun hobeys => ⟨hobeys, run_shown hobeys⟩⟩

/-- A motor in reverse at half speed is told to go forward at 201: the command is out of range and
still stops the motor. -/
theorem tooFast_disobeys :
    ¬ Along step Obeys (fun _ _ => none)
      [⟨motorLeft, dirReverse, 100⟩, ⟨motorLeft, dirForward, 201⟩] := by
  rw [along_congr obeys_iff_fullInputHeld]
  rintro ⟨-, hheld, -⟩
  exact absurd (hheld .left .forward (by decide) (by decide)) (by decide)

end RcFirmware.Motor
