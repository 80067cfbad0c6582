import RcFirmware.Proof.MotorCommand
import RcFirmware.Proof.MotorSweep

/-!
# What the bridges do between and during commands

The abstract drive that the code really implements: a command out of range is not without effect, for
the input it leaves alone is not the one it sets. Given in the direction a motor already has it
changes nothing, and given in the other one it stops the motor.

During a command the bridge passes through a state that is neither the old nor the new one. That state
has both inputs modulated when the command turns the direction from one speed to another and writes
the modulated input first.
-/

namespace RcFirmware.Motor

open StepMachine

theorem Direction.eq_or_eq_opposite (direction current : Direction) :
    direction = current ∨ direction = current.opposite := by
  cases direction <;> cases current <;> simp [opposite]

theorem Direction.opposite_ne (direction : Direction) : direction.opposite ≠ direction := by
  cases direction <;> simp [opposite]

/-- What a command makes of the motions of the two motors. -/
def Drive.take (drive : Drive) (command : Command) : Drive :=
  match command.target? with
  | some (bridge, direction) =>
      if command.InRange then Function.update drive bridge (some (direction, command.speed))
      else
        match drive bridge with
        | some (current, _) =>
            if direction = current then drive
            else Function.update drive bridge (some (current, 0))
        | none => drive
  | none => drive

/-- Each motor that has a motion shows it on its inputs. -/
def Drive.Moves (drive : Drive) (pulses : Pulses) : Prop :=
  ∀ bridge direction speed, drive bridge = some (direction, speed) →
    Encodes pulses bridge direction speed

variable {pulses : Pulses} {drive : Drive} {bridge : Bridge} {direction current : Direction}
  {speed : BitVec 32} {command : Command}

/-! ### Between commands -/

theorem Encodes.set_other (hencodes : Encodes pulses bridge current speed) {other : Bridge}
    (hother : bridge ≠ other) (pin pulse : BitVec 32) :
    Encodes (pulses.set other.dev pin pulse) bridge current speed := by
  have hdev : bridge.dev ≠ other.dev := fun hdev => hother (Bridge.dev_injective hdev)
  rw [Encodes, Pulses.set_of_dev_ne _ _ _ hdev]
  exact hencodes

theorem Encodes.set_full (hencodes : Encodes pulses bridge current speed) (direction : Direction) :
    Encodes (pulses.set bridge.dev (bridge.fullPin direction) 200) bridge current
      (if direction = current then speed else 0) := by
  obtain ⟨hmodulated, hfull⟩ := hencodes
  obtain rfl | rfl := direction.eq_or_eq_opposite current
  · rw [if_pos rfl]
    refine ⟨?_, Pulses.set_self _ _ _ _⟩
    rw [Pulses.set_of_pin_ne _ _ _ (bridge.fullPin_ne_modulatedPin direction).symm, hmodulated]
  · rw [if_neg current.opposite_ne, ← Bridge.modulatedPin_eq]
    refine ⟨Pulses.set_self _ _ _ _, ?_⟩
    rw [Pulses.set_of_pin_ne _ _ _ (bridge.fullPin_ne_modulatedPin current), hfull]

theorem encodes_of_inRange (htarget : command.target? = some (bridge, direction))
    (hrange : command.InRange) (pulses : Pulses) :
    Encodes (step pulses command) bridge direction command.speed := by
  rw [step_of_target htarget, if_pos hrange]
  refine ⟨?_, Pulses.set_self _ _ _ _⟩
  rw [Pulses.set_of_pin_ne _ _ _ (bridge.fullPin_ne_modulatedPin direction).symm, Pulses.set_self]

/-- A command for one bridge leaves the other as it was. -/
theorem Encodes.step_other (hencodes : Encodes pulses bridge current speed) {aimed : Bridge}
    (htarget : command.target? = some (aimed, direction)) (haimed : bridge ≠ aimed) :
    Encodes (step pulses command) bridge current speed := by
  rw [step_of_target htarget]
  apply Encodes.set_other _ haimed
  split_ifs
  · exact hencodes.set_other haimed _ _
  · exact hencodes

theorem Encodes.step_outOfRange (hencodes : Encodes pulses bridge current speed)
    (htarget : command.target? = some (bridge, direction)) (hrange : ¬ command.InRange) :
    Encodes (step pulses command) bridge current (if direction = current then speed else 0) := by
  rw [step_of_target htarget, if_neg hrange]
  exact hencodes.set_full direction

theorem Drive.take_other {aimed : Bridge} (htarget : command.target? = some (aimed, direction))
    (haimed : bridge ≠ aimed) : drive.take command bridge = drive bridge := by
  simp only [take, htarget]
  by_cases hrange : command.InRange
  · rw [if_pos hrange, Function.update_of_ne haimed]
  · rw [if_neg hrange]
    cases drive aimed with
    | none => rfl
    | some last =>
        by_cases hsame : direction = last.1
        · simp only [if_pos hsame]
        · simp only [if_neg hsame, Function.update_of_ne haimed]

theorem Drive.take_outOfRange (htarget : command.target? = some (bridge, direction))
    (hrange : ¬ command.InRange) :
    drive.take command bridge =
      (drive bridge).map fun last => (last.1, if direction = last.1 then last.2 else 0) := by
  simp only [take, htarget, if_neg hrange]
  cases hdrive : drive bridge with
  | none => exact hdrive
  | some last =>
      by_cases hsame : direction = last.1
      · simp [hsame, hdrive]
      · simp [hsame]

theorem Drive.Moves.take (hmoves : drive.Moves pulses) (command : Command) :
    (drive.take command).Moves (Motor.step pulses command) := by
  intro bridge motion speed hmotion
  cases htarget : command.target? with
  | none =>
      rw [step_of_no_target htarget]
      simp only [Drive.take, htarget] at hmotion
      exact hmoves bridge motion speed hmotion
  | some target =>
      obtain ⟨aimed, direction⟩ := target
      by_cases haimed : bridge = aimed
      · subst haimed
        by_cases hrange : command.InRange
        · simp only [Drive.take, htarget, if_pos hrange, Function.update_self] at hmotion
          cases hmotion
          exact encodes_of_inRange htarget hrange pulses
        · rw [Drive.take_outOfRange htarget hrange] at hmotion
          obtain ⟨last, hlast, hmotion⟩ := Option.map_eq_some_iff.mp hmotion
          cases hmotion
          exact (hmoves bridge last.1 last.2 hlast).step_outOfRange htarget hrange
      · rw [Drive.take_other htarget haimed] at hmotion
        exact (hmoves bridge motion speed hmotion).step_other htarget haimed

theorem moves_run (pulses : Pulses) (commands : List Command) :
    (run Drive.take (fun _ => none) commands).Moves (run step pulses commands) := by
  have hstart : Drive.Moves (fun _ => none) pulses := by
    rintro _ _ _ ⟨⟩
  exact run_related_same (R := fun pulses (drive : Drive) => drive.Moves pulses)
    (fun _ _ command hmoves _ => hmoves.take command) hstart fun _ _ => trivial

/-- **The drive.** After any sequence of commands whatever, from inputs in any state, each motor that
has had a valid command moves as the commands to it leave it: a valid one sets its motion, and one out
of range stops it exactly when it names the other direction. -/
theorem inputs_encode_drive (pulses : Pulses) (commands : List Command) (bridge : Bridge) :
    match run Drive.take (fun _ => none) commands bridge with
    | some (direction, speed) => Encodes (run step pulses commands) bridge direction speed
    | none => True := by
  have hmoves := moves_run pulses commands bridge
  cases hdrive : run Drive.take (fun _ => none) commands bridge with
  | none => trivial
  | some motion => exact hmoves motion.1 motion.2 hdrive

/-! ### During a command -/

theorem held_of_encodes (hencodes : Encodes pulses bridge current speed) : bridge.Held pulses :=
  ⟨current, hencodes.2⟩

theorem held_set_full (direction : Direction) :
    bridge.Held (pulses.set bridge.dev (bridge.fullPin direction) 200) :=
  ⟨direction, Pulses.set_self _ _ _ _⟩

theorem full_sub_eq_iff (speed : BitVec 32) : some (200 - speed) = (some 200 : Option (BitVec 32)) ↔ speed = 0 := by
  rw [Option.some.injEq]
  constructor
  · intro hfull
    have hspeed := congrArg (200 - ·) hfull
    simpa using hspeed
  · rintro rfl
    rfl

/-- Writing the modulated input of a direction over a motion releases the bridge when both speeds are
really modulated and the directions differ. -/
theorem not_held_set_modulated_iff (hencodes : Encodes pulses bridge current speed)
    (newSpeed : BitVec 32) :
    ¬ bridge.Held (pulses.set bridge.dev (bridge.modulatedPin direction) (200 - newSpeed))
      ↔ direction ≠ current ∧ speed ≠ 0 ∧ newSpeed ≠ 0 := by
  obtain ⟨hmodulated, hfull⟩ := hencodes
  have hnew : pulses.set bridge.dev (bridge.modulatedPin direction) (200 - newSpeed) bridge.dev
      (bridge.fullPin direction.opposite) = some (200 - newSpeed) := by
    rw [Bridge.modulatedPin_eq, Pulses.set_self]
  have hold : pulses.set bridge.dev (bridge.modulatedPin direction) (200 - newSpeed) bridge.dev
      (bridge.fullPin direction) = pulses bridge.dev (bridge.fullPin direction) :=
    Pulses.set_of_pin_ne _ _ _ (bridge.fullPin_ne_modulatedPin direction)
  have hheld : bridge.Held
      (pulses.set bridge.dev (bridge.modulatedPin direction) (200 - newSpeed))
        ↔ newSpeed = 0 ∨ pulses bridge.dev (bridge.fullPin direction) = some 200 := by
    rw [← full_sub_eq_iff, ← hnew, ← hold]
    constructor
    · rintro ⟨found, hfound⟩
      obtain rfl | rfl := found.eq_or_eq_opposite direction
      · exact .inr hfound
      · exact .inl hfound
    · rintro (hfound | hfound)
      · exact ⟨_, hfound⟩
      · exact ⟨_, hfound⟩
  rw [hheld]
  obtain rfl | rfl := direction.eq_or_eq_opposite current
  · simp [hfull]
  · rw [← Bridge.modulatedPin_eq, hmodulated, full_sub_eq_iff]
    have hne := current.opposite_ne
    tauto

theorem exists_prefix_pair_iff {α : Type*} {P : List α → Prop} {first second : α} :
    (∃ calls, calls <+: [first, second] ∧ P calls) ↔ P [] ∨ P [first] ∨ P [first, second] := by
  constructor
  · rintro ⟨calls, hprefix, hcalls⟩
    obtain rfl | ⟨rest, rfl, hrest⟩ := List.prefix_cons_iff.mp hprefix
    · exact .inl hcalls
    · obtain rfl | ⟨last, rfl, hlast⟩ := List.prefix_cons_iff.mp hrest
      · exact .inr (.inl hcalls)
      · obtain rfl := List.prefix_nil.mp hlast
        exact .inr (.inr hcalls)
  · rintro (hcalls | hcalls | hcalls)
    · exact ⟨_, List.nil_prefix, hcalls⟩
    · exact ⟨_, ⟨[second], rfl⟩, hcalls⟩
    · exact ⟨_, List.prefix_rfl, hcalls⟩

theorem held_step (htarget : command.target? = some (bridge, direction)) (pulses : Pulses) :
    bridge.Held (step pulses command) := by
  rw [step_of_target htarget]
  exact held_set_full direction

theorem not_held_modulated_iff (hencodes : Encodes pulses bridge current speed) :
    ¬ bridge.Held (pwmPinSetCycles pulses
        ⟨bridge.dev, bridge.modulatedPin direction, 200, 200 - command.speed, 0⟩)
      ↔ direction ≠ current ∧ speed ≠ 0 ∧ command.speed ≠ 0 ∧ command.InRange := by
  have hcall : pwmPinSetCycles pulses
      ⟨bridge.dev, bridge.modulatedPin direction, 200, 200 - command.speed, 0⟩ =
        if command.InRange then
          pulses.set bridge.dev (bridge.modulatedPin direction) (200 - command.speed)
        else pulses := if_congr (pulse_le_period_iff command) rfl rfl
  rw [hcall]
  by_cases hrange : command.InRange
  · rw [if_pos hrange, not_held_set_modulated_iff hencodes]
    tauto
  · rw [if_neg hrange]
    exact iff_of_false (not_not_intro (held_of_encodes hencodes)) fun h => hrange h.2.2.2

/-- Within a command, the bridge is released between its two calls or not at all. -/
theorem released_iff (hencodes : Encodes pulses bridge current speed)
    (htarget : command.target? = some (bridge, direction)) :
    (∃ calls, calls <+: command.calls ∧ ¬ bridge.Held (run pwmPinSetCycles pulses calls))
      ↔ bridge.modulatedFirst direction = true ∧ direction ≠ current ∧ speed ≠ 0
        ∧ command.speed ≠ 0 ∧ command.InRange := by
  obtain ⟨hmotor, hdir⟩ := target?_eq_some_iff.mp htarget
  have hcalls : command.calls = (motorSetSpeed bridge.id direction.id command.speed).2 := by
    rw [Command.calls, hmotor, hdir]
  have hbefore : bridge.Held (run pwmPinSetCycles pulses []) := held_of_encodes hencodes
  have hafter : bridge.Held (run pwmPinSetCycles pulses command.calls) := held_step htarget pulses
  rw [motorSetSpeed_of_target] at hcalls
  cases hfirst : bridge.modulatedFirst direction with
  | true =>
      rw [hfirst, if_pos rfl] at hcalls
      rw [hcalls] at hafter ⊢
      rw [exists_prefix_pair_iff, or_iff_right (not_not_intro hbefore),
        or_iff_left (not_not_intro hafter), run_cons, run_nil, not_held_modulated_iff hencodes]
      exact (and_iff_right rfl).symm
  | false =>
      rw [hfirst, if_neg Bool.false_ne_true] at hcalls
      rw [hcalls] at hafter ⊢
      have hfull : bridge.Held (run pwmPinSetCycles pulses
          [⟨bridge.dev, bridge.fullPin direction, 200, 200, 0⟩]) := by
        rw [run_cons, run_nil, pwmPinSetCycles, if_pos (BitVec.le_refl _)]
        exact held_set_full direction
      rw [exists_prefix_pair_iff, or_iff_right (not_not_intro hbefore),
        or_iff_left (not_not_intro hafter)]
      exact iff_of_false (not_not_intro hfull) fun h => Bool.false_ne_true h.1

/-- **Both inputs modulated.** After any commands whatever, the next command to a moving motor has
both inputs of its bridge modulated at some point exactly when it turns a motor that is not stopped,
with a speed in range that does not stop it, in a direction whose modulated input is written first:
the left motor forward or the right one in reverse. -/
theorem released_in_run_iff (start : Pulses) (commands : List Command)
    (hmoving : run Drive.take (fun _ => none) commands bridge = some (current, speed))
    (htarget : command.target? = some (bridge, direction)) :
    (∃ calls, calls <+: command.calls
        ∧ ¬ bridge.Held (run pwmPinSetCycles (run step start commands) calls))
      ↔ (bridge = .left ∧ direction = .forward ∨ bridge = .right ∧ direction = .reverse)
        ∧ direction ≠ current ∧ speed ≠ 0 ∧ command.speed ≠ 0 ∧ command.InRange := by
  have hfirst : bridge.modulatedFirst direction = true
      ↔ bridge = .left ∧ direction = .forward ∨ bridge = .right ∧ direction = .reverse := by
    cases bridge <;> cases direction <;> simp [Bridge.modulatedFirst]
  rw [released_iff (moves_run start commands bridge current speed hmoving) htarget, hfirst]

/-- The left motor goes in reverse at 100 and is told to go forward at 50. -/
theorem released_in_run_example :
    ∃ calls, calls <+: (Command.mk motorLeft dirForward 50).calls
      ∧ ¬ Bridge.left.Held (run pwmPinSetCycles
        (run step (fun _ _ => none) [⟨motorLeft, dirReverse, 100⟩]) calls) :=
  (released_in_run_iff (fun _ _ => none) [⟨motorLeft, dirReverse, 100⟩]
    (show run Drive.take (fun _ => none) _ .left = some (.reverse, 100) by decide)
    (show Command.target? _ = some (.left, .forward) by decide)).mpr (by decide)

end RcFirmware.Motor
