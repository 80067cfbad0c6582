import RcFirmware.MainLoop

/-!
# The sweep of the motors

`motor_set_speed` checks no range, and in two of its four branches it drives the modulated input
before it restores the other one. In the main loop neither shows. The level wraps at 200, so every
pulse fits the period, and the direction turns only when the level is back at 0, where the modulated
pulse is the full one. The bound is on the calls one by one: each finds an input of its bridge at the
full pulse, or sets one.
-/

namespace RcFirmware.Motor

open StepMachine

/-- One of the two inputs of the bridge has the full pulse. -/
def Bridge.Held (bridge : Bridge) (pulses : Pulses) : Prop :=
  ∃ direction, pulses bridge.dev (bridge.fullPin direction) = some 200

/-- The call is accepted, and after it an input is at the full pulse in its own bridge and in every
bridge that had one. -/
def CallSafe (pulses : Pulses) (call : PwmCall) : Prop :=
  call.pulse ≤ call.period ∧
    ∀ bridge : Bridge, bridge.Held pulses ∨ call.dev = bridge.dev →
      bridge.Held (pwmPinSetCycles pulses call)

def Command.calls (command : Command) : List PwmCall :=
  (motorSetSpeed command.motor command.dir command.speed).2

def Direction.opposite : Direction → Direction
  | .forward => .reverse
  | .reverse => .forward

theorem Bridge.modulatedPin_eq (bridge : Bridge) (direction : Direction) :
    bridge.modulatedPin direction = bridge.fullPin direction.opposite := by
  cases bridge <;> cases direction <;> rfl

theorem period_eq_of_mem {command : Command} {call : PwmCall} (hcall : call ∈ command.calls) :
    call.period = 200 := by
  unfold Command.calls motorSetSpeed at hcall
  split_ifs at hcall <;> simp only [List.mem_cons, List.not_mem_nil, or_false] at hcall <;>
    obtain rfl | rfl := hcall <;> rfl

/-- A command that names a bridge and a direction writes both inputs of the bridge. -/
theorem exists_call_of_target {command : Command} {bridge : Bridge} {direction : Direction}
    (htarget : command.target? = some (bridge, direction)) (input : Direction) :
    ∃ call ∈ command.calls, call.dev = bridge.dev ∧ call.pin = bridge.fullPin input := by
  obtain ⟨hmotor, hdir⟩ := target?_eq_some_iff.mp htarget
  have hfull : ⟨bridge.dev, bridge.fullPin direction, 200, 200, 0⟩ ∈ command.calls := by
    rw [Command.calls, hmotor, hdir, motorSetSpeed_of_target]
    cases bridge.modulatedFirst direction <;> simp
  have hmodulated :
      ⟨bridge.dev, bridge.modulatedPin direction, 200, 200 - command.speed, 0⟩ ∈ command.calls := by
    rw [Command.calls, hmotor, hdir, motorSetSpeed_of_target]
    cases bridge.modulatedFirst direction <;> simp
  rw [Bridge.modulatedPin_eq] at hmodulated
  by_cases hinput : input = direction
  · subst hinput
    exact ⟨_, hfull, rfl, rfl⟩
  · obtain rfl : input = direction.opposite := by
      cases input <;> cases direction <;> first | rfl | exact absurd rfl hinput
    exact ⟨_, hmodulated, rfl, rfl⟩

section Calls

variable {pulses : Pulses} {bridge : Bridge} {direction : Direction} {speed : BitVec 32}

theorem callSafe_of_held {pin pulse : BitVec 32} (haccepted : pulse ≤ 200)
    (hheld : bridge.Held (pulses.set bridge.dev pin pulse)) :
    CallSafe pulses ⟨bridge.dev, pin, 200, pulse, 0⟩ := by
  refine ⟨haccepted, fun other hother => ?_⟩
  rw [pwmPinSetCycles, if_pos haccepted]
  by_cases hbridge : other = bridge
  · rw [hbridge]
    exact hheld
  · have hdev : other.dev ≠ bridge.dev := fun hdev => hbridge (Bridge.dev_injective hdev)
    obtain ⟨direction, hfull⟩ := hother.resolve_right fun hdev' => hdev hdev'.symm
    refine ⟨direction, ?_⟩
    rw [Pulses.set_of_dev_ne _ _ _ hdev]
    exact hfull

theorem callSafe_full :
    CallSafe pulses ⟨bridge.dev, bridge.fullPin direction, 200, 200, 0⟩ :=
  callSafe_of_held (BitVec.le_refl _) ⟨direction, Pulses.set_self _ _ _ _⟩

/-- At level 0 the modulated input takes the full pulse itself, and at any other level the input its
direction does not modulate has to have it. -/
theorem callSafe_modulated (haccepted : 200 - speed ≤ 200)
    (hready : speed = 0 ∨ pulses bridge.dev (bridge.fullPin direction) = some 200) :
    CallSafe pulses ⟨bridge.dev, bridge.modulatedPin direction, 200, 200 - speed, 0⟩ := by
  refine callSafe_of_held haccepted ?_
  obtain rfl | hfull := hready
  · refine ⟨direction.opposite, ?_⟩
    rw [Bridge.modulatedPin_eq, Pulses.set_self]
    rfl
  · refine ⟨direction, ?_⟩
    rw [Pulses.set_of_pin_ne _ _ _ (bridge.fullPin_ne_modulatedPin direction)]
    exact hfull

theorem along_motorSetSpeed (haccepted : 200 - speed ≤ 200)
    (hready : speed = 0 ∨ pulses bridge.dev (bridge.fullPin direction) = some 200) :
    Along pwmPinSetCycles CallSafe pulses (motorSetSpeed bridge.id direction.id speed).2 := by
  rw [motorSetSpeed_of_target]
  cases hfirst : bridge.modulatedFirst direction with
  | true => exact ⟨callSafe_modulated haccepted hready, callSafe_full, trivial⟩
  | false =>
      refine ⟨callSafe_full, callSafe_modulated haccepted (.inr ?_), trivial⟩
      rw [pwmPinSetCycles, if_pos (BitVec.le_refl _)]
      exact Pulses.set_self _ _ _ _

/-- A bridge keeps an input at the full pulse once it had one or was written. -/
theorem held_run {calls : List PwmCall} (hsafe : Along pwmPinSetCycles CallSafe pulses calls)
    (hheld : bridge.Held pulses ∨ ∃ call ∈ calls, call.dev = bridge.dev) :
    bridge.Held (run pwmPinSetCycles pulses calls) := by
  induction calls generalizing pulses with
  | nil => simpa using hheld
  | cons call calls ih =>
      obtain ⟨⟨-, hcall⟩, hcalls⟩ := hsafe
      refine ih hcalls ?_
      obtain hheld | ⟨written, hwritten, hdev⟩ := hheld
      · exact .inl (hcall bridge (.inl hheld))
      obtain rfl | hlater := List.mem_cons.mp hwritten
      · exact .inl (hcall bridge (.inr hdev))
      · exact .inr ⟨written, hlater, hdev⟩

end Calls

end RcFirmware.Motor

namespace RcFirmware.MainLoop

open Motor StepMachine

/-! ### The turns in closed form -/

def turnLevel (turn : Nat) : BitVec 32 := BitVec.ofNat 32 (10 * (turn % 21))

def turnDirection (turn : Nat) : Direction := if turn / 21 % 2 = 0 then .reverse else .forward

def turnLocals (turn : Nat) : Locals := ⟨turnLevel turn, BitVec.ofNat 32 (turn / 21 % 2)⟩

def turnCommands (turn : Nat) : List Command :=
  [⟨motorLeft, (turnDirection turn).id, turnLevel turn⟩,
    ⟨motorRight, (turnDirection turn).id, turnLevel turn⟩]

theorem turnLevel_toNat (turn : Nat) : (turnLevel turn).toNat = 10 * (turn % 21) := by
  rw [turnLevel, BitVec.toNat_ofNat]
  omega

theorem turnLevel_accepted (turn : Nat) : 200 - turnLevel turn ≤ (200 : BitVec 32) := by
  have hlevel : (turnLevel turn).toNat ≤ 200 := by
    rw [turnLevel_toNat]
    omega
  rw [BitVec.le_def, BitVec.toNat_sub, show (200 : BitVec 32).toNat = 200 from rfl]
  omega

theorem sle_turnLevel_iff (turn : Nat) :
    BitVec.sle 201 (turnLevel turn + 10) = true ↔ turn % 21 = 20 := by
  have hlevel := turnLevel_toNat turn
  have hnext : (turnLevel turn + 10).toNat = 10 * (turn % 21) + 10 := by
    rw [BitVec.toNat_add, hlevel, show (10 : BitVec 32).toNat = 10 from rfl]
    omega
  rw [BitVec.sle_iff_toInt_le, BitVec.toInt_eq_toNat_cond (turnLevel turn + 10), hnext,
    show (201 : BitVec 32).toInt = 201 from rfl]
  split_ifs <;> omega

theorem turnLevel_succ_of_last {turn : Nat} (hlast : turn % 21 = 20) : turnLevel (turn + 1) = 0 := by
  rw [turnLevel, show (turn + 1) % 21 = 0 by omega]
  rfl

theorem turnLevel_succ_of_not_last {turn : Nat} (hlast : turn % 21 ≠ 20) :
    turnLevel (turn + 1) = turnLevel turn + 10 := by
  rw [turnLevel, turnLevel, show (turn + 1) % 21 = turn % 21 + 1 by omega, Nat.mul_add,
    BitVec.ofNat_add]
  rfl

theorem turnDirection_succ_of_not_last {turn : Nat} (hlast : turn % 21 ≠ 20) :
    turnDirection (turn + 1) = turnDirection turn := by
  rw [turnDirection, turnDirection, show (turn + 1) / 21 = turn / 21 by omega]

theorem next_turnLocals (turn : Nat) : (turnLocals turn).next = turnLocals (turn + 1) := by
  unfold Locals.next turnLocals
  by_cases hlast : turn % 21 = 20
  · rw [if_pos ((sle_turnLevel_iff turn).mpr hlast), turnLevel_succ_of_last hlast,
      show (turn + 1) / 21 = turn / 21 + 1 by omega]
    obtain heven | hodd := Nat.mod_two_eq_zero_or_one (turn / 21)
    · rw [heven, show (turn / 21 + 1) % 2 = 1 by omega]
      rfl
    · rw [hodd, show (turn / 21 + 1) % 2 = 0 by omega]
      rfl
  · rw [if_neg (mt (sle_turnLevel_iff turn).mp hlast), turnLevel_succ_of_not_last hlast,
      show (turn + 1) / 21 = turn / 21 by omega]

theorem commands_turnLocals (turn : Nat) : (turnLocals turn).commands = turnCommands turn := by
  unfold Locals.commands turnLocals turnCommands turnDirection
  obtain heven | hodd := Nat.mod_two_eq_zero_or_one (turn / 21)
  · rw [heven]
    rfl
  · rw [hodd]
    rfl

theorem loop_turnLocals (turns first : Nat) :
    loop turns (turnLocals first) = (List.range' first turns).map turnCommands := by
  induction turns generalizing first with
  | zero => rfl
  | succ turns ih =>
      rw [loop, commands_turnLocals, next_turnLocals, ih, List.range'_succ, List.map_cons]

theorem loop_start (turns : Nat) :
    loop turns .start = (List.range' 0 turns).map turnCommands :=
  loop_turnLocals turns 0

theorem getElem?_loop {turns turn : Nat} (hturn : turn < turns) :
    (loop turns .start)[turn]? = some (turnCommands turn) := by
  rw [loop_start, List.getElem?_map, List.getElem?_range' hturn]
  simp

theorem eq_turnCommands {turns turn : Nat} {commands : List Command}
    (hcommands : (loop turns .start)[turn]? = some commands) : commands = turnCommands turn := by
  have hturn : turn < turns := by
    have hlt := (List.getElem?_eq_some_iff.mp hcommands).1
    rwa [loop_start, List.length_map, List.length_range'] at hlt
  exact Option.some.inj (hcommands.symm.trans (getElem?_loop hturn))

theorem dir_and_speed_of_mem {turn : Nat} {command : Command}
    (hcommand : command ∈ turnCommands turn) :
    command.dir = (turnDirection turn).id ∧ command.speed = turnLevel turn := by
  obtain rfl | hcommand := List.mem_cons.mp hcommand
  · exact ⟨rfl, rfl⟩
  · rw [List.mem_singleton.mp hcommand]
    exact ⟨rfl, rfl⟩

theorem target?_of_mem {turn : Nat} {command : Command} (hcommand : command ∈ turnCommands turn)
    {bridge : Bridge} (hmotor : command.motor = bridge.id) :
    command.target? = some (bridge, turnDirection turn) :=
  target?_eq_some_iff.mpr ⟨hmotor, (dir_and_speed_of_mem hcommand).1⟩

theorem exists_mem_turnCommands (turn : Nat) (bridge : Bridge) :
    ∃ command ∈ turnCommands turn, command.motor = bridge.id := by
  cases bridge with
  | left => exact ⟨_, List.mem_cons_self, rfl⟩
  | right => exact ⟨_, List.mem_cons_of_mem _ List.mem_cons_self, rfl⟩

/-! ### One turn -/

/-- What a turn needs of the inputs before it: it commands level 0, or each bridge has the full pulse
where the direction of the turn does not modulate. -/
def Ready (turn : Nat) (pulses : Pulses) : Prop :=
  turnLevel turn = 0 ∨
    ∀ bridge : Bridge, pulses bridge.dev (bridge.fullPin (turnDirection turn)) = some 200

def turnCalls (turn : Nat) : List PwmCall := (turnCommands turn).flatMap Command.calls

section Turn

variable {pulses : Pulses}

theorem fullPin_step (bridge : Bridge) (direction : Direction) (speed : BitVec 32) :
    step pulses ⟨bridge.id, direction.id, speed⟩ bridge.dev (bridge.fullPin direction) =
      some 200 := by
  rw [step_of_target (target?_eq_some_iff.mpr ⟨rfl, rfl⟩), Pulses.set_self]

theorem step_other {bridge other : Bridge} (hother : other ≠ bridge) (direction : Direction)
    (speed : BitVec 32) :
    step pulses ⟨bridge.id, direction.id, speed⟩ other.dev = pulses other.dev := by
  have hdev : other.dev ≠ bridge.dev := fun hdev => hother (Bridge.dev_injective hdev)
  rw [step_of_target (target?_eq_some_iff.mpr ⟨rfl, rfl⟩), Pulses.set_of_dev_ne _ _ _ hdev]
  split_ifs
  · exact Pulses.set_of_dev_ne _ _ _ hdev
  · rfl

theorem run_turnCalls (turn : Nat) (bridge : Bridge) :
    run pwmPinSetCycles pulses (turnCalls turn) bridge.dev (bridge.fullPin (turnDirection turn)) =
      some 200 := by
  have hrun : run pwmPinSetCycles pulses (turnCalls turn) =
      step (step pulses ⟨Bridge.left.id, (turnDirection turn).id, turnLevel turn⟩)
        ⟨Bridge.right.id, (turnDirection turn).id, turnLevel turn⟩ := by
    rw [run, turnCalls, List.foldl_flatMap]
    rfl
  rw [hrun]
  cases bridge with
  | left =>
      rw [step_other (by decide)]
      exact fullPin_step .left _ _
  | right => exact fullPin_step .right _ _

theorem along_turnCalls {turn : Nat} (hready : Ready turn pulses) :
    Along pwmPinSetCycles CallSafe pulses (turnCalls turn) := by
  have haccepted := turnLevel_accepted turn
  have hleft : Along pwmPinSetCycles CallSafe pulses
      (motorSetSpeed Bridge.left.id (turnDirection turn).id (turnLevel turn)).2 :=
    along_motorSetSpeed haccepted (hready.imp_right fun hfull => hfull .left)
  have hright : Along pwmPinSetCycles CallSafe
      (step pulses ⟨Bridge.left.id, (turnDirection turn).id, turnLevel turn⟩)
      (motorSetSpeed Bridge.right.id (turnDirection turn).id (turnLevel turn)).2 := by
    refine along_motorSetSpeed haccepted (hready.imp_right fun hfull => ?_)
    rw [step_other (by decide)]
    exact hfull .right
  rw [turnCalls, turnCommands, List.flatMap_cons, List.flatMap_singleton, along_append]
  exact ⟨hleft, hright⟩

theorem ready_next {turn : Nat} : Ready (turn + 1) (run pwmPinSetCycles pulses (turnCalls turn)) := by
  by_cases hlast : turn % 21 = 20
  · exact .inl (turnLevel_succ_of_last hlast)
  · refine .inr fun bridge => ?_
    rw [turnDirection_succ_of_not_last hlast]
    exact run_turnCalls turn bridge

/-! ### Every turn -/

theorem calls_loop (turns : Nat) :
    (loop turns .start).flatten.flatMap Command.calls =
      (List.range' 0 turns).flatMap turnCalls := by
  calc
    (loop turns .start).flatten.flatMap Command.calls
      = ((List.range' 0 turns).map turnCommands).flatten.flatMap Command.calls := by
        rw [loop_start]
    _ = ((List.range' 0 turns).flatMap turnCommands).flatMap Command.calls := by
        rw [← List.flatMap_def]
    _ = (List.range' 0 turns).flatMap turnCalls := List.flatMap_assoc

theorem along_turns (turns : Nat) {first : Nat} (hready : Ready first pulses) :
    Along pwmPinSetCycles CallSafe pulses ((List.range' first turns).flatMap turnCalls) := by
  induction turns generalizing first pulses with
  | zero => trivial
  | succ turns ih =>
      rw [List.range'_succ, List.flatMap_cons, along_append]
      exact ⟨along_turnCalls hready, ih ready_next⟩

end Turn

/-- What the first `turns` turns of the loop do, with the inputs at `pulses` before them. -/
structure Sweeps (turns : Nat) (pulses : Pulses) : Prop where
  commands : ∀ turn < turns, (loop turns .start)[turn]? =
    some [⟨motorLeft, (turnDirection turn).id, BitVec.ofNat 32 (10 * (turn % 21))⟩,
      ⟨motorRight, (turnDirection turn).id, BitVec.ofNat 32 (10 * (turn % 21))⟩]
  turnsAtZero : ∀ turn commands commands', (loop turns .start)[turn]? = some commands →
    (loop turns .start)[turn + 1]? = some commands' →
      ∀ command ∈ commands, ∀ command' ∈ commands', command.dir ≠ command'.dir →
        command'.speed = 0
  written : ∀ (turn : Nat) (commands : List Command), (loop turns .start)[turn]? = some commands →
    ∀ (bridge : Bridge) (input : Direction), ∃ call ∈ commands.flatMap Command.calls,
      call.dev = bridge.dev ∧ call.pin = bridge.fullPin input
  accepted : ∀ call ∈ (loop turns .start).flatten.flatMap Command.calls,
    call.pulse ≤ call.period ∧ call.period = 200
  held : ∀ calls, calls <+: (loop turns .start).flatten.flatMap Command.calls →
    ∀ bridge : Bridge, (∃ call ∈ calls, call.dev = bridge.dev) →
      bridge.Held (run pwmPinSetCycles pulses calls)

/-- **The sweep.** Whatever the inputs are before the loop, and for any number of turns: turn `n`
commands both motors with level `10 * (n % 21)`, in a direction given by the parity of `n / 21`, and
writes both inputs of both bridges; the direction turns only at level 0; no PWM call is refused; and at
every point between two calls, each bridge already written has one of its inputs at the full pulse. -/
theorem loop_sweeps (turns : Nat) (pulses : Pulses) : Sweeps turns pulses := by
  have hsafe : Along pwmPinSetCycles CallSafe pulses
      ((loop turns .start).flatten.flatMap Command.calls) := by
    rw [calls_loop]
    exact along_turns turns (.inl rfl)
  exact {
    commands := fun turn hturn => getElem?_loop hturn
    turnsAtZero := by
      intro turn commands commands' hturn hturn' command hcommand command' hcommand' hdir
      rw [eq_turnCommands hturn] at hcommand
      rw [eq_turnCommands hturn'] at hcommand'
      obtain ⟨hdirection, -⟩ := dir_and_speed_of_mem hcommand
      obtain ⟨hdirection', hspeed⟩ := dir_and_speed_of_mem hcommand'
      rw [hspeed]
      refine turnLevel_succ_of_last (by_contra fun hlast => hdir ?_)
      rw [hdirection, hdirection', turnDirection_succ_of_not_last hlast]
    written := by
      intro turn commands hturn bridge input
      rw [eq_turnCommands hturn]
      obtain ⟨command, hcommand, hmotor⟩ := exists_mem_turnCommands turn bridge
      obtain ⟨call, hcall, hinput⟩ := exists_call_of_target (target?_of_mem hcommand hmotor) input
      exact ⟨call, List.mem_flatMap.mpr ⟨command, hcommand, hcall⟩, hinput⟩
    accepted := by
      intro call hcall
      have haccepted := along_event_iff.mp (hsafe.mono fun _ _ hcall => hcall.1) call hcall
      obtain ⟨command, -, hissued⟩ := List.mem_flatMap.mp hcall
      exact ⟨haccepted, period_eq_of_mem hissued⟩
    held := by
      rintro calls ⟨rest, hcalls⟩ bridge hwritten
      rw [← hcalls, along_append] at hsafe
      exact held_run hsafe.1 (.inr hwritten) }

end RcFirmware.MainLoop
