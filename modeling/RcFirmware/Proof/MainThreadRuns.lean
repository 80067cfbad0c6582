import RcFirmware.MainThread
import RcFirmware.Proof.MotorSweep

/-!
# What the main thread does in a run

Whatever the calls of `main` answer, they follow one script: `usb_enable`, some polls a second apart,
the five initialisations, and then turns. The answers decide two things only. The script stops after
its first call if that fails, and its polls end with the first one that reports DTR. In particular
nothing is started, and no motor is driven, before a terminal is there; and once one is, no answer
holds `main` up again.
-/

namespace RcFirmware.MainThread

open StepMachine MainLoop

/-! ### The script -/

def waits (polls : Nat) : List Call :=
  (List.replicate polls [.uartLineCtrlGet, .kSleep 1000]).flatten

def loopCalls : Nat → Locals → List Call
  | 0, _ => []
  | turns + 1, locals => turn locals ++ loopCalls turns locals.next

def script (polls turns : Nat) : List Call :=
  .usbEnable :: waits polls ++ startup ++ loopCalls turns .start

theorem waits_succ (polls : Nat) :
    waits (polls + 1) = waits polls ++ [.uartLineCtrlGet, .kSleep 1000] := by
  rw [waits, List.replicate_succ', List.flatten_append, List.flatten_singleton, waits]

theorem loopCalls_succ (turns : Nat) (locals : Locals) :
    loopCalls (turns + 1) locals = loopCalls turns locals ++ turn (Locals.next^[turns] locals) := by
  induction turns generalizing locals with
  | zero => simp [loopCalls]
  | succ turns ih =>
      rw [loopCalls, ih, loopCalls, List.append_assoc, Function.iterate_succ_apply]

theorem script_succ (polls turns : Nat) :
    script polls (turns + 1) = script polls turns ++ turn (Locals.next^[turns] .start) := by
  rw [script, loopCalls_succ, script, List.append_assoc _ _ (turn _)]

/-! ### What the answers so far say -/

def Enabled (log : List (Call × Answer)) : Prop :=
  ∃ answer, (.usbEnable, answer) ∈ log ∧ answer.ret = 0

def Connected (log : List (Call × Answer)) : Prop :=
  ∃ answer dtr, (.uartLineCtrlGet, answer) ∈ log ∧ answer.dtr = some dtr ∧ dtr ≠ 0

/-- When `main` may make a call: `usb_enable` first of all, a poll while USB is enabled and no poll has
reported DTR, anything but a sleep when one has. -/
def Allowed (log : List (Call × Answer)) : Call → Prop
  | .usbEnable => log = []
  | .uartLineCtrlGet => Enabled log ∧ ¬Connected log
  | .kSleep _ => Enabled log
  | _ => Enabled log ∧ Connected log

section Log

variable {log : List (Call × Answer)} {call : Call} {answer : Answer}

theorem Enabled.concat (henabled : Enabled log) (entry : Call × Answer) :
    Enabled (log ++ [entry]) := by
  obtain ⟨answer, hmem, hret⟩ := henabled
  exact ⟨answer, List.mem_append_left _ hmem, hret⟩

theorem connected_concat_iff_of_ne (hcall : call ≠ .uartLineCtrlGet) :
    Connected (log ++ [(call, answer)]) ↔ Connected log := by
  constructor
  · rintro ⟨polled, dtr, hmem, hdtr⟩
    rw [List.mem_append, List.mem_singleton] at hmem
    obtain hmem | hmem := hmem
    · exact ⟨polled, dtr, hmem, hdtr⟩
    · exact absurd (congrArg Prod.fst hmem).symm hcall
  · rintro ⟨polled, dtr, hmem, hdtr⟩
    exact ⟨polled, dtr, List.mem_append_left _ hmem, hdtr⟩

theorem connected_concat_poll_iff (hlog : ¬Connected log) :
    Connected (log ++ [(.uartLineCtrlGet, answer)]) ↔ answer.dtr.getD 0 ≠ 0 := by
  constructor
  · rintro ⟨polled, dtr, hmem, hdtr, hne⟩
    rw [List.mem_append, List.mem_singleton] at hmem
    obtain hmem | hmem := hmem
    · exact absurd ⟨polled, dtr, hmem, hdtr, hne⟩ hlog
    · obtain rfl := (Prod.mk.inj hmem).2
      rw [hdtr]
      exact hne
  · intro hne
    cases hdtr : answer.dtr with
    | none => simp [hdtr] at hne
    | some dtr =>
        rw [hdtr] at hne
        exact ⟨answer, dtr, List.mem_append_right _ (List.mem_singleton_self _), hdtr, hne⟩

end Log

/-! ### One call -/

/-- The calls made so far are the script up to the one `main` is about to make, and the answers to them
are those that lead there. -/
def State.OnScript (state : State) : Prop :=
  match state.control with
  | .usbEnable => state.log = []
  | .returned => ∃ answer, state.log = [(.usbEnable, answer)] ∧ answer.ret ≠ 0
  | .poll =>
      Enabled state.log ∧ ¬Connected state.log ∧
        ∃ polls, state.calls = .usbEnable :: waits polls
  | .pollSleep dtr =>
      Enabled state.log ∧ (Connected state.log ↔ dtr ≠ 0) ∧
        ∃ polls, state.calls = .usbEnable :: waits polls ++ [.uartLineCtrlGet]
  | .running progress =>
      Enabled state.log ∧ Connected state.log ∧
        (∀ call ∈ progress.todo, call ≠ .usbEnable ∧ call ≠ .uartLineCtrlGet) ∧
          ∃ polls turns, state.calls ++ progress.todo = script polls turns ∧
            progress.locals = Locals.next^[turns] .start

theorem ne_of_mem_startup {call : Call} (hcall : call ∈ startup) :
    call ≠ .usbEnable ∧ call ≠ .uartLineCtrlGet := by
  revert call
  decide

theorem ne_of_mem_turn {locals : Locals} {call : Call} (hcall : call ∈ turn locals) :
    call ≠ .usbEnable ∧ call ≠ .uartLineCtrlGet := by
  rw [turn, List.mem_append, List.mem_map] at hcall
  obtain ⟨command, -, rfl⟩ | hcall := hcall
  · constructor <;> rintro ⟨⟩
  · revert call
    decide

theorem Progress.call_cons_tail (progress : Progress) :
    progress.call :: progress.todo.tail = progress.todo :=
  List.cons_head_tail progress.todo_ne_nil

theorem Progress.call_mem (progress : Progress) : progress.call ∈ progress.todo :=
  List.head_mem progress.todo_ne_nil

theorem calls_concat (control : Control) (log : List (Call × Answer)) (call : Call)
    (answer : Answer) :
    (⟨control, log ++ [(call, answer)]⟩ : State).calls =
      (⟨control, log⟩ : State).calls ++ [call] := by
  rw [State.calls, List.map_append, List.map_singleton, State.calls]

/-- The test of the `while` sends `main` on with the script, whichever way it goes. -/
theorem onScript_test {log : List (Call × Answer)} {dtr : BitVec 32} {polls : Nat}
    (henabled : Enabled log) (hconnected : Connected log ↔ dtr ≠ 0)
    (hcalls : log.map Prod.fst = .usbEnable :: waits polls) :
    (⟨.test dtr, log⟩ : State).OnScript := by
  unfold Control.test
  split_ifs with hdtr
  · exact ⟨henabled, fun hlog => hconnected.mp hlog hdtr, polls, hcalls⟩
  · refine ⟨henabled, hconnected.mpr hdtr, fun call => ne_of_mem_startup, polls, 0, ?_, rfl⟩
    rw [State.calls, hcalls]
    simp [script, loopCalls]

theorem onScript_after {log : List (Call × Answer)} {progress : Progress} (answer : Answer)
    (hscript : (⟨.running progress, log⟩ : State).OnScript) :
    (⟨.running progress.after, log ++ [(progress.call, answer)]⟩ : State).OnScript := by
  obtain ⟨henabled, hconnected, htodo, polls, turns, hcalls, hlocals⟩ := hscript
  have hne := (htodo progress.call progress.call_mem).2
  have hcalls' : (⟨.running progress.after, log ++ [(progress.call, answer)]⟩ : State).calls
      ++ progress.todo.tail = script polls turns := by
    rw [calls_concat, List.append_assoc, List.singleton_append, progress.call_cons_tail]
    exact hcalls
  refine ⟨henabled.concat _, (connected_concat_iff_of_ne hne).mpr hconnected, ?_⟩
  unfold Progress.after
  split_ifs with htail
  · refine ⟨fun call => ne_of_mem_turn, polls, turns + 1, ?_, ?_⟩
    · rw [htail, List.append_nil] at hcalls'
      rw [script_succ, ← hlocals, ← hcalls']
      rfl
    · rw [Function.iterate_succ_apply', ← hlocals]
  · exact ⟨fun call hcall => htodo call (List.mem_of_mem_tail hcall), polls, turns, hcalls', hlocals⟩

theorem onScript_step {state : State} (answer : Answer) (hscript : state.OnScript) :
    (step state answer).OnScript := by
  obtain ⟨control, log⟩ := state
  cases control with
  | usbEnable =>
      obtain rfl : log = [] := hscript
      simp only [step, Control.call?, Control.resume]
      split_ifs with hret
      · exact ⟨answer, rfl, hret⟩
      · have henabled : Enabled [(.usbEnable, answer)] :=
          ⟨answer, List.mem_singleton_self _, not_not.mp hret⟩
        have hconnected : ¬Connected [(.usbEnable, answer)] := by
          simp [Connected]
        exact @onScript_test _ _ 0 henabled (iff_of_false hconnected (not_not.mpr rfl)) rfl
  | returned => exact hscript
  | poll =>
      obtain ⟨henabled, hconnected, polls, hcalls⟩ := hscript
      refine ⟨henabled.concat _, connected_concat_poll_iff hconnected, polls, ?_⟩
      rw [← hcalls]
      exact calls_concat _ _ _ _
  | pollSleep dtr =>
      obtain ⟨henabled, hconnected, polls, hcalls⟩ := hscript
      have hsleep : Call.kSleep 1000 ≠ .uartLineCtrlGet := by decide
      refine @onScript_test _ _ (polls + 1) (henabled.concat _)
        ((connected_concat_iff_of_ne hsleep).trans hconnected) ?_
      have hlog : log.map Prod.fst = .usbEnable :: waits polls ++ [.uartLineCtrlGet] := hcalls
      simp [waits_succ, hlog]
  | running progress => exact onScript_after answer hscript

theorem allowed_of_onScript {state : State} (hscript : state.OnScript) {call : Call}
    (hcall : state.control.call? = some call) : Allowed state.log call := by
  obtain ⟨control, log⟩ := state
  cases control with
  | usbEnable =>
      obtain rfl := Option.some.inj hcall
      exact hscript
  | returned => cases hcall
  | poll =>
      obtain rfl := Option.some.inj hcall
      exact ⟨hscript.1, hscript.2.1⟩
  | pollSleep dtr =>
      obtain rfl := Option.some.inj hcall
      exact hscript.1
  | running progress =>
      obtain rfl := Option.some.inj hcall
      obtain ⟨henabled, hconnected, htodo, -⟩ := hscript
      obtain ⟨husb, hpoll⟩ := htodo progress.call progress.call_mem
      cases hname : progress.call with
      | usbEnable => exact absurd hname husb
      | uartLineCtrlGet => exact absurd hname hpoll
      | kSleep ms => exact henabled
      | _ => exact ⟨henabled, hconnected⟩

theorem length_log_step (state : State) (answer : Answer) :
    (step state answer).log.length = state.log.length + 1
      ∨ (step state answer).control = .returned := by
  obtain ⟨control, log⟩ := state
  cases control with
  | returned => exact .inr rfl
  | _ => exact .inl (List.length_append ..)

/-! ### What the script is to the other models -/

theorem command?_waits (polls : Nat) : (waits polls).filterMap Call.command? = [] := by
  induction polls with
  | zero => rfl
  | succ polls ih =>
      rw [waits_succ, List.filterMap_append, ih]
      rfl

theorem command?_loopCalls (turns : Nat) (locals : Locals) :
    (loopCalls turns locals).filterMap Call.command? = (loop turns locals).flatten := by
  induction turns generalizing locals with
  | zero => rfl
  | succ turns ih =>
      have hcommands : (turn locals).filterMap Call.command? = locals.commands := by
        rw [turn, List.filterMap_append, List.filterMap_map]
        exact (List.append_nil _).trans List.filterMap_some
      rw [loopCalls, List.filterMap_append, hcommands, ih, loop, List.flatten_cons]

theorem command?_script (polls turns : Nat) :
    (script polls turns).filterMap Call.command? = (loop turns .start).flatten := by
  rw [script, List.filterMap_append, List.filterMap_append, command?_loopCalls,
    List.filterMap_cons_none rfl, command?_waits]
  rfl

section Actions

variable (config : SensorReading.Config)

theorem actions_waits (polls : Nat) : (waits polls).flatMap (Call.actions config) = [] := by
  induction polls with
  | zero => rfl
  | succ polls ih =>
      rw [waits_succ, List.flatMap_append, ih]
      rfl

theorem actions_turn (locals : Locals) :
    (turn locals).flatMap (Call.actions config) = Firmware.turn config := by
  have hcommands : (locals.commands.map Call.motorSetSpeed).flatMap (Call.actions config) = [] :=
    List.flatMap_eq_nil_iff.mpr fun call hcall => by
      obtain ⟨command, -, rfl⟩ := List.mem_map.mp hcall
      rfl
  rw [turn, List.flatMap_append, hcommands]
  simp [Call.actions, Firmware.turn]

theorem actions_loopCalls (turns : Nat) (locals : Locals) :
    (loopCalls turns locals).flatMap (Call.actions config) =
      (List.replicate turns (Firmware.turn config)).flatten := by
  induction turns generalizing locals with
  | zero => rfl
  | succ turns ih =>
      rw [loopCalls, List.flatMap_append, actions_turn, ih, List.replicate_succ, List.flatten_cons]

theorem actions_script (polls turns : Nat) :
    (script polls turns).flatMap (Call.actions config) =
      (List.replicate turns (Firmware.turn config)).flatten := by
  rw [script, List.flatMap_append, List.flatMap_append, actions_loopCalls, List.flatMap_cons,
    actions_waits]
  rfl

end Actions

/-- A command of the loop for a bridge makes a call for it. -/
theorem exists_call_of_command {turns : Nat} {commands : List Motor.Command}
    (hcommands : commands <+: (loop turns .start).flatten) {bridge : Motor.Bridge}
    (hcommanded : ∃ command ∈ commands, command.motor = bridge.id) :
    ∃ call ∈ commands.flatMap Motor.Command.calls, call.dev = bridge.dev := by
  obtain ⟨command, hcommand, hmotor⟩ := hcommanded
  have hloop : command ∈ (loop turns .start).flatten := hcommands.subset hcommand
  rw [loop_start, ← List.flatMap_def] at hloop
  obtain ⟨turn, -, hturn⟩ := List.mem_flatMap.mp hloop
  obtain ⟨call, hcall, hdev, -⟩ :=
    Motor.exists_call_of_target (target?_of_mem hturn hmotor) (turnDirection turn)
  exact ⟨call, List.mem_flatMap.mpr ⟨command, hcommand, hcall⟩, hdev⟩

/-- The motors' bridges are held at every point of the loop. -/
theorem held_of_prefix {turns : Nat} {commands : List Motor.Command}
    (hcommands : commands <+: (loop turns .start).flatten) (pulses : Motor.Pulses)
    (bridge : Motor.Bridge) (hcommanded : ∃ command ∈ commands, command.motor = bridge.id) :
    bridge.Held (run Motor.pwmPinSetCycles pulses (commands.flatMap Motor.Command.calls)) := by
  have hwritten := exists_call_of_command hcommands hcommanded
  obtain ⟨rest, hrest⟩ := hcommands
  have hsafe : Along Motor.pwmPinSetCycles Motor.CallSafe pulses
      (commands.flatMap Motor.Command.calls ++ rest.flatMap Motor.Command.calls) := by
    rw [← List.flatMap_append, hrest, calls_loop]
    exact along_turns turns (.inl rfl)
  exact Motor.held_run ((along_append _ _).mp hsafe).1 (.inr hwritten)

/-! ### Every run -/

theorem onScript_and_allowed (answers : List Answer) :
    (run step start answers).OnScript ∧
      Along step (fun state _ => ∀ call, state.control.call? = some call → Allowed state.log call)
        start answers := by
  have hanswers : Along step (fun _ _ => True) start answers :=
    along_event_iff.mpr fun _ _ => trivial
  have hstart : start.OnScript := rfl
  exact ⟨run_invariant (fun _ answer hscript _ => onScript_step answer hscript) hstart hanswers,
    along_of_invariant
      (fun _ answer hscript _ =>
        ⟨onScript_step answer hscript, fun _ => allowed_of_onScript hscript⟩)
      hstart hanswers⟩

theorem run_of_returned {state : State} (hreturned : state.control = .returned)
    (answers : List Answer) : run step state answers = state := by
  induction answers with
  | nil => rfl
  | cons answer answers ih =>
      have hstep : step state answer = state := by
        rw [step, hreturned]
        rfl
      rw [run_cons, hstep, ih]

theorem length_log_run (state : State) (answers : List Answer) :
    (run step state answers).log.length = state.log.length + answers.length
      ∨ (run step state answers).control = .returned := by
  induction answers generalizing state with
  | nil => exact .inl rfl
  | cons answer answers ih =>
      obtain hlength | hreturned := length_log_step state answer
      · obtain hrun | hrun := ih (step state answer)
        · left
          rw [run_cons, hrun, hlength, List.length_cons]
          omega
        · exact .inr hrun
      · right
        rw [run_cons, run_of_returned hreturned]
        exact hreturned

theorem prefix_script {state : State} (hscript : state.OnScript) :
    ∃ polls turns, state.calls <+: script polls turns := by
  obtain ⟨control, log⟩ := state
  cases control with
  | usbEnable =>
      obtain rfl : log = [] := hscript
      exact ⟨0, 0, List.nil_prefix⟩
  | returned =>
      obtain ⟨answer, hlog, -⟩ := hscript
      obtain rfl : log = [(.usbEnable, answer)] := hlog
      exact ⟨0, 0, List.prefix_append _ _⟩
  | poll =>
      obtain ⟨-, -, polls, hcalls⟩ := hscript
      refine ⟨polls, 0, ?_⟩
      rw [hcalls, script, List.append_assoc]
      exact List.prefix_append _ _
  | pollSleep dtr =>
      obtain ⟨-, -, polls, hcalls⟩ := hscript
      refine ⟨polls + 1, 0, [.kSleep 1000] ++ startup ++ loopCalls 0 .start, ?_⟩
      rw [hcalls, script, waits_succ]
      simp
  | running progress =>
      obtain ⟨-, -, -, polls, turns, hcalls, -⟩ := hscript
      exact ⟨polls, turns, hcalls ▸ List.prefix_append _ _⟩

/-- The motor commands `main` has issued. -/
def State.commands (state : State) : List Motor.Command := state.calls.filterMap Call.command?

/-- What `main` has done when its calls so far answered `answers`. -/
structure Follows (config : SensorReading.Config) (answers : List Answer) : Prop where
  goesOn : (run step start answers).log.length = answers.length
    ∨ ∃ answer, (run step start answers).log = [(.usbEnable, answer)] ∧ answer.ret ≠ 0
  allowed : Along step
    (fun state _ => ∀ call, state.control.call? = some call → Allowed state.log call) start answers
  script : ∃ polls turns, (run step start answers).calls <+: script polls turns
    ∧ (run step start answers).commands <+: (loop turns .start).flatten
    ∧ (run step start answers).calls.flatMap (Call.actions config)
        <+: (List.replicate turns (Firmware.turn config)).flatten
  held : ∀ pulses (bridge : Motor.Bridge),
    (∃ command ∈ (run step start answers).commands, command.motor = bridge.id) →
      bridge.Held (run Motor.pwmPinSetCycles pulses
        ((run step start answers).commands.flatMap Motor.Command.calls))

/-- **The main thread.** Whatever its calls answer, `main` makes one call after the other unless
`usb_enable` fails, which ends it. It polls only until a poll reports DTR and starts nothing before,
its calls are the script as far as it has come, what they do to the motors and to the readings are the
turns of the loop, and a bridge once commanded has an input at the full pulse after every call. -/
theorem main_follows (config : SensorReading.Config) (answers : List Answer) :
    Follows config answers := by
  obtain ⟨hscript, hallowed⟩ := onScript_and_allowed answers
  obtain ⟨polls, turns, hcalls⟩ := prefix_script hscript
  have hcommands := hcalls.filterMap Call.command?
  rw [command?_script] at hcommands
  have hactions := hcalls.flatMap (Call.actions config)
  rw [actions_script] at hactions
  exact {
    goesOn := by
      obtain hlength | hreturned := length_log_run start answers
      · exact .inl (hlength.trans (Nat.zero_add _))
      · rw [State.OnScript, hreturned] at hscript
        exact .inr hscript
    allowed := hallowed
    script := ⟨polls, turns, hcalls, hcommands, hactions⟩
    held := held_of_prefix hcommands }

end RcFirmware.MainThread
