import RcFirmware.CanHandler

/-!
# The last CAN state is printed

A line printed in the middle of a burst of interrupts may show the state of one and the counters of
another. The last line does not.
-/

namespace RcFirmware.CanHandler

open StepMachine

/-- The line that shows these globals. -/
def Globals.line (globals : Globals) : Line :=
  ⟨stateToStr globals.currentState, globals.currentErrCnt.rxErrCnt, globals.currentErrCnt.txErrCnt⟩

/-- Every argument evaluated so far is what the globals give for it. -/
structure Args.Saw (globals : Globals) (args : Args) : Prop where
  state : ∀ text, args.state = some text → text = globals.line.state
  rxErrCnt : ∀ count, args.rxErrCnt = some count → count = globals.line.rxErrorCount
  txErrCnt : ∀ count, args.txErrCnt = some count → count = globals.line.txErrorCount

theorem eq_of_orElse_eq_some {α : Type} {read : Option α} {now value : α}
    (hread : ∀ before, read = some before → before = now) (hvalue : (read <|> some now) = some value) :
    value = now := by
  cases read with
  | none => exact (Option.some.inj hvalue).symm
  | some before => exact (Option.some.inj hvalue) ▸ hread before rfl

theorem Args.saw_none (globals : Globals) : Args.none.Saw globals where
  state := fun _ hread => nomatch hread
  rxErrCnt := fun _ hread => nomatch hread
  txErrCnt := fun _ hread => nomatch hread

theorem Args.Saw.read {globals : Globals} {args : Args} (hsaw : args.Saw globals) (arg : Arg) :
    (args.read globals arg).Saw globals := by
  cases arg with
  | state => exact { hsaw with state := fun _ => eq_of_orElse_eq_some hsaw.state }
  | rxErrCnt => exact { hsaw with rxErrCnt := fun _ => eq_of_orElse_eq_some hsaw.rxErrCnt }
  | txErrCnt => exact { hsaw with txErrCnt := fun _ => eq_of_orElse_eq_some hsaw.txErrCnt }

theorem printk_eq_some_iff {args : Args} {line : Line} :
    args.printk = some line ↔ args.state = some line.state
      ∧ args.rxErrCnt = some line.rxErrorCount ∧ args.txErrCnt = some line.txErrorCount := by
  obtain ⟨state, rxErrCnt, txErrCnt⟩ := args
  obtain ⟨text, rxErrorCount, txErrorCount⟩ := line
  cases state <;> cases rxErrCnt <;> cases txErrCnt <;> simp [Args.printk]

theorem Args.Saw.printk {globals : Globals} {args : Args} (hsaw : args.Saw globals) {line : Line}
    (hline : args.printk = some line) : line = globals.line := by
  obtain ⟨hstate, hrx, htx⟩ := printk_eq_some_iff.mp hline
  obtain ⟨text, rxErrorCount, txErrorCount⟩ := line
  rw [Globals.line, Line.mk.injEq]
  exact ⟨hsaw.state text hstate, hsaw.rxErrCnt rxErrorCount hrx, hsaw.txErrCnt txErrorCount htx⟩

theorem stateChangeWorkHandler_reports :
    stateChangeWorkHandler.Reports Globals.line fun globals args => args.Saw globals where
  start := fun globals => Args.saw_none globals
  look := fun arg _ _ hsaw => hsaw.read arg
  out := fun _ _ _ hsaw hline => hsaw.printk hline

/-- **The last state is printed.** For every run of interrupts and handler steps from whatever the
globals hold, once the work item is neither queued nor running, the last line printed shows the state
and the counters of the last interrupt. -/
theorem last_line_shows_last_isr (globals : Globals) (events : List Event)
    (hqueued : (run step (.fresh globals) events).queued = false)
    (hrunning : (run step (.fresh globals) events).running = none) {state : CanState}
    {errCnt : CanBusErrCnt}
    (hlast : (Notification.posted events).getLast? = some ⟨state, errCnt⟩) :
    (run step (.fresh globals) events).outputs.getLast? =
      some ⟨stateToStr state, errCnt.rxErrCnt, errCnt.txErrCnt⟩ :=
  Notification.last_output stateChangeWorkHandler_reports globals events hqueued hrunning hlast

/-- The bus goes off while the handler is half way through its arguments. -/
def busOffRun : List Event :=
  [stateChangeIsr .errorPassive ⟨130, 9⟩, .start, .look .rxErrCnt, stateChangeIsr .busOff ⟨255, 12⟩,
    .look .state, .look .txErrCnt, .finish, .start, .look .txErrCnt, .look .state, .look .rxErrCnt,
    .finish]

theorem busOffRun_prints_busOff :
    (run step (.fresh ⟨.errorActive, ⟨0, 0⟩⟩) busOffRun).outputs.getLast? =
      some ⟨"bus-off", 12, 255⟩ :=
  last_line_shows_last_isr ⟨.errorActive, ⟨0, 0⟩⟩ busOffRun rfl rfl rfl

/-- The line before it mixes the two interrupts. -/
example : (run step (.fresh ⟨.errorActive, ⟨0, 0⟩⟩) busOffRun).outputs =
    [⟨"bus-off", 9, 255⟩, ⟨"bus-off", 12, 255⟩] := rfl

end RcFirmware.CanHandler
