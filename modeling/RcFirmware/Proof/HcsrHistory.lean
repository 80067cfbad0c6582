import RcFirmware.Proof.HcsrAttribution
import RcFirmware.Proof.HcsrMeasurement

/-!
# What the readings measure

A history of the rig alone, with nothing of the driver in it: which sensor was triggered when, where
its echo line is, whether sensor 1 answered its last trigger, and how far sensor 0 has got. It says
which stretch of time each reading stands for, and the driver stores those and no others.

Sensor 0 is not re-armed by its trigger. Its pulse is timed from its rising edge only once, the first
time sensor 1 has not answered in the turn before. Until then the rising edge itself is taken for the
end of a measurement that began with the trigger, and from then on the falling edge is, or the pulse
goes unnoticed.
-/

namespace RcFirmware.Hcsr

open StepMachine

/-- Sensor 0 before its first pulse that is timed, during it, and after it. -/
inductive Latch where
  | ready
  | timing
  | shut
  deriving DecidableEq, Repr

structure History where
  turn : SensorNo
  triggered : BitVec 32
  line : Line
  answered : Bool
  latch : Latch
  deriving DecidableEq

/-- What a measurement starts from. -/
inductive Origin where
  | trigger
  | rise
  deriving DecidableEq, Repr

structure Span where
  sensor : SensorNo
  origin : Origin
  start : BitVec 32
  finish : BitVec 32
  deriving DecidableEq, Repr

def Span.reading (kCycToUsFloor64 : BitVec 64 → BitVec 64) (span : Span) : SensorNo × SensorValue :=
  (span.sensor,
    distanceValue (kCycToUsFloor64 (span.finish.setWidth 64 - span.start.setWidth 64)))

def History.start : History := ⟨0, 0, .idle, false, .ready⟩

def History.step (history : History) : Event → History
  | .timer now =>
      { turn := history.turn.not
        triggered := now
        line := .armed history.turn.not
        answered := if history.turn.not = 0 then history.answered else false
        latch := history.latch }
  | .edge pin .rising now =>
      { history with
        line := .high pin now
        answered := if pin = 0 then history.answered else true
        latch :=
          if pin = 0 ∧ history.latch = .ready ∧ history.answered = false then .timing
          else history.latch }
  | .edge pin .falling _ =>
      { history with
        line := .idle
        latch := if pin = 0 ∧ history.latch = .timing then .shut else history.latch }

def History.WellBehaved (history : History) (event : Event) : Prop :=
  history.line.allows event = true

/-- The stretch of time that an event completes. -/
def History.span (history : History) : Event → Option Span
  | .timer _ => none
  | .edge pin .rising now =>
      if pin = 0 ∧ history.latch = .ready ∧ history.answered = true then
        some ⟨0, .trigger, history.triggered, now⟩
      else none
  | .edge pin .falling now =>
      history.line.rise?.bind fun rise =>
        if pin ≠ 0 then some ⟨pin, .rise, rise, now⟩
        else
          match history.latch with
          | .ready => none
          | .timing => some ⟨0, .rise, rise, now⟩
          | .shut =>
              if history.answered = true then some ⟨0, .trigger, history.triggered, now⟩ else none

def spans : List Event → List Span := collected History.step History.span History.start

/-- How the driver stands during sensor 0's turn, but for the pulse that is timed. -/
def TurnZero (driver : State) (history : History) : Prop :=
  (driver.echo 0).callbackAdded = true
    ∧ driver.trigTime = history.triggered.setWidth 64
    ∧ (driver.trigType = 0#8 ↔ history.answered = false)

def TracksLine (driver : State) (history : History) : Prop :=
  match history.line with
  | .idle => history.latch ≠ .timing
  | .armed sensor =>
      history.turn = sensor ∧ history.latch ≠ .timing
        ∧ if sensor = 0 then TurnZero driver history
          else driver.Interrupts sensor .rising ∧ driver.trigType = 0#8
  | .high sensor rise =>
      history.turn = sensor
        ∧ if sensor = 0 ∧ history.latch ≠ .timing then TurnZero driver history
          else driver.Interrupts sensor .falling ∧ driver.trigType ≠ 0#8
            ∧ driver.trigTime = rise.setWidth 64 ∧ (sensor ≠ 0 → history.latch ≠ .timing)

structure Tracks (driver : State) (history : History) : Prop where
  turn : driver.curDistSensor = history.turn
  interrupt : (driver.echo 0).interrupt =
    some (if history.latch = .ready then .rising else .falling)
  answered : history.turn ≠ 0 → (driver.trigType = 0#8 ↔ history.answered = false)
  line : TracksLine driver history

theorem tracks_initialised : Tracks initialised History.start where
  turn := rfl
  interrupt := rfl
  answered := fun hturn => absurd rfl hturn
  line := by simp [TracksLine, History.start]

variable {kCycToUsFloor64 : BitVec 64 → BitVec 64} {driver : State} {history : History}

theorem Tracks.storeReading (htracks : Tracks driver history) (sensor : SensorNo)
    (value : SensorValue) : Tracks (storeReading sensor value driver) history :=
  ⟨htracks.turn, htracks.interrupt, htracks.answered, htracks.line⟩

/-- The driver goes on tracking the history, and stores what the history says. -/
structure Follows (kCycToUsFloor64 : BitVec 64 → BitVec 64) (driver : State) (history : History)
    (event : Event) : Prop where
  tracks : Tracks (step kCycToUsFloor64 driver event) (history.step event)
  stores : (step kCycToUsFloor64 driver event).stores =
    driver.stores ++ ((history.span event).map (Span.reading kCycToUsFloor64)).toList

/-! ### One event -/

theorem Tracks.timer (htracks : Tracks driver history)
    {now : BitVec 32} (hbehaved : history.WellBehaved (.timer now)) :
    Follows kCycToUsFloor64 driver history (.timer now) := by
  have hlatch : history.latch ≠ .timing := by
    have hline := htracks.line
    cases hcase : history.line with
    | idle => simpa [TracksLine, hcase] using hline
    | armed sensor =>
        simp only [TracksLine, hcase] at hline
        exact hline.2.1
    | high sensor rise => simp [History.WellBehaved, hcase, Line.allows] at hbehaved
  have hturn := htracks.turn
  constructor
  · rw [step_timer_eq, hcsrTimingHandler_eq, hturn]
    by_cases hzero : history.turn.not = 0
    · have hone : history.turn ≠ 0 := by
        intro heq
        rw [heq] at hzero
        exact absurd hzero (by decide)
      constructor
      · rfl
      · simpa [History.step, hzero] using htracks.interrupt
      · simp [History.step, hzero]
      · simp only [TracksLine, History.step, hzero, if_true]
        exact ⟨trivial, hlatch, by simp, rfl, htracks.answered hone⟩
    · constructor
      · rfl
      · simpa [History.step, Function.update_of_ne (Ne.symm hzero)] using htracks.interrupt
      · simp [History.step, hzero]
      · simp [TracksLine, History.step, hzero, hlatch, State.Interrupts]
  · simp [step_timer_eq, hcsrTimingHandler_eq, History.span]

/-- An edge that the GPIO driver lets pass without interrupting. -/
theorem Follows.of_not_interrupts {event : Event} {pin : SensorNo} {direction : GpioEdge}
    {now : BitVec 32} (hevent : event = .edge pin direction now)
    (hinterrupts : ¬ driver.Interrupts pin direction)
    (htracks : Tracks driver (history.step event)) (hspan : history.span event = none) :
    Follows kCycToUsFloor64 driver history event := by
  subst hevent
  have hstep : step kCycToUsFloor64 driver (.edge pin direction now) = driver := by
    rw [step_edge_eq, if_neg hinterrupts]
  constructor
  · rwa [hstep]
  · rw [hstep, hspan, Option.map_none, Option.toList_none, List.append_nil]

/-- An edge that closes a measurement stores what the history says it measures. -/
theorem Follows.of_measures {event : Event} (span : Span) (hmeasures : driver.Measures event)
    (htracks : Tracks driver (history.step event)) (hspan : history.span event = some span)
    (hsensor : span.sensor = driver.curDistSensor) (hfinish : span.finish = event.now)
    (hstart : driver.trigTime = span.start.setWidth 64) :
    Follows kCycToUsFloor64 driver history event := by
  constructor
  · rw [step_of_measures hmeasures]
    exact htracks.storeReading _ _
  · rw [step_of_measures hmeasures, hspan, storeReading, Option.map_some, Option.toList_some,
      Span.reading, hsensor, hfinish, elapsedCycles, hstart]

theorem Tracks.rising_zero (htracks : Tracks driver history) (hline : history.line = .armed 0)
    (now : BitVec 32) : Follows kCycToUsFloor64 driver history (.edge 0 .rising now) := by
  obtain ⟨hturn, hinterrupt, -, htracked⟩ := htracks
  simp only [TracksLine, hline, if_true] at htracked
  obtain ⟨hzero, hlatch, hadded, hstamp, htype⟩ := htracked
  cases hcase : history.latch with
  | timing => exact absurd hcase hlatch
  | shut =>
      have hnot : ¬ driver.Interrupts 0 .rising := by
        rintro ⟨-, hrising⟩
        simp [hinterrupt, hcase] at hrising
      refine .of_not_interrupts rfl hnot ⟨hturn, ?_, fun hne => absurd hzero hne, ?_⟩
        (by simp [History.span, hcase])
      · simpa [History.step, hcase] using hinterrupt
      · simp only [TracksLine, History.step, hcase]
        exact ⟨hzero, hadded, hstamp, htype⟩
  | ready =>
      have hinterrupts : driver.Interrupts 0 .rising :=
        ⟨hadded, by rw [hinterrupt, hcase, if_pos rfl]⟩
      cases hanswered : history.answered with
      | true =>
          have hopen : driver.trigType ≠ 0#8 := by simp [htype, hanswered]
          refine .of_measures ⟨0, .trigger, history.triggered, now⟩ ⟨hinterrupts, hopen⟩
            ⟨hturn, ?_, fun hne => absurd hzero hne, ?_⟩ (by simp [History.span, hcase, hanswered])
            (hturn.trans hzero).symm rfl hstamp
          · simpa [History.step, hcase, hanswered] using hinterrupt
          · simp only [TracksLine, History.step, hcase, hanswered]
            exact ⟨hzero, hadded, hstamp, hanswered ▸ htype⟩
      | false =>
          have hstart : driver.trigType = 0#8 := htype.mpr hanswered
          constructor
          · rw [step_edge_eq, if_pos hinterrupts, if_pos hstart, hturn, hzero]
            refine ⟨hzero.symm, ?_, fun hne => absurd hzero hne, ?_⟩
            · simp [History.step, hcase, hanswered]
            · simp [TracksLine, History.step, hcase, hanswered, hzero, State.Interrupts]
          · rw [step_edge_eq, if_pos hinterrupts, if_pos hstart]
            simp [History.span, hcase, hanswered]

theorem Tracks.falling_zero (htracks : Tracks driver history) {rise : BitVec 32}
    (hline : history.line = .high 0 rise) (now : BitVec 32) :
    Follows kCycToUsFloor64 driver history (.edge 0 .falling now) := by
  obtain ⟨hturn, hinterrupt, -, htracked⟩ := htracks
  simp only [TracksLine, hline, true_and] at htracked
  obtain ⟨hzero, htracked⟩ := htracked
  cases hcase : history.latch with
  | timing =>
      simp only [hcase, ne_eq, not_true_eq_false, if_false] at htracked
      obtain ⟨hinterrupts, hopen, hstamp, -⟩ := htracked
      refine .of_measures ⟨0, .rise, rise, now⟩ ⟨hinterrupts, hopen⟩
        ⟨hturn, ?_, fun hne => absurd hzero hne, ?_⟩ (by simp [History.span, hcase, hline, Line.rise?])
        (hturn.trans hzero).symm rfl hstamp
      · simpa [History.step, hcase] using hinterrupt
      · simp [TracksLine, History.step, hcase]
  | ready =>
      have hnot : ¬ driver.Interrupts 0 .falling := by
        rintro ⟨-, hfalling⟩
        simp [hinterrupt, hcase] at hfalling
      refine .of_not_interrupts rfl hnot ⟨hturn, ?_, fun hne => absurd hzero hne, ?_⟩
        (by simp [History.span, hcase])
      · simpa [History.step, hcase] using hinterrupt
      · simp [TracksLine, History.step, hcase]
  | shut =>
      rw [hcase, if_pos (by decide)] at htracked
      obtain ⟨hadded, hstamp, htype⟩ := htracked
      have hinterrupts : driver.Interrupts 0 .falling :=
        ⟨hadded, by rw [hinterrupt, hcase, if_neg (by decide)]⟩
      cases hanswered : history.answered with
      | true =>
          have hopen : driver.trigType ≠ 0#8 := by simp [htype, hanswered]
          refine .of_measures ⟨0, .trigger, history.triggered, now⟩ ⟨hinterrupts, hopen⟩
            ⟨hturn, ?_, fun hne => absurd hzero hne, ?_⟩
            (by simp [History.span, hcase, hanswered, hline, Line.rise?]) (hturn.trans hzero).symm
            rfl hstamp
          · simpa [History.step, hcase] using hinterrupt
          · simp [TracksLine, History.step, hcase]
      | false =>
          have hstart : driver.trigType = 0#8 := htype.mpr hanswered
          constructor
          · rw [step_edge_eq, if_pos hinterrupts, if_pos hstart, hturn, hzero]
            refine ⟨hzero.symm, ?_, fun hne => absurd hzero hne, ?_⟩
            · simp [History.step, hcase]
            · simp [TracksLine, History.step, hcase]
          · rw [step_edge_eq, if_pos hinterrupts, if_pos hstart]
            simp [History.span, hcase, hanswered]

theorem Tracks.rising_one (htracks : Tracks driver history) {sensor : SensorNo}
    (hsensor : sensor ≠ 0) (hline : history.line = .armed sensor) (now : BitVec 32) :
    Follows kCycToUsFloor64 driver history (.edge sensor .rising now) := by
  obtain ⟨hturn, hinterrupt, -, htracked⟩ := htracks
  simp only [TracksLine, hline, if_neg hsensor] at htracked
  obtain ⟨rfl, hlatch, hinterrupts, hstart⟩ := htracked
  constructor
  · rw [step_edge_eq, if_pos hinterrupts, if_pos hstart, hturn]
    refine ⟨rfl, ?_, fun _ => ?_, ?_⟩
    · simpa [History.step, hsensor, Function.update_of_ne (Ne.symm hsensor)] using hinterrupt
    · simp [History.step, hsensor]
    · simp [TracksLine, History.step, hsensor, State.Interrupts, hlatch]
  · rw [step_edge_eq, if_pos hinterrupts, if_pos hstart]
    simp [History.span, hsensor]

theorem Tracks.falling_one (htracks : Tracks driver history) {sensor : SensorNo}
    (hsensor : sensor ≠ 0) {rise : BitVec 32} (hline : history.line = .high sensor rise)
    (now : BitVec 32) : Follows kCycToUsFloor64 driver history (.edge sensor .falling now) := by
  obtain ⟨hturn, hinterrupt, hanswered, htracked⟩ := htracks
  simp only [TracksLine, hline, hsensor, false_and, if_false] at htracked
  obtain ⟨rfl, hinterrupts, hopen, hstamp, hlatch⟩ := htracked
  refine .of_measures ⟨history.turn, .rise, rise, now⟩ ⟨hinterrupts, hopen⟩
    ⟨hturn, ?_, hanswered, ?_⟩ (by simp [History.span, hsensor, hline, Line.rise?]) hturn.symm rfl
    hstamp
  · simpa [History.step, hsensor] using hinterrupt
  · simpa [TracksLine, History.step, hsensor] using hlatch hsensor

theorem Tracks.step (htracks : Tracks driver history) {event : Event}
    (hbehaved : history.WellBehaved event) : Follows kCycToUsFloor64 driver history event := by
  cases event with
  | timer now => exact htracks.timer hbehaved
  | edge pin direction now =>
      rw [History.WellBehaved] at hbehaved
      cases hline : history.line with
      | idle => simp [hline, Line.allows] at hbehaved
      | armed sensor =>
          cases direction with
          | falling => simp [hline, Line.allows] at hbehaved
          | rising =>
              obtain rfl : pin = sensor := by simpa [hline, Line.allows] using hbehaved
              by_cases hpin : pin = 0
              · subst hpin
                exact htracks.rising_zero hline now
              · exact htracks.rising_one hpin hline now
      | high sensor rise =>
          cases direction with
          | rising => simp [hline, Line.allows] at hbehaved
          | falling =>
              obtain rfl : pin = sensor := by simpa [hline, Line.allows] using hbehaved
              by_cases hpin : pin = 0
              · subst hpin
                exact htracks.falling_zero hline now
              · exact htracks.falling_one hpin hline now

/-! ### Whole runs -/

theorem stores_run (htracks : Tracks driver history) {events : List Event}
    (hbehaved : Along History.step History.WellBehaved history events) :
    (run (step kCycToUsFloor64) driver events).stores =
      driver.stores ++ (collected History.step History.span history events).map
        (Span.reading kCycToUsFloor64) := by
  induction events generalizing driver history with
  | nil => simp [collected]
  | cons event events ih =>
      have hfollows : Follows kCycToUsFloor64 driver history event := htracks.step hbehaved.1
      rw [run_cons, ih hfollows.tracks hbehaved.2, hfollows.stores, collected, List.map_append,
        List.append_assoc]
      cases history.span event <;> rfl

theorem Tracks.inTurn (htracks : Tracks driver history) {event : Event}
    (hbehaved : history.WellBehaved event) : InTurn driver event := by
  have hline := htracks.line
  cases event with
  | timer now => exact fun hmeasures => hmeasures.elim
  | edge pin direction now =>
      intro _
      rw [Event.pin?, htracks.turn, Option.some_inj]
      rw [History.WellBehaved] at hbehaved
      cases hcase : history.line with
      | idle => simp [hcase, Line.allows] at hbehaved
      | armed sensor | high sensor rise =>
          simp only [TracksLine, hcase] at hline
          cases direction <;> simp_all [Line.allows]

theorem along_inTurn (htracks : Tracks driver history) {events : List Event}
    (hbehaved : Along History.step History.WellBehaved history events) :
    Along (step kCycToUsFloor64) InTurn driver events := by
  induction events generalizing driver history with
  | nil => trivial
  | cons event events ih =>
      have hfollows : Follows kCycToUsFloor64 driver history event := htracks.step hbehaved.1
      exact ⟨htracks.inTurn hbehaved.1, ih hfollows.tracks hbehaved.2⟩

/-- **Nothing is misplaced** among the edges of echoes that are over before the next trigger. -/
theorem not_misplaced_of_wellBehaved {events : List Event}
    (hbehaved : Along History.step History.WellBehaved History.start events) :
    Along Order.step (fun order signal => ¬ order.Misplaced signal) Order.start
      (events.map Event.signal) := by
  have hinTurn : Along (step id) InTurn initialised events :=
    along_inTurn tracks_initialised hbehaved
  exact (along_inTurn_iff_order id events).mp hinTurn

/-- A pulse of sensor 0 that was timed from its rising edge. -/
def Span.TimesZero (span : Span) : Prop := span.sensor = 0 ∧ span.origin = .rise

instance (span : Span) : Decidable span.TimesZero := inferInstanceAs (Decidable (_ ∧ _))

/-- The pulses of sensor 0 that can still be timed. -/
def Latch.timesLeft : Latch → Nat
  | .ready | .timing => 1
  | .shut => 0

theorem timesLeft_step (history : History) (event : Event) :
    ((history.span event).toList.filter fun span => span.TimesZero).length
        + (history.step event).latch.timesLeft ≤ history.latch.timesLeft := by
  cases event with
  | timer now => simp [History.span, History.step]
  | edge pin direction now =>
      cases direction with
      | rising =>
          simp only [History.span, History.step]
          split_ifs <;> simp_all [Span.TimesZero, Latch.timesLeft]
      | falling =>
          cases hrise : history.line.rise? <;> cases hlatch : history.latch <;>
            by_cases hpin : pin = 0 <;> by_cases hanswered : history.answered = true <;>
              simp [History.span, History.step, hrise, hlatch, hpin, hanswered, Span.TimesZero,
                Latch.timesLeft]

theorem timesZero_le (history : History) (events : List Event) :
    ((collected History.step History.span history events).filter
      fun span => span.TimesZero).length ≤ history.latch.timesLeft := by
  induction events generalizing history with
  | nil => exact Nat.zero_le _
  | cons event events ih =>
      have hstep := timesLeft_step history event
      have hrest := ih (history.step event)
      rw [collected, List.filter_append, List.length_append]
      omega

/-- **What the readings measure.** Behind a successful `hcsr_init`, in every run in which the sensors
answer their triggers with at most one pulse each, the driver stores exactly the stretches of time
that the history names, in their order; and of all pulses of sensor 0 at most one is timed from its
rising edge. -/
theorem stores_eq_spans (kCycToUsFloor64 : BitVec 64 → BitVec 64) {outcome : InitOutcome}
    (hinit : (hcsrInit outcome boot).timerStarted = true) {events : List Event}
    (hbehaved : Along History.step History.WellBehaved History.start events) :
    (run (step kCycToUsFloor64) (hcsrInit outcome boot) events).stores =
        (spans events).map (Span.reading kCycToUsFloor64)
      ∧ ((spans events).filter fun span => span.TimesZero).length ≤ 1 := by
  refine ⟨?_, timesZero_le History.start events⟩
  rw [hcsrInit_eq_initialised hinit]
  exact stores_run tracks_initialised hbehaved

/-- Sensor 0 is timed once, and the next time what is stored begins with its trigger. -/
theorem stores_eq_spans_example :
    (run (step (cycToUsFloor64 32768)) (hcsrInit allReady boot)
        [.timer 1000, .timer 14107, .edge 0 .rising 14120, .edge 0 .falling 14150, .timer 27214,
          .edge 1 .rising 27230, .edge 1 .falling 27300, .timer 40321, .edge 0 .rising 40334,
          .edge 0 .falling 40364]).stores =
      [⟨0, .rise, 14120, 14150⟩, ⟨1, .rise, 27230, 27300⟩, ⟨0, .trigger, 40321, 40364⟩].map
        (Span.reading (cycToUsFloor64 32768)) :=
  (stores_eq_spans (cycToUsFloor64 32768) (by decide) (by simp [History.start, History.step,
    History.WellBehaved, Line.allows, SensorNo.not])).1

end RcFirmware.Hcsr
