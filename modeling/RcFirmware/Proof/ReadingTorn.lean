import RcFirmware.Proof.SensorRouting
import RcFirmware.ReadingThread

/-!
# Readings torn by the interrupt

`hcsr_get` copies the two fields of a reading one after the other, and the echo interrupt rewrites
both. A measurement that closes between the two copies leaves the thread with the metres of one
reading and the remainder of the next. This shows only when the two differ in both: the remainder
moves with every measurement, the metres seldom.
-/

namespace RcFirmware.ReadingThread

open SensorReading StepMachine

/-- What the sensor's reading was at some time: the initial one, or one the interrupt stored. -/
def Genuine (driver : Hcsr.State) (sensor : Hcsr.SensorNo) (value : SensorValue) : Prop :=
  value = ⟨0, 0⟩ ∨ (sensor, value) ∈ driver.stores

section

variable (kCycToUsFloor64 : BitVec 64 → BitVec 64) (chan : SensorChannel → BitVec 32)

/-- What a step delivers to the slot of a sensor when it completes the call of `hcsr_get` is a reading
the sensor had. -/
def Untorn (state : State) : Event → Prop
  | .thread => ∀ sensor todo, state.todo = .val2 sensor :: todo →
      Genuine state.driver sensor
        ((step kCycToUsFloor64 chan state .thread).readings (slot sensor)).dataChannel
  | .work _ _ _ => True
  | .interrupt _ => True

/-- The micrometres an echo edge at `now` measures, as `sensor_value` splits them. -/
def measured (driver : Hcsr.State) (event : Hcsr.Event) : SensorValue :=
  Hcsr.distanceValue (kCycToUsFloor64 (Hcsr.elapsedCycles event.now driver))

/-- A measurement that closes between the two copies of its sensor's reading measures the metres
already copied, or the remainder still to be copied. -/
def SameMetre (state : State) : Event → Prop
  | .interrupt event => state.driver.Measures event →
      ∀ todo, state.todo = .val2 state.driver.curDistSensor :: todo →
        (measured kCycToUsFloor64 state.driver event).val1 =
            (state.readings (slot state.driver.curDistSensor)).dataChannel.val1
          ∨ (measured kCycToUsFloor64 state.driver event).val2 =
            (state.driver.distanceReadings state.driver.curDistSensor).val2
  | .work _ _ _ => True
  | .thread => True

end

/-! ### The invariant -/

/-- The metres in the slot and the remainder the thread is about to copy belong together. -/
structure Coherent (state : State) : Prop where
  held : ∀ sensor, Genuine state.driver sensor (state.driver.distanceReadings sensor)
  position : state.todo <:+ distanceLoop
  halfCopied : ∀ sensor todo, state.todo = .val2 sensor :: todo →
    Genuine state.driver sensor
      ⟨(state.readings (slot sensor)).dataChannel.val1,
        (state.driver.distanceReadings sensor).val2⟩

/-- The loop copies a remainder only right after the metres of the same sensor. -/
theorem eq_val1_of_before_val2 {assignment : Assignment} {sensor : Hcsr.SensorNo}
    {todo : List Assignment} (hposition : assignment :: .val2 sensor :: todo <:+ distanceLoop) :
    assignment = .val1 sensor := by
  simp only [distanceLoop, hcsrGetAssignments, List.flatMap_cons, List.flatMap_nil,
    List.cons_append, List.nil_append, List.suffix_cons_iff, List.cons.injEq, reduceCtorEq,
    Assignment.val2.injEq, List.suffix_nil, false_and, and_false, false_or, or_false] at hposition
  obtain ⟨rfl, rfl, -⟩ | ⟨rfl, rfl, -⟩ := hposition <;> rfl

section

variable {kCycToUsFloor64 : BitVec 64 → BitVec 64} {chan : SensorChannel → BitVec 32}
variable {state : State} {event : Hcsr.Event}

theorem genuine_step {sensor : Hcsr.SensorNo} {value : SensorValue}
    (hgenuine : Genuine state.driver sensor value) :
    Genuine (Hcsr.step kCycToUsFloor64 state.driver event) sensor value := by
  refine hgenuine.imp_right fun hstored => ?_
  by_cases hmeasures : state.driver.Measures event
  · rw [Hcsr.step_of_measures hmeasures]
    exact List.mem_append_left _ hstored
  · rwa [(Hcsr.step_of_not_measures hmeasures).1]

theorem genuine_measured (hmeasures : state.driver.Measures event) :
    Genuine (Hcsr.step kCycToUsFloor64 state.driver event) state.driver.curDistSensor
      (measured kCycToUsFloor64 state.driver event) := by
  rw [Hcsr.step_of_measures hmeasures]
  exact .inr (List.mem_append_right _ (List.mem_singleton_self _))

theorem distanceReadings_step_of_measures (hmeasures : state.driver.Measures event) :
    (Hcsr.step kCycToUsFloor64 state.driver event).distanceReadings =
      Function.update state.driver.distanceReadings state.driver.curDistSensor
        (measured kCycToUsFloor64 state.driver event) := by
  rw [Hcsr.step_of_measures hmeasures, Hcsr.storeReading, measured]

theorem distanceReadings_step_of_other {sensor : Hcsr.SensorNo}
    (hother : state.driver.Measures event → sensor ≠ state.driver.curDistSensor) :
    (Hcsr.step kCycToUsFloor64 state.driver event).distanceReadings sensor =
      state.driver.distanceReadings sensor := by
  by_cases hmeasures : state.driver.Measures event
  · rw [distanceReadings_step_of_measures hmeasures, Function.update_of_ne (hother hmeasures)]
  · rw [(Hcsr.step_of_not_measures hmeasures).2]

theorem genuine_held_step (hcoherent : Coherent state) (sensor : Hcsr.SensorNo) :
    Genuine (Hcsr.step kCycToUsFloor64 state.driver event) sensor
      ((Hcsr.step kCycToUsFloor64 state.driver event).distanceReadings sensor) := by
  by_cases hmeasures : state.driver.Measures event ∧ sensor = state.driver.curDistSensor
  · obtain ⟨hmeasures, rfl⟩ := hmeasures
    rw [distanceReadings_step_of_measures hmeasures, Function.update_self]
    exact genuine_measured hmeasures
  · rw [distanceReadings_step_of_other (not_and.mp hmeasures)]
    exact genuine_step (hcoherent.held sensor)

/-- Whether the interrupt measures the metres already copied or the remainder still to be copied, the
two go on belonging together. -/
theorem genuine_halfCopied_step (hcoherent : Coherent state)
    (hmetre : SameMetre kCycToUsFloor64 state (.interrupt event)) {sensor : Hcsr.SensorNo}
    {todo : List Assignment} (htodo : state.todo = .val2 sensor :: todo) :
    Genuine (Hcsr.step kCycToUsFloor64 state.driver event) sensor
      ⟨(state.readings (slot sensor)).dataChannel.val1,
        ((Hcsr.step kCycToUsFloor64 state.driver event).distanceReadings sensor).val2⟩ := by
  have hkept := hcoherent.halfCopied sensor todo htodo
  by_cases hmeasures : state.driver.Measures event ∧ sensor = state.driver.curDistSensor
  · obtain ⟨hmeasures, rfl⟩ := hmeasures
    rw [distanceReadings_step_of_measures hmeasures, Function.update_self]
    obtain hval1 | hval2 := hmetre hmeasures todo htodo
    · rw [← hval1]
      exact genuine_measured hmeasures
    · rw [hval2]
      exact genuine_step hkept
  · rw [distanceReadings_step_of_other (not_and.mp hmeasures)]
    exact genuine_step hkept

/-! ### One step -/

theorem coherent_work (config : Config) (devEnv devVl53l0x : Option SensorDevice)
    (hcoherent : Coherent state) :
    Coherent (step kCycToUsFloor64 chan state (.work config devEnv devVl53l0x)) := by
  obtain ⟨driver, readings, todo⟩ := state
  cases todo with
  | nil =>
      refine ⟨hcoherent.held, List.suffix_rfl, fun sensor todo htodo => ?_⟩
      cases htodo
  | cons assignment todo => exact hcoherent

theorem coherent_thread (hcoherent : Coherent state) :
    Coherent (step kCycToUsFloor64 chan state .thread) := by
  obtain ⟨driver, readings, todo⟩ := state
  cases todo with
  | nil => exact hcoherent
  | cons assignment todo =>
      refine ⟨hcoherent.held, (List.suffix_cons _ _).trans hcoherent.position, ?_⟩
      rintro sensor rest rfl
      obtain rfl := eq_val1_of_before_val2 hcoherent.position
      have hheld : Genuine driver sensor (driver.distanceReadings sensor) := hcoherent.held sensor
      simpa [step, Assignment.sensor, Assignment.assign] using hheld

theorem coherent_interrupt (hcoherent : Coherent state)
    (hmetre : SameMetre kCycToUsFloor64 state (.interrupt event)) :
    Coherent (step kCycToUsFloor64 chan state (.interrupt event)) where
  held := genuine_held_step hcoherent
  position := hcoherent.position
  halfCopied := fun _ _ htodo => genuine_halfCopied_step hcoherent hmetre htodo

theorem untorn_of_coherent (hcoherent : Coherent state) (event : Event) :
    Untorn kCycToUsFloor64 chan state event := by
  cases event with
  | work config devEnv devVl53l0x => trivial
  | interrupt event => trivial
  | thread =>
      intro sensor todo htodo
      have hdelivered := hcoherent.halfCopied sensor todo htodo
      obtain ⟨driver, readings, todo⟩ := state
      subst htodo
      simpa [step, Assignment.sensor, Assignment.assign] using hdelivered

theorem coherent_start (outcome : Hcsr.InitOutcome) (readings : Nat → SensorData) :
    Coherent (start outcome readings) := by
  obtain ⟨trig, echo, timerStarted, -, hinit⟩ := Hcsr.hcsrInit_boot outcome
  rw [start, hinit]
  exact {
    held := fun _ => .inl rfl
    position := List.nil_suffix
    halfCopied := fun _ _ htodo => nomatch htodo }

end

/-- **Whole readings.** Whatever the initialisation came to and whatever the table held, along every
run in which no measurement between the two copies changes both the metres and the remainder, each
call of `hcsr_get` delivers a reading that its sensor had. -/
theorem untorn_of_sameMetre (kCycToUsFloor64 : BitVec 64 → BitVec 64)
    (chan : SensorChannel → BitVec 32) (outcome : Hcsr.InitOutcome) (readings : Nat → SensorData)
    (events : List Event)
    (hmetre : Along (step kCycToUsFloor64 chan) (SameMetre kCycToUsFloor64)
      (start outcome readings) events) :
    Along (step kCycToUsFloor64 chan) (Untorn kCycToUsFloor64 chan) (start outcome readings)
      events := by
  refine along_of_invariant (fun state event hcoherent hmetre => ?_)
    (coherent_start outcome readings) hmetre
  refine ⟨?_, untorn_of_coherent hcoherent event⟩
  cases event with
  | work config devEnv devVl53l0x => exact coherent_work config devEnv devVl53l0x hcoherent
  | thread => exact coherent_thread hcoherent
  | interrupt event => exact coherent_interrupt hcoherent hmetre

/-! ### A measurement between the two copies -/

def emptyReadings : Nat → SensorData := fun _ => ⟨0, 0, ⟨0, 0⟩⟩

/-- Sensor 1 measures 0.996030 m, and in its next turn its pulse has begun. -/
def measuringRun : List Hcsr.Event :=
  [.timer 1000, .edge 1 .rising 1030, .edge 1 .falling 1222, .timer 14107, .timer 27214,
    .edge 1 .rising 27230]

def copyingRun : List Event :=
  .work ⟨false, false⟩ none none :: List.replicate 5 .thread

/-- The second pulse ends between the two copies of sensor 1's reading. -/
def interruptedRun (now : BitVec 32) : List Event :=
  measuringRun.map .interrupt ++ (copyingRun ++ [.interrupt (.edge 1 .falling now), .thread])

/-- The driver once sensor 1 has measured `value` and awaits the end of its next pulse. -/
def measuring (value : SensorValue) : Hcsr.State :=
  { Hcsr.initialised with
    trigTime := 27230
    curDistSensor := 1
    trigType := 1
    distanceReadings := Function.update (fun _ => ⟨0, 0⟩) 1 value
    echo := Function.update (fun _ => ⟨true, some .rising, true⟩) 1 ⟨true, some .falling, true⟩
    stores := [(1, value)] }

theorem measures_measuring (value : SensorValue) (now : BitVec 32) :
    (measuring value).Measures (.edge 1 .falling now) :=
  ⟨⟨rfl, rfl⟩, by simp [measuring]⟩

theorem run_interrupts {kCycToUsFloor64 : BitVec 64 → BitVec 64} {chan : SensorChannel → BitVec 32}
    (state : State) (events : List Hcsr.Event) :
    run (step kCycToUsFloor64 chan) state (events.map .interrupt) =
      { state with driver := run (Hcsr.step kCycToUsFloor64) state.driver events } := by
  induction events generalizing state with
  | nil => rfl
  | cons event events ih => exact ih _

theorem run_measuringRun (chan : SensorChannel → BitVec 32) (readings : Nat → SensorData) :
    run (step (Hcsr.cycToUsFloor64 32768) chan) (start Hcsr.allReady readings)
        (measuringRun.map .interrupt) = ⟨measuring ⟨0, 996030⟩, readings, []⟩ := by
  have hvalue : Hcsr.distanceValue 5859#64 = ⟨0#32, 996030#32⟩ := by decide
  rw [run_interrupts, start, Hcsr.hcsrInit_eq_initialised (by decide)]
  simp [measuringRun, Hcsr.initialised, Hcsr.boot, Hcsr.step_timer_eq, Hcsr.hcsrTimingHandler_eq,
    Hcsr.step_edge_eq, Hcsr.State.Interrupts, Hcsr.SensorNo.not, Hcsr.storeReading,
    Hcsr.elapsedCycles, Hcsr.cycToUsFloor64, measuring, hvalue]
  funext sensor
  fin_cases sensor <;> rfl

theorem run_copyingRun (kCycToUsFloor64 : BitVec 64 → BitVec 64) (chan : SensorChannel → BitVec 32)
    (value : SensorValue) :
    ∃ readings, run (step kCycToUsFloor64 chan) ⟨measuring value, emptyReadings, []⟩ copyingRun =
        ⟨measuring value, readings, [.val2 1]⟩
      ∧ (readings (slot 1)).dataChannel = ⟨value.val1, 0⟩ :=
  ⟨_, rfl, rfl⟩

/-- The second pulse measures 1.001130 m: the thread delivers 0 metres and 1130 micrometres, which
the sensor never read. -/
theorem interruptedRun_torn :
    ¬ Along (step (Hcsr.cycToUsFloor64 32768) SensorChannel.number)
      (Untorn (Hcsr.cycToUsFloor64 32768) SensorChannel.number)
      (start Hcsr.allReady emptyReadings) (interruptedRun 27423) := by
  have hsecond : Hcsr.step (Hcsr.cycToUsFloor64 32768) (measuring ⟨0, 996030⟩)
      (.edge 1 .falling 27423) = Hcsr.storeReading 1 ⟨1, 1130⟩ (measuring ⟨0, 996030⟩) := by
    have hvalue : Hcsr.distanceValue (Hcsr.cycToUsFloor64 32768
        (Hcsr.elapsedCycles 27423 (measuring ⟨0, 996030⟩))) = ⟨1, 1130⟩ := by decide
    have hturn : (measuring ⟨0, 996030⟩).curDistSensor = 1 := rfl
    rw [Hcsr.step_of_measures (measures_measuring _ _), Hcsr.Event.now, hvalue, hturn]
  obtain ⟨readings, hrun, hcopied⟩ :=
    run_copyingRun (Hcsr.cycToUsFloor64 32768) SensorChannel.number ⟨0, 996030⟩
  rw [interruptedRun, along_append, along_append, run_measuringRun, hrun]
  rintro ⟨-, -, -, htorn, -⟩
  have hgenuine := htorn 1 [] rfl
  simp only [step, hsecond, Assignment.sensor, Assignment.assign, Function.update_self,
    hcopied] at hgenuine
  simp [Genuine, Hcsr.storeReading, measuring] at hgenuine

theorem sameMetre_interrupts {kCycToUsFloor64 : BitVec 64 → BitVec 64}
    {chan : SensorChannel → BitVec 32} {state : State} (hidle : state.todo = [])
    (events : List Hcsr.Event) :
    Along (step kCycToUsFloor64 chan) (SameMetre kCycToUsFloor64) state
      (events.map .interrupt) := by
  induction events generalizing state with
  | nil => trivial
  | cons event events ih =>
      refine ⟨fun _ todo htodo => ?_, ih hidle⟩
      rw [hidle] at htodo
      cases htodo

/-- A second pulse of under a metre leaves the reading whole, though it ends between the copies. -/
theorem interruptedRun_untorn :
    Along (step (Hcsr.cycToUsFloor64 32768) SensorChannel.number)
      (Untorn (Hcsr.cycToUsFloor64 32768) SensorChannel.number)
      (start Hcsr.allReady emptyReadings) (interruptedRun 27233) := by
  refine untorn_of_sameMetre (Hcsr.cycToUsFloor64 32768) SensorChannel.number Hcsr.allReady
    emptyReadings (interruptedRun 27233) ?_
  obtain ⟨readings, hrun, hcopied⟩ :=
    run_copyingRun (Hcsr.cycToUsFloor64 32768) SensorChannel.number ⟨0, 996030⟩
  rw [interruptedRun, along_append, along_append, run_measuringRun, hrun]
  refine ⟨sameMetre_interrupts rfl measuringRun, by simp [copyingRun, List.replicate, SameMetre], ?_,
    trivial, trivial⟩
  rintro - todo -
  left
  have hvalue : (measured (Hcsr.cycToUsFloor64 32768) (measuring ⟨0, 996030⟩)
      (.edge 1 .falling 27233)).val1 = 0 := by decide
  exact hvalue.trans (congrArg SensorValue.val1 hcopied).symm

end RcFirmware.ReadingThread
