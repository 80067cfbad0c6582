import RcFirmware.Proof.FirmwareReadings
import RcFirmware.Proof.HcsrHistory

/-!
# From the echo pins to the table

A distance reading comes a long way: an edge on an echo pin ends a stretch of time, the interrupt
stores what it makes of it, and a run of the work item copies that to the table field by field, while
interrupts go on. From one end to the other: after a request, each field in the table is that of the
last stretch that the sensor had completed at some time since the request.
-/

namespace RcFirmware.Hcsr

open StepMachine

/-- The driver holds for each sensor what it stored last. -/
def HoldsLast (driver : State) : Prop :=
  ∀ sensor, driver.distanceReadings sensor =
    ((driver.stores.filter fun store => store.1 = sensor).getLast?.map Prod.snd).getD ⟨0, 0⟩

theorem HoldsLast.storeReading {driver : State} (hlast : HoldsLast driver) (sensor : SensorNo)
    (value : SensorValue) : HoldsLast (storeReading sensor value driver) := by
  intro other
  have hreadings : (Hcsr.storeReading sensor value driver).distanceReadings =
      Function.update driver.distanceReadings sensor value := rfl
  have hstores : (Hcsr.storeReading sensor value driver).stores = driver.stores ++ [(sensor, value)] :=
    rfl
  rw [hreadings, hstores, List.filter_append]
  by_cases hother : other = sensor
  · subst hother
    rw [List.filter_singleton, decide_eq_true rfl, cond_true, List.getLast?_concat,
      Function.update_self]
    rfl
  · rw [List.filter_singleton, decide_eq_false (Ne.symm hother), cond_false, List.append_nil,
      Function.update_of_ne hother]
    exact hlast other

theorem HoldsLast.step {driver : State} (hlast : HoldsLast driver)
    (kCycToUsFloor64 : BitVec 64 → BitVec 64) (event : Event) :
    HoldsLast (step kCycToUsFloor64 driver event) := by
  by_cases hmeasures : driver.Measures event
  · rw [step_of_measures hmeasures]
    exact hlast.storeReading _ _
  · obtain ⟨hstores, hreadings⟩ := @step_of_not_measures kCycToUsFloor64 _ _ hmeasures
    rw [HoldsLast, hstores, hreadings]
    exact hlast

/-- The value of the last stretch of time that a sensor has completed, or zero before its first. -/
def lastMeasured (kCycToUsFloor64 : BitVec 64 → BitVec 64) (events : List Event)
    (sensor : SensorNo) : SensorValue :=
  (((spans events).filter fun span => span.sensor = sensor).getLast?.map fun span =>
    (span.reading kCycToUsFloor64).2).getD ⟨0, 0⟩

theorem distanceReadings_run (kCycToUsFloor64 : BitVec 64 → BitVec 64) {outcome : InitOutcome}
    (hinit : (hcsrInit outcome boot).timerStarted = true) {events : List Event}
    (hbehaved : Along History.step History.WellBehaved History.start events) (sensor : SensorNo) :
    (run (step kCycToUsFloor64) (hcsrInit outcome boot) events).distanceReadings sensor =
      lastMeasured kCycToUsFloor64 events sensor := by
  rw [hcsrInit_eq_initialised hinit]
  have hinitialised : HoldsLast initialised := fun _ => rfl
  have hlast : HoldsLast (run (step kCycToUsFloor64) initialised events) :=
    run_invariant (fun _ event hlast _ => hlast.step kCycToUsFloor64 event) hinitialised
      (along_event_iff.mpr fun _ _ => trivial)
  have hstores : (run (step kCycToUsFloor64) initialised events).stores =
      (spans events).map (Span.reading kCycToUsFloor64) :=
    stores_run tracks_initialised hbehaved
  rw [hlast sensor, hstores, List.filter_map, List.getLast?_map, Option.map_map]
  rfl

end RcFirmware.Hcsr

namespace RcFirmware.Firmware

open SensorReading ReadingThread StepMachine

/-- What the distance sensors' driver sees of a run. -/
def Event.atDriver : Event → Option Hcsr.Event
  | .interrupt event => some event
  | _ => none

variable {kernel : Kernel} {chan : SensorChannel → BitVec 32}
  {config : Config} {outcome : Hcsr.InitOutcome}

theorem driver_run (events : List Event) :
    (run (step kernel chan config) (start outcome) events).reading.driver =
      run (Hcsr.step kernel.kCycToUsFloor64) (Hcsr.hcsrInit outcome Hcsr.boot)
        (events.filterMap Event.atDriver) := by
  rw [← run_through]
  refine run_related_same (R := fun (state : State) driver => state.reading.driver = driver)
    (Q := fun _ => True) ?_ rfl fun _ _ => trivial
  rintro state driver event rfl -
  cases event with
  | interrupt event => rfl
  | _ => exact driver_step (by rintro _ ⟨⟩)

theorem held_run (hinit : (Hcsr.hcsrInit outcome Hcsr.boot).timerStarted = true) {events : List Event}
    (hbehaved : Along Hcsr.History.step Hcsr.History.WellBehaved Hcsr.History.start
      (events.filterMap Event.atDriver)) (sensor : Hcsr.SensorNo) :
    (run (step kernel chan config) (start outcome) events).reading.driver.distanceReadings
        sensor =
      Hcsr.lastMeasured kernel.kCycToUsFloor64 (events.filterMap Event.atDriver) sensor := by
  rw [driver_run]
  exact Hcsr.distanceReadings_run kernel.kCycToUsFloor64 hinit hbehaved sensor

/-- **From the echo to the table.** Behind a successful `hcsr_init`, in every run in which the sensors
answer their triggers with at most one pulse each: when the work item has come to rest after a call of
`make_reading_and_send`, each field of a distance reading is that of the last stretch of time that its
sensor had completed at some time since the call, or zero if it had completed none. -/
theorem distances_measured {kernel : Kernel} (hschedules : kernel.Schedules)
    (chan : SensorChannel → BitVec 32) (config : Config) {outcome : Hcsr.InitOutcome}
    (hinit : (Hcsr.hcsrInit outcome Hcsr.boot).timerStarted = true) {earlier later : List Event}
    {pick : Nat}
    (hbehaved : Along Hcsr.History.step Hcsr.History.WellBehaved Hcsr.History.start
      ((earlier ++ .main pick :: later).filterMap Event.atDriver))
    (hrequest : (run (step kernel chan config) (start outcome) earlier).main.head? =
      some .makeReadingAndSend)
    (hrest : (run (step kernel chan config) (start outcome)
      (earlier ++ .main pick :: later)).AtRest) (sensor : Hcsr.SensorNo) (field : Field) :
    ∃ more, more <+: later ∧
      field.get ((run (step kernel chan config) (start outcome)
          (earlier ++ .main pick :: later)).reading.readings (slot sensor)).dataChannel =
        field.get (Hcsr.lastMeasured kernel.kCycToUsFloor64
          ((earlier ++ .main pick :: more).filterMap Event.atDriver) sensor) := by
  rw [run_append] at hrest
  obtain ⟨before, devEnv, devVl53l0x, rest, hmade⟩ := made_of_request hschedules hrequest hrest
  have htodo : field.assignment sensor ∉ (run (step kernel chan config)
      (run (step kernel chan config) (start outcome) earlier)
      (.main pick :: later)).reading.todo := by
    rw [hrest.2]
    exact List.not_mem_nil
  obtain ⟨copied, hcopied, hvalue⟩ := hmade.distances sensor field htodo
  refine ⟨before ++ .work devEnv devVl53l0x :: copied, ?_, ?_⟩
  · rw [hmade.events_eq, List.prefix_append_right_inj]
    exact List.cons_prefix_cons.mpr ⟨rfl, hcopied⟩
  · obtain ⟨missing, hmissing⟩ := hcopied
    have hsplit : earlier ++ .main pick :: later =
        (earlier ++ .main pick :: (before ++ .work devEnv devVl53l0x :: copied)) ++ missing := by
      rw [hmade.events_eq, ← hmissing]
      simp
    rw [hsplit, List.filterMap_append, along_append] at hbehaved
    rw [← @held_run kernel chan config outcome hinit _ hbehaved.1 sensor, run_append,
      run_append, run_cons, run_cons]
    exact hvalue

/-- Sensor 1 sees an echo of ten cycles, and the table says so after the next run of the work item. -/
theorem distances_measured_example :
    let earlier : List Event := [.interrupt (.timer 1000), .interrupt (.edge 1 .rising 1030),
      .interrupt (.edge 1 .falling 1040), .main 0]
    let later : List Event := [.delayOver, .work none none] ++ List.replicate 6 .thread
    ((run (step kernel32768 (fun _ => 0) ⟨false, false⟩) (start Hcsr.allReady)
      (earlier ++ .main 0 :: later)).reading.readings (slot 1)).dataChannel.val2 = 51850 := by
  intro earlier later
  have hbehaved : Along Hcsr.History.step Hcsr.History.WellBehaved Hcsr.History.start
      ((earlier ++ .main 0 :: later).filterMap Event.atDriver) := ⟨rfl, rfl, rfl, trivial⟩
  obtain ⟨more, hmore, hvalue⟩ :=
    @distances_measured kernel32768 kernel32768_schedules (fun _ => 0) ⟨false, false⟩ Hcsr.allReady
      (by decide) earlier later 0 hbehaved rfl ⟨rfl, rfl⟩ 1 .val2
  have hquiet : (.main 0 :: more).filterMap Event.atDriver = [] :=
    List.prefix_nil.mp (hmore.filterMap Event.atDriver)
  rw [List.filterMap_append, hquiet] at hvalue
  exact hvalue.trans (by decide)

end RcFirmware.Firmware
