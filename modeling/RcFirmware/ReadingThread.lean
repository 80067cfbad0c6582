import RcFirmware.SensorReading

/-!
# The reading thread, one assignment at a time

The work item runs in a thread that the echo interrupt can stop between any two of its assignments.
What it does with the two sensor devices shares nothing with the interrupt and is one step here. The
loop over the distance sensors, with the calls of `hcsr_get` in place, is a list of assignments that
the thread works off.
-/

namespace RcFirmware.ReadingThread

open SensorReading StepMachine

inductive Assignment where
  | measurementType (sensor : Hcsr.SensorNo)
  | val1 (sensor : Hcsr.SensorNo)
  | val2 (sensor : Hcsr.SensorNo)
  deriving DecidableEq, Repr

def hcsrGetAssignments (sensor : Hcsr.SensorNo) : List Assignment := [.val1 sensor, .val2 sensor]

/-- The last loop of `work_make_readings_and_send`. -/
def distanceLoop : List Assignment :=
  [0, 1].flatMap fun sensor => .measurementType sensor :: hcsrGetAssignments sensor

def slot (sensor : Hcsr.SensorNo) : Nat := LogData.hcsr040.slot.toNat + sensor

structure State where
  driver : Hcsr.State
  readings : Nat → SensorData
  todo : List Assignment

inductive Event where
  | work (config : Config) (devEnv devVl53l0x : Option SensorDevice)
  | thread
  | interrupt (event : Hcsr.Event)

section

variable (kCycToUsFloor64 : BitVec 64 → BitVec 64) (chan : SensorChannel → BitVec 32)

def Assignment.sensor : Assignment → Hcsr.SensorNo
  | .measurementType sensor => sensor
  | .val1 sensor => sensor
  | .val2 sensor => sensor

def Assignment.assign (driver : Hcsr.State) (data : SensorData) : Assignment → SensorData
  | .measurementType _ => { data with measurementType := (chan .distance).setWidth 8 }
  | .val1 sensor =>
      { data with
        dataChannel := { data.dataChannel with val1 := (driver.distanceReadings sensor).val1 } }
  | .val2 sensor =>
      { data with
        dataChannel := { data.dataChannel with val2 := (driver.distanceReadings sensor).val2 } }

def deviceBlocks (config : Config) (devEnv devVl53l0x : Option SensorDevice)
    (readings : Nat → SensorData) : Table :=
  let table : Table := ⟨readings, 0, []⟩
  let table := table.storeSensor config.bme280 devEnv .bme280AmbientTemp
    [chan .ambientTemp, chan .press, chan .humidity]
  table.storeSensor config.vl53l0x devVl53l0x .vl53l0xDistance [chan .distance, chan .prox]

/-- The thread does not take the work item up again before it is through with it. -/
def step (state : State) : Event → State
  | .work config devEnv devVl53l0x =>
      match state.todo with
      | [] =>
          { state with
            readings := (deviceBlocks chan config devEnv devVl53l0x state.readings).readings
            todo := distanceLoop }
      | _ :: _ => state
  | .thread =>
      match state.todo with
      | [] => state
      | assignment :: todo =>
          { state with
            readings := Function.update state.readings (slot assignment.sensor)
              (assignment.assign chan state.driver (state.readings (slot assignment.sensor)))
            todo := todo }
  | .interrupt event => { state with driver := Hcsr.step kCycToUsFloor64 state.driver event }

def start (outcome : Hcsr.InitOutcome) (readings : Nat → SensorData) : State :=
  ⟨Hcsr.hcsrInit outcome Hcsr.boot, readings, []⟩

/-! ### Without interrupts -/

variable {kCycToUsFloor64 chan}

theorem readings_storeFrom_two (table : Table) (first second : Reading) :
    (table.storeFrom .hcsr040 [first, second]).readings =
      Function.update (Function.update table.readings 5 ((table.readings 5).store first)) 6
        ((table.readings 6).store second) := by
  have hroom : LogData.hcsr040.slot.toNat + [first, second].length ≤ 20 :=
    show 5 + 2 ≤ 20 by decide
  funext slot
  obtain hslot | rfl | rfl | hslot : slot < 5 ∨ slot = 5 ∨ slot = 6 ∨ 7 ≤ slot := by omega
  · rw [storeFrom_readings_of_outside hroom (.inl hslot), Function.update_of_ne (by omega),
      Function.update_of_ne (by omega)]
  · exact storeFrom_readings_of_getElem hroom (k := 0) rfl
  · exact storeFrom_readings_of_getElem hroom (k := 1) rfl
  · rw [storeFrom_readings_of_outside hroom (.inr hslot), Function.update_of_ne (by omega),
      Function.update_of_ne (by omega)]

/-- The three assignments of one turn of the loop make one store. -/
theorem run_turn (driver : Hcsr.State) (readings : Nat → SensorData) (sensor : Hcsr.SensorNo)
    (todo : List Assignment) :
    run (step kCycToUsFloor64 chan)
        ⟨driver, readings, .measurementType sensor :: hcsrGetAssignments sensor ++ todo⟩
        (List.replicate 3 .thread) =
      ⟨driver,
        Function.update readings (slot sensor)
          ((readings (slot sensor)).store (chan .distance, fun _ => Hcsr.hcsrGet sensor driver)),
        todo⟩ := by
  simp [List.replicate, hcsrGetAssignments, step, Assignment.assign, Assignment.sensor,
    SensorData.store, Hcsr.hcsrGet]

/-- A work item that nothing interrupts does what `workMakeReadingsAndSend` does. -/
theorem run_uninterrupted (config : Config) (devEnv devVl53l0x : Option SensorDevice)
    (driver : Hcsr.State) (readings : Nat → SensorData) :
    run (step kCycToUsFloor64 chan) ⟨driver, readings, []⟩
        (.work config devEnv devVl53l0x :: (List.replicate 3 .thread ++ List.replicate 3 .thread)) =
      ⟨driver,
        (workMakeReadingsAndSend chan ⟨config, devEnv, devVl53l0x, driver⟩ readings).readings,
        []⟩ := by
  let table := deviceBlocks chan config devEnv devVl53l0x readings
  let first : Reading := (chan .distance, fun _ => Hcsr.hcsrGet 0 driver)
  let second : Reading := (chan .distance, fun _ => Hcsr.hcsrGet 1 driver)
  let between := Function.update table.readings (slot 0) ((table.readings (slot 0)).store first)
  have hwork : (workMakeReadingsAndSend chan ⟨config, devEnv, devVl53l0x, driver⟩ readings).readings =
      Function.update between (slot 1) ((between (slot 1)).store second) := by
    have hslot : between (slot 1) = table.readings 6 := Function.update_of_ne (by decide) _ _
    rw [hslot]
    exact readings_storeFrom_two table first second
  rw [run_cons, run_append, hwork]
  calc
    run (step kCycToUsFloor64 chan) (run (step kCycToUsFloor64 chan)
        ⟨driver, table.readings, distanceLoop⟩ (List.replicate 3 .thread))
        (List.replicate 3 .thread)
      = run (step kCycToUsFloor64 chan)
          ⟨driver, between, .measurementType 1 :: hcsrGetAssignments 1 ++ []⟩
          (List.replicate 3 .thread) :=
        congrArg (run (step kCycToUsFloor64 chan) · (List.replicate 3 .thread))
          (run_turn driver table.readings 0 _)
    _ = ⟨driver, Function.update between (slot 1) ((between (slot 1)).store second), []⟩ :=
        run_turn driver between 1 []

end

end RcFirmware.ReadingThread
