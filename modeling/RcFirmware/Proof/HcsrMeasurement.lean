import RcFirmware.Hcsr

/-!
# When an echo pulse is measured

The rig is the driver with the hardware in front of it: the timer triggers a sensor, and the sensor
answers with at most one pulse on its echo pin before the timer expires again. The law is that every
complete pulse is stored once, at its falling edge, and that nothing else is stored.

Sensor 1's turn re-arms all that the handler looks at, so its pulses are always measured. Sensor 0's
turn re-arms nothing: the handler finds `trig_type` and the pin's interrupt as earlier cycles left
them, and the pulse is measured when they were left as `hcsr_init` had them.
-/

namespace RcFirmware.Hcsr

open StepMachine

/-- The echo line of the sensor last triggered: nothing more to come, waiting for its pulse, or high
since the counter read `rise`. -/
inductive Line where
  | idle
  | armed (sensor : SensorNo)
  | high (sensor : SensorNo) (rise : BitVec 32)
  deriving DecidableEq

def Line.next (triggered : SensorNo) : Event → Line
  | .timer _ => .armed triggered
  | .edge pin .rising now => .high pin now
  | .edge _ .falling _ => .idle

def Line.rise? : Line → Option (BitVec 32)
  | .high _ rise => some rise
  | _ => none

def Line.allows : Line → Event → Bool
  | .idle, .timer _ => true
  | .armed _, .timer _ => true
  | .armed sensor, .edge pin .rising _ => pin = sensor
  | .high sensor _, .edge pin .falling _ => pin = sensor
  | _, _ => false

structure Rig where
  driver : State
  line : Line
  clock : BitVec 32

def Rig.step (kCycToUsFloor64 : BitVec 64 → BitVec 64) (rig : Rig) (event : Event) : Rig :=
  let driver := Hcsr.step kCycToUsFloor64 rig.driver event
  { driver := driver
    line := Line.next driver.curDistSensor event
    clock := event.now }

def Rig.WellBehaved (rig : Rig) (event : Event) : Prop :=
  rig.clock ≤ event.now ∧ rig.line.allows event = true

def pulseUs (kCycToUsFloor64 : BitVec 64 → BitVec 64) (rise fall : BitVec 32) : Nat :=
  (kCycToUsFloor64 (BitVec.ofNat 64 (fall.toNat - rise.toNat))).toNat

/-- The law: the edge that completes a pulse stores one reading, of its sensor and worth 170
micrometres a microsecond, and no other event stores any. -/
def Rig.MeasuresPulse (kCycToUsFloor64 : BitVec 64 → BitVec 64) (rig : Rig) (event : Event) : Prop :=
  let next := Hcsr.step kCycToUsFloor64 rig.driver event
  match rig.line, event with
  | .high _ rise, .edge pin .falling fall =>
      ∃ value, next.stores = rig.driver.stores ++ [(pin, value)]
        ∧ next.distanceReadings = Function.update rig.driver.distanceReadings pin value
        ∧ value.micro = 170 * pulseUs kCycToUsFloor64 rise fall
  | _, _ =>
      next.stores = rig.driver.stores ∧ next.distanceReadings = rig.driver.distanceReadings

/-- When the law holds: sensor 0's pulse finds the handler as `hcsr_init` left it, and no pulse is so
long that its micrometres leave an `int`. -/
def Rig.Rearmed (kCycToUsFloor64 : BitVec 64 → BitVec 64) (rig : Rig) : Event → Prop
  | .timer _ => True
  | .edge pin .rising _ =>
      pin = 0 → rig.driver.trigType = 0#8 ∧ (rig.driver.echo 0).interrupt = some .rising
  | .edge _ .falling fall =>
      ∀ rise ∈ rig.line.rise?, 170 * pulseUs kCycToUsFloor64 rise fall < 2 ^ 31

def Rig.Tracks (rig : Rig) : Prop :=
  match rig.line with
  | .idle => True
  | .armed sensor =>
      rig.driver.curDistSensor = sensor ∧ (rig.driver.echo sensor).callbackAdded = true
        ∧ (sensor ≠ 0 → rig.driver.trigType = 0#8
          ∧ (rig.driver.echo sensor).interrupt = some .rising)
  | .high sensor rise =>
      rig.driver.curDistSensor = sensor ∧ rig.driver.Interrupts sensor .falling
        ∧ rig.driver.trigType ≠ 0#8 ∧ rig.driver.trigTime = rise.setWidth 64 ∧ rise ≤ rig.clock

def Rig.start (driver : State) : Rig := ⟨driver, .idle, 0⟩

variable {kCycToUsFloor64 : BitVec 64 → BitVec 64} {rig : Rig}

/-! ### One event -/

theorem Rig.timer_measuresPulse (now : BitVec 32) :
    rig.MeasuresPulse kCycToUsFloor64 (.timer now) := by
  have hidle : ¬ rig.driver.Measures (.timer now) := id
  have hstores := @step_of_not_measures kCycToUsFloor64 _ _ hidle
  cases hline : rig.line <;> simpa only [MeasuresPulse, hline] using hstores

theorem Rig.timer_tracks (now : BitVec 32) : (rig.step kCycToUsFloor64 (.timer now)).Tracks := by
  simp only [Tracks, step, Line.next, Hcsr.step, hcsrTimingHandler_eq]
  refine ⟨trivial, by simp, fun hturn => ⟨if_neg hturn, ?_⟩⟩
  simp [hturn]

theorem Rig.rising_step {pin : SensorNo} {now : BitVec 32}
    (hadded : (rig.driver.echo pin).callbackAdded = true)
    (hturn : rig.driver.curDistSensor = pin)
    (harmed : rig.driver.trigType = 0#8 ∧ (rig.driver.echo pin).interrupt = some .rising) :
    rig.MeasuresPulse kCycToUsFloor64 (.edge pin .rising now)
      ∧ (rig.step kCycToUsFloor64 (.edge pin .rising now)).Tracks := by
  have hinterrupts : rig.driver.Interrupts pin .rising := ⟨hadded, harmed.2⟩
  have hnext : Hcsr.step kCycToUsFloor64 rig.driver (.edge pin .rising now) =
      echoReturned kCycToUsFloor64 now rig.driver := if_pos hinterrupts
  constructor
  · have hstarts : ¬ rig.driver.Measures (.edge pin .rising now) := fun h => h.2 harmed.1
    have hstores := @step_of_not_measures kCycToUsFloor64 _ _ hstarts
    cases hline : rig.line <;> simpa only [MeasuresPulse, hline] using hstores
  · subst hturn
    simp only [Tracks, step, Line.next, hnext, echoReturned_of_start harmed.1]
    refine ⟨trivial, ?_, by simp, trivial, BitVec.le_refl _⟩
    simp [State.Interrupts]

theorem Rig.falling_measuresPulse {sensor : SensorNo} {rise fall : BitVec 32}
    (hline : rig.line = .high sensor rise) (htracks : rig.Tracks)
    (hclock : rig.clock ≤ fall) (hfits : 170 * pulseUs kCycToUsFloor64 rise fall < 2 ^ 31) :
    rig.MeasuresPulse kCycToUsFloor64 (.edge sensor .falling fall) := by
  simp only [Tracks, hline] at htracks
  obtain ⟨hturn, hinterrupts, hopen, hstamp, hrise⟩ := htracks
  have helapsed : elapsedCycles fall rig.driver = BitVec.ofNat 64 (fall.toNat - rise.toNat) := by
    have hle : rise ≤ fall := BitVec.le_trans hrise hclock
    have hlt := fall.isLt
    rw [elapsedCycles, hstamp, (Word.setWidth_sub_eq_iff (by decide) fall rise).mpr hle]
    rw [BitVec.le_def] at hle
    rw [BitVec.toNat_eq, BitVec.toNat_setWidth, BitVec.toNat_ofNat, BitVec.toNat_sub]
    omega
  have hmeasures : rig.driver.Measures (.edge sensor .falling fall) := ⟨hinterrupts, hopen⟩
  have hnext := @step_of_measures kCycToUsFloor64 _ _ hmeasures
  simp only [MeasuresPulse, hline, hnext, Event.now, helapsed, hturn]
  refine ⟨_, rfl, rfl, ?_⟩
  rw [distanceValue_micro, distance_toInt hfits]
  rfl

theorem Rig.step_tracks {event : Event} (htracks : rig.Tracks)
    (hbehaved : rig.WellBehaved event) (hrearmed : rig.Rearmed kCycToUsFloor64 event) :
    (rig.step kCycToUsFloor64 event).Tracks ∧ rig.MeasuresPulse kCycToUsFloor64 event := by
  obtain ⟨hclock, hallows⟩ := hbehaved
  cases event with
  | timer now => exact ⟨timer_tracks now, timer_measuresPulse now⟩
  | edge pin direction now =>
      cases hline : rig.line with
      | idle => simp [hline, Line.allows] at hallows
      | armed sensor =>
          cases direction with
          | falling => simp [hline, Line.allows] at hallows
          | rising =>
              have hpin : pin = sensor := by simpa [hline, Line.allows] using hallows
              subst hpin
              simp only [Tracks, hline] at htracks
              obtain ⟨hturn, hadded, hone⟩ := htracks
              have harmed : rig.driver.trigType = 0#8
                  ∧ (rig.driver.echo pin).interrupt = some .rising := by
                by_cases hzero : pin = 0
                · simpa [hzero] using hrearmed hzero
                · exact hone hzero
              exact (rising_step hadded hturn harmed).symm
      | high sensor rise =>
          cases direction with
          | rising => simp [hline, Line.allows] at hallows
          | falling =>
              have hpin : pin = sensor := by simpa [hline, Line.allows] using hallows
              subst hpin
              have hfits := hrearmed rise (by rw [hline]; rfl)
              refine ⟨?_, falling_measuresPulse hline htracks hclock hfits⟩
              simp [Tracks, step, Line.next]

/-! ### Whole runs -/

/-- **The measurement law.** In every well-behaved run in which sensor 0's pulses find the handler as
`hcsr_init` left it and no pulse overflows, each pulse is stored exactly once, with the right value,
and nothing else is stored. -/
theorem measuresPulses_of_rearmed (kCycToUsFloor64 : BitVec 64 → BitVec 64) (outcome : InitOutcome)
    (events : List Event)
    (hbehaved : Along (Rig.step kCycToUsFloor64) Rig.WellBehaved
      (Rig.start (hcsrInit outcome boot)) events)
    (hrearmed : Along (Rig.step kCycToUsFloor64) (Rig.Rearmed kCycToUsFloor64)
      (Rig.start (hcsrInit outcome boot)) events) :
    Along (Rig.step kCycToUsFloor64) (Rig.MeasuresPulse kCycToUsFloor64)
      (Rig.start (hcsrInit outcome boot)) events :=
  along_of_invariant (fun _ _ htracks hcondition => Rig.step_tracks htracks hcondition.1 hcondition.2)
    trivial (along_and.mpr ⟨hbehaved, hrearmed⟩)

def sparseRun : List Event :=
  [.timer 1000, .timer 14107, .edge 0 .rising 14120, .edge 0 .falling 14150, .timer 27214,
    .edge 1 .rising 27230, .edge 1 .falling 27300]

theorem sparseRun_measured :
    Along (Rig.step (cycToUsFloor64 32768)) (Rig.MeasuresPulse (cycToUsFloor64 32768))
      (Rig.start (hcsrInit allReady boot)) sparseRun := by
  refine measuresPulses_of_rearmed (cycToUsFloor64 32768) allReady sparseRun ?_ ?_ <;>
    rw [hcsrInit_eq_initialised (by decide)] <;>
    simp [sparseRun, Rig.start, Rig.WellBehaved, Rig.Rearmed, Rig.step, Line.next, Line.allows,
      Line.rise?, Event.now, initialised, boot, step_timer_eq, hcsrTimingHandler_eq, step_edge_eq,
      State.Interrupts, SensorNo.not, storeReading, pulseUs, cycToUsFloor64]

def bothEchoRun : List Event :=
  [.timer 1000, .edge 1 .rising 1030, .edge 1 .falling 1060, .timer 14107, .edge 0 .rising 14120,
    .edge 0 .falling 14150]

/-- The well-behaved run breaks the law: sensor 0's pulse is stored at its rising edge. -/
theorem bothEchoRun_not_measured :
    Along (Rig.step (cycToUsFloor64 32768)) Rig.WellBehaved
        (Rig.start (hcsrInit allReady boot)) bothEchoRun
      ∧ ¬ Along (Rig.step (cycToUsFloor64 32768)) (Rig.MeasuresPulse (cycToUsFloor64 32768))
        (Rig.start (hcsrInit allReady boot)) bothEchoRun := by
  rw [hcsrInit_eq_initialised (by decide)]
  constructor <;>
    simp [bothEchoRun, Rig.start, Rig.WellBehaved, Rig.MeasuresPulse, Rig.step, Line.next,
      Line.allows, Event.now, initialised, boot, step_timer_eq, hcsrTimingHandler_eq, step_edge_eq,
      State.Interrupts, SensorNo.not, storeReading]

end RcFirmware.Hcsr
