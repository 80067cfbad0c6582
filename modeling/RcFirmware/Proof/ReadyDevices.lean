import RcFirmware.Devices

/-!
# Devices that are not ready

Every check of readiness ends in the log. The pointers are set whatever the check came to, so past
initialisation what keeps a call from a device is that the sensor is disabled or not there, or that
the motor command names no bridge or no direction. The fetch of the soil sensor sets the ADC up before
it asks, and the third PWM controller has no users.
-/

namespace RcFirmware.Devices

open StepMachine

/-- Every call made so far went to a device that is ready. -/
def Board.UsesReady (board : Board) (state : State) : Prop :=
  ∀ use ∈ state.uses, board.deviceIsReady use.dev = true

/-- The devices a call turns to. -/
def Board.Reaches (board : Board) : Call → Device → Prop
  | .initSensors, _ => False
  | .motorInit, _ => False
  | .workMakeReadingsAndSend _ _, dev =>
      board.found dev = true
        ∧ (dev = .bme280 ∧ board.config.bme280 = true ∨ dev = .vl53l0x ∧ board.config.vl53l0x = true)
  | .motorSetSpeed command, dev => ∃ target, command.target? = some target ∧ dev = .pwm target.1.dev
  | .capSensorSampleFetch _, dev => dev = .adc

/-! ### After initialisation -/

structure Initialised (board : Board) (state : State) : Prop where
  devEnv : board.config.bme280 = true → state.devEnv = board.deviceDtGetAny .bme280
  devVl53l0x : board.config.vl53l0x = true → state.devVl53l0x = board.deviceDtGetAny .vl53l0x
  pwmDev : ∀ dev, state.pwmDev dev = some (.pwm dev)

section

variable {board : Board} {state : State}

theorem pwmDev_motorInit (dev : Motor.PwmDev) :
    (motorInit board state).pwmDev dev = some (.pwm dev) := by
  cases dev <;> rfl

theorem devEnv_initSensors (henabled : board.config.bme280 = true) :
    (initSensors board state).devEnv = board.deviceDtGetAny .bme280 := by
  unfold initSensors
  rw [if_pos henabled]
  split_ifs <;> rfl

theorem devVl53l0x_initSensors (henabled : board.config.vl53l0x = true) :
    (initSensors board state).devVl53l0x = board.deviceDtGetAny .vl53l0x := by
  simp [initSensors, henabled]

theorem pwmDev_initSensors : (initSensors board state).pwmDev = state.pwmDev := by
  unfold initSensors
  split_ifs <;> rfl

theorem initialised_boot :
    Initialised board (run (step board) boot [.initSensors, .motorInit]) where
  devEnv := devEnv_initSensors
  devVl53l0x := devVl53l0x_initSensors
  pwmDev := pwmDev_motorInit

theorem initialised_step (hinit : Initialised board state) (call : Call) :
    Initialised board (step board state call) := by
  cases call with
  | initSensors =>
      refine ⟨devEnv_initSensors, devVl53l0x_initSensors, fun dev => ?_⟩
      rw [step, pwmDev_initSensors]
      exact hinit.pwmDev dev
  | motorInit => exact ⟨hinit.devEnv, hinit.devVl53l0x, pwmDev_motorInit⟩
  | workMakeReadingsAndSend sensor hcsr => exact ⟨hinit.devEnv, hinit.devVl53l0x, hinit.pwmDev⟩
  | motorSetSpeed command => exact ⟨hinit.devEnv, hinit.devVl53l0x, hinit.pwmDev⟩
  | capSensorSampleFetch outcomes => exact ⟨hinit.devEnv, hinit.devVl53l0x, hinit.pwmDev⟩

/-! ### One call -/

theorem sensorUses_ready_iff {enabled : Bool} {dev : Device} {ptr : DevicePtr}
    (hptr : enabled = true → ptr = board.deviceDtGetAny dev) (sampleFetch : Int)
    (channels : List (BitVec 32)) :
    (∀ use ∈ sensorUses enabled ptr sampleFetch channels, board.deviceIsReady use.dev = true)
      ↔ (enabled = true → board.found dev = true → board.ready dev = true) := by
  cases enabled with
  | false => simp [sensorUses]
  | true =>
      rw [hptr rfl, Board.deviceDtGetAny]
      by_cases hfound : board.found dev = true
      · by_cases hfetch : sampleFetch ≠ 0 <;>
          simp +contextual [sensorUses, hfound, hfetch, Board.deviceIsReady]
      · simp [sensorUses, hfound]

theorem motorUses_ready_iff (hinit : Initialised board state) (command : Motor.Command) :
    (∀ use ∈ motorUses state.pwmDev command, board.deviceIsReady use.dev = true)
      ↔ ∀ target, command.target? = some target → board.ready (.pwm target.1.dev) = true := by
  cases htarget : command.target? with
  | none => simp [motorUses, Motor.motorSetSpeed_of_no_target htarget]
  | some target =>
      obtain ⟨bridge, direction⟩ := target
      obtain ⟨hmotor, hdir⟩ := Motor.target?_eq_some_iff.mp htarget
      rw [motorUses, hmotor, hdir, Motor.motorSetSpeed_of_target]
      cases bridge.modulatedFirst direction <;> simp [hinit.pwmDev, Board.deviceIsReady]

theorem dev_of_mem_soilUses {returned : CapSensor.Returned} {use : Use}
    (huse : use ∈ soilUses returned) : use.dev = some .adc := by
  obtain ⟨command, -, hcommand⟩ := List.mem_filterMap.mp huse
  cases command <;> cases hcommand <;> rfl

/-- The channels are set up before the fetch asks whether the ADC is ready. -/
theorem adcChannelSetup_mem_soilUses (outcomes : CapSensor.Outcomes) :
    ⟨some .adc, .adcChannelSetup .vdd⟩ ∈ soilUses (soilFetch board outcomes state) := by
  cases hready : board.ready .adc <;>
    simp [soilUses, soilFetch, CapSensor.capSensorSampleFetch, adcUse, hready]

theorem soilUses_ready_iff (outcomes : CapSensor.Outcomes) :
    (∀ use ∈ soilUses (soilFetch board outcomes state), board.deviceIsReady use.dev = true)
      ↔ board.ready .adc = true := by
  constructor
  · intro hready
    exact hready _ (adcChannelSetup_mem_soilUses outcomes)
  · intro hready use huse
    rw [dev_of_mem_soilUses huse]
    exact hready

theorem issued_ready_iff (hinit : Initialised board state) (call : Call) :
    (∀ use ∈ issued board state call, board.deviceIsReady use.dev = true)
      ↔ ∀ dev, board.Reaches call dev → board.ready dev = true := by
  cases call with
  | initSensors => simp [issued, Board.Reaches]
  | motorInit => simp [issued, Board.Reaches]
  | workMakeReadingsAndSend sensor hcsr =>
      rw [issued, workUses, List.forall_mem_append, sensorUses_ready_iff hinit.devEnv,
        sensorUses_ready_iff hinit.devVl53l0x]
      constructor
      · rintro ⟨henv, hvl53l0x⟩ dev ⟨hfound, ⟨rfl, henabled⟩ | ⟨rfl, henabled⟩⟩
        · exact henv henabled hfound
        · exact hvl53l0x henabled hfound
      · intro hreached
        exact ⟨fun henabled hfound => hreached .bme280 ⟨hfound, .inl ⟨rfl, henabled⟩⟩,
          fun henabled hfound => hreached .vl53l0x ⟨hfound, .inr ⟨rfl, henabled⟩⟩⟩
  | motorSetSpeed command =>
      rw [issued, motorUses_ready_iff hinit]
      constructor
      · rintro hready _ ⟨target, htarget, rfl⟩
        exact hready target htarget
      · intro hreached target htarget
        exact hreached _ ⟨target, htarget, rfl⟩
  | capSensorSampleFetch outcomes =>
      rw [issued, soilUses_ready_iff]
      simp only [Board.Reaches, forall_eq]

/-! ### Runs -/

theorem usesReady_run_iff (huses : state.uses = []) (calls : List Call) :
    board.UsesReady (run (step board) state calls)
      ↔ Along (step board)
          (fun state call => ∀ use ∈ issued board state call, board.deviceIsReady use.dev = true)
          state calls := by
  refine (forall_mem_log_iff uses_step).trans (and_iff_right ?_)
  simp [huses]

theorem uses_init : (run (step board) boot [.initSensors, .motorInit]).uses = [] := by
  rw [run_cons, run_cons, run_nil, uses_step, uses_step]
  rfl

/-- **Ready devices.** On every board, after initialisation and any sequence of calls, every driver
call made so far went to a ready device exactly when the devices the calls turn to are ready. -/
theorem usesReady_iff (board : Board) (calls : List Call) :
    board.UsesReady (run (step board) boot (.initSensors :: .motorInit :: calls))
      ↔ ∀ call ∈ calls, ∀ dev, board.Reaches call dev → board.ready dev = true := by
  have hkept : ∀ state call, Initialised board state → Initialised board (step board state call) :=
    fun _ call hinit => initialised_step hinit call
  have hready : ∀ state call, Initialised board state →
      ((∀ use ∈ issued board state call, board.deviceIsReady use.dev = true)
        ↔ ∀ dev, board.Reaches call dev → board.ready dev = true) :=
    fun _ call hinit => issued_ready_iff hinit call
  calc
    board.UsesReady (run (step board) boot (.initSensors :: .motorInit :: calls))
      ↔ Along (step board)
          (fun state call => ∀ use ∈ issued board state call, board.deviceIsReady use.dev = true)
          (run (step board) boot [.initSensors, .motorInit]) calls :=
        usesReady_run_iff uses_init calls
    _ ↔ Along (step board) (fun _ call => ∀ dev, board.Reaches call dev → board.ready dev = true)
          (run (step board) boot [.initSensors, .motorInit]) calls :=
        along_congr_of_invariant hkept hready initialised_boot
    _ ↔ ∀ call ∈ calls, ∀ dev, board.Reaches call dev → board.ready dev = true :=
        along_event_iff

end

/-- Everything on the board came up but the controller of the left motor. -/
def leftMotorDown : Board where
  config := ⟨true, true⟩
  soilConfig := ⟨5, 2, 0⟩
  chan := fun _ => 0
  found := fun _ => true
  ready := fun dev => dev != .pwm .pwm3

/-- The check fails at initialisation, and the first command to the left motor goes out all the
same. -/
theorem leftMotorDown_used :
    ¬ leftMotorDown.UsesReady (run (step leftMotorDown) boot
      [.initSensors, .motorInit, .motorSetSpeed ⟨Motor.motorLeft, Motor.dirForward, 100⟩]) := by
  intro hready
  have huse := hready ⟨some (.pwm .pwm3), .pwmPinSetCycles Motor.motor10PwmPort 200 100 0⟩ (by decide)
  exact absurd huse (by decide)

end RcFirmware.Devices
