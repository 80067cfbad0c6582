import RcFirmware.CapSensor

/-!
# Whether a fetch leaves the excitation off

A fetch acquires before it asks whether the ADC is ready, and the return for an ADC that is not comes
before anything is released. Every other outcome of a device call is ignored.
-/

namespace RcFirmware.CapSensor

open StepMachine

/-- The excitation is stopped after it was started, and the ADC powered down after it was up. -/
def Paired (config : Config) (outcomes : Outcomes) (issued : List Command) : Prop :=
  List.Sublist
    (.pmDeviceStateSet .adc .active :: (soilsensorPwm config outcomes .startPwm).2
      ++ (soilsensorPwm config outcomes .stopPwm).2 ++ [.pmDeviceStateSet .adc .suspended]) issued

/-- The fetch stops what it started and leaves every line released. -/
def LeavesOff (config : Config) (state : State) (outcomes : Outcomes) : Prop :=
  Paired config outcomes (capSensorSampleFetch config outcomes state.data).issued
    ∧ (step config state outcomes).lines.Released

theorem issued_of_ready (config : Config) (data : Data) {outcomes : Outcomes}
    (hready : outcomes.adcReady = true) :
    (capSensorSampleFetch config outcomes data).issued =
      [.pmDeviceStateSet .adc .active, .adcChannelSetup .vdd, .adcChannelSetup .cap]
        ++ (soilsensorPwm config outcomes .startPwm).2 ++ [.adcRead .vdd, .adcRead .cap]
        ++ (soilsensorPwm config outcomes .stopPwm).2 ++ [.pmDeviceStateSet .adc .suspended] := by
  simp [capSensorSampleFetch, hready]

theorem paired_of_ready (config : Config) (data : Data) {outcomes : Outcomes}
    (hready : outcomes.adcReady = true) :
    Paired config outcomes (capSensorSampleFetch config outcomes data).issued := by
  rw [issued_of_ready config data hready]
  have hacquire : List.Sublist [Command.pmDeviceStateSet .adc .active]
      [.pmDeviceStateSet .adc .active, .adcChannelSetup .vdd, .adcChannelSetup .cap] := by simp
  have hstart := (hacquire.append_right (soilsensorPwm config outcomes .startPwm).2).trans
    (List.sublist_append_left _ [.adcRead .vdd, .adcRead .cap])
  exact (hstart.append_right _).append_right _

theorem released_of_ready (config : Config) (state : State) {outcomes : Outcomes}
    (hready : outcomes.adcReady = true) : (step config state outcomes).lines.Released := by
  have hlines : (step config state outcomes).lines =
      (capSensorSampleFetch config outcomes state.data).issued.foldl Lines.command state.lines := rfl
  rw [hlines, issued_of_ready config state.data hready]
  constructor
  · rfl
  · rfl
  · rfl
  · intro dev
    cases dev <;> rfl

theorem leavesOff_of_ready (config : Config) (state : State) {outcomes : Outcomes}
    (hready : outcomes.adcReady = true) : LeavesOff config state outcomes :=
  ⟨paired_of_ready config state.data hready, released_of_ready config state hready⟩

theorem power_of_not_ready (config : Config) (state : State) {outcomes : Outcomes}
    (hready : outcomes.adcReady = false) :
    (step config state outcomes).lines.power .adc = .active := by
  simp [step, capSensorSampleFetch, hready, soilsensorPwm, Lines.command]

theorem leavesOff_iff (config : Config) (state : State) (outcomes : Outcomes) :
    LeavesOff config state outcomes ↔ outcomes.adcReady = true := by
  cases hready : outcomes.adcReady with
  | true => exact iff_of_true (leavesOff_of_ready config state hready) rfl
  | false =>
      refine iff_of_false (fun hoff => ?_) Bool.false_ne_true
      have hadc := hoff.2.suspended .adc
      rw [power_of_not_ready config state hready] at hadc
      cases hadc

/-- **The excitation is off after every fetch** of a sequence, from whatever state the sequence
starts in, exactly when the ADC is ready at each of them. -/
theorem along_leavesOff_iff (config : Config) (state : State) (fetches : List Outcomes) :
    Along (step config) (LeavesOff config) state fetches
      ↔ ∀ outcomes ∈ fetches, outcomes.adcReady = true :=
  calc
    Along (step config) (LeavesOff config) state fetches
      ↔ Along (step config) (fun _ outcomes => outcomes.adcReady = true) state fetches :=
        along_congr (leavesOff_iff config)
    _ ↔ ∀ outcomes ∈ fetches, outcomes.adcReady = true := along_event_iff

/-- An idle sensor is asked for a sample while the ADC is not ready: every line stays driven. -/
theorem notReady_leaves_on :
    let config : Config := ⟨5, 2, 0⟩
    ¬ Along (step config) (LeavesOff config)
      ⟨⟨0, 0, 0, 0⟩, ⟨0, .disconnected, 0, 0, fun _ => .suspended⟩⟩
      [⟨false, fun _ => 0, fun _ => none, id⟩] := by
  rintro config ⟨⟨-, hreleased⟩, -⟩
  exact absurd hreleased.gpioLevel (by decide)

end RcFirmware.CapSensor
