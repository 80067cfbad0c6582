import RcFirmware.CapSensor

/-!
# Which failures a fetch reports

Five device calls of a fetch can fail, and one variable is there to say so. Nothing sets it before it
is tested, the results of the two channel setups and of the excitation are dropped, and the second
read replaces what the first returned. So a fetch reports the second read alone, and what the driver
makes of the raw values it does whatever the reads returned.
-/

namespace RcFirmware.CapSensor

/-- Every device call a fetch depends on succeeds. -/
structure Outcomes.Succeeded (config : Config) (outcomes : Outcomes) : Prop where
  setupVdd : outcomes.result (.adcChannelSetup .vdd) = 0
  setupCap : outcomes.result (.adcChannelSetup .cap) = 0
  startPwm : (soilsensorPwm config outcomes .startPwm).1 = 0
  readVdd : outcomes.result (.adcRead .vdd) = 0
  readCap : outcomes.result (.adcRead .cap) = 0

/-- A fetch that returns 0 had no failure and holds the samples it took, and one with a failed read
returns an error and keeps the millivolts it had. -/
structure ReportsFailures (config : Config) (outcomes : Outcomes) (data : Data) : Prop where
  succeeded : (capSensorSampleFetch config outcomes data).rc = 0 → outcomes.Succeeded config
  fresh : (capSensorSampleFetch config outcomes data).rc = 0 →
    ∃ vdd cap, outcomes.sample .vdd = some vdd ∧ outcomes.sample .cap = some cap
      ∧ (capSensorSampleFetch config outcomes data).data.millisVdd =
        outcomes.rawToMillivolts (vdd.signExtend 32)
      ∧ (capSensorSampleFetch config outcomes data).data.rawCap = cap
  failed : outcomes.result (.adcRead .vdd) ≠ 0 ∨ outcomes.result (.adcRead .cap) ≠ 0 →
    (capSensorSampleFetch config outcomes data).rc ≠ 0
      ∧ (capSensorSampleFetch config outcomes data).data.millisVdd = data.millisVdd
      ∧ (capSensorSampleFetch config outcomes data).data.millisCap = data.millisCap

/-- What the buffer of an input holds after the reads. -/
def Outcomes.buffer (outcomes : Outcomes) (data : Data) : Input → BitVec 16
  | .vdd => (outcomes.sample .vdd).getD data.rawVdd
  | .cap => (outcomes.sample .cap).getD data.rawCap

/-- The buffers convert to the millivolts the driver already has. -/
def Outcomes.KeepsMillis (outcomes : Outcomes) (data : Data) : Prop :=
  outcomes.rawToMillivolts ((outcomes.buffer data .vdd).signExtend 32) = data.millisVdd
    ∧ (outcomes.buffer data .cap).signExtend 32 = data.millisCap

section

variable (config : Config) (data : Data) {outcomes : Outcomes}

theorem fetch_of_not_ready (hready : outcomes.adcReady = false) :
    (capSensorSampleFetch config outcomes data).rc = -enoent
      ∧ (capSensorSampleFetch config outcomes data).data = data := by
  simp [capSensorSampleFetch, hready]

theorem fetch_of_ready (hready : outcomes.adcReady = true) :
    (capSensorSampleFetch config outcomes data).rc = outcomes.result (.adcRead .cap)
      ∧ (capSensorSampleFetch config outcomes data).data =
        { rawCap := outcomes.buffer data .cap
          rawVdd := outcomes.buffer data .vdd
          millisCap := (outcomes.buffer data .cap).signExtend 32
          millisVdd := outcomes.rawToMillivolts ((outcomes.buffer data .vdd).signExtend 32) } := by
  simp [capSensorSampleFetch, hready, Outcomes.buffer]

theorem reportsFailures_of_not_ready (hready : outcomes.adcReady = false) :
    ReportsFailures config outcomes data := by
  obtain ⟨hrc, hdata⟩ := fetch_of_not_ready config data hready
  have hne : (capSensorSampleFetch config outcomes data).rc ≠ 0 := by
    rw [hrc]
    decide
  exact {
    succeeded := fun hzero => absurd hzero hne
    fresh := fun hzero => absurd hzero hne
    failed := fun _ => ⟨hne, congrArg Data.millisVdd hdata, congrArg Data.millisCap hdata⟩ }

theorem reportsFailures_of_succeeded (hready : outcomes.adcReady = true)
    (hread : ∀ input, outcomes.result (.adcRead input) = 0 → (outcomes.sample input).isSome = true)
    (hsucceeded : outcomes.Succeeded config) : ReportsFailures config outcomes data := by
  obtain ⟨-, hdata⟩ := fetch_of_ready config data hready
  obtain ⟨vdd, hvdd⟩ := Option.isSome_iff_exists.mp (hread .vdd hsucceeded.readVdd)
  obtain ⟨cap, hcap⟩ := Option.isSome_iff_exists.mp (hread .cap hsucceeded.readCap)
  exact {
    succeeded := fun _ => hsucceeded
    fresh := fun _ => ⟨vdd, cap, hvdd, hcap, by simp [hdata, Outcomes.buffer, hvdd],
      by simp [hdata, Outcomes.buffer, hcap]⟩
    failed := fun hfailed => hfailed.elim (absurd hsucceeded.readVdd) (absurd hsucceeded.readCap) }

theorem reportsFailures_iff_of_read_failed (hready : outcomes.adcReady = true)
    (hfailed : outcomes.result (.adcRead .cap) ≠ 0) :
    ReportsFailures config outcomes data ↔ outcomes.KeepsMillis data := by
  obtain ⟨hrc, hdata⟩ := fetch_of_ready config data hready
  rw [← hrc] at hfailed
  have hkeeps : outcomes.KeepsMillis data
      ↔ (capSensorSampleFetch config outcomes data).data.millisVdd = data.millisVdd
        ∧ (capSensorSampleFetch config outcomes data).data.millisCap = data.millisCap := by
    rw [hdata]
    rfl
  rw [hkeeps]
  constructor
  · intro hreports
    exact (hreports.failed (.inr (hrc ▸ hfailed))).2
  · intro hmillis
    exact {
      succeeded := fun hzero => absurd hzero hfailed
      fresh := fun hzero => absurd hzero hfailed
      failed := fun _ => ⟨hfailed, hmillis⟩ }

/-- **What a fetch reports.** Where a successful read fills its buffer, a fetch reports its failures
exactly when it stops at an ADC that is not ready, or nothing failed, or the second read failed and
the buffers convert to the millivolts the driver has already. -/
theorem reportsFailures_iff
    (hread : ∀ input, outcomes.result (.adcRead input) = 0 →
      (outcomes.sample input).isSome = true) :
    ReportsFailures config outcomes data
      ↔ outcomes.adcReady = false ∨ outcomes.Succeeded config
        ∨ outcomes.result (.adcRead .cap) ≠ 0 ∧ outcomes.KeepsMillis data := by
  cases hready : outcomes.adcReady with
  | false => exact iff_of_true (reportsFailures_of_not_ready config data hready) (.inl rfl)
  | true =>
      rw [or_iff_right Bool.true_eq_false.mp]
      by_cases hfailed : outcomes.result (.adcRead .cap) = 0
      · rw [or_iff_left (fun h => h.1 hfailed)]
        constructor
        · exact fun hreports =>
            hreports.succeeded ((fetch_of_ready config data hready).1.trans hfailed)
        · exact reportsFailures_of_succeeded config data hready hread
      · rw [reportsFailures_iff_of_read_failed config data hready hfailed, and_iff_right hfailed,
          or_iff_right fun hsucceeded => hfailed hsucceeded.readCap]

end

/-- The supply cannot be read and the probe can: the fetch returns 0, and the millivolts it leaves are
those of a supply it has never measured. -/
theorem readVdd_failure_masked :
    ¬ ReportsFailures ⟨5, 2, 0⟩
      ⟨true, fun command => if command = .adcRead .vdd then -5 else 0,
        fun input => if input = .cap then some 700 else none, id⟩ ⟨0, 0, 0, 0⟩ := by
  intro hreports
  have hrc : (capSensorSampleFetch ⟨5, 2, 0⟩
      ⟨true, fun command => if command = .adcRead .vdd then -5 else 0,
        fun input => if input = .cap then some 700 else none, id⟩ ⟨0, 0, 0, 0⟩).rc = 0 := by
    decide
  exact absurd (hreports.succeeded hrc).readVdd (by decide)

theorem reportsFailures_of_two_samples :
    ReportsFailures ⟨5, 2, 0⟩
      ⟨true, fun _ => 0, fun input => if input = .cap then some 700 else some 850, id⟩
      ⟨0, 0, 0, 0⟩ := by
  refine (reportsFailures_iff _ _ ?_).mpr (.inr (.inl ⟨rfl, rfl, rfl, rfl, rfl⟩))
  rintro (_ | _) - <;> rfl

end RcFirmware.CapSensor
