import RcFirmware.Lib.Machine
import RcFirmware.Proof.As7341Decode
import RcFirmware.Proof.As7341Dispatch

/-!
# What readers of the colour sensor see

Fetches and reads come in any order. Six samples are always those of one burst, but readers only ever
get to the first three.
-/

namespace RcFirmware.As7341

open StepMachine

/-! ### Fetches -/

def step (drvData : DriverData) (bus : Bus) : DriverData := (as7341SampleFetch bus drvData).2

/-- The bus as the last burst to succeed found it. -/
def lastBurst (fetches : List Bus) : Option Bus :=
  (fetches.filter fun bus => 0 ≤ bus.i2cBurstReadDt).getLast?

theorem sample_run (drvData : DriverData) (fetches : List Bus) (n : Fin 6) :
    (run step drvData fetches).sample (decoded n) =
      ((lastBurst fetches).map fun bus => shiftOr (bus.regs (dataL n)) (bus.regs (dataH n))).getD
        (drvData.sample (decoded n)) := by
  have hfetch : ∀ (data : DriverData) (bus : Bus), (step data bus).sample (decoded n) =
      (if 0 ≤ bus.i2cBurstReadDt then some (shiftOr (bus.regs (dataL n)) (bus.regs (dataH n)))
        else none).getD (data.sample (decoded n)) := by
    intro data bus
    split_ifs with hread
    · exact fetch_sample data hread n
    · rw [step, as7341SampleFetch, if_pos (Int.not_le.mp hread)]
      rfl
  rw [get_run_event (fun data : DriverData => data.sample (decoded n)) hfetch, lastBurst,
    ← List.getLast?_map]
  congr 2
  induction fetches with
  | nil => rfl
  | cons bus fetches ih =>
      by_cases hread : 0 ≤ bus.i2cBurstReadDt
      · simp [hread, ih]
      · simp [hread, ih]

/-- The data channel that a reader of a channel number gets the sample of. -/
def answered (channels : SensorChannels) (chan : BitVec 16) : Fin 6 :=
  if chan.setWidth 32 = channels.f1415 then 0
  else if chan.setWidth 32 = channels.f2445 then 1
  else 2

theorem decoded_answered (channels : SensorChannels) (chan : BitVec 16) :
    decoded (answered channels chan) = reached channels chan := by
  rw [answered, reached]
  split_ifs <;> rfl

/-- **Readers see the last burst.** After any fetches, a reader of any channel number is told that all
is well and gets, as an integer and with the high byte first, what the last burst to succeed found in
one of the first three data channels, or the driver's first sample if none did. -/
theorem readers_see_last_burst (channels : SensorChannels) (drvData : DriverData)
    (fetches : List Bus) (chan : BitVec 16) (val : SensorValue) :
    let n := answered channels chan
    let returned := as7341ChannelGet channels (run step drvData fetches) (chan.setWidth 32) val
    returned.1 = 0 ∧ returned.2.val2 = val.val2 ∧ n ≤ 2
      ∧ returned.2.val1.toNat =
        ((lastBurst fetches).map fun bus =>
          256 * (bus.regs (dataL n)).toNat + (bus.regs (dataH n)).toNat).getD
            (drvData.sample (reached channels chan)).toNat := by
  intro n returned
  have hreturned : returned = (0, ⟨((run step drvData fetches).sample (decoded n)).setWidth 32,
      val.val2⟩) := by
    rw [decoded_answered]
    exact channelGet_eq channels _ chan val
  have hn : n ≤ 2 := by
    simp only [n, answered]
    split_ifs <;> decide
  rw [hreturned]
  refine ⟨rfl, rfl, hn, ?_⟩
  rw [BitVec.toNat_setWidth_of_le (by decide), sample_run]
  cases lastBurst fetches with
  | none => rw [Option.map_none, Option.map_none, decoded_answered]; rfl
  | some bus => exact shiftOr_toNat _ _

end RcFirmware.As7341
