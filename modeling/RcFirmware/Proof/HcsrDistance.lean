import RcFirmware.Hcsr

/-!
# The conversion of an echo

An echo of `diff` microseconds is 170 micrometres a microsecond away. The product is taken in 64 bits,
halved, narrowed to an `int` and split. Every count comes out as a proper sensor value; it is the right
one as long as the distance fits the `int`, and one microsecond later it is negative.
-/

namespace RcFirmware.Hcsr

/-- The longest echo whose distance in micrometres fits an `int`. -/
def longestEcho : Nat := 12632256

structure Converts (convert : BitVec 64 → SensorValue) : Prop where
  wellFormed : ∀ diff, (convert diff).WellFormed
  exact_iff : ∀ diff, (convert diff).micro = 170 * diff.toNat ↔ diff.toNat ≤ longestEcho
  increasing_iff : ∀ bound : BitVec 64,
    (∀ diff diff', diff < diff' → diff' ≤ bound → (convert diff).micro < (convert diff').micro)
      ↔ bound.toNat ≤ longestEcho

theorem distanceValue_wellFormed (diff : BitVec 64) : (distanceValue diff).WellFormed where
  fraction := Word.natAbs_srem_lt (distance diff) (by decide)
  signs := Word.sdiv_srem_signs (distance diff) (by decide)

theorem distanceValue_exact_iff (diff : BitVec 64) :
    (distanceValue diff).micro = 170 * diff.toNat ↔ diff.toNat ≤ longestEcho := by
  rw [distanceValue_micro, longestEcho]
  constructor
  · intro hexact
    have hint : 2 * (distance diff).toInt < 2 ^ 32 := BitVec.two_mul_toInt_lt
    omega
  · intro hecho
    exact distance_toInt (by omega)

/-- One microsecond past the longest echo the distance has wrapped below every other. -/
theorem micro_past_longestEcho :
    (distanceValue (BitVec.ofNat 64 (longestEcho + 1))).micro < 0 := by
  decide

theorem distanceValue_increasing_iff (bound : BitVec 64) :
    (∀ diff diff', diff < diff' → diff' ≤ bound →
        (distanceValue diff).micro < (distanceValue diff').micro)
      ↔ bound.toNat ≤ longestEcho := by
  constructor
  · intro hincreasing
    by_contra hbound
    have hpast : BitVec.ofNat 64 (longestEcho + 1) ≤ bound := Nat.lt_of_not_le hbound
    have hfalls := hincreasing 0 (BitVec.ofNat 64 (longestEcho + 1)) (by decide) hpast
    have hzero : (distanceValue 0).micro = 0 := by decide
    have hnegative := micro_past_longestEcho
    omega
  · intro hbound diff diff' hlt hle
    have hlt : diff.toNat < diff'.toNat := hlt
    have hle : diff'.toNat ≤ bound.toNat := hle
    rw [(distanceValue_exact_iff diff).mpr (by omega), (distanceValue_exact_iff diff').mpr (by omega)]
    omega

/-- What the handler has done of a count of microseconds: the sensor whose turn it is holds a proper
value, which is exact up to the longest echo, and nothing else has changed. -/
structure StoresConverted (before after : State) (diff : BitVec 64) : Prop where
  stored : after.distanceReadings =
    Function.update before.distanceReadings before.curDistSensor (distanceValue diff)
  wellFormed : (after.distanceReadings before.curDistSensor).WellFormed
  exact_iff : (after.distanceReadings before.curDistSensor).micro = 170 * diff.toNat
    ↔ diff.toNat ≤ longestEcho
  frame : after =
    { before with
      distanceReadings := after.distanceReadings
      stores := before.stores ++ [(before.curDistSensor, distanceValue diff)] }

theorem echoReturned_stores {state : State} (hmeasure : state.trigType ≠ 0#8) (now : BitVec 32)
    (kCycToUsFloor64 : BitVec 64 → BitVec 64) :
    StoresConverted state (echoReturned kCycToUsFloor64 now state)
      (kCycToUsFloor64 (elapsedCycles now state)) := by
  let diff := kCycToUsFloor64 (elapsedCycles now state)
  have hreadings : (echoReturned kCycToUsFloor64 now state).distanceReadings =
      Function.update state.distanceReadings state.curDistSensor (distanceValue diff) := by
    rw [echoReturned_of_measure hmeasure, storeReading]
  have hvalue : (echoReturned kCycToUsFloor64 now state).distanceReadings state.curDistSensor =
      distanceValue diff := by
    rw [hreadings, Function.update_self]
  constructor
  · exact hreadings
  · rw [hvalue]
    exact distanceValue_wellFormed diff
  · rw [hvalue]
    exact distanceValue_exact_iff diff
  · rw [echoReturned_of_measure hmeasure, storeReading]

/-- **Conversion.** A handler that closes a measurement stores its count of microseconds converted in
the reading of the sensor whose turn it is: into a proper sensor value for every count, which is exact
and increasing up to the longest echo and no further. -/
theorem echoReturned_converts (state : State) (hmeasure : state.trigType ≠ 0#8) (now : BitVec 32) :
    (∀ kCycToUsFloor64, StoresConverted state (echoReturned kCycToUsFloor64 now state)
        (kCycToUsFloor64 (elapsedCycles now state)))
      ∧ Converts fun diff =>
        (echoReturned (fun _ => diff) now state).distanceReadings state.curDistSensor := by
  have hstored : (fun diff =>
      (echoReturned (fun _ => diff) now state).distanceReadings state.curDistSensor) =
        distanceValue := by
    funext diff
    rw [(echoReturned_stores hmeasure now fun _ => diff).stored, Function.update_self]
  rw [hstored]
  exact ⟨echoReturned_stores hmeasure now,
    distanceValue_wellFormed, distanceValue_exact_iff, distanceValue_increasing_iff⟩

/-- 1222 cycles are 37292 microseconds, and those six metres and a third. -/
theorem echoReturned_converts_example :
    let state : State := { boot with trigType := 1 }
    (echoReturned (cycToUsFloor64 32768) 1222 state).distanceReadings 0 = ⟨6, 339640⟩
      ∧ (echoReturned (cycToUsFloor64 32768) 1222 state).distanceReadings 1 = ⟨0, 0⟩
      ∧ Converts fun diff => (echoReturned (fun _ => diff) 1222 state).distanceReadings 0 := by
  intro state
  obtain ⟨hstores, hconverts⟩ := echoReturned_converts state (by decide) 1222
  have hstored := (hstores (cycToUsFloor64 32768)).stored
  rw [hstored]
  exact ⟨by decide, by decide, hconverts⟩

end RcFirmware.Hcsr
