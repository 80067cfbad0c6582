import RcFirmware.Proof.SensorRouting

/-!
# A slot whose channel could not be read

A run marks a slot with its channel before it asks for the value, and does not look at whether it got
one. The slots do not move for that, and a channel that answers is stored whatever its neighbours do;
but one that does not is left with the new mark on the old value.
-/

namespace RcFirmware.SensorReading

/-- The readings the two sensor devices deliver, as against the distance sensors of the board. -/
def LogData.OnDevice (log : LogData) : Prop :=
  log.source = .bme280 ∨ log.source = .vl53l0x

/-- The slot holds what its source delivered in this run. -/
def Board.Delivered (chan : SensorChannel → BitVec 32) (board : Board) (log : LogData)
    (data : SensorData) : Prop :=
  board.Live log.source ∧ ∃ value, board.value log.source (chan log.channel) = some value
    ∧ data.measurementType.setWidth 32 = chan log.channel ∧ data.dataChannel = value

structure SlotsIntact (chan : SensorChannel → BitVec 32) (board : Board)
    (readings : Nat → SensorData) (table : Table) : Prop where
  intact : ∀ log : LogData, log.OnDevice →
    board.Delivered chan log (table.readings log.slot.toNat)
      ∨ table.readings log.slot.toNat = readings log.slot.toNat
  notShifted : ∀ log : LogData, log.OnDevice → board.Live log.source →
    (board.value log.source (chan log.channel)).isSome = true →
      board.Delivered chan log (table.readings log.slot.toNat)

section

variable {chan : SensorChannel → BitVec 32} {board : Board} {readings : Nat → SensorData}

theorem delivered_of_isSome (hchan : ∀ channel, chan channel < 256) {log : LogData}
    (hlive : board.Live log.source)
    (hget : (board.value log.source (chan log.channel)).isSome = true) :
    board.Delivered chan log
      ((workMakeReadingsAndSend chan board readings).readings log.slot.toNat) := by
  obtain ⟨get, hreading, hvalue⟩ := routed_live chan board readings hlive hget
  rw [hreading]
  exact ⟨hlive, _, hvalue.symm, store_measurementType (hchan log.channel) get, rfl⟩

theorem readings_of_failed {log : LogData} (hlive : board.Live log.source)
    (hget : board.value log.source (chan log.channel) = none) :
    (workMakeReadingsAndSend chan board readings).readings log.slot.toNat =
      { readings log.slot.toNat with measurementType := (chan log.channel).setWidth 8 } := by
  obtain ⟨get, hreading, hbuffer⟩ := readings_of_live chan board readings hlive
  have hkept : get (readings log.slot.toNat).dataChannel = (readings log.slot.toNat).dataChannel := by
    rw [hbuffer, hget, Option.getD_none]
  rw [hreading]
  simp only [SensorData.store, hkept]

theorem failed_unchanged_iff {log : LogData} (hlive : board.Live log.source)
    (hget : board.value log.source (chan log.channel) = none) :
    (workMakeReadingsAndSend chan board readings).readings log.slot.toNat =
        readings log.slot.toNat
      ↔ (readings log.slot.toNat).measurementType = (chan log.channel).setWidth 8 := by
  rw [readings_of_failed hlive hget]
  generalize readings log.slot.toNat = data
  constructor
  · intro hsame
    exact (congrArg SensorData.measurementType hsame).symm
  · rintro hmark
    rw [← hmark]

/-- **Failed channels.** Where the channel numbers fit a byte, a run from any table leaves every device
slot intact exactly when each channel of a live device answers or its slot already has its mark. -/
theorem slotsIntact_iff (hchan : ∀ channel, chan channel < 256) :
    SlotsIntact chan board readings (workMakeReadingsAndSend chan board readings)
      ↔ ∀ log : LogData, log.OnDevice → board.Live log.source →
          (board.value log.source (chan log.channel)).isSome = true
            ∨ (readings log.slot.toNat).measurementType = (chan log.channel).setWidth 8 := by
  constructor
  · intro hintact log hdevice hlive
    cases hget : board.value log.source (chan log.channel) with
    | some value => exact .inl rfl
    | none =>
        refine .inr ((failed_unchanged_iff hlive hget).mp ?_)
        refine (hintact.intact log hdevice).resolve_left fun hdelivered => ?_
        obtain ⟨-, value, hvalue, -⟩ := hdelivered
        cases hget.symm.trans hvalue
  · intro hanswers
    refine ⟨fun log hdevice => ?_, fun log _ hlive hget => delivered_of_isSome hchan hlive hget⟩
    by_cases hlive : board.Live log.source
    · cases hget : board.value log.source (chan log.channel) with
      | some value => exact .inl (delivered_of_isSome hchan hlive (hget ▸ rfl))
      | none =>
          refine .inr ((failed_unchanged_iff hlive hget).mpr ?_)
          refine (hanswers log hdevice hlive).resolve_left ?_
          rw [hget]
          exact Bool.false_ne_true
    · exact .inr (routed_notLive hlive)

end

/-- The temperature cannot be read: its slot of a fresh table is marked as a temperature of 0. -/
theorem failed_temperature_marks_slot :
    let env : SensorDevice :=
      ⟨0, fun channel => if channel = SensorChannel.number .ambientTemp then none else some ⟨1, 0⟩⟩
    let board : Board := ⟨⟨true, false⟩, some env, none, Hcsr.boot⟩
    ¬ SlotsIntact SensorChannel.number board (fun _ => ⟨0, 0, ⟨0, 0⟩⟩)
      (workMakeReadingsAndSend SensorChannel.number board fun _ => ⟨0, 0, ⟨0, 0⟩⟩) := by
  intro env board hintact
  have hlive : board.Live LogData.bme280AmbientTemp.source := ⟨rfl, env, rfl, rfl⟩
  obtain hdelivered | hunchanged := hintact.intact .bme280AmbientTemp (.inl rfl)
  · obtain ⟨-, value, hvalue, -⟩ := hdelivered
    cases hvalue
  · exact absurd ((failed_unchanged_iff hlive rfl).mp hunchanged) (by decide)

theorem slotsIntact_of_marked_temperature :
    let env : SensorDevice :=
      ⟨0, fun channel => if channel = SensorChannel.number .ambientTemp then none else some ⟨1, 0⟩⟩
    let board : Board := ⟨⟨true, false⟩, some env, none, Hcsr.boot⟩
    SlotsIntact SensorChannel.number board (fun _ => ⟨13, 0, ⟨21, 0⟩⟩)
      (workMakeReadingsAndSend SensorChannel.number board fun _ => ⟨13, 0, ⟨21, 0⟩⟩) := by
  intro env board
  have hchan : ∀ channel, SensorChannel.number channel < 256 := by
    intro channel
    cases channel <;> decide
  refine (slotsIntact_iff hchan).mpr fun log hdevice hlive => ?_
  cases log with
  | bme280AmbientTemp => exact .inr rfl
  | bme280Press | bme280Humidity => exact .inl rfl
  | vl53l0xDistance | vl53l0xProx => exact Bool.noConfusion hlive.1
  | hcsr040 | hcsr041 => cases hdevice <;> contradiction

end RcFirmware.SensorReading
