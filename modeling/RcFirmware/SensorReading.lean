import RcFirmware.Hcsr

/-!
# The table of sensor readings

`work_make_readings_and_send` fetches from each sensor in turn and stores one reading after the other
through a running index, which each sensor sets to the slot of its first reading in `LOG_DATA`. The
channel numbers belong to Zephyr and are a parameter. The table is addressed by any number, so that a
store past its end would show.
-/

namespace RcFirmware.SensorReading

def maxSensorReadings : BitVec 8 := 20

structure SensorData where
  measurementType : BitVec 8
  retries : BitVec 8
  dataChannel : SensorValue
  deriving DecidableEq, Repr

inductive LogData where
  | bme280AmbientTemp
  | bme280Press
  | bme280Humidity
  | vl53l0xDistance
  | vl53l0xProx
  | hcsr040
  | hcsr041
  deriving DecidableEq, Repr

def LogData.slot : LogData → BitVec 8
  | .bme280AmbientTemp => 0
  | .bme280Press => 1
  | .bme280Humidity => 2
  | .vl53l0xDistance => 3
  | .vl53l0xProx => 4
  | .hcsr040 => 5
  | .hcsr041 => 6

inductive SensorChannel where
  | ambientTemp
  | press
  | humidity
  | distance
  | prox
  deriving DecidableEq, Repr

structure SensorDevice where
  sampleFetch : Int
  channelGet : BitVec 32 → Option SensorValue

/-- `sensor_channel_get` leaves the buffer alone when it fails. -/
def sensorChannelGet (dev : SensorDevice) (channel : BitVec 32) (buffer : SensorValue) :
    SensorValue :=
  (dev.channelGet channel).getD buffer

structure Config where
  bme280 : Bool
  vl53l0x : Bool
  deriving DecidableEq, Repr

/-- The table during a run, the running index, and the indices that were stored to. -/
structure Table where
  readings : Nat → SensorData
  currentReading : BitVec 8
  stored : List Nat

abbrev Reading := BitVec 32 × (SensorValue → SensorValue)

def SensorData.store (data : SensorData) (reading : Reading) : SensorData :=
  { data with
    measurementType := reading.1.setWidth 8
    dataChannel := reading.2 data.dataChannel }

def Table.store (table : Table) (reading : Reading) : Table :=
  if table.currentReading < maxSensorReadings then
    let index := table.currentReading.toNat
    { readings := Function.update table.readings index ((table.readings index).store reading)
      currentReading := table.currentReading + 1
      stored := table.stored ++ [index] }
  else table

def Table.storeFrom (table : Table) (first : LogData) (readings : List Reading) : Table :=
  readings.foldl Table.store { table with currentReading := first.slot }

/-- The block of a sensor that may be disabled, absent, or fail its fetch. -/
def Table.storeSensor (table : Table) (enabled : Bool) (dev : Option SensorDevice)
    (first : LogData) (channels : List (BitVec 32)) : Table :=
  if enabled then
    match dev with
    | none => { table with currentReading := first.slot }
    | some dev =>
        if dev.sampleFetch ≠ 0 then { table with currentReading := first.slot }
        else
          table.storeFrom first (channels.map fun channel => (channel, sensorChannelGet dev channel))
  else table

structure Board where
  config : Config
  devEnv : Option SensorDevice
  devVl53l0x : Option SensorDevice
  hcsr : Hcsr.State

def workMakeReadingsAndSend (chan : SensorChannel → BitVec 32) (board : Board)
    (readings : Nat → SensorData) : Table :=
  -- the index has no value before the first block sets it
  let table : Table := ⟨readings, 0, []⟩
  let table := table.storeSensor board.config.bme280 board.devEnv .bme280AmbientTemp
    [chan .ambientTemp, chan .press, chan .humidity]
  let table := table.storeSensor board.config.vl53l0x board.devVl53l0x .vl53l0xDistance
    [chan .distance, chan .prox]
  table.storeFrom .hcsr040
    [(chan .distance, fun _ => Hcsr.hcsrGet 0 board.hcsr),
      (chan .distance, fun _ => Hcsr.hcsrGet 1 board.hcsr)]

/-! ### The loop -/

theorem store_of_lt {table : Table} (hroom : table.currentReading.toNat < 20) (reading : Reading) :
    table.store reading =
      { readings := Function.update table.readings table.currentReading.toNat
          ((table.readings table.currentReading.toNat).store reading)
        currentReading := table.currentReading + 1
        stored := table.stored ++ [table.currentReading.toNat] } :=
  if_pos hroom

theorem currentReading_store {table : Table} (hroom : table.currentReading.toNat < 20)
    (reading : Reading) :
    (table.store reading).currentReading.toNat = table.currentReading.toNat + 1 := by
  rw [store_of_lt hroom, BitVec.toNat_add, show (1 : BitVec 8).toNat = 1 from rfl]
  omega

theorem readings_store_self {table : Table} (hroom : table.currentReading.toNat < 20)
    (reading : Reading) :
    (table.store reading).readings table.currentReading.toNat =
      (table.readings table.currentReading.toNat).store reading := by
  rw [store_of_lt hroom]
  exact Function.update_self _ _ _

theorem readings_store_of_ne {table : Table} (hroom : table.currentReading.toNat < 20)
    (reading : Reading) {slot : Nat} (hslot : slot ≠ table.currentReading.toNat) :
    (table.store reading).readings slot = table.readings slot := by
  rw [store_of_lt hroom]
  exact Function.update_of_ne hslot _ _

/-- With room for all of them, the readings go to the next slots in order and nowhere else. -/
theorem foldl_store_readings {table : Table} {readings : List Reading}
    (hroom : table.currentReading.toNat + readings.length ≤ 20) (slot : Nat) :
    (readings.foldl Table.store table).readings slot =
      if table.currentReading.toNat ≤ slot then
        (readings[slot - table.currentReading.toNat]?).elim (table.readings slot)
          (table.readings slot).store
      else table.readings slot := by
  induction readings generalizing table with
  | nil => simp
  | cons reading readings ih =>
      rw [List.length_cons] at hroom
      have hfree : table.currentReading.toNat < 20 := by omega
      have hnext := currentReading_store hfree reading
      rw [List.foldl_cons, ih (by omega), hnext]
      obtain hslot | rfl | hslot := Nat.lt_trichotomy slot table.currentReading.toNat
      · rw [if_neg (by omega), if_neg (by omega), readings_store_of_ne hfree reading hslot.ne]
      · rw [if_neg (by omega), if_pos le_rfl, Nat.sub_self, readings_store_self hfree]
        rfl
      · obtain ⟨k, rfl⟩ := Nat.exists_eq_add_of_lt hslot
        rw [if_pos (by omega), if_pos (by omega), readings_store_of_ne hfree reading hslot.ne',
          show table.currentReading.toNat + k + 1 - (table.currentReading.toNat + 1) = k by omega,
          show table.currentReading.toNat + k + 1 - table.currentReading.toNat = k + 1 by omega,
          List.getElem?_cons_succ]

theorem foldl_store_stored {table : Table} {readings : List Reading}
    (hroom : table.currentReading.toNat + readings.length ≤ 20) :
    (readings.foldl Table.store table).stored =
      table.stored ++ List.range' table.currentReading.toNat readings.length := by
  induction readings generalizing table with
  | nil => simp
  | cons reading readings ih =>
      rw [List.length_cons] at hroom
      have hfree : table.currentReading.toNat < 20 := by omega
      have hnext := currentReading_store hfree reading
      rw [List.foldl_cons, ih (by omega), hnext, store_of_lt hfree, List.length_cons,
        List.range'_succ, List.append_assoc, List.singleton_append]

theorem storeFrom_readings {table : Table} {first : LogData} {readings : List Reading}
    (hroom : first.slot.toNat + readings.length ≤ 20) (slot : Nat) :
    (table.storeFrom first readings).readings slot =
      if first.slot.toNat ≤ slot then
        (readings[slot - first.slot.toNat]?).elim (table.readings slot) (table.readings slot).store
      else table.readings slot :=
  foldl_store_readings hroom slot

theorem storeFrom_readings_of_getElem {table : Table} {first : LogData} {readings : List Reading}
    (hroom : first.slot.toNat + readings.length ≤ 20) {k : Nat} {reading : Reading}
    (hreading : readings[k]? = some reading) :
    (table.storeFrom first readings).readings (first.slot.toNat + k) =
      (table.readings (first.slot.toNat + k)).store reading := by
  rw [storeFrom_readings hroom, if_pos (Nat.le_add_right _ _), Nat.add_sub_cancel_left, hreading]
  rfl

theorem storeFrom_readings_of_outside {table : Table} {first : LogData} {readings : List Reading}
    (hroom : first.slot.toNat + readings.length ≤ 20) {slot : Nat}
    (hslot : slot < first.slot.toNat ∨ first.slot.toNat + readings.length ≤ slot) :
    (table.storeFrom first readings).readings slot = table.readings slot := by
  rw [storeFrom_readings hroom]
  split_ifs with hfirst
  · rw [List.getElem?_eq_none (by omega)]
    rfl
  · rfl

theorem storeFrom_stored {table : Table} {first : LogData} {readings : List Reading}
    (hroom : first.slot.toNat + readings.length ≤ 20) :
    (table.storeFrom first readings).stored =
      table.stored ++ List.range' first.slot.toNat readings.length :=
  foldl_store_stored hroom

theorem retries_store (table : Table) (reading : Reading) (slot : Nat) :
    ((table.store reading).readings slot).retries = (table.readings slot).retries := by
  by_cases hroom : table.currentReading.toNat < 20
  · by_cases hslot : slot = table.currentReading.toNat
    · rw [hslot, readings_store_self hroom]
      rfl
    · rw [readings_store_of_ne hroom reading hslot]
  · rw [show table.store reading = table from if_neg hroom]

theorem retries_storeFrom (table : Table) (first : LogData) (readings : List Reading) (slot : Nat) :
    ((table.storeFrom first readings).readings slot).retries = (table.readings slot).retries := by
  suffices hfold : ∀ start : Table, ((readings.foldl Table.store start).readings slot).retries =
      (start.readings slot).retries from hfold _
  induction readings with
  | nil => exact fun _ => rfl
  | cons reading readings ih => exact fun start => (ih _).trans (retries_store start reading slot)

/-! ### The block of a sensor -/

def live (enabled : Bool) (dev : Option SensorDevice) : Option SensorDevice :=
  if enabled then dev.filter fun dev => dev.sampleFetch = 0 else none

theorem live_eq_some_iff {enabled : Bool} {dev : Option SensorDevice} {found : SensorDevice} :
    live enabled dev = some found ↔ enabled = true ∧ dev = some found ∧ found.sampleFetch = 0 := by
  cases enabled <;> simp [live, Option.filter_eq_some_iff]

theorem exists_live_iff {enabled : Bool} {dev : Option SensorDevice} :
    (∃ found, live enabled dev = some found)
      ↔ enabled = true ∧ ∃ found, dev = some found ∧ found.sampleFetch = 0 := by
  simp only [live_eq_some_iff, exists_and_left]

theorem live_eq_none_iff {enabled : Bool} {dev : Option SensorDevice} :
    live enabled dev = none
      ↔ ¬ (enabled = true ∧ ∃ found, dev = some found ∧ found.sampleFetch = 0) := by
  rw [← exists_live_iff, ← Option.isSome_iff_exists, Option.not_isSome_iff_eq_none]

theorem storeSensor_of_live {enabled : Bool} {dev : Option SensorDevice} {found : SensorDevice}
    (hlive : live enabled dev = some found) (table : Table) (first : LogData)
    (channels : List (BitVec 32)) :
    table.storeSensor enabled dev first channels =
      table.storeFrom first
        (channels.map fun channel => (channel, sensorChannelGet found channel)) := by
  obtain ⟨rfl, rfl, hfetch⟩ := live_eq_some_iff.mp hlive
  simp [Table.storeSensor, hfetch]

theorem storeSensor_of_not_live {enabled : Bool} {dev : Option SensorDevice}
    (hlive : live enabled dev = none) (table : Table) (first : LogData)
    (channels : List (BitVec 32)) :
    (table.storeSensor enabled dev first channels).readings = table.readings
      ∧ (table.storeSensor enabled dev first channels).stored = table.stored := by
  cases enabled with
  | false => exact ⟨rfl, rfl⟩
  | true =>
      cases dev with
      | none => exact ⟨rfl, rfl⟩
      | some dev =>
          have hfetch : dev.sampleFetch ≠ 0 := by simpa [live] using hlive
          simp [Table.storeSensor, hfetch]

theorem storeSensor_readings_of_outside {enabled : Bool} {dev : Option SensorDevice} {table : Table}
    {first : LogData} {channels : List (BitVec 32)}
    (hroom : first.slot.toNat + channels.length ≤ 20) {slot : Nat}
    (hslot : slot < first.slot.toNat ∨ first.slot.toNat + channels.length ≤ slot) :
    (table.storeSensor enabled dev first channels).readings slot = table.readings slot := by
  cases hlive : live enabled dev with
  | none => rw [(storeSensor_of_not_live hlive table first channels).1]
  | some found =>
      rw [storeSensor_of_live hlive]
      exact storeFrom_readings_of_outside (by simpa using hroom) (by simpa using hslot)

theorem storeSensor_readings_of_live {enabled : Bool} {dev : Option SensorDevice}
    {found : SensorDevice} (hlive : live enabled dev = some found) (table : Table) {first : LogData}
    {channels : List (BitVec 32)} (hroom : first.slot.toNat + channels.length ≤ 20) {k : Nat}
    {channel : BitVec 32} (hchannel : channels[k]? = some channel) :
    (table.storeSensor enabled dev first channels).readings (first.slot.toNat + k) =
      (table.readings (first.slot.toNat + k)).store (channel, sensorChannelGet found channel) := by
  rw [storeSensor_of_live hlive]
  exact storeFrom_readings_of_getElem (by simpa using hroom) (by simp [hchannel])

theorem storeSensor_stored {enabled : Bool} {dev : Option SensorDevice} {table : Table}
    {first : LogData} {channels : List (BitVec 32)}
    (hroom : first.slot.toNat + channels.length ≤ 20) :
    (table.storeSensor enabled dev first channels).stored =
      table.stored ++
        if (live enabled dev).isSome then List.range' first.slot.toNat channels.length else [] := by
  cases hlive : live enabled dev with
  | none => simpa using (storeSensor_of_not_live hlive table first channels).2
  | some found =>
      rw [storeSensor_of_live hlive, storeFrom_stored (by simpa using hroom)]
      simp

theorem retries_storeSensor (table : Table) (enabled : Bool) (dev : Option SensorDevice)
    (first : LogData) (channels : List (BitVec 32)) (slot : Nat) :
    ((table.storeSensor enabled dev first channels).readings slot).retries =
      (table.readings slot).retries := by
  cases hlive : live enabled dev with
  | none => rw [(storeSensor_of_not_live hlive table first channels).1]
  | some found =>
      rw [storeSensor_of_live hlive]
      exact retries_storeFrom _ _ _ _

end RcFirmware.SensorReading
