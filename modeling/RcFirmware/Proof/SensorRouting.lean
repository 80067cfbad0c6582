import RcFirmware.SensorReading

/-!
# Where a run puts its readings

The layout of the table is the order of an enumeration, and each sensor knows only its first slot. A
run routes every reading to its own slot: the abstract side names the sensor and the channel of a
slot, and the run has to agree with it for every mix of sensors that answer and sensors that do not.
-/

namespace RcFirmware.SensorReading

/-! ### The routes -/

inductive Source where
  | bme280
  | vl53l0x
  | hcsr (sensor : Hcsr.SensorNo)
  deriving DecidableEq, Repr

def LogData.source : LogData → Source
  | .bme280AmbientTemp | .bme280Press | .bme280Humidity => .bme280
  | .vl53l0xDistance | .vl53l0xProx => .vl53l0x
  | .hcsr040 => .hcsr 0
  | .hcsr041 => .hcsr 1

def LogData.channel : LogData → SensorChannel
  | .bme280AmbientTemp => .ambientTemp
  | .bme280Press => .press
  | .bme280Humidity => .humidity
  | .vl53l0xDistance => .distance
  | .vl53l0xProx => .prox
  | .hcsr040 | .hcsr041 => .distance

/-- The source gives readings in this run: the device is enabled, there, and its fetch returned 0.
The distance sensors always do. -/
def Board.Live (board : Board) : Source → Prop
  | .bme280 =>
      board.config.bme280 = true ∧ ∃ dev, board.devEnv = some dev ∧ dev.sampleFetch = 0
  | .vl53l0x =>
      board.config.vl53l0x = true ∧ ∃ dev, board.devVl53l0x = some dev ∧ dev.sampleFetch = 0
  | .hcsr _ => True

def Board.value (board : Board) (source : Source) (channel : BitVec 32) : Option SensorValue :=
  match source with
  | .bme280 => board.devEnv.bind fun dev => dev.channelGet channel
  | .vl53l0x => board.devVl53l0x.bind fun dev => dev.channelGet channel
  | .hcsr sensor => some (board.hcsr.distanceReadings sensor)

structure Routed (chan : SensorChannel → BitVec 32) (board : Board) (readings : Nat → SensorData)
    (table : Table) : Prop where
  live : ∀ log : LogData, board.Live log.source →
    (table.readings log.slot.toNat).measurementType.setWidth 32 = chan log.channel
      ∧ some (table.readings log.slot.toNat).dataChannel = board.value log.source (chan log.channel)
  notLive : ∀ log : LogData, ¬ board.Live log.source →
    table.readings log.slot.toNat = readings log.slot.toNat
  otherSlots : ∀ slot, (∀ log : LogData, slot ≠ log.slot.toNat) → table.readings slot = readings slot
  retries : ∀ slot, (table.readings slot).retries = (readings slot).retries
  storedOnce : table.stored.Nodup
  inBounds : ∀ slot ∈ table.stored, slot < maxSensorReadings.toNat

/-! ### The three blocks -/

theorem envRoom : LogData.bme280AmbientTemp.slot.toNat + 3 ≤ 20 := by decide

theorem vl53l0xRoom : LogData.vl53l0xDistance.slot.toNat + 2 ≤ 20 := by decide

theorem hcsrRoom : LogData.hcsr040.slot.toNat + 2 ≤ 20 := by decide

section

variable (chan : SensorChannel → BitVec 32) (board : Board) (readings : Nat → SensorData)

theorem stored_eq :
    (workMakeReadingsAndSend chan board readings).stored =
      (if (live board.config.bme280 board.devEnv).isSome then [0, 1, 2] else [])
        ++ (if (live board.config.vl53l0x board.devVl53l0x).isSome then [3, 4] else [])
        ++ [5, 6] := by
  rw [workMakeReadingsAndSend, storeFrom_stored hcsrRoom, storeSensor_stored vl53l0xRoom,
    storeSensor_stored envRoom]
  rfl

theorem readings_of_lt_three {slot : Nat} (hslot : slot < 3) :
    (workMakeReadingsAndSend chan board readings).readings slot =
      (Table.storeSensor ⟨readings, 0, []⟩ board.config.bme280 board.devEnv .bme280AmbientTemp
        [chan .ambientTemp, chan .press, chan .humidity]).readings slot := by
  have hbefore : slot < LogData.vl53l0xDistance.slot.toNat := hslot
  have hbefore' : slot < LogData.hcsr040.slot.toNat := Nat.lt_of_lt_of_le hslot (by decide)
  rw [workMakeReadingsAndSend, storeFrom_readings_of_outside hcsrRoom (.inl hbefore'),
    storeSensor_readings_of_outside vl53l0xRoom (.inl hbefore)]

theorem readings_env_of_live {found : SensorDevice}
    (hlive : live board.config.bme280 board.devEnv = some found) {k : Nat} {channel : BitVec 32}
    (hchannel : [chan .ambientTemp, chan .press, chan .humidity][k]? = some channel) :
    (workMakeReadingsAndSend chan board readings).readings k =
      (readings k).store (channel, sensorChannelGet found channel) := by
  have hk : k < 3 := (List.getElem?_eq_some_iff.mp hchannel).1
  have hstored := storeSensor_readings_of_live hlive ⟨readings, 0, []⟩ envRoom hchannel
  rw [readings_of_lt_three chan board readings hk]
  simpa [LogData.slot] using hstored

theorem readings_env_of_not_live (hlive : live board.config.bme280 board.devEnv = none) {slot : Nat}
    (hslot : slot < 3) :
    (workMakeReadingsAndSend chan board readings).readings slot = readings slot := by
  rw [readings_of_lt_three chan board readings hslot, (storeSensor_of_not_live hlive _ _ _).1]

theorem readings_vl53l0x_of_live {found : SensorDevice}
    (hlive : live board.config.vl53l0x board.devVl53l0x = some found) {k : Nat}
    {channel : BitVec 32} (hchannel : [chan .distance, chan .prox][k]? = some channel) :
    (workMakeReadingsAndSend chan board readings).readings (3 + k) =
      (readings (3 + k)).store (channel, sensorChannelGet found channel) := by
  have hk : k < 2 := (List.getElem?_eq_some_iff.mp hchannel).1
  have hbefore : 3 + k < LogData.hcsr040.slot.toNat := Nat.add_lt_add_left hk 3
  rw [workMakeReadingsAndSend, storeFrom_readings_of_outside hcsrRoom (.inl hbefore)]
  refine (storeSensor_readings_of_live hlive _ vl53l0xRoom hchannel).trans ?_
  rw [storeSensor_readings_of_outside envRoom (.inr (Nat.le_add_right 3 k))]
  rfl

theorem readings_vl53l0x_of_not_live
    (hlive : live board.config.vl53l0x board.devVl53l0x = none) {slot : Nat} (hslot : 3 ≤ slot)
    (hslot' : slot < 5) :
    (workMakeReadingsAndSend chan board readings).readings slot = readings slot := by
  rw [workMakeReadingsAndSend, storeFrom_readings_of_outside hcsrRoom (.inl hslot'),
    (storeSensor_of_not_live hlive _ _ _).1, storeSensor_readings_of_outside envRoom (.inr hslot)]

theorem readings_hcsr (sensor : Hcsr.SensorNo) :
    (workMakeReadingsAndSend chan board readings).readings (5 + sensor) =
      (readings (5 + sensor)).store (chan .distance, fun _ => Hcsr.hcsrGet sensor board.hcsr) := by
  have hreading : [(chan .distance, fun _ : SensorValue => Hcsr.hcsrGet 0 board.hcsr),
      (chan .distance, fun _ => Hcsr.hcsrGet 1 board.hcsr)][sensor.val]?
        = some (chan .distance, fun _ => Hcsr.hcsrGet sensor board.hcsr) := by
    fin_cases sensor <;> rfl
  have hvl53l0x : LogData.vl53l0xDistance.slot.toNat + 2 ≤ LogData.hcsr040.slot.toNat + sensor :=
    Nat.le_add_right 5 _
  have henv : LogData.bme280AmbientTemp.slot.toNat + 3 ≤ LogData.hcsr040.slot.toNat + sensor :=
    Nat.le_trans (by decide) hvl53l0x
  refine (storeFrom_readings_of_getElem hcsrRoom hreading).trans ?_
  rw [storeSensor_readings_of_outside vl53l0xRoom (.inr hvl53l0x),
    storeSensor_readings_of_outside envRoom (.inr henv)]
  rfl

theorem readings_of_ge_seven {slot : Nat} (hslot : 7 ≤ slot) :
    (workMakeReadingsAndSend chan board readings).readings slot = readings slot := by
  have hvl53l0x : LogData.vl53l0xDistance.slot.toNat + 2 ≤ slot := Nat.le_trans (by decide) hslot
  have henv : LogData.bme280AmbientTemp.slot.toNat + 3 ≤ slot := Nat.le_trans (by decide) hslot
  rw [workMakeReadingsAndSend, storeFrom_readings_of_outside hcsrRoom (.inr hslot),
    storeSensor_readings_of_outside vl53l0xRoom (.inr hvl53l0x),
    storeSensor_readings_of_outside envRoom (.inr henv)]

/-! ### Every slot -/

theorem envChannel {log : LogData} (hsource : log.source = .bme280) :
    [chan .ambientTemp, chan .press, chan .humidity][log.slot.toNat]? = some (chan log.channel) := by
  cases log <;> first | rfl | cases hsource

theorem vl53l0xChannel {log : LogData} (hsource : log.source = .vl53l0x) :
    ∃ k, log.slot.toNat = 3 + k ∧ [chan .distance, chan .prox][k]? = some (chan log.channel) := by
  cases log with
  | vl53l0xDistance => exact ⟨0, rfl, rfl⟩
  | vl53l0xProx => exact ⟨1, rfl, rfl⟩
  | bme280AmbientTemp | bme280Press | bme280Humidity | hcsr040 | hcsr041 => cases hsource

theorem hcsrSlot {log : LogData} {sensor : Hcsr.SensorNo} (hsource : log.source = .hcsr sensor) :
    log.slot.toNat = 5 + sensor ∧ log.channel = .distance := by
  cases log <;> cases hsource <;> exact ⟨rfl, rfl⟩

theorem slot_lt_three {log : LogData} (hsource : log.source = .bme280) : log.slot.toNat < 3 := by
  cases log <;> first | decide | cases hsource

theorem store_measurementType {data : SensorData} {channel : BitVec 32} (hchannel : channel < 256)
    (get : SensorValue → SensorValue) :
    (data.store (channel, get)).measurementType.setWidth 32 = channel := by
  have hlt : channel.toNat < 256 := hchannel
  apply BitVec.eq_of_toNat_eq
  simp only [SensorData.store, BitVec.toNat_setWidth]
  omega

/-- The slot of a live source is stored to, and what goes in is what its sensor delivers; a sensor that
delivers nothing leaves the value that was there. -/
theorem readings_of_live {log : LogData} (hlive : board.Live log.source) :
    ∃ get, (workMakeReadingsAndSend chan board readings).readings log.slot.toNat =
        (readings log.slot.toNat).store (chan log.channel, get)
      ∧ ∀ buffer, get buffer = (board.value log.source (chan log.channel)).getD buffer := by
  cases hsource : log.source with
  | bme280 =>
      rw [hsource] at hlive
      obtain ⟨found, hfound⟩ := exists_live_iff.mpr hlive
      obtain ⟨-, hdev, -⟩ := live_eq_some_iff.mp hfound
      refine ⟨_, readings_env_of_live chan board readings hfound (envChannel chan hsource), ?_⟩
      rw [Board.value, hdev, Option.bind_some]
      exact fun _ => rfl
  | vl53l0x =>
      rw [hsource] at hlive
      obtain ⟨found, hfound⟩ := exists_live_iff.mpr hlive
      obtain ⟨-, hdev, -⟩ := live_eq_some_iff.mp hfound
      obtain ⟨k, hslot, hchannel⟩ := vl53l0xChannel chan hsource
      rw [hslot]
      refine ⟨_, readings_vl53l0x_of_live chan board readings hfound hchannel, ?_⟩
      rw [Board.value, hdev, Option.bind_some]
      exact fun _ => rfl
  | hcsr sensor =>
      obtain ⟨hslot, hchannel⟩ := hcsrSlot hsource
      rw [hslot, hchannel]
      exact ⟨_, readings_hcsr chan board readings sensor, fun _ => rfl⟩

theorem routed_live {log : LogData} (hlive : board.Live log.source)
    (hget : (board.value log.source (chan log.channel)).isSome = true) :
    ∃ get, (workMakeReadingsAndSend chan board readings).readings log.slot.toNat =
        (readings log.slot.toNat).store (chan log.channel, get)
      ∧ some (get (readings log.slot.toNat).dataChannel)
        = board.value log.source (chan log.channel) := by
  obtain ⟨value, hvalue⟩ := Option.isSome_iff_exists.mp hget
  obtain ⟨get, hreading, hbuffer⟩ := readings_of_live chan board readings hlive
  refine ⟨get, hreading, ?_⟩
  rw [hbuffer, hvalue, Option.getD_some]

variable {chan} {board} {readings}

theorem routed_notLive {log : LogData} (hlive : ¬ board.Live log.source) :
    (workMakeReadingsAndSend chan board readings).readings log.slot.toNat =
      readings log.slot.toNat := by
  cases hsource : log.source with
  | bme280 =>
      rw [hsource] at hlive
      exact readings_env_of_not_live chan board readings (live_eq_none_iff.mpr hlive)
        (slot_lt_three hsource)
  | vl53l0x =>
      rw [hsource] at hlive
      obtain ⟨k, hslot, hchannel⟩ := vl53l0xChannel chan hsource
      have hk : k < 2 := (List.getElem?_eq_some_iff.mp hchannel).1
      exact readings_vl53l0x_of_not_live chan board readings (live_eq_none_iff.mpr hlive) (by omega)
        (by omega)
  | hcsr sensor =>
      rw [hsource] at hlive
      exact absurd trivial hlive

theorem exists_log_of_lt_seven {slot : Nat} (hslot : slot < 7) :
    ∃ log : LogData, slot = log.slot.toNat := by
  match slot, hslot with
  | 0, _ => exact ⟨.bme280AmbientTemp, rfl⟩
  | 1, _ => exact ⟨.bme280Press, rfl⟩
  | 2, _ => exact ⟨.bme280Humidity, rfl⟩
  | 3, _ => exact ⟨.vl53l0xDistance, rfl⟩
  | 4, _ => exact ⟨.vl53l0xProx, rfl⟩
  | 5, _ => exact ⟨.hcsr040, rfl⟩
  | 6, _ => exact ⟨.hcsr041, rfl⟩

/-- **Routing.** Where the channel numbers fit a byte and the live sensors answer for their channels,
a run from any table leaves each reading of a live source in its own slot, every other slot and every
retry count as it was, and stores to no slot twice and to none past the end of the table. -/
theorem workMakeReadingsAndSend_routed (hchan : ∀ channel, chan channel < 256)
    (hget : ∀ log : LogData, board.Live log.source →
      (board.value log.source (chan log.channel)).isSome = true) :
    Routed chan board readings (workMakeReadingsAndSend chan board readings) where
  live := by
    intro log hlive
    obtain ⟨get, hreading, hvalue⟩ := routed_live chan board readings hlive (hget log hlive)
    rw [hreading]
    exact ⟨store_measurementType (hchan log.channel) get, hvalue⟩
  notLive := fun log hlive => routed_notLive hlive
  otherSlots := by
    intro slot hother
    refine readings_of_ge_seven chan board readings (Nat.le_of_not_lt fun hslot => ?_)
    obtain ⟨log, hlog⟩ := exists_log_of_lt_seven hslot
    exact hother log hlog
  retries := by
    intro slot
    rw [workMakeReadingsAndSend, retries_storeFrom, retries_storeSensor, retries_storeSensor]
  storedOnce := by
    rw [stored_eq]
    split_ifs <;> decide
  inBounds := by
    rw [stored_eq]
    split_ifs <;> decide

end

/-- The numbers Zephyr gives the channels. -/
def SensorChannel.number : SensorChannel → BitVec 32
  | .ambientTemp => 13
  | .press => 14
  | .prox => 15
  | .humidity => 16
  | .distance => 26

/-- A board whose environment sensor answers for its three channels and whose laser sensor fails its
fetch. -/
theorem workMakeReadingsAndSend_routed_example :
    let env : SensorDevice := ⟨0, fun channel => if channel = 26 then none else some ⟨channel, 0⟩⟩
    let board : Board := ⟨⟨true, true⟩, some env, some ⟨-5, fun _ => none⟩, Hcsr.boot⟩
    Routed SensorChannel.number board (fun _ => ⟨0, 0, ⟨0, 0⟩⟩)
      (workMakeReadingsAndSend SensorChannel.number board fun _ => ⟨0, 0, ⟨0, 0⟩⟩) := by
  intro env board
  have hchan : ∀ channel, SensorChannel.number channel < 256 := by
    intro channel
    cases channel <;> decide
  refine workMakeReadingsAndSend_routed hchan fun log hlive => ?_
  cases log with
  | bme280AmbientTemp | bme280Press | bme280Humidity | hcsr040 | hcsr041 => rfl
  | vl53l0xDistance | vl53l0xProx =>
      obtain ⟨-, dev, hdev, hfetch⟩ := hlive
      cases hdev
      cases hfetch

end RcFirmware.SensorReading
