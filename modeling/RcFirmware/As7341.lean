import RcFirmware.Lib.Word
import RcFirmware.Zephyr

/-!
# The AS7341 colour sensor

A fetch reads the six data channels of the chip in one burst and decodes them into the driver's
samples; a get copies one sample into a sensor value. The numbers of the common sensor channels are
Zephyr's, and the driver's own channels count on from the last of them.
-/

namespace RcFirmware.As7341

def ch0DataL : BitVec 8 := 0x95
def ch0DataH : BitVec 8 := 0x96
def ch1DataL : BitVec 8 := 0x97
def ch1DataH : BitVec 8 := 0x98
def ch2DataL : BitVec 8 := 0x99
def ch2DataH : BitVec 8 := 0x9A
def ch3DataL : BitVec 8 := 0x9B
def ch3DataH : BitVec 8 := 0x9C
def ch4DataL : BitVec 8 := 0x9D
def ch4DataH : BitVec 8 := 0x9E
def ch5DataL : BitVec 8 := 0x9F
def ch5DataH : BitVec 8 := 0xA0

structure DriverData where
  channelF1415nmSample : BitVec 16
  channelF2445nmSample : BitVec 16
  channelF3480nmSample : BitVec 16
  channelF4515nmSample : BitVec 16
  channelF5555nmSample : BitVec 16
  channelF6590nmSample : BitVec 16
  channelF7630nmSample : BitVec 16
  channelF8680nmSample : BitVec 16
  channelNir : BitVec 16
  channelClear : BitVec 16
  channelFd : BitVec 16
  deriving DecidableEq, Repr

/-! ### Fetching -/

/-- The chip as one burst read finds it, and the result of the read. -/
structure Bus where
  regs : BitVec 8 → BitVec 8
  i2cBurstReadDt : Int

/-- What a successful burst from a register puts in the buffer. -/
def Bus.buf (bus : Bus) (start : BitVec 8) (index : Nat) : BitVec 8 :=
  bus.regs (start + BitVec.ofNat 8 index)

/-- `first << 8 | second`, an `int` on its way to a `uint16_t`. -/
def shiftOr (first second : BitVec 8) : BitVec 16 :=
  (first.setWidth 32 <<< 8 ||| second.setWidth 32).setWidth 16

def as7341SampleFetch (bus : Bus) (drvData : DriverData) : Int × DriverData :=
  if bus.i2cBurstReadDt < 0 then (-eio, drvData)
  else
    let buf := bus.buf ch0DataL
    (0, { drvData with
      channelF1415nmSample := shiftOr (buf 0) (buf 1)
      channelF2445nmSample := shiftOr (buf 2) (buf 3)
      channelF3480nmSample := shiftOr (buf 4) (buf 5)
      channelF4515nmSample := shiftOr (buf 6) (buf 7)
      channelClear := shiftOr (buf 8) (buf 9)
      channelNir := shiftOr (buf 10) (buf 11) })

/-! ### Getting a channel -/

/-- The numbers of `enum sensor_channel` the driver uses. The common channels come before the ones
that are private to a driver, and all of them fit an `int16_t`. -/
structure SensorChannels where
  ir : BitVec 32
  red : BitVec 32
  green : BitVec 32
  blue : BitVec 32
  privStart : BitVec 32
  distinct : [ir, red, green, blue].Nodup
  common : ∀ chan ∈ [ir, red, green, blue], chan < privStart
  fits : privStart.toNat + 10 < 2 ^ 15

namespace SensorChannels

variable (channels : SensorChannels)

def f1415 : BitVec 32 := channels.privStart
def f2445 : BitVec 32 := channels.privStart + 1
def f3480 : BitVec 32 := channels.privStart + 2
def f4515 : BitVec 32 := channels.privStart + 3
def f5555 : BitVec 32 := channels.privStart + 4
def f6590 : BitVec 32 := channels.privStart + 5
def f7630 : BitVec 32 := channels.privStart + 6
def f8680 : BitVec 32 := channels.privStart + 7
def nir : BitVec 32 := channels.privStart + 8
def clear : BitVec 32 := channels.privStart + 9
def fd : BitVec 32 := channels.privStart + 10

end SensorChannels

def as7341ChannelLuxConvert (val : SensorValue) (rawVal : BitVec 64) : SensorValue :=
  { val with val1 := rawVal.setWidth 32 }

/-- Four of the guards compare the channel with one number and test another for being nonzero. -/
def as7341ChannelGet (channels : SensorChannels) (drvData : DriverData) (chan : BitVec 32)
    (val : SensorValue) : Int × SensorValue :=
  let chan := (chan.setWidth 16).setWidth 32
  if chan = channels.f1415 then
    (0, as7341ChannelLuxConvert val (drvData.channelF1415nmSample.setWidth 64))
  else if chan = channels.f2445 then
    (0, as7341ChannelLuxConvert val (drvData.channelF2445nmSample.setWidth 64))
  else if chan = channels.blue ∨ channels.f3480 ≠ 0 then
    (0, as7341ChannelLuxConvert val (drvData.channelF3480nmSample.setWidth 64))
  else if chan = channels.f4515 then
    (0, as7341ChannelLuxConvert val (drvData.channelF4515nmSample.setWidth 64))
  else if chan = channels.green ∨ channels.f5555 ≠ 0 then
    (0, as7341ChannelLuxConvert val (drvData.channelF5555nmSample.setWidth 64))
  else if chan = channels.f6590 then
    (0, as7341ChannelLuxConvert val (drvData.channelF6590nmSample.setWidth 64))
  else if chan = channels.f7630 then
    (0, as7341ChannelLuxConvert val (drvData.channelF7630nmSample.setWidth 64))
  else if chan = channels.red ∨ channels.f8680 ≠ 0 then
    (0, as7341ChannelLuxConvert val (drvData.channelF8680nmSample.setWidth 64))
  else if chan = channels.ir ∨ channels.nir ≠ 0 then
    (0, as7341ChannelLuxConvert val (drvData.channelNir.setWidth 64))
  else if chan = channels.clear then
    (0, as7341ChannelLuxConvert val (drvData.channelClear.setWidth 64))
  else if chan = channels.fd then
    (0, as7341ChannelLuxConvert val (drvData.channelFd.setWidth 64))
  else (-enotsup, val)

/-! ### Samples by channel -/

inductive Channel where
  | f1
  | f2
  | f3
  | f4
  | f5
  | f6
  | f7
  | f8
  | nir
  | clear
  | fd
  deriving DecidableEq, Repr

def DriverData.sample (drvData : DriverData) : Channel → BitVec 16
  | .f1 => drvData.channelF1415nmSample
  | .f2 => drvData.channelF2445nmSample
  | .f3 => drvData.channelF3480nmSample
  | .f4 => drvData.channelF4515nmSample
  | .f5 => drvData.channelF5555nmSample
  | .f6 => drvData.channelF6590nmSample
  | .f7 => drvData.channelF7630nmSample
  | .f8 => drvData.channelF8680nmSample
  | .nir => drvData.channelNir
  | .clear => drvData.channelClear
  | .fd => drvData.channelFd

def DriverData.set (drvData : DriverData) (sample : BitVec 16) : Channel → DriverData
  | .f1 => { drvData with channelF1415nmSample := sample }
  | .f2 => { drvData with channelF2445nmSample := sample }
  | .f3 => { drvData with channelF3480nmSample := sample }
  | .f4 => { drvData with channelF4515nmSample := sample }
  | .f5 => { drvData with channelF5555nmSample := sample }
  | .f6 => { drvData with channelF6590nmSample := sample }
  | .f7 => { drvData with channelF7630nmSample := sample }
  | .f8 => { drvData with channelF8680nmSample := sample }
  | .nir => { drvData with channelNir := sample }
  | .clear => { drvData with channelClear := sample }
  | .fd => { drvData with channelFd := sample }

theorem sample_set (drvData : DriverData) (sample : BitVec 16) (channel other : Channel) :
    (drvData.set sample channel).sample other =
      if other = channel then sample else drvData.sample other := by
  cases channel <;> cases other <;> rfl

end RcFirmware.As7341
