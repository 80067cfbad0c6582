import RcFirmware.Lib.Machine
import RcFirmware.Lib.RegisterFile
import RcFirmware.Zephyr
import Mathlib.Tactic.SplitIfs

/-!
# The PCA9632 LED driver

Four operations drive the LEDs of one chip over I2C. Each checks its arguments against limits that
`pca9632_led_init` writes last, then makes its register accesses in order and returns `-EIO` at the
first that fails. Register addresses, masks and values are bytes, so what is computed in 32 bits is
truncated on its way to the chip.

C leaves two things open that the operations can meet. A division by zero is a fault. A shift by 32 or
more has no value of its own and is a parameter, `lslPast`.
-/

namespace RcFirmware.Pca9632

open RegisterFile StepMachine

def ledOff : BitVec 32 := 0x0
def ledOn : BitVec 32 := 0x1
def ledPwm : BitVec 32 := 0x2
def ledGrpPwm : BitVec 32 := 0x3

def mode1 : BitVec 8 := 0x00
def mode2 : BitVec 8 := 0x01
def pwmBase : BitVec 8 := 0x02
def grppwm : BitVec 8 := 0x06
def grpfreq : BitVec 8 := 0x07
def ledout : BitVec 8 := 0x08

theorem mode1_toNat : mode1.toNat = 0 := rfl
theorem mode2_toNat : mode2.toNat = 1 := rfl
theorem pwmBase_toNat : pwmBase.toNat = 2 := rfl
theorem grppwm_toNat : grppwm.toNat = 6 := rfl
theorem grpfreq_toNat : grpfreq.toNat = 7 := rfl
theorem ledout_toNat : ledout.toNat = 8 := rfl

def mode1Sleep : BitVec 8 := 0x10
def mode2Dmblnk : BitVec 8 := 0x20
def mode2Outdrv : BitVec 8 := 0x04
def mode2Invrt : BitVec 8 := 0x10

def mask : BitVec 32 := 0x03

structure LedData where
  minPeriod : BitVec 32
  maxPeriod : BitVec 32
  minBrightness : BitVec 16
  maxBrightness : BitVec 16
  deriving DecidableEq, Repr

def LedData.zeroed : LedData := ⟨0, 0, 0, 0⟩

def LedData.limits : LedData := ⟨41, 10667, 0, 100⟩

abbrev Registers := BitVec 8 → BitVec 8

abbrev ChipAccess := Access (BitVec 8) 8

structure Device where
  data : LedData
  regs : Registers

inductive Fault where
  | divByZero
  deriving DecidableEq, Repr

def udiv (dividend divisor : BitVec 32) : Except Fault (BitVec 32) :=
  if divisor = 0 then .error .divByZero else .ok (dividend / divisor)

/-- What an operation returns and leaves behind, with the accesses the chip took from it. -/
structure Returned where
  rc : Int
  taken : List ChipAccess
  dev : Device

def Device.refuse (dev : Device) (rc : Int) : Returned := ⟨rc, [], dev⟩

def Device.makeAccesses (dev : Device) (ok : Nat → Bool) (accesses : List ChipAccess) : Returned :=
  { rc := if completed ok accesses then 0 else -eio
    taken := taken ok accesses
    dev := { dev with regs := applyAll dev.regs (taken ok accesses) } }

def initAccesses : List ChipAccess :=
  [.update mode1 mode1Sleep (~~~mode1Sleep), .update mode2 0x14 (mode2Outdrv ||| mode2Invrt)]

def pca9632LedInit (busReady : Bool) (ok : Nat → Bool) (dev : Device) : Returned :=
  if busReady then
    let returned := dev.makeAccesses ok initAccesses
    if returned.rc = 0 then
      { returned with dev := { returned.dev with data := .limits } }
    else returned
  else dev.refuse (-enodev)

theorem makeAccesses_rc_eq_zero_iff {dev : Device} {ok : Nat → Bool} {accesses : List ChipAccess} :
    (dev.makeAccesses ok accesses).rc = 0 ↔ taken ok accesses = accesses := by
  rw [← completed_iff, Device.makeAccesses]
  cases completed ok accesses <;> simp [eio]

theorem pca9632LedInit_of_ok {ok : Nat → Bool} (hfirst : ok 0 = true) (hsecond : ok 1 = true)
    (dev : Device) :
    pca9632LedInit true ok dev =
      ⟨0, initAccesses, ⟨.limits, applyAll dev.regs initAccesses⟩⟩ := by
  have htaken : taken ok initAccesses = initAccesses := by
    simp [taken, initAccesses, hfirst, hsecond]
  rw [pca9632LedInit, if_pos rfl]
  simp only [Device.makeAccesses, completed_iff.mpr htaken, htaken, if_true]

theorem pca9632LedInit_of_failed {busReady : Bool} {ok : Nat → Bool}
    (hfailed : ¬ (busReady = true ∧ ok 0 = true ∧ ok 1 = true)) (dev : Device) :
    (pca9632LedInit busReady ok dev).rc ≠ 0
      ∧ (pca9632LedInit busReady ok dev).dev.data = dev.data := by
  cases busReady with
  | false => exact ⟨show -enodev ≠ 0 by decide, rfl⟩
  | true =>
      have htaken : taken ok initAccesses ≠ initAccesses := by
        rw [Ne, taken_eq_self_iff]
        exact fun hall => hfailed ⟨rfl, hall 0 (by decide), hall 1 (by decide)⟩
      have hrc : (dev.makeAccesses ok initAccesses).rc ≠ 0 :=
        mt makeAccesses_rc_eq_zero_iff.mp htaken
      rw [pca9632LedInit, if_pos rfl]
      simp only [if_neg hrc]
      exact ⟨hrc, rfl⟩

section Operations

variable (lslPast : BitVec 32 → BitVec 32 → BitVec 32)

def lsl (word amount : BitVec 32) : BitVec 32 :=
  if amount < 32 then word <<< amount else lslPast word amount

def pca9632LedBlink (dev : Device) (ok : Nat → Bool) (led delayOn delayOff : BitVec 32) :
    Except Fault Returned :=
  let period := delayOn + delayOff
  if period < dev.data.minPeriod ∨ period > dev.data.maxPeriod then
    .ok (dev.refuse (-einval))
  else do
    let gdc ← udiv (delayOn * 256) period
    let gfrq := period * 24 / 1000 - 1
    return dev.makeAccesses ok
      [.write grppwm (gdc.setWidth 8),
        .write grpfreq (gfrq.setWidth 8),
        .update mode2 mode2Dmblnk mode2Dmblnk,
        .update ledout ((lsl lslPast mask (led <<< 1)).setWidth 8)
          ((lsl lslPast ledGrpPwm (led <<< 1)).setWidth 8)]

def pca9632LedSetBrightness (dev : Device) (ok : Nat → Bool) (led : BitVec 32)
    (value : BitVec 8) : Except Fault Returned :=
  if value.setWidth 16 < dev.data.minBrightness ∨ value.setWidth 16 > dev.data.maxBrightness then
    .ok (dev.refuse (-einval))
  else do
    let val ← udiv (value.setWidth 32 * 255) (dev.data.maxBrightness.setWidth 32)
    return dev.makeAccesses ok
      [.write ((pwmBase.setWidth 32 + led).setWidth 8) (val.setWidth 8),
        .update ledout ((lsl lslPast mask (led <<< 1)).setWidth 8)
          ((lsl lslPast ledPwm (led <<< 1)).setWidth 8)]

def pca9632LedOn (dev : Device) (ok : Nat → Bool) (led : BitVec 32) : Returned :=
  dev.makeAccesses ok
    [.update ledout ((lsl lslPast mask (led <<< 1)).setWidth 8)
      ((lsl lslPast ledOn (led <<< 1)).setWidth 8)]

def pca9632LedOff (dev : Device) (ok : Nat → Bool) (led : BitVec 32) : Returned :=
  dev.makeAccesses ok
    [.update ledout ((lsl lslPast mask (led <<< 1)).setWidth 8) (ledOff.setWidth 8)]

inductive Op where
  | on
  | off
  | setBrightness (value : BitVec 8)
  | blink (delayOn delayOff : BitVec 32)
  deriving DecidableEq, Repr

/-- One call into the driver, with the outcome of each access it would make. -/
structure Call where
  led : BitVec 32
  op : Op
  ok : Nat → Bool

def exec (dev : Device) (call : Call) : Except Fault Returned :=
  match call.op with
  | .on => .ok (pca9632LedOn lslPast dev call.ok call.led)
  | .off => .ok (pca9632LedOff lslPast dev call.ok call.led)
  | .setBrightness value => pca9632LedSetBrightness lslPast dev call.ok call.led value
  | .blink delayOn delayOff => pca9632LedBlink lslPast dev call.ok call.led delayOn delayOff

def step (state : Except Fault Device) (call : Call) : Except Fault Device := do
  let dev ← state
  let returned ← exec lslPast dev call
  return returned.dev

/-! ### What one call does -/

def Call.Refused (data : LedData) (call : Call) : Prop :=
  match call.op with
  | .on | .off => False
  | .setBrightness value =>
      value.setWidth 16 < data.minBrightness ∨ value.setWidth 16 > data.maxBrightness
  | .blink delayOn delayOff =>
      delayOn + delayOff < data.minPeriod ∨ delayOn + delayOff > data.maxPeriod

def Call.ZeroDivisor (data : LedData) (call : Call) : Prop :=
  match call.op with
  | .on | .off => False
  | .setBrightness _ => data.maxBrightness = 0
  | .blink delayOn delayOff => delayOn + delayOff = 0

/-- The accesses a call asks for when it is neither refused nor faults. -/
def Call.accesses (data : LedData) (call : Call) : List ChipAccess :=
  let select := (lsl lslPast mask (call.led <<< 1)).setWidth 8
  match call.op with
  | .on => [.update ledout select ((lsl lslPast ledOn (call.led <<< 1)).setWidth 8)]
  | .off => [.update ledout select (ledOff.setWidth 8)]
  | .setBrightness value =>
      [.write ((pwmBase.setWidth 32 + call.led).setWidth 8)
          ((value.setWidth 32 * 255 / data.maxBrightness.setWidth 32).setWidth 8),
        .update ledout select ((lsl lslPast ledPwm (call.led <<< 1)).setWidth 8)]
  | .blink delayOn delayOff =>
      [.write grppwm ((delayOn * 256 / (delayOn + delayOff)).setWidth 8),
        .write grpfreq (((delayOn + delayOff) * 24 / 1000 - 1).setWidth 8),
        .update mode2 mode2Dmblnk mode2Dmblnk,
        .update ledout select ((lsl lslPast ledGrpPwm (call.led <<< 1)).setWidth 8)]

theorem udiv_of_eq_zero (dividend : BitVec 32) {divisor : BitVec 32} (hdivisor : divisor = 0) :
    udiv dividend divisor = .error .divByZero := if_pos hdivisor

theorem udiv_of_ne_zero (dividend : BitVec 32) {divisor : BitVec 32} (hdivisor : divisor ≠ 0) :
    udiv dividend divisor = .ok (dividend / divisor) := if_neg hdivisor

theorem exec_of_refused (dev : Device) {call : Call} (hrefused : call.Refused dev.data) :
    exec lslPast dev call = .ok (dev.refuse (-einval)) := by
  obtain ⟨led, op, ok⟩ := call
  cases op with
  | on => exact hrefused.elim
  | off => exact hrefused.elim
  | setBrightness value => exact if_pos hrefused
  | blink delayOn delayOff => exact if_pos hrefused

theorem exec_of_zeroDivisor (dev : Device) {call : Call} (hrefused : ¬ call.Refused dev.data)
    (hzero : call.ZeroDivisor dev.data) : exec lslPast dev call = .error .divByZero := by
  obtain ⟨led, op, ok⟩ := call
  cases op with
  | on => exact hzero.elim
  | off => exact hzero.elim
  | setBrightness value =>
      have hmax : dev.data.maxBrightness.setWidth 32 = 0 :=
        congrArg (BitVec.setWidth 32) (hzero : dev.data.maxBrightness = 0)
      refine (if_neg hrefused).trans ?_
      rw [udiv_of_eq_zero _ hmax]
      rfl
  | blink delayOn delayOff =>
      have hperiod : delayOn + delayOff = 0 := hzero
      refine (if_neg hrefused).trans ?_
      rw [udiv_of_eq_zero _ hperiod]
      rfl

theorem exec_of_accepted (dev : Device) {call : Call} (hrefused : ¬ call.Refused dev.data)
    (hzero : ¬ call.ZeroDivisor dev.data) :
    exec lslPast dev call = .ok (dev.makeAccesses call.ok (call.accesses lslPast dev.data)) := by
  obtain ⟨led, op, ok⟩ := call
  cases op with
  | on => rfl
  | off => rfl
  | setBrightness value =>
      have hmax : dev.data.maxBrightness.setWidth 32 ≠ 0 := fun hmax =>
        hzero (show dev.data.maxBrightness = 0 by simpa using congrArg (BitVec.setWidth 16) hmax)
      refine (if_neg hrefused).trans ?_
      rw [udiv_of_ne_zero _ hmax]
      rfl
  | blink delayOn delayOff =>
      have hperiod : delayOn + delayOff ≠ 0 := hzero
      refine (if_neg hrefused).trans ?_
      rw [udiv_of_ne_zero _ hperiod]
      rfl

theorem step_ok (dev : Device) (call : Call) :
    step lslPast (.ok dev) call = (exec lslPast dev call).map Returned.dev := by
  change (exec lslPast dev call).bind _ = _
  cases exec lslPast dev call <;> rfl

theorem step_of_refused {dev : Device} {call : Call} (hrefused : call.Refused dev.data) :
    step lslPast (.ok dev) call = .ok dev := by
  rw [step_ok, exec_of_refused lslPast dev hrefused]
  rfl

theorem step_of_zeroDivisor {dev : Device} {call : Call} (hrefused : ¬ call.Refused dev.data)
    (hzero : call.ZeroDivisor dev.data) : step lslPast (.ok dev) call = .error .divByZero := by
  rw [step_ok, exec_of_zeroDivisor lslPast dev hrefused hzero]
  rfl

theorem step_of_accepted {dev : Device} {call : Call} (hrefused : ¬ call.Refused dev.data)
    (hzero : ¬ call.ZeroDivisor dev.data) :
    step lslPast (.ok dev) call =
      .ok ⟨dev.data, applyAll dev.regs (taken call.ok (call.accesses lslPast dev.data))⟩ := by
  rw [step_ok, exec_of_accepted lslPast dev hrefused hzero]
  rfl

end Operations

end RcFirmware.Pca9632
