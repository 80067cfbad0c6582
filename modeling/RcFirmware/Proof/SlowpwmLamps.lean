import RcFirmware.Lib.Machine
import RcFirmware.Proof.SlowpwmBlink
import RcFirmware.Proof.SlowpwmBrightness

/-!
# A bank of lamps

What the driver is for: lamps that burn steadily or blink, each as it was last told to. The driver keeps
no state of its own, and the PWM channels hold the lamps for it.
-/

namespace RcFirmware.LedSlowpwm

open StepMachine

inductive Light where
  | steady (percent : BitVec 8)
  | blinking (delayOn delayOff : BitVec 32)
  deriving DecidableEq, Repr

def Op.light : Op → Light
  | .on => .steady 100
  | .off => .steady 0
  | .blink delayOn delayOff => .blinking delayOn delayOff
  | .setBrightness value => .steady value

abbrev Lamps := BitVec 32 → Option Light

/-- A lamp changes when the call for it returns 0. -/
def Lamps.step (config : Config) (lamps : Lamps) : Event → Lamps
  | .call led op pwm =>
      if (op.exec pwm config led).1 = 0 then Function.update lamps led (some op.light) else lamps
  | .pmControl _ _ => lamps

/-- The request is for this light, in nanoseconds of the LED's period or in microseconds. -/
def Light.ShownBy (led : Led) (request : PwmPinSet) : Light → Prop
  | .steady percent =>
      request.unit = .nsec ∧ request.period = led.period
        ∧ request.pulse.toNat = led.period.toNat * percent.toNat / 100
  | .blinking delayOn delayOff =>
      request.unit = .usec ∧ request.period.toNat = 1000 * (delayOn.toNat + delayOff.toNat)
        ∧ request.pulse.toNat = 1000 * delayOn.toNat

/-! ### One call -/

/-- The request goes to the channel of the LED. -/
structure PwmPinSet.For (request : PwmPinSet) (led : Led) : Prop where
  dev : request.dev = led.dev
  channel : request.channel = led.channel
  flags : request.flags = led.flags

section

variable (pwm : PwmPinSet → Int) {config : Config} {led : BitVec 32}

theorem for_of_mem_blink (delayOn delayOff : BitVec 32) (hled : led < config.numLeds) :
    ∀ request ∈ (ledSlowpwmBlink pwm config led delayOn delayOff).2,
      request.For (config.get led hled) := by
  intro request hrequest
  rw [ledSlowpwmBlink, dif_pos hled] at hrequest
  dsimp only at hrequest
  split_ifs at hrequest
  · cases hrequest
  · rw [List.mem_singleton.mp hrequest]
    exact ⟨rfl, rfl, rfl⟩

theorem for_of_mem_setBrightness (value : BitVec 8) (hled : led < config.numLeds) :
    ∀ request ∈ (ledSlowpwmSetBrightness pwm config led value).2,
      request.For (config.get led hled) ∧ request.unit = .nsec := by
  intro request hrequest
  rw [ledSlowpwmSetBrightness, dif_pos hled] at hrequest
  dsimp only at hrequest
  split_ifs at hrequest
  · cases hrequest
  · rw [List.mem_singleton.mp hrequest]
    exact ⟨⟨rfl, rfl, rfl⟩, rfl⟩

/-- A call either is refused or makes one request, for its light on the channel of its LED. -/
inductive Obeys (pwm : PwmPinSet → Int) (config : Config) (led : BitVec 32) (light : Light) :
    Returned → Prop
  | refused : Obeys pwm config led light (-einval, [])
  | requested (hled : led < config.numLeds) (request : PwmPinSet)
      (hfor : request.For (config.get led hled))
      (hlight : (config.get led hled).period.toNat * 100 < 2 ^ 32 →
        light.ShownBy (config.get led hled) request) :
      Obeys pwm config led light (pwm request, [request])

theorem setBrightness_obeys (value : BitVec 8) :
    Obeys pwm config led (.steady value) (ledSlowpwmSetBrightness pwm config led value) := by
  by_cases hled : led < config.numLeds
  · by_cases hvalue : value ≤ 100
    · obtain ⟨request, hreturned, hperiod, hpulse⟩ := setBrightness_eq pwm config hled hvalue
      obtain ⟨hfor, hunit⟩ := for_of_mem_setBrightness pwm value hled request
        (by rw [hreturned]; exact List.mem_singleton_self request)
      rw [hreturned]
      refine .requested hled request hfor fun hfits => ⟨hunit, hperiod, ?_⟩
      have hvalue : value.toNat ≤ 100 := hvalue
      rw [hpulse, Nat.mod_eq_of_lt]
      exact Nat.lt_of_le_of_lt (Nat.mul_le_mul_left _ hvalue) hfits
    · rw [ledSlowpwmSetBrightness, dif_pos hled, if_pos (BitVec.not_le.mp hvalue)]
      exact .refused
  · rw [ledSlowpwmSetBrightness, dif_neg hled]
    exact .refused

theorem blink_obeys (delayOn delayOff : BitVec 32) :
    Obeys pwm config led (.blinking delayOn delayOff)
      (ledSlowpwmBlink pwm config led delayOn delayOff) := by
  by_cases hadmitted : Admitted config led delayOn delayOff
  · obtain ⟨request, hreturned, hunit, hperiod, hpulse⟩ :=
      blink_of_admitted pwm config led hadmitted
    have hled := (config.natCast_lt_numLeds_iff led).mp hadmitted.1
    have hfor := for_of_mem_blink pwm delayOn delayOff hled request
      (by rw [hreturned]; exact List.mem_singleton_self request)
    rw [hreturned]
    exact .requested hled request hfor fun _ => ⟨hunit, hperiod, hpulse⟩
  · rw [blink_of_not_admitted pwm config led hadmitted]
    exact .refused

theorem exec_obeys (op : Op) : Obeys pwm config led op.light (op.exec pwm config led) := by
  cases op with
  | on => exact setBrightness_obeys pwm 100
  | off => exact setBrightness_obeys pwm 0
  | blink delayOn delayOff => exact blink_obeys pwm delayOn delayOff
  | setBrightness value => exact setBrightness_obeys pwm value

end

/-! ### The lamps -/

def Led.pin (led : Led) : Nat × BitVec 32 := (led.dev, led.channel)

/-- The channels of the LEDs hold the lamps, and those of lamps that are not set are as at first. -/
structure Holds (config : Config) (first board : Board) (lamps : Lamps) : Prop where
  lit : ∀ led (hled : led < config.numLeds) light, lamps led = some light → ∃ request,
    board.pins (config.get led hled).dev (config.get led hled).channel = some request
      ∧ request.For (config.get led hled) ∧ light.ShownBy (config.get led hled) request
  unlit : ∀ led (hled : led < config.numLeds), lamps led = none →
    board.pins (config.get led hled).dev (config.get led hled).channel =
      first.pins (config.get led hled).dev (config.get led hled).channel

section

variable {config : Config} {first board : Board} {lamps : Lamps}

theorem eq_of_pin_eq (hpins : (config.led.map Led.pin).Nodup) {led other : BitVec 32}
    (hled : led < config.numLeds) (hother : other < config.numLeds)
    (hpin : (config.get led hled).pin = (config.get other hother).pin) : led = other := by
  have hget : config.get led hled = config.get other hother :=
    List.inj_on_of_nodup_map hpins (List.get_mem _ _) (List.get_mem _ _) hpin
  have hindex := (List.nodup_iff_injective_get.mp hpins.of_map) hget
  exact BitVec.eq_of_toNat_eq (Fin.mk.inj_iff.mp hindex)

theorem pins_stateSet (pm : Nat → Int) (requests : List (PmDeviceStateSet × Nat)) :
    (requests.foldl (Board.stateSet pm) board).pins = board.pins := by
  induction requests generalizing board with
  | nil => rfl
  | cons request requests ih =>
      rw [List.foldl_cons, ih, Board.stateSet]
      split <;> rfl

/-- The request for a light is carried out on the channel of its LED, which is no other LED's. -/
theorem Holds.pinSet (hpins : (config.led.map Led.pin).Nodup) (hholds : Holds config first board lamps)
    {pwm : PwmPinSet → Int} {request : PwmPinSet} (haccepted : pwm request = 0) {led : BitVec 32}
    (hled : led < config.numLeds) (hfor : request.For (config.get led hled)) {light : Light}
    (hlight : light.ShownBy (config.get led hled) request) :
    Holds config first (board.pinSet pwm request) (Function.update lamps led (some light)) := by
  have hpin : ∀ other (hother : other < config.numLeds),
      ((config.get other hother).dev = request.dev
        ∧ (config.get other hother).channel = request.channel) ↔ other = led := by
    intro other hother
    rw [hfor.dev, hfor.channel]
    constructor
    · rintro ⟨hdev, hchannel⟩
      exact eq_of_pin_eq hpins hother hled (Prod.ext hdev hchannel)
    · rintro rfl
      exact ⟨rfl, rfl⟩
  rw [Board.pinSet, if_pos haccepted]
  constructor
  · intro other hother shown hlamp
    by_cases hsame : other = led
    · subst hsame
      rw [Function.update_self, Option.some_inj] at hlamp
      exact ⟨request, if_pos ((hpin other hother).mpr rfl), hfor, hlamp ▸ hlight⟩
    · rw [Function.update_of_ne hsame] at hlamp
      obtain ⟨held, hheld, hshown⟩ := hholds.lit other hother shown hlamp
      refine ⟨held, ?_, hshown⟩
      rw [← hheld]
      exact if_neg (mt (hpin other hother).mp hsame)
  · intro other hother hlamp
    by_cases hsame : other = led
    · rw [hsame, Function.update_self] at hlamp
      cases hlamp
    · rw [Function.update_of_ne hsame] at hlamp
      rw [← hholds.unlit other hother hlamp]
      exact if_neg (mt (hpin other hother).mp hsame)

theorem Holds.step (hpins : (config.led.map Led.pin).Nodup)
    (hfits : ∀ led ∈ config.led, led.period.toNat * 100 < 2 ^ 32)
    (hholds : Holds config first board lamps) (event : Event) :
    Holds config first (step config board event) (lamps.step config event) := by
  cases event with
  | pmControl action pm =>
      have hsame : (LedSlowpwm.step config board (.pmControl action pm)).pins = board.pins :=
        pins_stateSet pm _
      constructor
      · rw [hsame]
        exact hholds.lit
      · rw [hsame]
        exact hholds.unlit
  | call led op pwm =>
      have hobeys : Obeys pwm config led op.light (op.exec pwm config led) := exec_obeys pwm op
      simp only [LedSlowpwm.step, Lamps.step]
      generalize op.exec pwm config led = returned at hobeys
      cases hobeys with
      | refused => exact hholds
      | requested hled request hfor hlight =>
          rw [List.foldl_cons, List.foldl_nil]
          by_cases haccepted : pwm request = 0
          · rw [if_pos haccepted]
            have hperiod := hfits (config.get led hled) (List.get_mem config.led _)
            exact hholds.pinSet hpins haccepted hled hfor (hlight hperiod)
          · rw [Board.pinSet, if_neg haccepted, if_neg haccepted]
            exact hholds

end

/-! ### Power -/

/-- One of the requests for the device is answered with 0, the LEDs standing in the places from `first`
on. -/
def SwitchedBy (pm : Nat → Int) (dev : Nat) (leds : List Led) (first : Nat) : Prop :=
  ∃ led ∈ leds.zipIdx first, led.1.dev = dev ∧ pm led.2 = 0

instance (pm : Nat → Int) (dev : Nat) (leds : List Led) (first : Nat) :
    Decidable (SwitchedBy pm dev leds first) :=
  inferInstanceAs (Decidable (∃ led ∈ leds.zipIdx first, led.1.dev = dev ∧ pm led.2 = 0))

/-- The state that an event puts a device in. -/
def Event.switched (config : Config) (dev : Nat) : Event → Option PmDeviceState
  | .call _ _ _ => none
  | .pmControl action pm => action.state?.filter fun _ => SwitchedBy pm dev config.led 0

theorem switchedBy_cons_iff (pm : Nat → Int) (dev : Nat) (led : Led) (leds : List Led) (first : Nat) :
    SwitchedBy pm dev (led :: leds) first ↔
      (led.dev = dev ∧ pm first = 0) ∨ SwitchedBy pm dev leds (first + 1) := by
  unfold SwitchedBy
  rw [List.zipIdx_cons, List.exists_mem_cons_iff]

theorem pmControlLoop_requests (action : PmDeviceAction) (leds : List Led) :
    (pmControlLoop action leds).2 =
      action.state?.elim [] fun state => leds.map fun led => ⟨led.dev, state⟩ := by
  induction leds with
  | nil => cases haction : action.state? <;> rfl
  | cons led leds ih =>
      rw [pmControlLoop]
      cases haction : action.state? with
      | none => rfl
      | some state =>
          rw [haction] at ih
          exact congrArg (_ :: ·) ih

theorem power_foldl (pm : Nat → Int) (state : PmDeviceState) (leds : List Led) (first : Nat)
    (board : Board) (dev : Nat) :
    (((leds.map fun led => (⟨led.dev, state⟩ : PmDeviceStateSet)).zipIdx first).foldl
        (Board.stateSet pm) board).power dev =
      if SwitchedBy pm dev leds first then state else board.power dev := by
  induction leds generalizing board first with
  | nil => rfl
  | cons led leds ih =>
      rw [List.map_cons, List.zipIdx_cons, List.foldl_cons, ih]
      by_cases hrest : SwitchedBy pm dev leds (first + 1)
      · rw [if_pos hrest, if_pos ((switchedBy_cons_iff _ _ _ _ _).mpr (.inr hrest))]
      · rw [if_neg hrest, Board.stateSet]
        have hswitched : SwitchedBy pm dev (led :: leds) first ↔ led.dev = dev ∧ pm first = 0 := by
          rw [switchedBy_cons_iff, or_iff_left hrest]
        simp only [hswitched]
        by_cases hpm : pm first = 0
        · by_cases hdev : led.dev = dev
          · rw [if_pos hpm, if_pos ⟨hdev, hpm⟩, ← hdev]
            exact Function.update_self _ _ _
          · rw [if_pos hpm, if_neg fun h => hdev h.1]
            exact Function.update_of_ne (Ne.symm hdev) _ _
        · rw [if_neg hpm, if_neg fun h => hpm h.2]

theorem power_pinSet (pwm : PwmPinSet → Int) (requests : List PwmPinSet) (board : Board) :
    (requests.foldl (Board.pinSet pwm) board).power = board.power := by
  induction requests generalizing board with
  | nil => rfl
  | cons request requests ih =>
      rw [List.foldl_cons, ih, Board.pinSet]
      split <;> rfl

theorem power_step (config : Config) (board : Board) (event : Event) (dev : Nat) :
    (step config board event).power dev = (event.switched config dev).getD (board.power dev) := by
  cases event with
  | call led op pwm => exact congrFun (power_pinSet pwm _ board) dev
  | pmControl action pm =>
      rw [step, ledSlowpwmPmControl, pmControlLoop_requests, Event.switched]
      cases haction : action.state? with
      | none => rfl
      | some state =>
          rw [Option.elim_some, power_foldl, Option.filter_some]
          by_cases hswitched : SwitchedBy pm dev config.led 0
          · rw [if_pos hswitched, if_pos (decide_eq_true hswitched)]
            rfl
          · rw [if_neg hswitched, if_neg (by rwa [decide_eq_true_iff])]
            rfl

/-! ### Whole runs -/

theorem init_eq_zero_iff (deviceIsReady : Nat → Bool) (config : Config) :
    ledSlowpwmInit deviceIsReady config = 0
      ↔ config.led ≠ [] ∧ ∀ led ∈ config.led, deviceIsReady led.dev = true := by
  have hcount : config.numLeds = 0 ↔ config.led = [] := by
    rw [← List.length_eq_zero_iff, ← config.toNat_numLeds]
    exact ⟨fun h => by rw [h]; rfl, fun h => BitVec.eq_of_toNat_eq h⟩
  rw [ledSlowpwmInit, ← List.all_eq_true]
  split_ifs with hnone hready
  · simp [hcount.mp hnone, enodev]
  · simp [hready, mt hcount.mpr hnone]
  · simp [hready, enodev]

theorem devices_subset (config : Config) (event : Event) :
    ∀ dev ∈ event.devices config, ∃ led ∈ config.led, dev = led.dev := by
  intro dev hdev
  cases event with
  | call led op pwm =>
      have hobeys : Obeys pwm config led op.light (op.exec pwm config led) := exec_obeys pwm op
      simp only [Event.devices] at hdev
      generalize op.exec pwm config led = returned at hobeys hdev
      cases hobeys with
      | refused => cases hdev
      | requested hled request hfor hlight =>
          rw [List.map_singleton, List.mem_singleton] at hdev
          exact ⟨config.get led hled, List.get_mem config.led _, hdev.trans hfor.dev⟩
  | pmControl action pm =>
      rw [Event.devices, ledSlowpwmPmControl, pmControlLoop_requests] at hdev
      cases haction : action.state? with
      | none =>
          rw [haction] at hdev
          cases hdev
      | some state =>
          rw [haction, Option.elim_some, List.map_map] at hdev
          obtain ⟨led, hled, rfl⟩ := List.mem_map.mp hdev
          exact ⟨led, hled, rfl⟩

/-- **A bank of lamps.** On a board where the driver has initialised, with each LED on a channel of its
own and a period of which a hundred fit 32 bits, whatever is called and whatever the PWM devices
return: only ready devices are asked, the channel of each LED carries out the light that the last call
for it to return 0 asked for, and each device is in the power state it was last put in. -/
theorem pins_hold_lamps {deviceIsReady : Nat → Bool} {config : Config}
    (hinit : ledSlowpwmInit deviceIsReady config = 0) (hpins : (config.led.map Led.pin).Nodup)
    (hfits : ∀ led ∈ config.led, led.period.toNat * 100 < 2 ^ 32) (board : Board)
    (events : List Event) :
    (∀ event ∈ events, ∀ dev ∈ event.devices config, deviceIsReady dev = true)
      ∧ Holds config board (run (step config) board events)
        (run (Lamps.step config) (fun _ => none) events)
      ∧ ∀ dev, (run (step config) board events).power dev =
        (events.filterMap (Event.switched config dev)).getLast?.getD (board.power dev) := by
  have hready := ((init_eq_zero_iff deviceIsReady config).mp hinit).2
  refine ⟨?_, ?_, ?_⟩
  · intro event _ dev hdev
    obtain ⟨led, hled, rfl⟩ := devices_subset config event dev hdev
    exact hready led hled
  · have hstart : Holds config board board fun _ => none :=
      ⟨by rintro _ _ _ ⟨⟩, fun _ _ _ => rfl⟩
    exact run_related_same (Q := fun _ => True)
      (fun _ _ event hholds _ => hholds.step hpins hfits event) hstart fun _ _ => trivial
  · intro dev
    exact get_run_event (fun board : Board => board.power dev)
      (fun board event => power_step config board event dev) board events

/-- Two LEDs on one device, of which the second is refused its brightness, and a suspension that the
device is asked for twice and carries out the second time. -/
theorem pins_hold_lamps_example :
    let config : Config := ⟨2, [.ofNode 0 3 none none, .ofNode 0 4 none none], rfl⟩
    let board : Board := ⟨fun _ _ => none, fun _ => .active⟩
    let events : List Event := [.call 0 .on fun _ => 0, .call 1 (.setBrightness 50) fun _ => -eio,
      .pmControl .suspend fun index => if index = 0 then -eio else 0]
    (∃ request, (run (step config) board events).pins 0 3 = some request
        ∧ Light.ShownBy (.ofNode 0 3 none none) request (.steady 100))
      ∧ (run (step config) board events).power 0 = .suspended := by
  intro config board events
  obtain ⟨-, hholds, hpower⟩ :=
    @pins_hold_lamps (fun _ => true) config (by decide) (by decide) (by decide) board events
  obtain ⟨request, hpin, -, hlight⟩ := hholds.lit 0 (by decide) (.steady 100) (by decide)
  refine ⟨⟨request, hpin, hlight⟩, ?_⟩
  rw [hpower]
  decide

end RcFirmware.LedSlowpwm
