import RcFirmware.Hcsr

/-!
# Whose reading an edge changes

The handler takes the slot from `cur_dist_sensor` and not from the pin it was called for, and a
callback once added stays added. So an edge is charged to the sensor whose turn it is: its own, as
long as no edge that closes a measurement arrives after the timer has moved on.

Which edges those are is a matter of the order of ticks and edges alone. There are three kinds of
them, each an edge on the pin whose turn it is not, while a measurement is open.
-/

namespace RcFirmware.Hcsr

open StepMachine

def Event.pin? : Event → Option SensorNo
  | .timer _ => none
  | .edge pin _ _ => some pin

variable (kCycToUsFloor64 : BitVec 64 → BitVec 64)

def ChangesAttributed (state : State) (event : Event) : Prop :=
  ∀ sensor, (step kCycToUsFloor64 state event).distanceReadings sensor
      ≠ state.distanceReadings sensor → event.pin? = some sensor

def StoresAttributed (state : State) (event : Event) : Prop :=
  ∀ sensor value, (step kCycToUsFloor64 state event).stores = state.stores ++ [(sensor, value)] →
    event.pin? = some sensor

def InTurn (state : State) (event : Event) : Prop :=
  state.Measures event → event.pin? = some state.curDistSensor

variable {kCycToUsFloor64}

theorem storesAttributed_iff_inTurn (state : State) (event : Event) :
    StoresAttributed kCycToUsFloor64 state event ↔ InTurn state event := by
  constructor
  · intro hstores hmeasures
    refine hstores state.curDistSensor
      (distanceValue (kCycToUsFloor64 (elapsedCycles event.now state))) ?_
    rw [step_of_measures hmeasures, storeReading]
  · intro hturn sensor value hstore
    by_cases hmeasures : state.Measures event
    · rw [step_of_measures hmeasures, storeReading] at hstore
      have hsame := List.append_cancel_left hstore
      rw [hturn hmeasures, (Prod.mk.inj (List.cons.inj hsame).1).1]
    · rw [(step_of_not_measures hmeasures).1] at hstore
      simp at hstore

theorem changesAttributed_of_inTurn {state : State} {event : Event} (hturn : InTurn state event) :
    ChangesAttributed kCycToUsFloor64 state event := by
  intro sensor hchange
  by_cases hmeasures : state.Measures event
  · rw [step_of_measures hmeasures] at hchange
    by_cases hsensor : sensor = state.curDistSensor
    · rw [hturn hmeasures, hsensor]
    · simp [storeReading, hsensor] at hchange
  · rw [(step_of_not_measures hmeasures).2] at hchange
    exact absurd rfl hchange

/-- **Attribution.** Along any run every store goes to the sensor whose pin the edge came on exactly
when every edge that closes a measurement comes in its own sensor's turn, and then no edge alters the
other sensor's reading. -/
theorem attributed_iff_inTurn (kCycToUsFloor64 : BitVec 64 → BitVec 64) (outcome : InitOutcome)
    (events : List Event) :
    (Along (step kCycToUsFloor64) (StoresAttributed kCycToUsFloor64) (hcsrInit outcome boot) events
        ↔ Along (step kCycToUsFloor64) InTurn (hcsrInit outcome boot) events)
      ∧ (Along (step kCycToUsFloor64) InTurn (hcsrInit outcome boot) events →
        Along (step kCycToUsFloor64) (ChangesAttributed kCycToUsFloor64)
          (hcsrInit outcome boot) events) := by
  exact ⟨along_congr storesAttributed_iff_inTurn,
    Along.mono fun _ _ hturn => changesAttributed_of_inTurn hturn⟩

def lateEchoRun : List Event :=
  [.timer 1000, .edge 1 .rising 1030, .timer 14107, .edge 1 .falling 14200]

/-- The late edge on echo 1 changes sensor 0's reading. -/
theorem lateEchoRun_not_attributed :
    ¬ Along (step (cycToUsFloor64 32768)) (ChangesAttributed (cycToUsFloor64 32768))
      (hcsrInit allReady boot) lateEchoRun := by
  rw [hcsrInit_eq_initialised (by decide)]
  intro hattributed
  have hlate := hattributed.2.2.2.1 0
  revert hlate
  simp [Event.pin?, initialised, boot, step_timer_eq, hcsrTimingHandler_eq, step_edge_eq,
    State.Interrupts, SensorNo.not, storeReading, elapsedCycles, cycToUsFloor64]
  decide

/-! ### Orders of ticks and edges -/

/-- An event without its time. -/
inductive Signal where
  | tick
  | edge (pin : SensorNo) (direction : GpioEdge)
  deriving DecidableEq, Repr

def Event.signal : Event → Signal
  | .timer _ => .tick
  | .edge pin direction _ => .edge pin direction

/-- How far an order has got: its ticks, in whose turn a measurement has begun since sensor 1 was
triggered last, and whether one has ever begun in sensor 0's turn. -/
structure Order where
  ticks : Nat
  began : Option SensorNo
  shut : Bool
  deriving DecidableEq, Repr

def Order.start : Order := ⟨0, none, false⟩

def Order.turn (order : Order) : SensorNo := if order.ticks % 2 = 0 then 0 else 1

/-- The direction in which edges on the pin are noticed. -/
def Order.direction (order : Order) (pin : SensorNo) : GpioEdge :=
  if pin = 0 then if order.shut then .falling else .rising
  else if order.began = some 1 then .falling else .rising

/-- Sensor 1 is first triggered by the first tick, and sensor 0 by the second. -/
def Order.Notices (order : Order) (pin : SensorNo) (direction : GpioEdge) : Prop :=
  2 ≤ order.ticks + pin ∧ order.direction pin = direction

instance (order : Order) (pin : SensorNo) (direction : GpioEdge) :
    Decidable (order.Notices pin direction) :=
  inferInstanceAs (Decidable (_ ∧ _))

def Order.begin (order : Order) : Order :=
  { order with began := some order.turn, shut := order.shut || order.turn = 0 }

def Order.step (order : Order) : Signal → Order
  | .tick =>
      { order with
        ticks := order.ticks + 1
        began := if order.turn = 0 then none else order.began }
  | .edge pin direction =>
      if order.Notices pin direction ∧ order.began = none then order.begin else order

/-- The edges that are charged to the other sensor. Echo 1 falls in sensor 0's turn, and a measurement
has begun in the turn before; it rises there, and one has begun in this turn; or echo 0 changes in
sensor 1's turn as it is noticed to, and one has begun in this turn. -/
inductive Order.Misplaced (order : Order) : Signal → Prop
  | ends (hturn : order.turn = 0) (hbegan : order.began = some 1) : Misplaced order (.edge 1 .falling)
  | begins (hturn : order.turn = 0) (hbegan : order.began = some 0) : Misplaced order (.edge 1 .rising)
  | intrudes (hturn : order.turn = 1) (hbegan : order.began = some 1) (hticks : 2 ≤ order.ticks) :
      Misplaced order (.edge 0 (order.direction 0))

/-- The driver is where the order says. -/
structure Keeps (driver : State) (order : Order) : Prop where
  turn : driver.curDistSensor = order.turn
  began : driver.trigType = 0#8 ↔ order.began = none
  added : ∀ pin : SensorNo, (driver.echo pin).callbackAdded = true ↔ 2 ≤ order.ticks + pin
  interrupt : ∀ pin, (driver.echo pin).interrupt = some (order.direction pin)
  triggered : order.began ≠ none → 0 < order.ticks
  own : order.turn = 1 → order.began ≠ some 0

theorem keeps_initialised : Keeps initialised Order.start where
  turn := rfl
  began := by decide
  added := by decide
  interrupt := by decide
  triggered := by decide
  own := by decide

theorem SensorNo.eq_zero_or_eq_one (sensor : SensorNo) : sensor = 0 ∨ sensor = 1 := by
  revert sensor
  decide

section Order

variable {order : Order} {pin : SensorNo}

theorem Order.turn_eq_one (hturn : order.turn ≠ 0) : order.turn = 1 := by
  unfold Order.turn at hturn ⊢
  split_ifs at hturn ⊢
  · exact absurd rfl hturn
  · rfl

theorem Order.direction_begin_self : order.begin.direction order.turn = .falling := by
  by_cases hzero : order.turn = 0
  · simp [Order.direction, Order.begin, hzero]
  · simp [Order.direction, Order.begin, Order.turn_eq_one hzero]

theorem Order.direction_begin_of_ne (hnone : order.began = none) (hpin : pin ≠ order.turn) :
    order.begin.direction pin = order.direction pin := by
  by_cases hzero : order.turn = 0
  · rw [hzero] at hpin
    simp [Order.direction, Order.begin, hzero, hpin, hnone]
  · have hone := Order.turn_eq_one hzero
    obtain rfl | rfl := pin.eq_zero_or_eq_one
    · simp [Order.direction, Order.begin, hone]
    · exact absurd hone.symm hpin

theorem Order.le_ticks_add_turn {direction : GpioEdge} (hnotices : order.Notices pin direction) :
    2 ≤ order.ticks + order.turn := by
  have hticks := hnotices.1
  have hpin : pin.val < 2 := pin.isLt
  unfold Order.turn
  split_ifs with heven
  · simp only [Fin.val_zero]
    omega
  · simp only [Fin.val_one]
    omega

theorem Order.turn_tick (order : Order) : (order.step .tick).turn = order.turn.not := by
  unfold Order.turn Order.step
  obtain heven | hodd := Nat.mod_two_eq_zero_or_one order.ticks
  · rw [heven, if_neg (by simp only; omega)]
    rfl
  · rw [hodd, if_pos (by simp only; omega)]
    rfl

end Order

section Keeps

variable {driver : State} {order : Order}

theorem Keeps.interrupts_iff (hkeeps : Keeps driver order) (pin : SensorNo) (direction : GpioEdge) :
    driver.Interrupts pin direction ↔ order.Notices pin direction := by
  rw [State.Interrupts, Order.Notices, hkeeps.added, hkeeps.interrupt, Option.some_inj]

theorem Keeps.timer (hkeeps : Keeps driver order) (now : BitVec 32) :
    Keeps (step kCycToUsFloor64 driver (.timer now)) (order.step .tick) := by
  obtain ⟨hturn, hbegan, hadded, hinterrupt, htriggered, -⟩ := hkeeps
  rw [step_timer_eq, hcsrTimingHandler_eq, hturn]
  obtain hmod | hmod := Nat.mod_two_eq_zero_or_one order.ticks
  · have hzero : order.turn = 0 := if_pos hmod
    have hnot : SensorNo.not 0 = 1 := rfl
    refine ⟨(order.turn_tick).symm, ?_, ?_, ?_, ?_, ?_⟩
    · simp [Order.step, hzero, hnot]
    · have hfirst := hadded 0
      -- the ticks are even, so that one more does not bring them to two
      have hticks : 2 ≤ order.ticks ↔ 2 ≤ order.ticks + 1 := by omega
      intro pin
      fin_cases pin
      · simpa [Order.step, hzero, hnot, hfirst] using hticks
      · simp [Order.step, hzero, hnot]
    · have hfirst := hinterrupt 0
      intro pin
      fin_cases pin
      · simpa [Order.step, Order.direction, hzero, hnot] using hfirst
      · simp [Order.step, Order.direction, hzero, hnot]
    · simp [Order.step, hzero]
    · simp [Order.step, hzero]
  · have hone : order.turn = 1 := if_neg (by omega)
    have hnot : SensorNo.not 1 = 0 := rfl
    refine ⟨(order.turn_tick).symm, ?_, ?_, ?_, ?_, ?_⟩
    · simpa [Order.step, hone, hnot] using hbegan
    · have hsecond := hadded 1
      have hticks : 1 ≤ order.ticks := by omega
      intro pin
      fin_cases pin
      · simpa [Order.step, hone, hnot] using hticks
      · simpa [Order.step, hone, hnot, hsecond] using hticks
    · intro pin
      have hpin := hinterrupt pin
      fin_cases pin
      · simpa [Order.step, Order.direction, hone, hnot] using hpin
      · simpa [Order.step, Order.direction, hone, hnot] using hpin
    · exact fun _ => Nat.succ_pos _
    · intro hturn
      rw [order.turn_tick, hone] at hturn
      cases hturn

/-- An edge that is noticed begins a measurement where none has begun. -/
theorem Keeps.begins (hkeeps : Keeps driver order) {pin : SensorNo} {direction : GpioEdge}
    (hnotices : order.Notices pin direction) (hnone : order.began = none) (now : BitVec 32) :
    Keeps
      { driver with
        trigTime := now.setWidth 64
        trigType := 1
        echo := Function.update driver.echo driver.curDistSensor
          { driver.echo driver.curDistSensor with
            interrupt := some .falling
            callbackAdded := true } }
      order.begin := by
  obtain ⟨hturn, -, hadded, hinterrupt, -, -⟩ := hkeeps
  have hticks := Order.le_ticks_add_turn hnotices
  rw [hturn]
  constructor
  · rfl
  · simp [Order.begin]
  · intro pin
    by_cases hpin : pin = order.turn
    · subst hpin
      simpa [Order.begin] using hticks
    · simpa [Order.begin, Function.update_of_ne hpin] using hadded pin
  · intro pin
    by_cases hpin : pin = order.turn
    · subst hpin
      simp [Order.direction_begin_self]
    · simp [Function.update_of_ne hpin, hinterrupt pin, Order.direction_begin_of_ne hnone hpin]
  · intro _
    have hturn : order.turn.val < 2 := order.turn.isLt
    simp only [Order.begin]
    omega
  · intro hone hbegan
    exact absurd (hone.symm.trans (Option.some.inj hbegan)) (by decide)

theorem Keeps.edge (hkeeps : Keeps driver order) (pin : SensorNo) (direction : GpioEdge)
    (now : BitVec 32) :
    Keeps (step kCycToUsFloor64 driver (.edge pin direction now))
      (order.step (.edge pin direction)) := by
  rw [step_edge_eq, Order.step]
  by_cases hnotices : order.Notices pin direction
  · rw [if_pos ((hkeeps.interrupts_iff pin direction).mpr hnotices)]
    by_cases hnone : order.began = none
    · rw [if_pos (hkeeps.began.mpr hnone), if_pos ⟨hnotices, hnone⟩]
      exact hkeeps.begins hnotices hnone now
    · rw [if_neg (mt hkeeps.began.mp hnone), if_neg fun h => hnone h.2]
      exact { hkeeps with }
  · rw [if_neg (mt (hkeeps.interrupts_iff pin direction).mp hnotices), if_neg fun h => hnotices h.1]
    exact hkeeps

/-- An edge is out of turn where the order says that it is misplaced. -/
theorem Keeps.inTurn_iff (hkeeps : Keeps driver order) (event : Event) :
    InTurn driver event ↔ ¬ order.Misplaced event.signal := by
  cases event with
  | timer now =>
      refine iff_of_true (fun hmeasures => hmeasures.elim) ?_
      rintro ⟨⟩
  | edge pin direction now =>
      have hmeasures : driver.Measures (.edge pin direction now)
          ↔ order.Notices pin direction ∧ order.began ≠ none :=
        and_congr (hkeeps.interrupts_iff pin direction) hkeeps.began.not
      rw [InTurn, hmeasures, Event.pin?, hkeeps.turn, Option.some_inj, Event.signal]
      constructor
      · intro hturn hmisplaced
        cases hmisplaced with
        | ends hzero hbegan | begins hzero hbegan =>
            have hticks : 1 ≤ order.ticks := hkeeps.triggered (by rw [hbegan]; rintro ⟨⟩)
            have hone : 1 = order.turn := by
              apply hturn
              simpa [Order.Notices, Order.direction, hbegan] using hticks
            exact absurd (hone.trans hzero) (by decide)
        | intrudes hone hbegan hticks =>
            have hzero : 0 = order.turn := by
              apply hturn
              simp [Order.Notices, hbegan, hticks]
            exact absurd (hzero.trans hone) (by decide)
      · rintro hplaced ⟨⟨hticks, rfl⟩, hbegan⟩
        obtain ⟨sensor, hsensor⟩ := Option.ne_none_iff_exists'.mp hbegan
        by_contra hpin
        obtain rfl | rfl := pin.eq_zero_or_eq_one
        · have hone : order.turn = 1 := Order.turn_eq_one (Ne.symm hpin)
          obtain rfl | rfl := sensor.eq_zero_or_eq_one
          · exact hkeeps.own hone hsensor
          · exact hplaced (.intrudes hone hsensor hticks)
        · obtain hzero | hone := order.turn.eq_zero_or_eq_one
          · obtain rfl | rfl := sensor.eq_zero_or_eq_one
            · have hrising : order.direction 1 = .rising := by simp [Order.direction, hsensor]
              rw [hrising] at hplaced
              exact hplaced (.begins hzero hsensor)
            · have hfalling : order.direction 1 = .falling := by simp [Order.direction, hsensor]
              rw [hfalling] at hplaced
              exact hplaced (.ends hzero hsensor)
          · exact hpin hone.symm

end Keeps

theorem along_inTurn_iff_order (kCycToUsFloor64 : BitVec 64 → BitVec 64) (events : List Event) :
    Along (step kCycToUsFloor64) InTurn initialised events
      ↔ Along Order.step (fun order signal => ¬ order.Misplaced signal) Order.start
        (events.map Event.signal) := by
  refine along_related_iff (fun driver order event hkeeps => ?_)
    (fun _ _ event hkeeps => hkeeps.inTurn_iff event) keeps_initialised
  cases event with
  | timer now => exact hkeeps.timer now
  | edge pin direction now => exact hkeeps.edge pin direction now

/-- **Attribution is a matter of order.** Behind a successful `hcsr_init`, along any run every store
goes to the sensor whose pin the edge came on exactly when no edge is misplaced in the order of ticks
and edges, whatever their times. -/
theorem attributed_iff_order (kCycToUsFloor64 : BitVec 64 → BitVec 64) {outcome : InitOutcome}
    (hinit : (hcsrInit outcome boot).timerStarted = true) (events : List Event) :
    Along (step kCycToUsFloor64) (StoresAttributed kCycToUsFloor64) (hcsrInit outcome boot) events
      ↔ Along Order.step (fun order signal => ¬ order.Misplaced signal) Order.start
        (events.map Event.signal) := by
  rw [hcsrInit_eq_initialised hinit, along_congr storesAttributed_iff_inTurn]
  exact along_inTurn_iff_order kCycToUsFloor64 events

/-- Echo 1 ends after the next tick. -/
example : (run Order.step Order.start [.tick, .edge 1 .rising, .tick]).Misplaced (.edge 1 .falling) :=
  .ends rfl rfl

end RcFirmware.Hcsr
