import RcFirmware.Hcsr

/-!
# Shifting the cycle counter

The stored distance should depend on how many cycles passed between two readings of the counter and
not on where the counter stood. The stamp is kept in 64 bits and the counter has 32, so the
difference is the elapsed count only while the counter has not wrapped since the stamp: that is
exactly when it is, and where no measurement spans a wrap, the run and its shift store the same.
-/

namespace RcFirmware.Hcsr

open StepMachine

def Event.shift (offset : BitVec 32) : Event → Event
  | .timer now => .timer (now + offset)
  | .edge pin direction now => .edge pin direction (now + offset)

def ElapsedModulo (state : State) (event : Event) : Prop :=
  state.Measures event →
    elapsedCycles event.now state = (event.now - state.trigTime.setWidth 32).setWidth 64

/-- The counter has not wrapped between a measurement's two readings of it. -/
def NoWrap (state : State) (event : Event) : Prop :=
  state.Measures event → state.trigTime ≤ event.now.setWidth 64

def Stamped (state : State) : Prop := ∃ stamp : BitVec 32, state.trigTime = stamp.setWidth 64

/-- The two runs differ in nothing but the stamp, and in that by the offset, once there is one the
handler can come to use. -/
def Shifted (offset : BitVec 32) (state shifted : State) : Prop :=
  ∃ trigTime, shifted = { state with trigTime := trigTime }
    ∧ ((∀ sensor, (state.echo sensor).callbackAdded = false)
      ∨ ∃ stamp : BitVec 32,
        state.trigTime = stamp.setWidth 64 ∧ trigTime = (stamp + offset).setWidth 64)

variable {kCycToUsFloor64 : BitVec 64 → BitVec 64} {offset : BitVec 32} {state : State}
  {event : Event}

theorem step_stamped (hstamped : Stamped state) : Stamped (step kCycToUsFloor64 state event) := by
  cases event with
  | timer now => exact ⟨now, by simp [step, hcsrTimingHandler_eq]⟩
  | edge pin direction now =>
      by_cases hinterrupts : state.Interrupts pin direction
      · rw [step, if_pos hinterrupts]
        by_cases hstart : state.trigType = 0#8
        · exact ⟨now, by simp [echoReturned_of_start hstart]⟩
        · rw [echoReturned_of_measure hstart]
          exact hstamped
      · rw [step, if_neg hinterrupts]
        exact hstamped

theorem elapsedModulo_iff_noWrap (hstamped : Stamped state) :
    ElapsedModulo state event ↔ NoWrap state event := by
  obtain ⟨stamp, hstamp⟩ := hstamped
  have hle : stamp.setWidth 64 ≤ event.now.setWidth 64 ↔ stamp ≤ event.now := by
    have hstampLt := stamp.isLt
    have hnowLt := event.now.isLt
    rw [BitVec.le_def, BitVec.le_def, BitVec.toNat_setWidth, BitVec.toNat_setWidth,
      Nat.mod_eq_of_lt (by omega), Nat.mod_eq_of_lt (by omega)]
  unfold ElapsedModulo NoWrap elapsedCycles
  rw [hstamp, Word.setWidth_setWidth_self (by decide), hle, Word.setWidth_sub_eq_iff (by decide)]

/-- While the counter has not wrapped, the elapsed count is the 32-bit difference. -/
theorem elapsedCycles_of_noWrap {stamp : BitVec 32} (hmeasures : state.Measures event)
    (hstamp : state.trigTime = stamp.setWidth 64) (hwrap : NoWrap state event) :
    elapsedCycles event.now state = (event.now - stamp).setWidth 64 := by
  have hmod := (elapsedModulo_iff_noWrap ⟨stamp, hstamp⟩).mpr hwrap hmeasures
  rwa [hstamp, Word.setWidth_setWidth_self (by decide)] at hmod

theorem step_shifted {shifted : State} (hshifted : Shifted offset state shifted)
    (hwrap : NoWrap state event) (hwrap' : NoWrap shifted (event.shift offset)) :
    Shifted offset (step kCycToUsFloor64 state event)
      (step kCycToUsFloor64 shifted (event.shift offset)) := by
  obtain ⟨trigTime, rfl, hstamps⟩ := hshifted
  cases event with
  | timer now =>
      refine ⟨(now + offset).setWidth 64, ?_, Or.inr ⟨now, ?_, rfl⟩⟩ <;>
        simp [step, Event.shift, hcsrTimingHandler_eq]
  | edge pin direction now =>
      by_cases hinterrupts : state.Interrupts pin direction
      · have hinterrupts' : State.Interrupts { state with trigTime := trigTime } pin direction :=
          hinterrupts
        simp only [step, Event.shift, if_pos hinterrupts, if_pos hinterrupts']
        by_cases hstart : state.trigType = 0#8
        · refine ⟨(now + offset).setWidth 64, ?_, Or.inr ⟨now, ?_, rfl⟩⟩ <;>
            simp [echoReturned_of_start, hstart]
        · -- the handler can only be here with a stamp, and neither run has wrapped since it
          obtain hnone | ⟨stamp, hstamp, rfl⟩ := hstamps
          · simp [State.Interrupts, hnone] at hinterrupts
          have hmeasures : state.Measures (.edge pin direction now) := ⟨hinterrupts, hstart⟩
          have hmeasures' : State.Measures { state with trigTime := (stamp + offset).setWidth 64 }
              (.edge pin direction (now + offset)) := ⟨hinterrupts', hstart⟩
          have helapsed : elapsedCycles now state = (now - stamp).setWidth 64 :=
            elapsedCycles_of_noWrap hmeasures hstamp hwrap
          have helapsed' : elapsedCycles (now + offset)
              { state with trigTime := (stamp + offset).setWidth 64 } =
                (now - stamp).setWidth 64 := by
            have hoffset : now - stamp = now + offset - (stamp + offset) := by bv_omega
            have hdifference := elapsedCycles_of_noWrap hmeasures' rfl hwrap'
            rw [hoffset]
            exact hdifference
          have hopen' :
              State.trigType { state with trigTime := (stamp + offset).setWidth 64 } ≠ 0#8 := hstart
          rw [echoReturned_of_measure hstart, echoReturned_of_measure hopen', helapsed, helapsed']
          exact ⟨_, rfl, Or.inr ⟨stamp, hstamp, rfl⟩⟩
      · have hinterrupts' : ¬ State.Interrupts { state with trigTime := trigTime } pin direction :=
          hinterrupts
        simp only [step, Event.shift, if_neg hinterrupts, if_neg hinterrupts']
        exact ⟨trigTime, rfl, hstamps⟩

/-! ### From `hcsr_init` on -/

theorem hcsrInit_stamped (outcome : InitOutcome) : Stamped (hcsrInit outcome boot) := by
  obtain ⟨trig, echo, timerStarted, -, hinit⟩ := hcsrInit_boot outcome
  rw [hinit]
  exact ⟨0, rfl⟩

theorem hcsrInit_shifted (offset : BitVec 32) (outcome : InitOutcome) :
    Shifted offset (hcsrInit outcome boot) (hcsrInit outcome boot) := by
  obtain ⟨trig, echo, timerStarted, hcallback, hinit⟩ := hcsrInit_boot outcome
  rw [hinit]
  exact ⟨_, rfl, Or.inl hcallback⟩

theorem along_elapsedModulo_iff (outcome : InitOutcome) (events : List Event) :
    Along (step kCycToUsFloor64) ElapsedModulo (hcsrInit outcome boot) events
      ↔ Along (step kCycToUsFloor64) NoWrap (hcsrInit outcome boot) events :=
  along_congr_of_invariant (fun _ _ => step_stamped)
    (fun _ _ hstamped => elapsedModulo_iff_noWrap hstamped) (hcsrInit_stamped outcome)

/-- **Time-shift invariance.** A run and its shift take every elapsed count modulo 2^32, and hold the
same readings after each event, exactly when no measurement of either spans a wrap of the counter. -/
theorem timeShift_iff_noWrap (kCycToUsFloor64 : BitVec 64 → BitVec 64) (outcome : InitOutcome)
    (offset : BitVec 32) (events : List Event) :
    (Along (step kCycToUsFloor64) ElapsedModulo (hcsrInit outcome boot) events
      ∧ Along (step kCycToUsFloor64) ElapsedModulo (hcsrInit outcome boot)
        (events.map (Event.shift offset))
      ∧ ∀ before, before <+: events →
        (run (step kCycToUsFloor64) (hcsrInit outcome boot)
            (before.map (Event.shift offset))).distanceReadings =
          (run (step kCycToUsFloor64) (hcsrInit outcome boot) before).distanceReadings)
      ↔ Along (step kCycToUsFloor64) NoWrap (hcsrInit outcome boot) events
        ∧ Along (step kCycToUsFloor64) NoWrap (hcsrInit outcome boot)
          (events.map (Event.shift offset)) := by
  rw [along_elapsedModulo_iff, along_elapsedModulo_iff]
  constructor
  · rintro ⟨hwrap, hwrap', -⟩
    exact ⟨hwrap, hwrap'⟩
  · rintro ⟨hwrap, hwrap'⟩
    refine ⟨hwrap, hwrap', ?_⟩
    rintro before ⟨after, rfl⟩
    rw [List.map_append] at hwrap'
    obtain ⟨trigTime, hsame, -⟩ : Shifted offset
        (run (step kCycToUsFloor64) (hcsrInit outcome boot) before)
        (run (step kCycToUsFloor64) (hcsrInit outcome boot) (before.map (Event.shift offset))) :=
      run_related (fun _ _ _ => step_shifted) (hcsrInit_shifted offset outcome)
        ((along_append before after).mp hwrap).1 ((along_append _ _).mp hwrap').1
    rw [hsame]

def onePulseRun : List Event := [.timer 1000, .edge 1 .rising 1030, .edge 1 .falling 1060]

/-- The same pulse of 30 cycles, across the wrap of the counter, stores another distance. -/
theorem onePulseRun_shift_differs :
    (run (step (cycToUsFloor64 32768)) (hcsrInit allReady boot)
        (onePulseRun.map (Event.shift 4294966246))).distanceReadings ≠
      (run (step (cycToUsFloor64 32768)) (hcsrInit allReady boot) onePulseRun).distanceReadings := by
  rw [hcsrInit_eq_initialised (by decide)]
  intro hsame
  have hreading := congrFun hsame 1
  revert hreading
  simp [onePulseRun, Event.shift, initialised, boot, step_timer_eq, hcsrTimingHandler_eq,
    step_edge_eq, State.Interrupts, SensorNo.not, storeReading, elapsedCycles, cycToUsFloor64]
  decide

end RcFirmware.Hcsr
