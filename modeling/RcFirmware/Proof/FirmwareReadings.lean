import RcFirmware.Proof.ReadingTorn
import RcFirmware.Proof.SensorSlotFailure
import RcFirmware.Firmware

/-!
# Where the printed values come from, and how old they are

A printed field has been through up to three hands, and none of the three waits for another. Still
none of them makes anything up: a printed field is zero or a field of a value that its own sensor
delivered. And a request is never lost: once the work item is at rest, all of the table is from runs
that started after the last request, except what the devices did not deliver.
-/

namespace RcFirmware.Firmware

open SensorReading StepMachine
open ReadingThread (Assignment Genuine slot deviceBlocks distanceLoop)

/-! ### The thread -/

def field? : Assignment → Option Field
  | .measurementType _ => none
  | .val1 _ => some .val1
  | .val2 _ => some .val2

section

variable {kernel : Kernel} {chan : SensorChannel → BitVec 32}
  {config : Config} {reading : ReadingThread.State}

theorem get_assign (assignment : Assignment) (driver : Hcsr.State) (data : SensorData)
    (field : Field) :
    field.get (assignment.assign chan driver data).dataChannel =
      if field? assignment = some field then
        field.get (driver.distanceReadings assignment.sensor)
      else field.get data.dataChannel := by
  cases assignment <;> cases field <;> rfl

theorem slot_inj {sensor other : Hcsr.SensorNo} : slot sensor = slot other ↔ sensor = other := by
  rw [slot, slot, Nat.add_left_cancel_iff, Fin.val_inj]

/-- The thread's next assignment goes to one field of one sensor's slot. -/
theorem get_thread {assignment : Assignment} {todo : List Assignment}
    (htodo : reading.todo = assignment :: todo) (n : Nat) (field : Field) :
    field.get
        ((ReadingThread.step kernel.kCycToUsFloor64 chan reading .thread).readings n).dataChannel =
      if n = slot assignment.sensor ∧ field? assignment = some field then
        field.get (reading.driver.distanceReadings assignment.sensor)
      else field.get (reading.readings n).dataChannel := by
  simp only [ReadingThread.step, htodo]
  by_cases hslot : n = slot assignment.sensor
  · subst hslot
    rw [Function.update_self, get_assign]
    simp
  · rw [Function.update_of_ne hslot, if_neg fun h => hslot h.1]

theorem deviceBlocks_of_lt {devEnv devVl53l0x : Option SensorDevice} (driver : Hcsr.State)
    (readings : Nat → SensorData) {n : Nat} (hn : n < 5) :
    (deviceBlocks chan config devEnv devVl53l0x readings).readings n =
      (workMakeReadingsAndSend chan ⟨config, devEnv, devVl53l0x, driver⟩ readings).readings n :=
  (storeFrom_readings_of_outside hcsrRoom (.inl hn)).symm

theorem deviceBlocks_of_ge {devEnv devVl53l0x : Option SensorDevice}
    (readings : Nat → SensorData) {n : Nat} (hn : 5 ≤ n) :
    (deviceBlocks chan config devEnv devVl53l0x readings).readings n = readings n := by
  have henv : LogData.bme280AmbientTemp.slot.toNat + 3 ≤ n := Nat.le_trans (by decide) hn
  rw [deviceBlocks, storeSensor_readings_of_outside vl53l0xRoom (.inr hn),
    storeSensor_readings_of_outside envRoom (.inr henv)]

theorem source_cases (data : LogData) :
    (data.OnDevice ∧ data.slot.toNat < 5)
      ∨ ∃ sensor, data.source = .hcsr sensor ∧ data.slot.toNat = slot sensor := by
  cases data with
  | bme280AmbientTemp | bme280Press | bme280Humidity => exact .inl ⟨.inl rfl, by decide⟩
  | vl53l0xDistance | vl53l0xProx => exact .inl ⟨.inr rfl, by decide⟩
  | hcsr040 => exact .inr ⟨0, rfl, rfl⟩
  | hcsr041 => exact .inr ⟨1, rfl, rfl⟩

end

/-! ### Provenance -/

section

variable (chan : SensorChannel → BitVec 32) (config : Config)

/-- The value is that of the argument's field in something the argument's sensor delivered: a device
to a run of the work item that met it so, or a distance sensor to the interrupt. -/
inductive Supplied (Met : Option SensorDevice → Option SensorDevice → Prop) (driver : Hcsr.State)
    (argument : Argument) : BitVec 32 → Prop
  | zero : Supplied Met driver argument 0
  | device (board : Board) (hran : Met board.devEnv board.devVl53l0x)
      (hconfig : board.config = config) (honDevice : argument.data.OnDevice)
      (hlive : board.Live argument.data.source) (value : SensorValue)
      (hvalue : board.value argument.data.source (chan argument.data.channel) = some value) :
      Supplied Met driver argument (argument.field.get value)
  | hcsr (sensor : Hcsr.SensorNo) (hsource : argument.data.source = .hcsr sensor)
      (value : SensorValue) (hstored : (sensor, value) ∈ driver.stores) :
      Supplied Met driver argument (argument.field.get value)

structure Accounted (Met : Option SensorDevice → Option SensorDevice → Prop) (state : State) :
    Prop where
  held : ∀ sensor, Genuine state.reading.driver sensor
    (state.reading.driver.distanceReadings sensor)
  table : ∀ argument : Argument, Supplied chan config Met state.reading.driver argument
    (argument.read state.reading.readings)
  logged : ∀ entry ∈ state.logged,
    Supplied chan config Met state.reading.driver entry.1 entry.2

end

variable {kernel : Kernel} {chan : SensorChannel → BitVec 32}
  {config : Config} {Met : Option SensorDevice → Option SensorDevice → Prop} {state : State}
  {events : List Event}

theorem Supplied.mono {driver next : Hcsr.State} (hstores : driver.stores ⊆ next.stores)
    {argument : Argument} {value : BitVec 32}
    (hsupplied : Supplied chan config Met driver argument value) :
    Supplied chan config Met next argument value := by
  cases hsupplied with
  | zero => exact .zero
  | device board hran hconfig honDevice hlive value hvalue =>
      exact .device board hran hconfig honDevice hlive value hvalue
  | hcsr sensor hsource value hstored => exact .hcsr sensor hsource value (hstores hstored)

theorem Supplied.of_genuine {driver : Hcsr.State} {sensor : Hcsr.SensorNo} {value : SensorValue}
    (hgenuine : Genuine driver sensor value) {argument : Argument}
    (hsource : argument.data.source = .hcsr sensor) :
    Supplied chan config Met driver argument (argument.field.get value) := by
  obtain rfl | hstored := hgenuine
  · cases argument.field <;> exact .zero
  · exact .hcsr sensor hsource value hstored

theorem stores_subset (reading : ReadingThread.State) (event : Hcsr.Event) :
    reading.driver.stores ⊆ (Hcsr.step kernel.kCycToUsFloor64 reading.driver event).stores := by
  by_cases hmeasures : reading.driver.Measures event
  · rw [Hcsr.step_of_measures hmeasures]
    exact List.subset_append_left _ _
  · rw [(Hcsr.step_of_not_measures hmeasures).1]
    exact List.Subset.refl _

theorem Accounted.interrupt (haccounted : Accounted chan config Met state)
    (event : Hcsr.Event) :
    Accounted chan config Met (step kernel chan config state (.interrupt event)) where
  held := by
    intro sensor
    by_cases hmeasures : state.reading.driver.Measures event
        ∧ sensor = state.reading.driver.curDistSensor
    · obtain ⟨hmeasures, rfl⟩ := hmeasures
      simp only [step, State.advance, ReadingThread.step]
      rw [ReadingThread.distanceReadings_step_of_measures hmeasures, Function.update_self]
      exact ReadingThread.genuine_measured hmeasures
    · simp only [step, State.advance, ReadingThread.step]
      rw [ReadingThread.distanceReadings_step_of_other (not_and.mp hmeasures)]
      exact ReadingThread.genuine_step (haccounted.held sensor)
  table := fun argument => (haccounted.table argument).mono (stores_subset state.reading event)
  logged := fun entry hentry =>
    (haccounted.logged entry hentry).mono (stores_subset state.reading event)

theorem Accounted.thread (haccounted : Accounted chan config Met state) :
    Accounted chan config Met (step kernel chan config state .thread) := by
  cases htodo : state.reading.todo with
  | nil =>
      have hsame : step kernel chan config state .thread = state := by
        simp only [step, State.advance, ReadingThread.step, htodo]
      rwa [hsame]
  | cons assignment todo =>
      have hdriver : (step kernel chan config state .thread).reading.driver =
          state.reading.driver := driver_step (by rintro _ ⟨⟩)
      constructor
      · rw [hdriver]
        exact haccounted.held
      · intro argument
        rw [hdriver]
        simp only [step, State.advance, Argument.read, get_thread htodo]
        by_cases haimed : argument.data.slot.toNat = slot assignment.sensor
            ∧ field? assignment = some argument.field
        · rw [if_pos haimed]
          obtain ⟨-, hdevice⟩ | ⟨sensor, hsource, hslot⟩ := source_cases argument.data
          · have hge : 5 ≤ slot assignment.sensor := Nat.le_add_right 5 _
            omega
          · rw [slot_inj.mp (haimed.1.symm.trans hslot)]
            exact Supplied.of_genuine (haccounted.held sensor) hsource
        · rw [if_neg haimed]
          exact haccounted.table argument
      · rw [hdriver]
        exact haccounted.logged

theorem supplied_deviceBlocks (haccounted : Accounted chan config Met state)
    {devEnv devVl53l0x : Option SensorDevice} (hran : Met devEnv devVl53l0x)
    (argument : Argument) :
    Supplied chan config Met state.reading.driver argument (argument.read
      (deviceBlocks chan config devEnv devVl53l0x state.reading.readings).readings) := by
  let board : Board := ⟨config, devEnv, devVl53l0x, state.reading.driver⟩
  have hbefore := haccounted.table argument
  obtain ⟨honDevice, hslot⟩ | ⟨sensor, -, hslot⟩ := source_cases argument.data
  · rw [Argument.read, deviceBlocks_of_lt state.reading.driver _ hslot]
    by_cases hlive : board.Live argument.data.source
    · obtain ⟨get, hreading, hget⟩ := readings_of_live chan board state.reading.readings hlive
      rw [hreading]
      simp only [SensorData.store, hget]
      cases hvalue : board.value argument.data.source (chan argument.data.channel) with
      | none => exact hbefore
      | some value => exact .device board hran rfl honDevice hlive value hvalue
    · rw [routed_notLive hlive]
      exact hbefore
  · rw [Argument.read, deviceBlocks_of_ge _ (hslot ▸ Nat.le_add_right 5 _)]
    exact hbefore

theorem Accounted.work (haccounted : Accounted chan config Met state)
    {devEnv devVl53l0x : Option SensorDevice} (hran : state.Starts → Met devEnv devVl53l0x) :
    Accounted chan config Met
      (step kernel chan config state (.work devEnv devVl53l0x)) := by
  simp only [step]
  split_ifs with hstarts
  · simp only [State.advance, ReadingThread.step, hstarts.2]
    exact ⟨haccounted.held, supplied_deviceBlocks haccounted (hran hstarts), haccounted.logged⟩
  · exact haccounted

theorem Accounted.main (haccounted : Accounted chan config Met state) (pick : Nat) :
    Accounted chan config Met (step kernel chan config state (.main pick)) := by
  have hstep : MainStep kernel config state pick (step kernel chan config state (.main pick)) :=
    mainStep pick
  generalize step kernel chan config state (.main pick) = next at hstep
  cases hstep with
  | turns | requests | prints =>
      exact ⟨haccounted.held, haccounted.table, haccounted.logged⟩
  | reads call unread main hmain argument =>
      refine ⟨haccounted.held, haccounted.table, ?_⟩
      rw [State.log, List.forall_mem_append, List.forall_mem_singleton]
      exact ⟨haccounted.logged, haccounted.table argument⟩

theorem Accounted.delayOver (haccounted : Accounted chan config Met state) :
    Accounted chan config Met (step kernel chan config state .delayOver) := by
  simp only [step]
  split
  · exact ⟨haccounted.held, haccounted.table, haccounted.logged⟩
  · exact haccounted
  · exact haccounted

/-- Sensor 1 is triggered, and its echo takes ten cycles. -/
def echoOfTen : List Event :=
  [.interrupt (.timer 1000), .interrupt (.edge 1 .rising 1030), .interrupt (.edge 1 .falling 1040)]

def Field.assignment (sensor : Hcsr.SensorNo) : Field → Assignment
  | .val1 => .val1 sensor
  | .val2 => .val2 sensor

theorem eq_assignment_iff {assignment : Assignment} {sensor : Hcsr.SensorNo} {field : Field} :
    assignment = field.assignment sensor
      ↔ slot sensor = slot assignment.sensor ∧ field? assignment = some field := by
  rw [slot_inj]
  cases assignment <;> cases field <;>
    simp [field?, Field.assignment, Assignment.sensor, eq_comm]

theorem assignment_mem_distanceLoop (sensor : Hcsr.SensorNo) (field : Field) :
    field.assignment sensor ∈ distanceLoop := by
  fin_cases sensor <;> cases field <;> decide

variable (kernel chan config) in
/-- Where the table stands since `start`: a run of the work item has put in what the devices gave it,
and of the distance readings the fields it is through with, each as it was at some time since. -/
structure Made (start : State) (events before : List Event)
    (devEnv devVl53l0x : Option SensorDevice) (rest : List Event) : Prop where
  events_eq : events = before ++ .work devEnv devVl53l0x :: rest
  starts : (run (step kernel chan config) start before).Starts
  devices : ∀ n < 5,
    (run (step kernel chan config) start events).reading.readings n =
      (workMakeReadingsAndSend chan
        ⟨config, devEnv, devVl53l0x,
          (run (step kernel chan config) start before).reading.driver⟩
        (run (step kernel chan config) start before).reading.readings).readings n
  distances : ∀ sensor (field : Field),
    field.assignment sensor ∉
        (run (step kernel chan config) start events).reading.todo →
      ∃ more, more <+: rest ∧
        field.get ((run (step kernel chan config) start events).reading.readings
            (slot sensor)).dataChannel =
          field.get ((run (step kernel chan config) start
            (before ++ .work devEnv devVl53l0x :: more)).reading.driver.distanceReadings sensor)

section Made

variable {first : State} {before rest : List Event} {devEnv devVl53l0x : Option SensorDevice}
  {event : Event}

theorem made_of_starts (hstarts : (run (step kernel chan config) first events).Starts) :
    Made kernel chan config first (events ++ [.work devEnv devVl53l0x]) events devEnv
      devVl53l0x [] where
  events_eq := rfl
  starts := hstarts
  devices := by
    intro n hn
    rw [run_concat, step, if_pos hstarts]
    simp only [State.advance, ReadingThread.step, hstarts.2]
    exact deviceBlocks_of_lt _ _ hn
  distances := by
    intro sensor field hthrough
    rw [run_concat, step, if_pos hstarts] at hthrough
    simp only [State.advance, ReadingThread.step, hstarts.2] at hthrough
    exact absurd (assignment_mem_distanceLoop sensor field) hthrough

/-- An event that touches neither the table nor what the thread has left to do. -/
theorem Made.frame
    (hmade : Made kernel chan config first events before devEnv devVl53l0x rest)
    (hreadings : (step kernel chan config
      (run (step kernel chan config) first events) event).reading.readings =
        (run (step kernel chan config) first events).reading.readings)
    (htodo : (step kernel chan config
      (run (step kernel chan config) first events) event).reading.todo =
        (run (step kernel chan config) first events).reading.todo) :
    Made kernel chan config first (events ++ [event]) before devEnv devVl53l0x
      (rest ++ [event]) where
  events_eq := by
    rw [hmade.events_eq, List.append_assoc, List.cons_append]
  starts := hmade.starts
  devices := by
    intro n hn
    rw [run_concat, hreadings]
    exact hmade.devices n hn
  distances := by
    intro sensor field hthrough
    rw [run_concat, htodo] at hthrough
    obtain ⟨more, hmore, hvalue⟩ := hmade.distances sensor field hthrough
    refine ⟨more, hmore.trans (List.prefix_append _ _), ?_⟩
    rw [run_concat, hreadings]
    exact hvalue

theorem Made.thread
    (hmade : Made kernel chan config first events before devEnv devVl53l0x rest) :
    Made kernel chan config first (events ++ [.thread]) before devEnv devVl53l0x
      (rest ++ [.thread]) := by
  cases htodo : (run (step kernel chan config) first events).reading.todo with
  | nil =>
      apply hmade.frame <;>
        simp only [step, State.advance, ReadingThread.step, htodo]
  | cons assignment todo =>
      have hrest : (step kernel chan config
          (run (step kernel chan config) first events) .thread).reading.todo = todo := by
        simp only [step, State.advance, ReadingThread.step, htodo]
      constructor
      · rw [hmade.events_eq, List.append_assoc, List.cons_append]
      · exact hmade.starts
      · intro n hn
        have hslot : n ≠ slot assignment.sensor := by
          have hge : 5 ≤ slot assignment.sensor := Nat.le_add_right 5 _
          omega
        rw [← hmade.devices n hn, run_concat]
        simp only [step, State.advance, ReadingThread.step, htodo]
        exact Function.update_of_ne hslot _ _
      · intro sensor field hthrough
        rw [run_concat, hrest] at hthrough
        rw [run_concat, step, State.advance, get_thread htodo]
        by_cases hnow : assignment = field.assignment sensor
        · -- the field is copied from the driver as it is now
          refine ⟨rest, List.prefix_append _ _, ?_⟩
          have hsensor : assignment.sensor = sensor := (slot_inj.mp (eq_assignment_iff.mp hnow).1).symm
          rw [if_pos (eq_assignment_iff.mp hnow), hsensor, ← hmade.events_eq]
        · have hbefore : field.assignment sensor ∉
              (run (step kernel chan config) first events).reading.todo := by
            rw [htodo, List.mem_cons, not_or]
            exact ⟨Ne.symm hnow, hthrough⟩
          obtain ⟨more, hmore, hvalue⟩ := hmade.distances sensor field hbefore
          refine ⟨more, hmore.trans (List.prefix_append _ _), ?_⟩
          rw [if_neg (mt eq_assignment_iff.mpr hnow), hvalue]

end Made

/-! #### Requests -/

theorem pending_step (hschedules : kernel.Schedules) (hpending : state.pending ≠ .idle)
    (event : Event)
    (hstarts : ∀ devEnv devVl53l0x, event = .work devEnv devVl53l0x → ¬ state.Starts) :
    (step kernel chan config state event).pending ≠ .idle := by
  cases event with
  | thread | interrupt _ => exact hpending
  | work devEnv devVl53l0x =>
      rwa [step, if_neg (hstarts devEnv devVl53l0x rfl)]
  | delayOver =>
      simp only [step]
      split
      · rintro ⟨⟩
      · exact hpending
      · exact hpending
  | main pick =>
      have hstep : MainStep kernel config state pick (step kernel chan config state (.main pick)) :=
        mainStep pick
      generalize step kernel chan config state (.main pick) = next at hstep
      cases hstep with
      | turns | prints | reads => exact hpending
      | requests => exact hschedules state.pending

/-- A request stays pending until a run of the work item has started. -/
theorem pending_or_made (hschedules : kernel.Schedules) {first : State}
    (hfirst : first.pending ≠ .idle) (events : List Event) :
    (run (step kernel chan config) first events).pending ≠ .idle
      ∨ ∃ before devEnv devVl53l0x rest,
        Made kernel chan config first events before devEnv devVl53l0x rest := by
  induction events using List.reverseRecOn with
  | nil => exact .inl hfirst
  | append_singleton events event ih =>
      by_cases hstarts : ∃ devEnv devVl53l0x, event = .work devEnv devVl53l0x
          ∧ (run (step kernel chan config) first events).Starts
      · obtain ⟨devEnv, devVl53l0x, rfl, hstarts⟩ := hstarts
        exact .inr ⟨_, _, _, _, made_of_starts hstarts⟩
      · have hnot : ∀ devEnv devVl53l0x, event = .work devEnv devVl53l0x →
            ¬ (run (step kernel chan config) first events).Starts :=
          fun devEnv devVl53l0x hevent h => hstarts ⟨devEnv, devVl53l0x, hevent, h⟩
        obtain hpending | ⟨before, devEnv, devVl53l0x, rest, hmade⟩ := ih
        · left
          rw [run_concat]
          exact pending_step hschedules hpending event hnot
        · right
          refine ⟨before, devEnv, devVl53l0x, rest ++ [event], ?_⟩
          cases event with
          | thread => exact hmade.thread
          | interrupt event => exact hmade.frame rfl rfl
          | main pick => exact hmade.frame (by rw [reading_main]) (by rw [reading_main])
          | delayOver => exact hmade.frame (by rw [reading_delayOver]) (by rw [reading_delayOver])
          | work devEnv' devVl53l0x' =>
              have hnot := hnot devEnv' devVl53l0x' rfl
              exact hmade.frame (by rw [step, if_neg hnot]) (by rw [step, if_neg hnot])

def State.AtRest (state : State) : Prop := state.pending = .idle ∧ state.reading.todo = []

/-- A request at work: by the time the work item is at rest, a run of it has made the table. -/
theorem made_of_request (hschedules : kernel.Schedules) {state : State}
    (hrequest : state.main.head? = some .makeReadingAndSend) {pick : Nat} {events : List Event}
    (hrest : (run (step kernel chan config) state (.main pick :: events)).AtRest) :
    ∃ before devEnv devVl53l0x rest,
      Made kernel chan config (step kernel chan config state (.main pick)) events before devEnv
        devVl53l0x rest := by
  have hpending : (step kernel chan config state (.main pick)).pending ≠ .idle := by
    obtain ⟨main, hmain⟩ := List.head?_eq_some_iff.mp hrequest
    simp only [step, hmain]
    exact hschedules state.pending
  exact (pending_or_made hschedules hpending events).resolve_left fun hstill => hstill hrest.1

/-- **No request is lost.** From any call of `make_reading_and_send` on, whatever happens, the table is
new as soon as the work item is at rest: a run of it has started since the call, what that run makes of
the devices is in the table, and each field of a distance reading is as the driver had it at some time
since that run started. -/
theorem table_made_since_request {kernel : Kernel} (hschedules : kernel.Schedules)
    (chan : SensorChannel → BitVec 32) (config : Config) {state : State}
    (hrequest : state.main.head? = some .makeReadingAndSend) {pick : Nat} {events : List Event}
    (hrest : (run (step kernel chan config) state (.main pick :: events)).AtRest) :
    ∃ before devEnv devVl53l0x rest, events = before ++ .work devEnv devVl53l0x :: rest ∧
      let asked := run (step kernel chan config) state (.main pick :: before)
      let final := run (step kernel chan config) state (.main pick :: events)
      asked.Starts
        ∧ (∀ n < 5, final.reading.readings n =
            (workMakeReadingsAndSend chan ⟨config, devEnv, devVl53l0x, asked.reading.driver⟩
              asked.reading.readings).readings n)
        ∧ ∀ sensor (field : Field), ∃ more, more <+: rest ∧
            field.get (final.reading.readings (slot sensor)).dataChannel =
              field.get ((run (step kernel chan config) state
                (.main pick :: before ++
                  .work devEnv devVl53l0x :: more)).reading.driver.distanceReadings sensor) := by
  obtain ⟨before, devEnv, devVl53l0x, rest, hmade⟩ := made_of_request hschedules hrequest hrest
  refine ⟨before, devEnv, devVl53l0x, rest, hmade.events_eq, hmade.starts, hmade.devices, ?_⟩
  intro sensor field
  apply hmade.distances
  have htodo : (run (step kernel chan config)
      (step kernel chan config state (.main pick)) events).reading.todo = [] := hrest.2
  rw [htodo]
  exact List.not_mem_nil

theorem driver_run_of_quiet {events : List Event}
    (hquiet : ∀ event ∈ events, ∀ echo, event ≠ .interrupt echo) :
    (run (step kernel chan config) state events).reading.driver = state.reading.driver :=
  @run_invariant _ _ _ (fun next : State => next.reading.driver = state.reading.driver) _ _ _
    (fun _ _ hsame hevent => (driver_step hevent).trans hsame) rfl (along_event_iff.mpr hquiet)

def liveEnv : SensorDevice := ⟨0, fun channel => some ⟨channel, 250000⟩⟩

/-- The firmware on a board with a BME280 and no VL53L0X. -/
def stepBme280 : State → Event → State := step kernel32768 SensorChannel.number ⟨true, false⟩

/-- A turn with an echo while the work item runs, and the beginning of the next. -/
def firstTurn : List Event :=
  .main 0 :: .main 0 :: .delayOver :: .work none none :: List.replicate 5 .thread
    ++ echoOfTen ++ List.replicate 14 (.main 0)

/-- The delay is over before the queue is through with the first run. -/
def secondRun : List Event :=
  .delayOver :: .work (some liveEnv) none :: .thread :: .work (some liveEnv) none
    :: List.replicate 6 .thread

/-- A request made while the work item runs: the table is that of a second run. -/
theorem table_made_since_request_example :
    let running := run stepBme280 (start Hcsr.allReady) firstTurn
    let final := run stepBme280 running (.main 0 :: secondRun)
    running.reading.todo ≠ [] ∧ (running.reading.readings (slot 1)).dataChannel = ⟨0, 0⟩
      ∧ (final.reading.readings 1).dataChannel = ⟨SensorChannel.number .press, 250000⟩
      ∧ (final.reading.readings (slot 1)).dataChannel.val2 = 51850 := by
  intro running final
  obtain ⟨before, devEnv, devVl53l0x, rest, hevents, -, hdevices, hdistances⟩ :=
    @table_made_since_request kernel32768 kernel32768_schedules SensorChannel.number ⟨true, false⟩
      running rfl 0 secondRun ⟨rfl, rfl⟩
  refine ⟨by decide, by decide, ?_, ?_⟩
  · have hwork : .work devEnv devVl53l0x ∈ secondRun :=
      hevents ▸ List.mem_append_right _ List.mem_cons_self
    obtain ⟨rfl, rfl⟩ : devEnv = some liveEnv ∧ devVl53l0x = none := by
      simpa [secondRun, List.mem_replicate] using hwork
    have hpress : ∀ (driver : Hcsr.State) (readings : Nat → SensorData),
        ((workMakeReadingsAndSend SensorChannel.number ⟨⟨true, false⟩, some liveEnv, none, driver⟩
          readings).readings 1).dataChannel = ⟨SensorChannel.number .press, 250000⟩ :=
      fun _ _ => rfl
    rw [← hpress]
    exact congrArg SensorData.dataChannel (hdevices 1 (by decide))
  · obtain ⟨more, hmore, hvalue⟩ := hdistances 1 .val2
    have hquiet : ∀ event ∈ .main 0 :: secondRun, ∀ echo, event ≠ .interrupt echo := by
      simp [secondRun]
    have hpast : .main 0 :: before ++ .work devEnv devVl53l0x :: more <+: .main 0 :: secondRun := by
      rw [hevents, List.cons_append, List.cons_prefix_cons, List.prefix_append_right_inj]
      exact ⟨rfl, List.cons_prefix_cons.mpr ⟨rfl, hmore⟩⟩
    have hmeasured : running.reading.driver.distanceReadings 1 = ⟨0, 51850⟩ := by decide
    rw [driver_run_of_quiet fun event hevent => hquiet event (hpast.subset hevent), hmeasured] at hvalue
    exact hvalue

end RcFirmware.Firmware
