import RcFirmware.Lib.Printf
import RcFirmware.ReadingThread

/-!
# The readings of the running firmware

Three parties share the table of readings. `main` asks for a new set with `make_reading_and_send`,
sleeps, and prints the table with `log_output_all_sensors`, once a turn of its loop. The work queue
runs `work_make_readings_and_send`, and the echo interrupt stores what that copies. A `LOG_INF` reads
its arguments one after the other, in an order C leaves open, before it prints.

Scheduling the work item is the kernel's. When its delay is over the item is queued, and the queue
takes it up when it is through with the run before; an item that is running can be scheduled again.
-/

namespace RcFirmware.Firmware

open SensorReading Printf

/-- Where `make_rd_and_send` is on its way to the work queue. -/
inductive Pending where
  | idle
  | delayed
  | queued
  deriving DecidableEq, Repr

/-- What is taken from the kernel: the conversion of cycles, and where `k_work_schedule` puts an
item. -/
structure Kernel where
  kCycToUsFloor64 : BitVec 64 → BitVec 64
  kWorkSchedule : Pending → Pending

/-- What is documented of `k_work_schedule`: it leaves an item delayed or queued. -/
def Kernel.Schedules (kernel : Kernel) : Prop := ∀ pending, kernel.kWorkSchedule pending ≠ .idle

inductive Field where
  | val1
  | val2
  deriving DecidableEq, Repr

def Field.get (value : SensorValue) : Field → BitVec 32
  | .val1 => value.val1
  | .val2 => value.val2

/-- An argument of a `LOG_INF`: a field of a reading in the table. -/
structure Argument where
  data : LogData
  field : Field
  deriving DecidableEq, Repr

def Argument.read (argument : Argument) (readings : Nat → SensorData) : BitVec 32 :=
  argument.field.get (readings argument.data.slot.toNat).dataChannel

structure LogInf where
  format : List Piece
  args : List Argument
  deriving DecidableEq, Repr

def environment : LogInf where
  format :=
    .text "temp: ".toList :: fixedPoint 2
      ++ .text "; press: ".toList :: fixedPoint 3
      ++ .text "; humidity: ".toList :: fixedPoint 3
  args :=
    [⟨.bme280AmbientTemp, .val1⟩, ⟨.bme280AmbientTemp, .val2⟩, ⟨.bme280Press, .val1⟩,
      ⟨.bme280Press, .val2⟩, ⟨.bme280Humidity, .val1⟩, ⟨.bme280Humidity, .val2⟩]

def distance : LogInf where
  format := .text "Distance: ".toList :: fixedPoint 2 ++ [.text "; proximity: ".toList, .int 0]
  args := [⟨.vl53l0xDistance, .val1⟩, ⟨.vl53l0xDistance, .val2⟩, ⟨.vl53l0xProx, .val1⟩]

def distanceHcsr040 : LogInf where
  format := .text "Distance HCSR04-0: ".toList :: fixedPoint 2
  args := [⟨.hcsr040, .val1⟩, ⟨.hcsr040, .val2⟩]

def distanceHcsr041 : LogInf where
  format := .text "Distance HCSR04-1: ".toList :: fixedPoint 2
  args := [⟨.hcsr041, .val1⟩, ⟨.hcsr041, .val2⟩]

def logOutputAllSensors (config : Config) : List LogInf :=
  (if config.bme280 then [environment] else [])
    ++ (if config.vl53l0x then [distance] else [])
    ++ [distanceHcsr040, distanceHcsr041]

/-- The line, with the arguments as they were read. -/
def LogInf.line (call : LogInf) (args : Argument → BitVec 32) : List Char :=
  Printf.print call.format (call.args.map fun argument => (args argument).toInt)

/-- What `main` does with the readings. A `LOG_INF` has some of its arguments still to read. -/
inductive Action where
  | makeReadingAndSend
  | logInf (call : LogInf) (unread : List Argument)
  deriving DecidableEq, Repr

def LogInf.action (call : LogInf) : Action := .logInf call call.args

def turn (config : Config) : List Action :=
  .makeReadingAndSend :: (logOutputAllSensors config).map LogInf.action

/-- `main` holds what is left of its turn, `args` the arguments as they were read last, and `logged`
lists all that was ever read. -/
structure State where
  reading : ReadingThread.State
  pending : Pending
  main : List Action
  args : Argument → BitVec 32
  console : List (List Char)
  logged : List (Argument × BitVec 32)

/-- Where `main` is to read an argument, `pick` says which, counting those still unread; if there are
not so many, it is the first. The devices of a run are as they are when the run asks them. -/
inductive Event where
  | main (pick : Nat)
  | delayOver
  | work (devEnv devVl53l0x : Option SensorDevice)
  | thread
  | interrupt (event : Hcsr.Event)

def State.log (state : State) (argument : Argument) : State :=
  let value := argument.read state.reading.readings
  { state with
    args := Function.update state.args argument value
    logged := state.logged ++ [(argument, value)] }

/-- The queue takes the item up. -/
def State.Starts (state : State) : Prop := state.pending = .queued ∧ state.reading.todo = []

instance (state : State) : Decidable state.Starts := inferInstanceAs (Decidable (_ ∧ _))

section

variable (kernel : Kernel) (chan : SensorChannel → BitVec 32) (config : Config)

def State.advance (state : State) (event : ReadingThread.Event) : State :=
  { state with reading := ReadingThread.step kernel.kCycToUsFloor64 chan state.reading event }

def step (state : State) : Event → State
  | .main pick =>
      match state.main with
      | [] => { state with main := turn config }
      | .makeReadingAndSend :: main =>
          { state with main := main, pending := kernel.kWorkSchedule state.pending }
      | .logInf call [] :: main =>
          { state with main := main, console := state.console ++ [call.line state.args] }
      | .logInf call (first :: unread) :: main =>
          let argument := (first :: unread).getD pick first
          { state with main := .logInf call ((first :: unread).erase argument) :: main }.log argument
  | .delayOver =>
      match state.pending with
      | .delayed => { state with pending := .queued }
      | .idle | .queued => state
  | .work devEnv devVl53l0x =>
      if state.Starts then
        { state with pending := .idle }.advance kernel chan (.work config devEnv devVl53l0x)
      else state
  | .thread => state.advance kernel chan .thread
  | .interrupt event => state.advance kernel chan (.interrupt event)

def zeroed : Nat → SensorData := fun _ => ⟨0, 0, ⟨0, 0⟩⟩

/-- `main` enters its loop. -/
def start (outcome : Hcsr.InitOutcome) : State :=
  ⟨ReadingThread.start outcome zeroed, .idle, [], fun _ => 0, [], []⟩

end

/-- A kernel with a clock of 32768 Hz, which does nothing to an item that is delayed or queued. -/
def kernel32768 : Kernel where
  kCycToUsFloor64 := Hcsr.cycToUsFloor64 32768
  kWorkSchedule
    | .idle => .delayed
    | .delayed => .delayed
    | .queued => .queued

theorem kernel32768_schedules : kernel32768.Schedules := by
  rintro (_ | _ | _) <;> rintro ⟨⟩

/-! ### What one step does -/

variable {kernel : Kernel} {chan : SensorChannel → BitVec 32} {config : Config} {state : State}

/-- What `main` does next. -/
inductive MainStep (kernel : Kernel) (config : Config) (state : State) (pick : Nat) : State → Prop
  | turns (hmain : state.main = []) :
      MainStep kernel config state pick { state with main := turn config }
  | requests (main : List Action) (hmain : state.main = .makeReadingAndSend :: main) :
      MainStep kernel config state pick
        { state with main := main, pending := kernel.kWorkSchedule state.pending }
  | prints (call : LogInf) (main : List Action) (hmain : state.main = .logInf call [] :: main) :
      MainStep kernel config state pick
        { state with main := main, console := state.console ++ [call.line state.args] }
  | reads (call : LogInf) (unread : List Argument) (main : List Action)
      (hmain : state.main = .logInf call unread :: main) (argument : Argument)
      (hargument : argument ∈ unread) (hfirst : pick = 0 → unread.head? = some argument) :
      MainStep kernel config state pick
        ({ state with main := .logInf call (unread.erase argument) :: main }.log argument)

theorem mainStep (pick : Nat) :
    MainStep kernel config state pick (step kernel chan config state (.main pick)) := by
  cases hmain : state.main with
  | nil =>
      simp only [step, hmain]
      exact .turns hmain
  | cons action main =>
      cases action with
      | makeReadingAndSend =>
          simp only [step, hmain]
          exact .requests main hmain
      | logInf call unread =>
          cases unread with
          | nil =>
              simp only [step, hmain]
              exact .prints call main hmain
          | cons first unread =>
              simp only [step, hmain]
              refine .reads call (first :: unread) main hmain _ ?_ ?_
              · rw [List.getD_eq_getElem?_getD]
                cases hpick : (first :: unread)[pick]? with
                | none => exact List.mem_cons_self
                | some argument => exact List.mem_of_getElem? hpick
              · rintro rfl
                rfl

theorem reading_main (pick : Nat) :
    (step kernel chan config state (.main pick)).reading = state.reading := by
  have hstep : MainStep kernel config state pick (step kernel chan config state (.main pick)) :=
    mainStep pick
  generalize step kernel chan config state (.main pick) = next at hstep
  cases hstep <;> rfl

theorem reading_delayOver :
    (step kernel chan config state .delayOver).reading = state.reading := by
  simp only [step]
  split <;> rfl

/-- Only the interrupt touches what the driver keeps. -/
theorem driver_step {event : Event} (hevent : ∀ echo, event ≠ .interrupt echo) :
    (step kernel chan config state event).reading.driver = state.reading.driver := by
  cases event with
  | main pick => rw [reading_main]
  | delayOver => rw [reading_delayOver]
  | thread =>
      simp only [step, State.advance, ReadingThread.step]
      split <;> rfl
  | interrupt echo => exact absurd rfl (hevent echo)
  | work devEnv devVl53l0x =>
      simp only [step]
      split
      · simp only [State.advance, ReadingThread.step]
        split <;> rfl
      · rfl

end RcFirmware.Firmware
