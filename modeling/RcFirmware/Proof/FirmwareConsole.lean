import RcFirmware.Proof.HcsrDistance
import RcFirmware.Firmware

/-!
# What the console tells

The lines of the console can be told apart and read back, and say what each `LOG_INF` read. Not what
the sensors measured: a fraction in millionths is printed after the point without its zeros in front,
so that a twentieth of a metre reads as half a metre.
-/

namespace RcFirmware.Firmware

open SensorReading StepMachine Printf

/-! ### Reading the console back -/

def logInfs : List LogInf := [environment, distance, distanceHcsr040, distanceHcsr041]

/-- What a line says, whichever `LOG_INF` printed it. -/
def readLine? (line : List Char) : Option (List (Argument × Int)) :=
  logInfs.findSome? fun call => (scan? call.format line).map call.args.zip

def readConsole? : List (List Char) → Option (List (List (Argument × Int)))
  | [] => some []
  | line :: lines => (readLine? line).bind fun said => (readConsole? lines).map (said :: ·)

theorem logOutputAllSensors_subset (config : Config) : logOutputAllSensors config ⊆ logInfs := by
  have hoptional : ∀ (enabled : Bool) (call : LogInf),
      (if enabled then [call] else []).Sublist [call] := by
    intro enabled call
    cases enabled with
    | false => exact List.nil_sublist _
    | true => exact List.Sublist.refl _
  apply List.Sublist.subset
  exact ((hoptional _ environment).append (hoptional _ distance)).append (List.Sublist.refl _)

theorem delimited_format {call : LogInf} (hcall : call ∈ logInfs) : Delimited call.format := by
  simp only [logInfs, List.mem_cons, List.not_mem_nil, or_false] at hcall
  obtain rfl | rfl | rfl | rfl := hcall
  · exact ⟨by decide, by decide, by decide, by decide, by decide, trivial⟩
  · exact ⟨by decide, by decide, trivial⟩
  · exact ⟨by decide, trivial⟩
  · exact ⟨by decide, trivial⟩

theorem conversions_format {call : LogInf} (hcall : call ∈ logInfs) :
    conversions call.format = call.args.length := by
  simp only [logInfs, List.mem_cons, List.not_mem_nil, or_false] at hcall
  obtain rfl | rfl | rfl | rfl := hcall <;> rfl

theorem nodup_args {call : LogInf} (hcall : call ∈ logInfs) : call.args.Nodup := by
  revert call
  decide

/-- No `LOG_INF` but its own could have printed a line. -/
theorem readLine?_print {call : LogInf} (hcall : call ∈ logInfs) {values : List Int}
    (hvalues : values.length = call.args.length) :
    readLine? (Printf.print call.format values) = some (call.args.zip values) := by
  have hscan := scan?_print (delimited_format hcall)
    (hvalues.trans (conversions_format hcall).symm)
  simp only [logInfs, List.mem_cons, List.not_mem_nil, or_false] at hcall
  obtain rfl | rfl | rfl | rfl := hcall
  · simp only [readLine?, logInfs, List.findSome?_cons, hscan, Option.map_some]
  · have henvironment : scan? environment.format (Printf.print distance.format values) = none := rfl
    simp only [readLine?, logInfs, List.findSome?_cons, henvironment, Option.map_none, hscan,
      Option.map_some]
  · have henvironment : scan? environment.format (Printf.print distanceHcsr040.format values) =
        none := rfl
    have hdistance : scan? distance.format (Printf.print distanceHcsr040.format values) = none := rfl
    simp only [readLine?, logInfs, List.findSome?_cons, henvironment, hdistance, Option.map_none,
      hscan, Option.map_some]
  · have henvironment : scan? environment.format (Printf.print distanceHcsr041.format values) =
        none := rfl
    have hdistance : scan? distance.format (Printf.print distanceHcsr041.format values) = none := rfl
    have hfirst : scan? distanceHcsr040.format (Printf.print distanceHcsr041.format values) =
        none := rfl
    simp only [readLine?, logInfs, List.findSome?_cons, henvironment, hdistance, hfirst,
      Option.map_none, hscan, Option.map_some]

theorem readConsole?_concat {lines : List (List Char)} {line : List Char}
    {said : List (List (Argument × Int))} {more : List (Argument × Int)}
    (hlines : readConsole? lines = some said) (hline : readLine? line = some more) :
    readConsole? (lines ++ [line]) = some (said ++ [more]) := by
  induction lines generalizing said with
  | nil =>
      cases hlines
      simp [readConsole?, hline]
  | cons first lines ih =>
      rw [readConsole?, Option.bind_eq_some_iff] at hlines
      obtain ⟨told, hfirst, hrest⟩ := hlines
      obtain ⟨rest, htold, rfl⟩ := Option.map_eq_some_iff.mp hrest
      rw [List.cons_append, readConsole?, hfirst, Option.bind_some, ih htold, Option.map_some,
        List.cons_append]

/-! ### One line -/

def said (entry : Argument × BitVec 32) : Argument × Int := (entry.1, entry.2.toInt)

/-- The line says what was read, in the order of a format. -/
structure Says (line : List (Argument × Int)) (read : List (Argument × BitVec 32)) : Prop where
  perm : line.Perm (read.map said)
  order : ∃ call ∈ logInfs, line.map Prod.fst = call.args

/-- What a `LOG_INF` prints of the arguments it has. -/
def LogInf.told (call : LogInf) (args : Argument → BitVec 32) : List (Argument × Int) :=
  call.args.map fun argument => (argument, (args argument).toInt)

theorem readLine?_line {call : LogInf} (hcall : call ∈ logInfs) (args : Argument → BitVec 32) :
    readLine? (call.line args) = some (call.told args) := by
  rw [LogInf.line, readLine?_print hcall (List.length_map _), LogInf.told, ← List.zip_map',
    List.map_id']

theorem map_said_eq {read : List (Argument × BitVec 32)} {args : Argument → BitVec 32}
    (hargs : ∀ entry ∈ read, args entry.1 = entry.2) :
    read.map said = (read.map Prod.fst).map fun argument => (argument, (args argument).toInt) := by
  rw [List.map_map]
  refine List.map_congr_left fun entry hentry => ?_
  rw [Function.comp_apply, hargs entry hentry, said]

/-! ### One step of the loop -/

/-- Where `main` is in order, it reads the arguments as the format names them. -/
def Event.InOrder : Event → Prop
  | .main pick => pick = 0
  | _ => True

/-- A `LOG_INF` has read `done` and has `unread` to read. -/
structure Within (ordered : Prop) (call : LogInf) (done unread : List Argument) : Prop where
  call_mem : call ∈ logInfs
  perm : (done ++ unread).Perm call.args
  inOrder : ordered → done ++ unread = call.args

/-- Nothing of the call has been made yet. -/
def Action.Whole : Action → Prop
  | .makeReadingAndSend => True
  | .logInf call unread => call ∈ logInfs ∧ unread = call.args

/-- `main` is in a `LOG_INF` that has read `done`, or between calls, and then `done` is empty. -/
def Position (ordered : Prop) (done : List Argument) : List Action → Prop
  | [] => done = []
  | .makeReadingAndSend :: main => done = [] ∧ ∀ action ∈ main, action.Whole
  | .logInf call unread :: main =>
      Within ordered call done unread ∧ ∀ action ∈ main, action.Whole

theorem whole_turn (config : Config) : ∀ action ∈ turn config, action.Whole := by
  intro action haction
  obtain rfl | haction := List.mem_cons.mp haction
  · trivial
  · obtain ⟨call, hcall, rfl⟩ := List.mem_map.mp haction
    exact ⟨logOutputAllSensors_subset config hcall, rfl⟩

theorem position_of_whole {ordered : Prop} {main : List Action}
    (hwhole : ∀ action ∈ main, action.Whole) : Position ordered [] main := by
  cases main with
  | nil => rfl
  | cons action main =>
      obtain ⟨haction, hmain⟩ := List.forall_mem_cons.mp hwhole
      cases action with
      | makeReadingAndSend => exact ⟨rfl, hmain⟩
      | logInf call unread =>
          obtain ⟨hcall, rfl⟩ := haction
          exact ⟨⟨hcall, .refl _, fun _ => rfl⟩, hmain⟩

theorem Position.exists_call {ordered : Prop} {done : List Argument} {main : List Action}
    (hposition : Position ordered done main) :
    ∃ call ∈ logInfs, done.Subperm call.args ∧ (ordered → done <+: call.args) := by
  have hnone : done = [] →
      ∃ call ∈ logInfs, done.Subperm call.args ∧ (ordered → done <+: call.args) := by
    rintro rfl
    exact ⟨environment, List.mem_cons_self, List.nil_subperm, fun _ => List.nil_prefix⟩
  cases main with
  | nil => exact hnone hposition
  | cons action main =>
      cases action with
      | makeReadingAndSend => exact hnone hposition.1
      | logInf call unread =>
          obtain ⟨⟨hcall, hperm, hinOrder⟩, -⟩ := hposition
          refine ⟨call, hcall, ?_, fun h => ⟨unread, hinOrder h⟩⟩
          exact (List.sublist_append_left done unread).subperm.trans hperm.subperm

theorem Within.read {ordered : Prop} {call : LogInf} {done unread : List Argument}
    (hwithin : Within ordered call done unread) {argument : Argument} (hargument : argument ∈ unread)
    (hfirst : ordered → unread.head? = some argument) :
    Within ordered call (done ++ [argument]) (unread.erase argument) where
  call_mem := hwithin.call_mem
  perm := by
    rw [List.append_assoc, List.singleton_append]
    exact ((List.perm_cons_erase hargument).symm.append_left done).trans hwithin.perm
  inOrder := by
    intro hordered
    obtain ⟨rest, rfl⟩ := List.head?_eq_some_iff.mp (hfirst hordered)
    rw [List.erase_cons_head, List.append_assoc, List.singleton_append]
    exact hwithin.inOrder hordered

theorem Within.not_mem_done {ordered : Prop} {call : LogInf} {done unread : List Argument}
    (hwithin : Within ordered call done unread) {argument : Argument} (hargument : argument ∈ unread) :
    argument ∉ done := by
  have hnodup : (done ++ unread).Nodup := hwithin.perm.nodup_iff.mpr (nodup_args hwithin.call_mem)
  exact fun hdone => List.disjoint_of_nodup_append hnodup hdone hargument

/-- The lines on the console are those of the groups of arguments read, but for what the `LOG_INF`
being made has read so far. -/
structure Told (ordered : Prop) (state : State) (lines : List (List (Argument × Int)))
    (groups : List (List (Argument × BitVec 32))) (reading : List (Argument × BitVec 32)) : Prop where
  logged : state.logged = groups.flatten ++ reading
  console : readConsole? state.console = some lines
  grouped : List.Forall₂ Says lines groups
  inOrder : ordered → lines.flatten = groups.flatten.map said
  args : ∀ entry ∈ reading, state.args entry.1 = entry.2
  position : Position ordered (reading.map Prod.fst) state.main

section

variable {kernel : Kernel} {chan : SensorChannel → BitVec 32} {config : Config} {state : State}
  {ordered : Prop} {lines : List (List (Argument × Int))}
  {groups : List (List (Argument × BitVec 32))} {reading : List (Argument × BitVec 32)}

theorem Told.main (htold : Told ordered state lines groups reading) {pick : Nat}
    (hordered : ordered → pick = 0) :
    ∃ lines groups reading,
      Told ordered (step kernel chan config state (.main pick)) lines groups reading := by
  have hstep : MainStep kernel config state pick (step kernel chan config state (.main pick)) :=
    mainStep pick
  have hposition := htold.position
  generalize step kernel chan config state (.main pick) = next at hstep
  cases hstep with
  | turns hmain =>
      rw [hmain] at hposition
      have hread : reading.map Prod.fst = [] := hposition
      refine ⟨lines, groups, reading, { htold with position := ?_ }⟩
      rw [hread]
      exact position_of_whole (whole_turn config)
  | requests main hmain =>
      rw [hmain] at hposition
      obtain ⟨hread, hwhole⟩ := hposition
      refine ⟨lines, groups, reading, { htold with position := ?_ }⟩
      rw [hread]
      exact position_of_whole hwhole
  | prints call main hmain =>
      rw [hmain] at hposition
      obtain ⟨⟨hcall, hperm, hinOrder⟩, hwhole⟩ := hposition
      rw [List.append_nil] at hperm hinOrder
      have hsaid := map_said_eq htold.args
      refine ⟨lines ++ [call.told state.args], groups ++ [reading], [], ?_⟩
      exact {
        logged := by
          rw [htold.logged, List.flatten_append, List.flatten_singleton, List.append_nil]
        console := readConsole?_concat htold.console (readLine?_line hcall state.args)
        grouped := by
          refine List.rel_append htold.grouped (.cons ⟨?_, call, hcall, ?_⟩ .nil)
          · rw [hsaid]
            exact (hperm.map _).symm
          · rw [LogInf.told, List.map_map]
            exact List.map_id _
        inOrder := by
          intro h
          rw [List.flatten_append, List.flatten_append, List.flatten_singleton,
            List.flatten_singleton, List.map_append, htold.inOrder h, hsaid, hinOrder h, LogInf.told]
        args := List.forall_mem_nil _
        position := position_of_whole hwhole }
  | reads call unread main hmain argument hargument hfirst =>
      rw [hmain] at hposition
      obtain ⟨hwithin, hwhole⟩ := hposition
      let value := argument.read state.reading.readings
      refine ⟨lines, groups, reading ++ [(argument, value)], ?_⟩
      exact {
        logged := by
          rw [← List.append_assoc, ← htold.logged]
          rfl
        console := htold.console
        grouped := htold.grouped
        inOrder := htold.inOrder
        args := by
          rw [List.forall_mem_append, List.forall_mem_singleton]
          refine ⟨fun entry hentry => ?_, Function.update_self _ _ _⟩
          have hdone : entry.1 ∈ reading.map Prod.fst := List.mem_map_of_mem hentry
          have hother : entry.1 ≠ argument := by
            rintro rfl
            exact hwithin.not_mem_done hargument hdone
          exact (Function.update_of_ne hother _ _).trans (htold.args entry hentry)
        position := by
          rw [List.map_append, List.map_singleton]
          exact ⟨hwithin.read hargument fun h => hfirst (hordered h), hwhole⟩ }

theorem Told.other (htold : Told ordered state lines groups reading) {event : Event}
    (hevent : ∀ pick, event ≠ .main pick) :
    Told ordered (step kernel chan config state event) lines groups reading := by
  cases event with
  | main pick => exact absurd rfl (hevent pick)
  | thread | interrupt event => exact { htold with }
  | delayOver | work devEnv devVl53l0x =>
      simp only [step]
      split <;> exact { htold with }

end

theorem told_run (kernel : Kernel) (chan : SensorChannel → BitVec 32) (config : Config)
    (outcome : Hcsr.InitOutcome) (events : List Event) :
    ∃ lines groups reading, Told (∀ event ∈ events, event.InOrder)
      (run (step kernel chan config) (start outcome) events) lines groups reading := by
  have hstart : Told (∀ event ∈ events, event.InOrder) (start outcome) [] [] [] :=
    ⟨rfl, rfl, .nil, fun _ => rfl, List.forall_mem_nil _, rfl⟩
  have hevents : Along (step kernel chan config)
      (fun _ event => (∀ event ∈ events, event.InOrder) → event.InOrder) (start outcome) events :=
    along_event_iff.mpr fun event hevent hordered => hordered event hevent
  refine @run_invariant _ _ _ (fun state => ∃ lines groups reading,
    Told (∀ event ∈ events, event.InOrder) state lines groups reading) _ _ _ ?_
    ⟨_, _, _, hstart⟩ hevents
  rintro state event ⟨lines, groups, reading, htold⟩ hordered
  cases event with
  | main pick => exact htold.main hordered
  | _ => exact ⟨_, _, _, htold.other (by rintro _ ⟨⟩)⟩

/-- **The console tells what was read.** However `main`, the work item and the interrupt are
interleaved, and in whatever order arguments are read, every line on the console can be read back
without knowing which `LOG_INF` printed it. One line after the other says of every field that was read
its name and its value, those of one line in the order of its format, which is the order of reading too
if arguments are read in order; what they do not say yet is of a single line, still to come. -/
theorem console_reads_back (kernel : Kernel) (chan : SensorChannel → BitVec 32) (config : Config)
    (outcome : Hcsr.InitOutcome) (events : List Event) :
    let final := run (step kernel chan config) (start outcome) events
    ∃ lines groups reading, final.logged = groups.flatten ++ reading
      ∧ readConsole? final.console = some lines ∧ List.Forall₂ Says lines groups
      ∧ ∃ call ∈ logInfs, (reading.map Prod.fst).Subperm call.args
        ∧ ((∀ event ∈ events, event.InOrder) →
          lines.flatten = groups.flatten.map said ∧ reading.map Prod.fst <+: call.args) := by
  intro final
  obtain ⟨lines, groups, reading, htold⟩ := told_run kernel chan config outcome events
  obtain ⟨call, hcall, hsubperm, hprefix⟩ := htold.position.exists_call
  exact ⟨lines, groups, reading, htold.logged, htold.console, htold.grouped, call, hcall, hsubperm,
    fun hordered => ⟨htold.inOrder hordered, hprefix hordered⟩⟩

/-! ### Reading a number -/

/-- What the print of a sensor value reads as. -/
def shown? (width : Nat) (value : SensorValue) : Option Rat :=
  decimal? (Printf.print (fixedPoint width) [value.val1.toInt, value.val2.toInt])

def units (value : SensorValue) : Rat := (value.micro : Rat) / 1000000

theorem shown?_eq_units_iff {width : Nat} (hwidth : width < 6) {value : SensorValue}
    (hvalue : value.WellFormed) :
    shown? width value = some (units value)
      ↔ value.val2.toInt = 0 ∨ 100000 ≤ value.val2.toInt :=
  @decimal?_fixedPoint_iff 6 width value.val1.toInt value.val2.toInt (by decide) hwidth
    hvalue.fraction hvalue.signs

theorem tenth_le_of_pow_le {width n : Nat} (hpos : 0 < n) (hn : 10 ^ (width - 1) ≤ n) :
    (1 : Rat) / 10 ≤ n / 10 ^ places width n := by
  have hpow : ((10 ^ places width n : Nat) : Rat) ≤ (10 * n : Nat) :=
    Nat.cast_le.mpr (pow_places_le hpos hn)
  push_cast at hpow
  rw [div_le_div_iff₀ (by norm_num) (by positivity)]
  linarith

/-- What reads wrong reads too large, and a tenth of a unit at least. -/
theorem units_le_shown? {width : Nat} (hwidth : width < 6) {value : SensorValue}
    (hvalue : value.WellFormed) (hnonneg : 0 ≤ value.micro) :
    ∃ shown, shown? width value = some shown ∧ units value ≤ shown
      ∧ (0 < value.micro → 10 ^ (width - 1) ≤ value.micro → 1 / 10 ≤ shown) := by
  have hfraction := hvalue.fraction
  have hsigns := hvalue.signs
  rw [SensorValue.micro] at hnonneg
  have hval1 : 0 ≤ value.val1.toInt := by omega
  have hval2 : 0 ≤ value.val2.toInt := by omega
  obtain ⟨shown, hshown, hle⟩ := @le_decimal?_fixedPoint 6 width _ _ hwidth hfraction hval1 hval2
  refine ⟨shown, hshown, hle, ?_⟩
  intro hpos hmicro
  rw [decimal?_of_nonneg width hval1 hval2, Option.some_inj] at hshown
  have hcast2 : (0 : Rat) ≤ value.val2.toInt := Int.cast_nonneg hval2
  rw [← hshown]
  obtain hzero | hone := hval1.eq_or_lt
  · rw [SensorValue.micro, ← hzero, zero_mul, zero_add] at hpos hmicro
    rw [← hzero, Int.cast_zero, zero_add]
    lift value.val2.toInt to Nat using hval2 with n
    exact tenth_le_of_pow_le (by exact_mod_cast hpos) (by exact_mod_cast hmicro)
  · have hwhole : (1 : Rat) ≤ value.val1.toInt := by exact_mod_cast hone
    have hrest : 0 ≤ (value.val2.toInt : Rat) / 10 ^ places width value.val2.toInt.natAbs :=
      div_nonneg hcast2 (by positivity)
    linarith

/-! ### Reading a distance -/

/-- Every stored distance was converted from some echo. -/
def AllConverted (state : State) : Prop :=
  ∀ entry ∈ state.reading.driver.stores, ∃ diff, entry.2 = Hcsr.distanceValue diff

theorem allConverted_step {kernel : Kernel}
    {chan : SensorChannel → BitVec 32} {config : Config} {state : State}
    (hconverted : AllConverted state) (event : Event) :
    AllConverted (step kernel chan config state event) := by
  rw [AllConverted]
  by_cases hinterrupt : ∃ echo, event = .interrupt echo
  · obtain ⟨echo, rfl⟩ := hinterrupt
    simp only [step, State.advance, ReadingThread.step]
    by_cases hmeasures : state.reading.driver.Measures echo
    · rw [Hcsr.step_of_measures hmeasures, Hcsr.storeReading]
      intro entry hentry
      obtain hold | hnew := List.mem_append.mp hentry
      · exact hconverted entry hold
      · rw [List.mem_singleton.mp hnew]
        exact ⟨_, rfl⟩
    · rw [(Hcsr.step_of_not_measures hmeasures).1]
      exact hconverted
  · rw [driver_step fun echo hevent => hinterrupt ⟨echo, hevent⟩]
    exact hconverted

/-- **A distance reads too large.** Of the distances that the interrupt has stored in any run, those
whose print reads as what they are have no millionths or a hundred thousand of them at least. Of the
others, one that is not negative reads as more than it is, and one of ten micrometres or more reads as
a tenth of a metre or more. -/
theorem distances_shown (kernel : Kernel)
    (chan : SensorChannel → BitVec 32) (config : Config) (outcome : Hcsr.InitOutcome)
    (events : List Event) :
    ∀ entry ∈ (run (step kernel chan config) (start outcome) events).reading.driver.stores,
      (shown? 2 entry.2 = some (units entry.2)
          ↔ entry.2.val2.toInt = 0 ∨ 100000 ≤ entry.2.val2.toInt)
        ∧ (0 ≤ entry.2.micro → ∃ shown, shown? 2 entry.2 = some shown ∧ units entry.2 ≤ shown
          ∧ (10 ≤ entry.2.micro → 1 / 10 ≤ shown)) := by
  have hstart : AllConverted (start outcome) := by
    obtain ⟨trig, echo, timerStarted, -, hinit⟩ := Hcsr.hcsrInit_boot outcome
    rw [start, ReadingThread.start, hinit]
    rintro _ ⟨⟩
  have hconverted : AllConverted (run (step kernel chan config) (start outcome) events) :=
    run_invariant (fun _ event hstate _ => allConverted_step hstate event) hstart
      (along_event_iff.mpr fun _ _ => trivial)
  intro entry hentry
  obtain ⟨diff, hdiff⟩ := hconverted entry hentry
  have hvalue : entry.2.WellFormed := hdiff ▸ Hcsr.distanceValue_wellFormed diff
  refine ⟨shown?_eq_units_iff (by decide) hvalue, ?_⟩
  intro hnonneg
  obtain ⟨shown, hshown, hle, htenth⟩ := @units_le_shown? 2 (by decide) entry.2 hvalue hnonneg
  exact ⟨shown, hshown, hle, fun hten => htenth (by omega) hten⟩

/-- Five centimetres read as more than ten. -/
theorem distances_shown_example :
    shown? 2 ⟨0, 51850⟩ ≠ some (units ⟨0, 51850⟩)
      ∧ ∃ shown, shown? 2 ⟨0, 51850⟩ = some shown ∧ 1 / 10 ≤ shown := by
  obtain ⟨hiff, htenth⟩ := distances_shown kernel32768 (fun _ => 0)
    ⟨false, false⟩ Hcsr.allReady
    [.interrupt (.timer 1000), .interrupt (.edge 1 .rising 1030),
      .interrupt (.edge 1 .falling 1040)] (1, ⟨0, 51850⟩) (by decide)
  obtain ⟨shown, hshown, -, hmore⟩ := htenth (by decide)
  exact ⟨fun hexact => absurd (hiff.mp hexact) (by decide), shown, hshown, hmore (by decide)⟩

end RcFirmware.Firmware
