import RcFirmware.Lib.Machine

/-!
# A bounded mailbox and its reader

Letters arrive at any time. The reader asks for one and, when there is none, waits, in which case the
next one is handed to it past the mailbox. Otherwise it goes into the mailbox, which holds so many,
and is lost when the mailbox is full. For every letter the reader gets it puts something out before it
asks again.

Outputs, the letter in the reader's hands and the mailbox together account for every letter that was
not lost, in the order they came.
-/

namespace Mailbox

open StepMachine

variable {α ω : Type*}

inductive Reader (α : Type*) where
  | idle
  | waiting
  | holding (letter : α)
  deriving DecidableEq, Repr

structure State (α ω : Type*) where
  pending : List α
  reader : Reader α
  outputs : List ω
  deriving DecidableEq, Repr

inductive Event (α : Type*) where
  | arrive (letter : α)
  | ask
  | output
  deriving DecidableEq, Repr

def State.fresh : State α ω := ⟨[], .idle, []⟩

def Reader.held : Reader α → List α
  | .idle | .waiting => []
  | .holding letter => [letter]

def State.inFlight (state : State α ω) : List α := state.reader.held ++ state.pending

def State.arrive (capacity : Nat) (state : State α ω) (letter : α) : State α ω :=
  if state.pending.length < capacity then
    match state.reader with
    | .waiting => { state with reader := .holding letter }
    | .idle | .holding _ => { state with pending := state.pending ++ [letter] }
  else state

def State.ask (state : State α ω) : State α ω :=
  match state.reader, state.pending with
  | .idle, [] => { state with reader := .waiting }
  | .idle, letter :: pending => { state with reader := .holding letter, pending := pending }
  | .waiting, _ | .holding _, _ => state

def State.output (render : α → ω) (state : State α ω) : State α ω :=
  match state.reader with
  | .holding letter => { state with reader := .idle, outputs := state.outputs ++ [render letter] }
  | .idle | .waiting => state

/-- A reader's step it is not ready for changes nothing. -/
def step (capacity : Nat) (render : α → ω) (state : State α ω) : Event α → State α ω
  | .arrive letter => state.arrive capacity letter
  | .ask => state.ask
  | .output => state.output render

def Event.letters : Event α → List α
  | .arrive letter => [letter]
  | .ask | .output => []

def arrivals (events : List (Event α)) : List α := events.flatMap Event.letters

/-- What has been put out, and what will be for the letters there are. -/
def State.account (render : α → ω) (state : State α ω) : List ω :=
  state.outputs ++ state.inFlight.map render

/-- No letter arrives at a full mailbox. -/
def HasRoom (capacity : Nat) (state : State α ω) : Event α → Prop
  | .arrive _ => state.pending.length < capacity
  | .ask | .output => True

structure Consistent (capacity : Nat) (state : State α ω) : Prop where
  length_pending : state.pending.length ≤ capacity
  pending_of_waiting : state.reader = .waiting → state.pending = []

section

variable {capacity : Nat} {render : α → ω} {state : State α ω} {event : Event α}
  {events : List (Event α)} {letter : α}

theorem consistent_fresh : Consistent capacity (State.fresh : State α ω) where
  length_pending := Nat.zero_le capacity
  pending_of_waiting := fun _ => rfl

theorem Consistent.length_inFlight (hconsistent : Consistent capacity state) :
    state.inFlight.length ≤ capacity + 1 := by
  have hpending := hconsistent.length_pending
  cases hreader : state.reader <;> simp [State.inFlight, Reader.held, hreader] <;> omega

/-! ### One step -/

theorem Consistent.arrive (hconsistent : Consistent capacity state) (letter : α) :
    Consistent capacity (state.arrive capacity letter) := by
  by_cases hroom : state.pending.length < capacity
  · cases hreader : state.reader with
    | waiting =>
        have hpending := hconsistent.pending_of_waiting hreader
        simp only [State.arrive, if_pos hroom, hreader]
        exact ⟨hconsistent.length_pending, fun _ => hpending⟩
    | idle | holding _ =>
        simp only [State.arrive, if_pos hroom, hreader]
        exact ⟨by simpa using Nat.succ_le_of_lt hroom, fun hwaiting => nomatch hwaiting⟩
  · rwa [State.arrive, if_neg hroom]

theorem Consistent.ask (hconsistent : Consistent capacity state) : Consistent capacity state.ask := by
  have hlength := hconsistent.length_pending
  cases hreader : state.reader with
  | idle =>
      cases hpending : state.pending with
      | nil =>
          simp only [State.ask, hreader, hpending]
          exact ⟨by simp, fun _ => rfl⟩
      | cons letter pending =>
          rw [hpending, List.length_cons] at hlength
          simp only [State.ask, hreader, hpending]
          exact ⟨by simp only; omega, fun hwaiting => nomatch hwaiting⟩
  | waiting | holding _ =>
      simpa only [State.ask, hreader] using hconsistent

theorem Consistent.output (hconsistent : Consistent capacity state) :
    Consistent capacity (state.output render) := by
  rw [State.output]
  split
  · exact ⟨hconsistent.length_pending, fun hwaiting => nomatch hwaiting⟩
  · exact hconsistent
  · exact hconsistent

theorem Consistent.step (hconsistent : Consistent capacity state) (event : Event α) :
    Consistent capacity (Mailbox.step capacity render state event) := by
  cases event with
  | arrive letter => exact hconsistent.arrive letter
  | ask => exact hconsistent.ask
  | output => exact hconsistent.output

theorem account_arrive (hconsistent : Consistent capacity state)
    (hroom : state.pending.length < capacity) :
    (state.arrive capacity letter).account render = state.account render ++ [render letter] := by
  rw [State.arrive, if_pos hroom]
  cases hreader : state.reader with
  | waiting =>
      have hpending := hconsistent.pending_of_waiting hreader
      simp [hreader, State.account, State.inFlight, Reader.held, hpending]
  | idle | holding _ =>
      simp [hreader, State.account, State.inFlight, Reader.held]

theorem account_ask : state.ask.account render = state.account render := by
  rw [State.ask]
  split <;> simp_all [State.account, State.inFlight, Reader.held]

theorem account_output : (state.output render).account render = state.account render := by
  rw [State.output]
  split <;> simp_all [State.account, State.inFlight, Reader.held]

theorem account_step_of_hasRoom (hconsistent : Consistent capacity state)
    (hroom : HasRoom capacity state event) :
    (step capacity render state event).account render =
      state.account render ++ event.letters.map render := by
  cases event with
  | arrive letter => exact account_arrive hconsistent hroom
  | ask => rw [step, account_ask, Event.letters, List.map_nil, List.append_nil]
  | output => rw [step, account_output, Event.letters, List.map_nil, List.append_nil]

theorem account_step_of_not_hasRoom (hroom : ¬ HasRoom capacity state event) :
    (step capacity render state event).account render = state.account render
      ∧ ∃ letter, event = .arrive letter := by
  cases event with
  | arrive letter =>
      have hfull : ¬ state.pending.length < capacity := hroom
      refine ⟨?_, letter, rfl⟩
      rw [step, State.arrive, if_neg hfull]
  | ask | output => exact absurd trivial hroom

/-! ### A run -/

theorem consistent_run (hconsistent : Consistent capacity state) :
    Consistent capacity (run (step capacity render) state events) :=
  run_invariant (Q := fun _ _ => True) (fun _ event hconsistent _ => hconsistent.step event)
    hconsistent (along_event_iff.mpr fun _ _ => trivial)

/-- Nothing is put out of order or twice. -/
theorem account_run_sublist (hconsistent : Consistent capacity state) :
    ((run (step capacity render) state events).account render).Sublist
      (state.account render ++ (arrivals events).map render) := by
  induction events generalizing state with
  | nil => simp [arrivals]
  | cons event events ih =>
      let next := step capacity render state event
      have hnext : Consistent capacity next := hconsistent.step event
      have hrest := ih hnext
      rw [arrivals, List.flatMap_cons, List.map_append, ← List.append_assoc, run_cons]
      by_cases hroom : HasRoom capacity state event
      · rwa [account_step_of_hasRoom hconsistent hroom] at hrest
      · rw [(account_step_of_not_hasRoom hroom).1] at hrest
        apply hrest.trans
        apply List.Sublist.append_right
        exact List.sublist_append_left _ _

/-- **No letter is lost** exactly when none arrives at a full mailbox. -/
theorem account_run_eq_iff (hconsistent : Consistent capacity state) :
    (run (step capacity render) state events).account render =
        state.account render ++ (arrivals events).map render
      ↔ Along (step capacity render) (HasRoom capacity) state events := by
  induction events generalizing state with
  | nil => simp [arrivals]
  | cons event events ih =>
      let next := step capacity render state event
      have hnext : Consistent capacity next := hconsistent.step event
      have hrest := ih hnext
      rw [arrivals, List.flatMap_cons, List.map_append, ← List.append_assoc, run_cons, along_cons]
      by_cases hroom : HasRoom capacity state event
      · rw [account_step_of_hasRoom hconsistent hroom] at hrest
        exact hrest.trans (and_iff_right hroom).symm
      · -- what is accounted for from here on is one letter short
        obtain ⟨haccount, letter, rfl⟩ : next.account render = state.account render
            ∧ ∃ letter, event = .arrive letter := account_step_of_not_hasRoom hroom
        have hsublist : ((run (step capacity render) next events).account render).Sublist
            (next.account render ++ (arrivals events).map render) := account_run_sublist hnext
        have hlength := hsublist.length_le
        rw [haccount] at hlength
        apply iff_of_false
        · intro heq
          rw [heq, List.append_assoc, List.length_append, List.length_append, List.length_append]
            at hlength
          exact absurd (Nat.le_of_add_le_add_left hlength) (by simp [Event.letters, arrivals])
        · intro hlaw
          exact hroom hlaw.1

/-! ### A quiet mailbox -/

/-- The steps of so many iterations of the reader's loop. -/
def iterations (count : Nat) : List (Event α) := (List.replicate count [.output, .ask]).flatten

theorem iterations_succ (count : Nat) :
    iterations (count + 1) = .output :: .ask :: (iterations count : List (Event α)) := rfl

theorem account_iterations (count : Nat) :
    (run (step capacity render) state (iterations count)).account render = state.account render := by
  induction count generalizing state with
  | zero => rfl
  | succ count ih =>
      rw [iterations_succ, run_cons, run_cons, ih, step, step, account_ask, account_output]

theorem reader_iteration_ne_idle : (state.output render).ask.reader ≠ .idle := by
  rw [State.output]
  cases hreader : state.reader <;> cases hpending : state.pending <;>
    simp [State.ask, hreader, hpending]

/-- An iteration that starts with a letter in hand is through with it at the end. -/
theorem inFlight_iteration (hconsistent : Consistent capacity state) (hreader : state.reader ≠ .idle) :
    (state.output render).ask.inFlight = state.inFlight.tail := by
  rw [State.output]
  split
  · cases hpending : state.pending <;>
      simp_all [State.ask, State.inFlight, Reader.held]
  · contradiction
  · rename_i hwaiting
    simp [State.ask, State.inFlight, Reader.held, hwaiting, hconsistent.pending_of_waiting hwaiting]

theorem inFlight_iterations (hconsistent : Consistent capacity state)
    (hreader : state.reader ≠ .idle) (count : Nat) :
    (run (step capacity render) state (iterations count)).inFlight = state.inFlight.drop count := by
  induction count generalizing state with
  | zero => rfl
  | succ count ih =>
      let next := (state.output render).ask
      have hnext : Consistent capacity next := hconsistent.output.ask
      calc (run (step capacity render) next (iterations count)).inFlight
          = next.inFlight.drop count := ih hnext reader_iteration_ne_idle
        _ = state.inFlight.drop (count + 1) := by
            rw [inFlight_iteration hconsistent hreader, List.drop_tail]

/-- **The mailbox is emptied.** Once nothing arrives any more, the reader puts out all there is. -/
theorem outputs_iterations (hconsistent : Consistent capacity state) {count : Nat}
    (hcount : capacity + 2 ≤ count) :
    (run (step capacity render) state (iterations count)).outputs = state.account render := by
  obtain ⟨count, rfl⟩ := Nat.exists_eq_succ_of_ne_zero (show count ≠ 0 by omega)
  let next := (state.output render).ask
  have hnext : Consistent capacity next := hconsistent.output.ask
  have hempty : (run (step capacity render) next (iterations count)).inFlight = [] := by
    rw [inFlight_iterations hnext reader_iteration_ne_idle]
    apply List.drop_eq_nil_of_le
    have hlength := hnext.length_inFlight
    omega
  have haccount : (run (step capacity render) state (iterations (count + 1))).account render =
      state.account render := account_iterations (count + 1)
  rw [iterations_succ, run_cons, run_cons] at haccount ⊢
  rwa [State.account, show step capacity render (step capacity render state .output) .ask = next
    from rfl, hempty, List.map_nil, List.append_nil] at haccount

end

end Mailbox
