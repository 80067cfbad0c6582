import RcFirmware.Lib.Mailbox

/-!
# A mailbox behind an interface

The queue of a system is mostly somebody else's, known by what is documented of its calls: a `put` that
does not wait and a `get` that does. Whatever such a queue is inside, a reader behind one that keeps to
its documentation is the reader of a mailbox.
-/

namespace MessageQueue

open StepMachine
open Mailbox (Reader Event HasRoom)

variable {α ω : Type*}

/-- `put` gives the letter it has handed to the reader, if one was waiting, and `get` the first letter,
or none, and then the reader waits. The documentation speaks of the letters in the queue and of whether
it is awaited. -/
structure Api (α : Type*) where
  Queue : Type*
  letters : Queue → List α
  awaited : Queue → Bool
  new : Queue
  put : Queue → α → Option α × Queue
  get : Queue → Option α × Queue

/-- What is documented of a queue for one reader. -/
structure Api.Lawful (api : Api α) (capacity : Nat) : Prop where
  new : api.letters api.new = [] ∧ api.awaited api.new = false
  put_full : ∀ queue letter, capacity ≤ (api.letters queue).length →
    api.put queue letter = (none, queue)
  put_awaited : ∀ queue letter, (api.letters queue).length < capacity →
    api.awaited queue = true → ∃ next, api.put queue letter = (some letter, next)
      ∧ api.letters next = api.letters queue ∧ api.awaited next = false
  put_kept : ∀ queue letter, (api.letters queue).length < capacity →
    api.awaited queue = false → ∃ next, api.put queue letter = (none, next)
      ∧ api.letters next = api.letters queue ++ [letter] ∧ api.awaited next = false
  get_none : ∀ queue, api.letters queue = [] → ∃ next, api.get queue = (none, next)
    ∧ api.letters next = [] ∧ api.awaited next = true
  get_first : ∀ queue letter letters, api.letters queue = letter :: letters →
    ∃ next, api.get queue = (some letter, next)
      ∧ api.letters next = letters ∧ api.awaited next = api.awaited queue

/-! ### The reader -/

structure State (api : Api α) (ω : Type*) where
  queue : api.Queue
  reader : Reader α
  outputs : List ω

variable {api : Api α}

def State.fresh : State api ω := ⟨api.new, .idle, []⟩

def State.arrive (state : State api ω) (letter : α) : State api ω :=
  match api.put state.queue letter with
  | (none, queue) => { state with queue := queue }
  | (some handed, queue) => { state with queue := queue, reader := .holding handed }

def State.ask (state : State api ω) : State api ω :=
  match state.reader with
  | .idle =>
      match api.get state.queue with
      | (none, queue) => { state with queue := queue, reader := .waiting }
      | (some letter, queue) => { state with queue := queue, reader := .holding letter }
  | .waiting | .holding _ => state

def State.output (render : α → ω) (state : State api ω) : State api ω :=
  match state.reader with
  | .holding letter => { state with reader := .idle, outputs := state.outputs ++ [render letter] }
  | .idle | .waiting => state

def step (render : α → ω) (state : State api ω) : Event α → State api ω
  | .arrive letter => state.arrive letter
  | .ask => state.ask
  | .output => state.output render

/-! ### The mailbox it is -/

def State.mailbox (state : State api ω) : Mailbox.State α ω :=
  ⟨api.letters state.queue, state.reader, state.outputs⟩

/-- The queue knows whether the reader waits. -/
def State.Agrees (state : State api ω) : Prop :=
  api.awaited state.queue = true ↔ state.reader = .waiting

variable {capacity : Nat} {render : α → ω} {state : State api ω} {events : List (Event α)}

theorem agrees_fresh (hlawful : api.Lawful capacity) : (State.fresh : State api ω).Agrees := by
  rw [State.Agrees, State.fresh, hlawful.new.2]
  exact iff_of_false Bool.false_ne_true (by rintro ⟨⟩)

theorem mailbox_fresh (hlawful : api.Lawful capacity) :
    (State.fresh : State api ω).mailbox = .fresh := by
  rw [State.mailbox, State.fresh, hlawful.new.1, Mailbox.State.fresh]

theorem arrive_refines (hlawful : api.Lawful capacity) (hagrees : state.Agrees) (letter : α) :
    (state.arrive letter).Agrees
      ∧ (state.arrive letter).mailbox = state.mailbox.arrive capacity letter := by
  by_cases hroom : (api.letters state.queue).length < capacity
  · by_cases hawaited : api.awaited state.queue = true
    · obtain ⟨next, hput, hletters, hnext⟩ := hlawful.put_awaited _ letter hroom hawaited
      have hwaiting := hagrees.mp hawaited
      simp [State.arrive, hput, State.Agrees, hnext, State.mailbox, hletters, Mailbox.State.arrive,
        hroom, hwaiting]
    · rw [Bool.not_eq_true] at hawaited
      obtain ⟨next, hput, hletters, hnext⟩ := hlawful.put_kept _ letter hroom hawaited
      have hreader : state.reader ≠ .waiting := by
        intro hwaiting
        cases hawaited.symm.trans (hagrees.mpr hwaiting)
      cases hcase : state.reader with
      | waiting => exact absurd hcase hreader
      | idle | holding _ =>
          simp [State.arrive, hput, State.Agrees, hnext, State.mailbox, hletters,
            Mailbox.State.arrive, hroom, hcase]
  · have hput := hlawful.put_full state.queue letter (Nat.le_of_not_lt hroom)
    constructor
    · simpa only [State.arrive, hput] using hagrees
    · simp [State.arrive, hput, State.mailbox, Mailbox.State.arrive, hroom]

theorem ask_refines (hlawful : api.Lawful capacity) (hagrees : state.Agrees) :
    state.ask.Agrees ∧ state.ask.mailbox = state.mailbox.ask := by
  cases hreader : state.reader with
  | waiting | holding _ =>
      constructor
      · simpa only [State.ask, hreader] using hagrees
      · simp [State.ask, State.mailbox, Mailbox.State.ask, hreader]
  | idle =>
      cases hletters : api.letters state.queue with
      | nil =>
          obtain ⟨next, hget, hnone, hnext⟩ := hlawful.get_none _ hletters
          simp [State.ask, hget, State.Agrees, hnext, State.mailbox, hnone, Mailbox.State.ask,
            hreader, hletters]
      | cons letter letters =>
          obtain ⟨next, hget, hrest, hnext⟩ := hlawful.get_first _ _ _ hletters
          have hawaited : api.awaited state.queue = false := by
            rw [← Bool.not_eq_true]
            intro hawaited
            cases hreader.symm.trans (hagrees.mp hawaited)
          simp [State.ask, hget, State.Agrees, hnext, hawaited, State.mailbox, hrest,
            Mailbox.State.ask, hreader, hletters]

theorem output_refines (hagrees : state.Agrees) :
    (state.output render).Agrees
      ∧ (state.output render).mailbox = state.mailbox.output render := by
  cases hreader : state.reader with
  | idle | waiting =>
      constructor
      · simpa only [State.output, hreader] using hagrees
      · simp [State.output, State.mailbox, Mailbox.State.output, hreader]
  | holding letter =>
      rw [State.Agrees, hreader] at hagrees
      constructor
      · simpa [State.output, State.Agrees, hreader] using hagrees
      · simp [State.output, State.mailbox, Mailbox.State.output, hreader]

theorem step_refines (hlawful : api.Lawful capacity) (hagrees : state.Agrees) (event : Event α) :
    (step render state event).Agrees
      ∧ (step render state event).mailbox = Mailbox.step capacity render state.mailbox event := by
  cases event with
  | arrive letter => exact arrive_refines hlawful hagrees letter
  | ask => exact ask_refines hlawful hagrees
  | output => exact output_refines hagrees

/-- **A lawful queue is a mailbox** to its reader in every run. -/
theorem mailbox_run (hlawful : api.Lawful capacity) (events : List (Event α)) :
    (run (step render) (.fresh : State api ω) events).mailbox =
      run (Mailbox.step capacity render) .fresh events := by
  calc
    (run (step render) (.fresh : State api ω) events).mailbox
      = run (Mailbox.step capacity render) (.fresh : State api ω).mailbox events :=
        view_run (fun _ event hagrees => (step_refines hlawful hagrees event).1)
          (fun _ event hagrees => (step_refines hlawful hagrees event).2) (agrees_fresh hlawful)
    _ = run (Mailbox.step capacity render) .fresh events := by rw [mailbox_fresh hlawful]

theorem along_hasRoom_iff (hlawful : api.Lawful capacity) :
    Along (step render) (fun state event => HasRoom capacity state.mailbox event)
        (.fresh : State api ω) events
      ↔ Along (Mailbox.step capacity render) (HasRoom capacity) .fresh events := by
  rw [along_view (fun _ event hagrees => (step_refines hlawful hagrees event).1)
    (fun _ event hagrees => (step_refines hlawful hagrees event).2) (agrees_fresh hlawful),
    mailbox_fresh hlawful]

/-! ### A queue that is a list -/

def listQueue (capacity : Nat) : Api α where
  Queue := List α × Bool
  letters := Prod.fst
  awaited := Prod.snd
  new := ([], false)
  put queue letter :=
    if queue.1.length < capacity then
      if queue.2 then (some letter, (queue.1, false)) else (none, (queue.1 ++ [letter], false))
    else (none, queue)
  get queue :=
    match queue.1 with
    | [] => (none, ([], true))
    | letter :: letters => (some letter, (letters, queue.2))

theorem listQueue_lawful (capacity : Nat) : (listQueue capacity : Api α).Lawful capacity where
  new := ⟨rfl, rfl⟩
  put_full := fun _ _ hfull => if_neg (Nat.not_lt.mpr hfull)
  put_awaited := by
    rintro ⟨letters, awaited⟩ letter hroom rfl
    exact ⟨(letters, false), if_pos hroom, rfl, rfl⟩
  put_kept := by
    rintro ⟨letters, awaited⟩ letter hroom rfl
    exact ⟨(letters ++ [letter], false), if_pos hroom, rfl, rfl⟩
  get_none := by
    rintro ⟨letters, awaited⟩ rfl
    exact ⟨([], true), rfl, rfl, rfl⟩
  get_first := by
    rintro ⟨_, awaited⟩ letter letters rfl
    exact ⟨(letters, awaited), rfl, rfl, rfl⟩

end MessageQueue
