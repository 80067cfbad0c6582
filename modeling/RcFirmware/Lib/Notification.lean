import RcFirmware.Lib.Machine

/-!
# A shared record and the work item that reports it

An interrupt stores a record and submits a work item, and the item's handler puts out what it finds.
Submitting queues the item unless it is queued already. The mark is cleared just before the handler
starts, so that a submit while it runs queues it once more.

The handler looks at the record in pieces and can be interrupted between any two of them, so what it
puts out may mix two records. It does not stay: once the item is at rest, the last output is that of
the last record. The invariant is about what a running handler holds. As long as the item has not been
queued again, nothing was stored since it started, and all it holds it saw in the record there is.
-/

namespace Notification

open StepMachine

variable {ρ κ θ ω : Type*}

/-- What a handler holds when it starts, what one look adds to it, and what it puts out once it holds
enough. -/
structure Handler (ρ κ θ ω : Type*) where
  start : θ
  look : κ → ρ → θ → θ
  out : θ → Option ω

/-- `posts` lists the records stored so far, which a system does not keep. -/
structure State (ρ θ ω : Type*) where
  shared : ρ
  queued : Bool
  running : Option θ
  outputs : List ω
  posts : List ρ

inductive Event (ρ κ : Type*) where
  | post (record : ρ)
  | start
  | look (piece : κ)
  | finish
  deriving DecidableEq, Repr

def State.fresh (shared : ρ) : State ρ θ ω := ⟨shared, false, none, [], []⟩

def State.submit (state : State ρ θ ω) : State ρ θ ω := { state with queued := true }

/-- An event that cannot happen in a state, such as a start of an item that is not queued, changes
nothing. -/
def step (handler : Handler ρ κ θ ω) (state : State ρ θ ω) : Event ρ κ → State ρ θ ω
  | .post record => State.submit { state with shared := record, posts := state.posts ++ [record] }
  | .start =>
      if state.queued ∧ state.running.isNone then
        { state with queued := false, running := some handler.start }
      else state
  | .look piece => { state with running := state.running.map (handler.look piece state.shared) }
  | .finish =>
      match state.running.bind handler.out with
      | some output => { state with running := none, outputs := state.outputs ++ [output] }
      | none => state

def posted : List (Event ρ κ) → List ρ
  | [] => []
  | .post record :: events => record :: posted events
  | .start :: events | .look _ :: events | .finish :: events => posted events

/-- The handler reports records as `render` has them: what it holds relates to the record it looks at,
and once it has looked at enough of one record, its output is that record's. -/
structure Handler.Reports (handler : Handler ρ κ θ ω) (render : ρ → ω) (Saw : ρ → θ → Prop) : Prop
    where
  start : ∀ record, Saw record handler.start
  look : ∀ piece record held, Saw record held → Saw record (handler.look piece record held)
  out : ∀ record held output, Saw record held → handler.out held = some output →
    output = render record

section

variable {handler : Handler ρ κ θ ω} {render : ρ → ω} {Saw : ρ → θ → Prop} {state : State ρ θ ω}

theorem posts_run (events : List (Event ρ κ)) :
    (run (step handler) state events).posts = state.posts ++ posted events := by
  induction events generalizing state with
  | nil => simp [posted]
  | cons event events ih =>
      rw [run_cons, ih]
      cases event with
      | post record => simp [step, State.submit, posted]
      | start =>
          simp only [step, posted]
          split_ifs <;> rfl
      | look piece => rfl
      | finish =>
          simp only [step, posted]
          split <;> rfl

structure Tracks (render : ρ → ω) (Saw : ρ → θ → Prop) (state : State ρ θ ω) : Prop where
  shared : ∀ record, state.posts.getLast? = some record → record = state.shared
  running : state.queued = false → ∀ held, state.running = some held → Saw state.shared held
  atRest : state.queued = false → state.running = none → state.posts ≠ [] →
    state.outputs.getLast? = some (render state.shared)

theorem tracks_fresh (shared : ρ) : Tracks render Saw (State.fresh shared) where
  shared := fun _ hposted => nomatch hposted
  running := fun _ _ hrunning => nomatch hrunning
  atRest := fun _ _ hposted => absurd rfl hposted

theorem Tracks.post (record : ρ) : Tracks render Saw (step handler state (.post record)) where
  shared := by
    intro last hlast
    rw [step, State.submit, List.getLast?_concat] at hlast
    exact (Option.some.inj hlast).symm
  running := fun hqueued => nomatch hqueued
  atRest := fun hqueued => nomatch hqueued

theorem Tracks.start (hreports : handler.Reports render Saw) (htracks : Tracks render Saw state) :
    Tracks render Saw (step handler state .start) := by
  rw [step]
  split_ifs
  · exact {
      shared := htracks.shared
      running := by
        rintro - held hheld
        rw [← Option.some.inj hheld]
        exact hreports.start state.shared
      atRest := fun _ hrunning => nomatch hrunning }
  · exact htracks

theorem Tracks.look (hreports : handler.Reports render Saw) (htracks : Tracks render Saw state)
    (piece : κ) : Tracks render Saw (step handler state (.look piece)) where
  shared := htracks.shared
  running := by
    intro hqueued held hheld
    obtain ⟨before, hbefore, rfl⟩ := Option.map_eq_some_iff.mp hheld
    exact hreports.look piece state.shared before (htracks.running hqueued before hbefore)
  atRest := fun hqueued hrunning =>
    htracks.atRest hqueued (Option.map_eq_none_iff.mp hrunning)

theorem Tracks.finish (hreports : handler.Reports render Saw) (htracks : Tracks render Saw state) :
    Tracks render Saw (step handler state .finish) := by
  rw [step]
  split
  · rename_i output hout
    obtain ⟨held, hheld, hout⟩ := Option.bind_eq_some_iff.mp hout
    exact {
      shared := htracks.shared
      running := fun _ _ hrunning => nomatch hrunning
      atRest := by
        rintro hqueued - -
        have hsaw := htracks.running hqueued held hheld
        rw [List.getLast?_concat, hreports.out state.shared held output hsaw hout] }
  · exact htracks

theorem Tracks.step (hreports : handler.Reports render Saw) (htracks : Tracks render Saw state)
    (event : Event ρ κ) : Tracks render Saw (Notification.step handler state event) := by
  cases event with
  | post record => exact Tracks.post record
  | start => exact htracks.start hreports
  | look piece => exact htracks.look hreports piece
  | finish => exact htracks.finish hreports

/-- **The last record is reported.** However posts and the handler's looks are interleaved, once the
item is at rest the last output is that of the last record posted. -/
theorem last_output (hreports : handler.Reports render Saw) (shared : ρ)
    (events : List (Event ρ κ))
    (hqueued : (run (Notification.step handler) (.fresh shared) events).queued = false)
    (hrunning : (run (Notification.step handler) (.fresh shared) events).running = none) {record : ρ}
    (hlast : (posted events).getLast? = some record) :
    (run (Notification.step handler) (.fresh shared) events).outputs.getLast? =
      some (render record) := by
  have htracks : Tracks render Saw (run (Notification.step handler) (.fresh shared) events) :=
    run_invariant (Q := fun _ _ => True) (fun _ event htracks _ => htracks.step hreports event)
      (tracks_fresh shared) (along_event_iff.mpr fun _ _ => trivial)
  have hposts : (run (Notification.step handler) (.fresh shared) events).posts.getLast? =
      some record := by
    rw [posts_run]
    exact hlast
  have hne : (run (Notification.step handler) (.fresh shared) events).posts ≠ [] := by
    intro hnil
    rw [hnil] at hposts
    cases hposts
  rw [htracks.atRest hqueued hrunning hne, ← htracks.shared record hposts]

end

end Notification
