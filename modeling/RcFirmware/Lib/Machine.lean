import Mathlib.Data.List.Basic
import Mathlib.Tactic.Common

/-!
# Runs of a deterministic machine

A machine is a step function: one event takes one state to the next. A run is a fold over its events,
and a property of a run is a property of every step it takes, `Along`, so that a law and the
condition under which it holds are stated in the same shape.

Four rules carry whole runs from one step each: an invariant, a cell that keeps what was last written
to it, a simulation between the runs of two machines, and a projection, which says that what an
observer sees of a run is what the events that concern it leave behind.
-/

namespace StepMachine

variable {σ τ ε δ : Type*}

def run (step : σ → ε → σ) (state : σ) (events : List ε) : σ :=
  events.foldl step state

/-- `P` holds at every step of the run: of each state the run reaches and the event it meets there. -/
def Along (step : σ → ε → σ) (P : σ → ε → Prop) : σ → List ε → Prop
  | _, [] => True
  | state, event :: events => P state event ∧ Along step P (step state event) events

section Basic

variable {step : σ → ε → σ} {P Q : σ → ε → Prop} {state : σ} {event : ε} {events : List ε}

@[simp]
theorem run_nil : run step state [] = state := rfl

@[simp]
theorem run_cons : run step state (event :: events) = run step (step state event) events := rfl

theorem run_append (first second : List ε) :
    run step state (first ++ second) = run step (run step state first) second :=
  List.foldl_append

theorem run_concat (event : ε) (events : List ε) :
    run step state (events ++ [event]) = step (run step state events) event := by
  rw [run_append, run_cons, run_nil]

@[simp]
theorem along_nil : Along step P state [] := trivial

@[simp]
theorem along_cons :
    Along step P state (event :: events)
      ↔ P state event ∧ Along step P (step state event) events := Iff.rfl

theorem along_append (first second : List ε) :
    Along step P state (first ++ second)
      ↔ Along step P state first ∧ Along step P (run step state first) second := by
  induction first generalizing state with
  | nil => simp
  | cons event first ih => simp [ih, and_assoc]

theorem Along.mono (himp : ∀ s e, P s e → Q s e) (hlaw : Along step P state events) :
    Along step Q state events := by
  induction events generalizing state with
  | nil => trivial
  | cons event events ih => exact ⟨himp state event hlaw.1, ih hlaw.2⟩

theorem along_and :
    Along step (fun s e => P s e ∧ Q s e) state events
      ↔ Along step P state events ∧ Along step Q state events := by
  induction events generalizing state with
  | nil => simp
  | cons event events ih =>
      simp only [along_cons, ih]
      tauto

theorem along_event_iff {P : ε → Prop} :
    Along step (fun _ e => P e) state events ↔ ∀ e ∈ events, P e := by
  induction events generalizing state with
  | nil => simp
  | cons event events ih => simp [ih]

/-! ### A machine that ignores some events -/

/-- The machine that sees only what `f` makes of an event. -/
def through (step : σ → ε → σ) (f : δ → Option ε) (state : σ) (event : δ) : σ :=
  (f event).elim state (step state)

theorem run_through {f : δ → Option ε} {events : List δ} :
    run (through step f) state events = run step state (events.filterMap f) := by
  induction events generalizing state with
  | nil => rfl
  | cons event events ih =>
      rw [run_cons, ih]
      cases hevent : f event with
      | none => rw [List.filterMap_cons_none hevent, through, hevent, Option.elim_none]
      | some seen => rw [List.filterMap_cons_some hevent, through, hevent, Option.elim_some, run_cons]

theorem along_through {f : δ → Option ε} {events : List δ} :
    Along (through step f) (fun s e => ∀ seen, f e = some seen → P s seen) state events
      ↔ Along step P state (events.filterMap f) := by
  induction events generalizing state with
  | nil => simp
  | cons event events ih =>
      rw [along_cons, ih]
      cases hevent : f event with
      | none => simp [List.filterMap_cons_none hevent, through, hevent]
      | some seen => simp [List.filterMap_cons_some hevent, through, hevent]

end Basic

/-! ### Invariants -/

section Invariant

variable {step : σ → ε → σ} {Inv : σ → Prop} {P Q : σ → ε → Prop} {state : σ} {events : List ε}

/-- An invariant that every step meeting the condition keeps holds at the end of every run whose
steps all meet it. -/
theorem run_invariant (hstep : ∀ s e, Inv s → Q s e → Inv (step s e)) (hinit : Inv state)
    (hcondition : Along step Q state events) : Inv (run step state events) := by
  induction events generalizing state with
  | nil => exact hinit
  | cons event events ih =>
      exact ih (hstep state event hinit hcondition.1) hcondition.2

/-- The same for a law: what each step from an invariant state obeys holds along the whole run. -/
theorem along_of_invariant (hstep : ∀ s e, Inv s → Q s e → Inv (step s e) ∧ P s e)
    (hinit : Inv state) (hcondition : Along step Q state events) :
    Along step P state events := by
  induction events generalizing state with
  | nil => trivial
  | cons event events ih =>
      obtain ⟨hnext, hlaw⟩ := hstep state event hinit hcondition.1
      exact ⟨hlaw, ih hnext hcondition.2⟩

theorem along_congr_of_invariant (hstep : ∀ s e, Inv s → Inv (step s e))
    (hiff : ∀ s e, Inv s → (P s e ↔ Q s e)) (hinit : Inv state) :
    Along step P state events ↔ Along step Q state events := by
  induction events generalizing state with
  | nil => simp
  | cons event events ih =>
      rw [along_cons, along_cons, hiff state event hinit, ih (hstep state event hinit)]

theorem along_congr (hiff : ∀ s e, P s e ↔ Q s e) :
    Along step P state events ↔ Along step Q state events := by
  induction events generalizing state with
  | nil => simp
  | cons event events ih => rw [along_cons, along_cons, hiff, ih]

/-! ### Views -/

section View

variable {step' : τ → ε → τ} {view : σ → τ} (hinv : ∀ s e, Inv s → Inv (step s e))
  (hview : ∀ s e, Inv s → view (step s e) = step' (view s) e)

include hinv hview

/-- **Refinement.** A machine whose view takes the steps of another does so over whole runs. -/
theorem view_run (hinit : Inv state) : view (run step state events) = run step' (view state) events := by
  induction events generalizing state with
  | nil => rfl
  | cons event events ih =>
      rw [run_cons, run_cons, ih (hinv state event hinit), hview state event hinit]

theorem along_view {P : τ → ε → Prop} (hinit : Inv state) :
    Along step (fun s e => P (view s) e) state events ↔ Along step' P (view state) events := by
  induction events generalizing state with
  | nil => simp
  | cons event events ih =>
      rw [along_cons, along_cons, ih (hinv state event hinit), hview state event hinit]

end View

end Invariant

/-! ### Logs -/

/-- What a run logs has a property when what it found logged has it and every step logs only what has
it. -/
theorem forall_mem_log_iff {step : σ → ε → σ} {log : σ → List δ} {logged : σ → ε → List δ}
    (hlog : ∀ s e, log (step s e) = log s ++ logged s e) {P : δ → Prop} {state : σ}
    {events : List ε} :
    (∀ entry ∈ log (run step state events), P entry)
      ↔ (∀ entry ∈ log state, P entry)
        ∧ Along step (fun s e => ∀ entry ∈ logged s e, P entry) state events := by
  induction events generalizing state with
  | nil => simp
  | cons event events ih =>
      rw [run_cons, ih, hlog, along_cons, List.forall_mem_append, and_assoc]

/-! ### Cells -/

/-- What the steps of a run are seen to do, where there is something to see. -/
def collected (step : σ → ε → σ) (seen : σ → ε → Option δ) : σ → List ε → List δ
  | _, [] => []
  | state, event :: events =>
      (seen state event).toList ++ collected step seen (step state event) events

theorem collected_eq_filterMap {step : σ → ε → σ} {seen : ε → Option δ} {state : σ}
    {events : List ε} : collected step (fun _ => seen) state events = events.filterMap seen := by
  induction events generalizing state with
  | nil => rfl
  | cons event events ih =>
      rw [collected, ih]
      cases hseen : seen event <;> simp [hseen]

/-- **The last write stays.** A cell that each step overwrites or leaves alone holds at the end of a
run what was last written to it. -/
theorem get_run {step : σ → ε → σ} {I : σ → Prop} {Q : ε → Prop} {get : σ → δ}
    {written : σ → ε → Option δ} (hinv : ∀ s e, I s → Q e → I (step s e))
    (hget : ∀ s e, I s → Q e → get (step s e) = (written s e).getD (get s)) {state : σ}
    (hinit : I state) {events : List ε} (hevents : ∀ e ∈ events, Q e) :
    get (run step state events) =
      (collected step written state events).getLast?.getD (get state) := by
  induction events generalizing state with
  | nil => rfl
  | cons event events ih =>
      obtain ⟨hevent, hrest⟩ := List.forall_mem_cons.mp hevents
      rw [run_cons, ih (hinv state event hinit hevent) hrest, hget state event hinit hevent,
        collected, List.getLast?_append]
      cases hlast : (collected step written (step state event) events).getLast? <;>
        cases written state event <;> rfl

theorem get_run_event {step : σ → ε → σ} (get : σ → δ) {written : ε → Option δ}
    (hget : ∀ s e, get (step s e) = (written e).getD (get s)) (state : σ) (events : List ε) :
    get (run step state events) = (events.filterMap written).getLast?.getD (get state) := by
  rw [← @collected_eq_filterMap _ _ _ step written state]
  exact get_run (I := fun _ => True) (Q := fun _ => True) (fun _ _ _ _ => trivial)
    (fun s e _ _ => hget s e) trivial fun _ _ => trivial

/-! ### Two runs -/

/-- **Simulation.** Two machines that keep a relation on each pair of matching events are still
related after every run whose steps meet the condition. -/
theorem run_related {step : σ → ε → σ} {step' : τ → δ → τ} {R : σ → τ → Prop} {f : ε → δ}
    {Q : σ → ε → Prop} {Q' : τ → δ → Prop}
    (hstep : ∀ s t e, R s t → Q s e → Q' t (f e) → R (step s e) (step' t (f e)))
    {state : σ} {state' : τ} (hinit : R state state') {events : List ε}
    (hcondition : Along step Q state events) (hcondition' : Along step' Q' state' (events.map f)) :
    R (run step state events) (run step' state' (events.map f)) := by
  induction events generalizing state state' with
  | nil => exact hinit
  | cons event events ih =>
      exact ih (hstep state state' event hinit hcondition.1 hcondition'.1) hcondition.2 hcondition'.2

/-- Two such machines obey laws along their runs that mean the same of each pair of their steps. -/
theorem along_related_iff {step : σ → ε → σ} {step' : τ → δ → τ} {R : σ → τ → Prop} {f : ε → δ}
    {P : σ → ε → Prop} {P' : τ → δ → Prop}
    (hstep : ∀ s t e, R s t → R (step s e) (step' t (f e)))
    (hiff : ∀ s t e, R s t → (P s e ↔ P' t (f e))) {state : σ} {state' : τ}
    (hinit : R state state') {events : List ε} :
    Along step P state events ↔ Along step' P' state' (events.map f) := by
  induction events generalizing state state' with
  | nil => simp
  | cons event events ih =>
      rw [List.map_cons, along_cons, along_cons, hiff state state' event hinit,
        ih (hstep state state' event hinit)]

/-- Simulation between two machines that take the same events. -/
theorem run_related_same {step : σ → ε → σ} {step' : τ → ε → τ} {R : σ → τ → Prop} {Q : ε → Prop}
    (hstep : ∀ s t e, R s t → Q e → R (step s e) (step' t e)) {state : σ} {state' : τ}
    (hinit : R state state') {events : List ε} (hevents : ∀ e ∈ events, Q e) :
    R (run step state events) (run step' state' events) := by
  induction events generalizing state state' with
  | nil => exact hinit
  | cons event events ih =>
      obtain ⟨hevent, hrest⟩ := List.forall_mem_cons.mp hevents
      exact ih (hstep state state' event hinit hevent) hrest

/-- **Projection.** Let `Same` compare two states by what one observer sees of them. If an event that
does not concern the observer changes nothing it sees, and one that does changes what it sees in a
way that depends on nothing else, then the run and the run of the events that concern it look the
same. -/
theorem run_filter_same {step : σ → ε → σ} {Inv : σ → Prop} {Same : σ → σ → Prop}
    {concerns : ε → Bool} {Q : ε → Prop}
    (hinv : ∀ s e, Inv s → Q e → Inv (step s e))
    (hskip : ∀ s t e, Inv s → Inv t → Q e → concerns e = false → Same s t → Same (step s e) t)
    (hlocal : ∀ s t e, Inv s → Inv t → Q e → concerns e = true → Same s t →
      Same (step s e) (step t e))
    {events : List ε} (hevents : ∀ e ∈ events, Q e) :
    ∀ {s t : σ}, Inv s → Inv t → Same s t →
      Same (run step s events) (run step t (events.filter concerns)) := by
  induction events with
  | nil => exact fun _ _ hsame => hsame
  | cons event events ih =>
      intro s t hs ht hsame
      obtain ⟨hevent, hrest⟩ := List.forall_mem_cons.mp hevents
      cases hconcerns : concerns event with
      | false =>
          rw [List.filter_cons_of_neg (by simp [hconcerns])]
          exact ih hrest (hinv s event hs hevent) ht (hskip s t event hs ht hevent hconcerns hsame)
      | true =>
          rw [List.filter_cons_of_pos hconcerns]
          exact ih hrest (hinv s event hs hevent) (hinv t event ht hevent)
            (hlocal s t event hs ht hevent hconcerns hsame)

end StepMachine
