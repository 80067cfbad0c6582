import Mathlib.Data.BitVec
import Mathlib.Logic.Function.Iterate

/-!
# The work-queue timer

`wq_timer` expires every `WQ_TIME_MS`. Its handler adds that much to `wq_counter`, and gives the PID
slot a run when `wq_counter` has reached `last_run_pid + PID_INTERVAL`. Both counters are 32 bits.
-/

namespace RcFirmware.WorkQueue

def wqTimeMs : BitVec 32 := 100

def pidInterval : BitVec 32 := 1

structure State where
  wqCounter : BitVec 32
  lastRunPid : BitVec 32
  deriving DecidableEq, Repr

def boot : State := ⟨0, 0⟩

def State.RunsPid (state : State) : Prop := state.wqCounter ≥ state.lastRunPid + pidInterval

instance (state : State) : Decidable state.RunsPid := inferInstanceAs (Decidable (_ ≥ _))

def wqTimingHandler (state : State) : State :=
  let state := if state.RunsPid then { state with lastRunPid := state.wqCounter } else state
  { state with wqCounter := state.wqCounter + wqTimeMs }

def afterExpiries (n : Nat) : State := wqTimingHandler^[n] boot

theorem afterExpiries_succ (n : Nat) :
    afterExpiries (n + 1) = wqTimingHandler (afterExpiries n) :=
  Function.iterate_succ_apply' wqTimingHandler n boot

theorem wqTimingHandler_of_runsPid {state : State} (hruns : state.RunsPid) :
    wqTimingHandler state = ⟨state.wqCounter + wqTimeMs, state.wqCounter⟩ := by
  rw [wqTimingHandler, if_pos hruns]

theorem wqTimingHandler_of_not_runsPid {state : State} (hruns : ¬ state.RunsPid) :
    wqTimingHandler state = ⟨state.wqCounter + wqTimeMs, state.lastRunPid⟩ := by
  rw [wqTimingHandler, if_neg hruns]

theorem runsPid_iff (state : State) :
    state.RunsPid ↔ (state.lastRunPid.toNat + 1) % 2 ^ 32 ≤ state.wqCounter.toNat := Iff.rfl

theorem ofNat_add_wqTimeMs (n : Nat) :
    BitVec.ofNat 32 n + wqTimeMs = BitVec.ofNat 32 (n + 100) :=
  (BitVec.ofNat_add n 100).symm

end RcFirmware.WorkQueue
