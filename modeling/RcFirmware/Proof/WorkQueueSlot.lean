import RcFirmware.WorkQueue

/-!
# When the PID slot runs

The slot is compared against a sum of counters that wrap. Up to the wrap `wq_counter` stays one step
ahead of `last_run_pid` and every expiry runs the slot. At the wrap `wq_counter` falls behind, by
nearly its whole range, and the slot waits until it has counted all the way up again.
-/

namespace RcFirmware.WorkQueue

def State.ServesPid (state : State) : Prop :=
  state.RunsPid ∧ (wqTimingHandler state).lastRunPid = state.wqCounter

theorem servesPid_iff_runsPid (state : State) : state.ServesPid ↔ state.RunsPid := by
  refine ⟨And.left, fun hruns => ⟨hruns, ?_⟩⟩
  rw [wqTimingHandler_of_runsPid hruns]

theorem runsPid_ofNat_of_lt {n : Nat} (hwrap : 100 * (n + 1) < 2 ^ 32) :
    State.RunsPid ⟨BitVec.ofNat 32 (100 * (n + 1)), BitVec.ofNat 32 (100 * n)⟩ := by
  have hlast : 100 * n < 2 ^ 32 := by omega
  have hnext : 100 * n + 1 < 2 ^ 32 := by omega
  rw [runsPid_iff, BitVec.toNat_ofNat, BitVec.toNat_ofNat, Nat.mod_eq_of_lt hlast,
    Nat.mod_eq_of_lt hnext, Nat.mod_eq_of_lt hwrap]
  omega

theorem afterExpiries_of_lt {n : Nat} (hwrap : 100 * n < 2 ^ 32) :
    afterExpiries (n + 1) = ⟨BitVec.ofNat 32 (100 * (n + 1)), BitVec.ofNat 32 (100 * n)⟩ := by
  induction n with
  | zero => decide
  | succ n ih =>
      rw [afterExpiries_succ, ih (by omega), wqTimingHandler_of_runsPid (runsPid_ofNat_of_lt hwrap),
        ofNat_add_wqTimeMs, Nat.mul_succ 100 (n + 1)]

theorem runsPid_of_lt {n : Nat} (hwrap : 100 * (n + 1) < 2 ^ 32) :
    (afterExpiries (n + 1)).RunsPid := by
  rw [afterExpiries_of_lt (by omega)]
  exact runsPid_ofNat_of_lt hwrap

theorem not_runsPid_ofNat_past_wrap {n : Nat} (hn : n < 42949672) :
    ¬ State.RunsPid ⟨BitVec.ofNat 32 (100 * n + 4), BitVec.ofNat 32 4294967200⟩ := by
  have hcounter : 100 * n + 4 < 2 ^ 32 := by omega
  rw [runsPid_iff, BitVec.toNat_ofNat, BitVec.toNat_ofNat, Nat.mod_eq_of_lt hcounter]
  omega

theorem afterExpiries_past_wrap {n : Nat} (hn : n ≤ 42949672) :
    afterExpiries (42949673 + n) =
      ⟨BitVec.ofNat 32 (100 * n + 4), BitVec.ofNat 32 4294967200⟩ := by
  induction n with
  | zero => exact afterExpiries_of_lt (by decide)
  | succ n ih =>
      rw [← Nat.add_assoc, afterExpiries_succ, ih (by omega),
        wqTimingHandler_of_not_runsPid (not_runsPid_ofNat_past_wrap (by omega)),
        ofNat_add_wqTimeMs, Nat.mul_succ, Nat.add_right_comm]

/-- **Starvation.** The 42949672 expiries that follow the wrap, some fifty days of them, run the slot
not once. -/
theorem not_runsPid_past_wrap {n : Nat} (hn : n < 42949672) :
    ¬ (afterExpiries (42949673 + n)).RunsPid := by
  rw [afterExpiries_past_wrap (by omega)]
  exact not_runsPid_ofNat_past_wrap hn

/-- **The PID slot.** In a run of `n` expiries every one after the first serves the slot exactly when
the counter has not wrapped by the last of them. -/
theorem servesPid_iff_before_wrap (n : Nat) :
    (∀ k, 1 ≤ k → k < n → (afterExpiries k).ServesPid) ↔ n ≤ 42949673 := by
  simp only [servesPid_iff_runsPid]
  constructor
  · intro hserves
    by_contra hlate
    exact not_runsPid_past_wrap (n := 0) (by decide) (hserves 42949673 (by decide) (by omega))
  · intro hn k hk hkn
    obtain ⟨j, rfl⟩ := Nat.exists_eq_add_of_le' hk
    exact runsPid_of_lt (by omega)

theorem wrap_starves_pid :
    ¬ ∀ n k, 1 ≤ k → k < n → (afterExpiries k).ServesPid := fun hserves =>
  not_runsPid_past_wrap (n := 0) (by decide)
    (hserves 42949674 42949673 (by decide) (by decide)).1

end RcFirmware.WorkQueue
