import RcFirmware.Pca9632

/-!
# When the LED driver divides by zero

The divisors are guarded only through the limits. The limits of an initialised driver refuse every
zero divisor, and no call changes them. The zeroed limits an unsuccessful `pca9632_led_init` leaves
behind refuse everything but zero, which is the one argument that divides by zero.
-/

namespace RcFirmware.Pca9632

open RegisterFile StepMachine

/-- A brightness of zero, or a period that is zero or wraps to it. -/
def Call.AsksZero (call : Call) : Prop :=
  match call.op with
  | .on | .off => False
  | .setBrightness value => value = 0
  | .blink delayOn delayOff => delayOn + delayOff = 0

theorem LedData.limits_refuse {call : Call} (hzero : call.ZeroDivisor .limits) :
    call.Refused .limits := by
  obtain ⟨led, op, ok⟩ := call
  cases op with
  | on => exact hzero
  | off => exact hzero
  | setBrightness value => exact absurd (show (100 : BitVec 16) = 0 from hzero) (by decide)
  | blink delayOn delayOff =>
      have hperiod : delayOn + delayOff = 0 := hzero
      refine Or.inl (show delayOn + delayOff < 41 from ?_)
      rw [hperiod]
      decide

theorem LedData.zeroed_refuse_iff (call : Call) :
    (call.Refused .zeroed ∨ ¬ call.ZeroDivisor .zeroed) ↔ ¬ call.AsksZero := by
  obtain ⟨led, op, ok⟩ := call
  cases op with
  | on => simp [Call.ZeroDivisor, Call.AsksZero]
  | off => simp [Call.ZeroDivisor, Call.AsksZero]
  | setBrightness value =>
      have hwiden : value.setWidth 16 = 0#16 ↔ value = 0#8 :=
        ⟨fun h => by simpa using congrArg (BitVec.setWidth 8) h, fun h => by rw [h]; rfl⟩
      simp [Call.Refused, Call.ZeroDivisor, Call.AsksZero, zeroed, BitVec.pos_iff_ne_zero, hwiden]
  | blink delayOn delayOff =>
      simp [Call.Refused, Call.ZeroDivisor, Call.AsksZero, zeroed, BitVec.pos_iff_ne_zero]

/-! ### Runs -/

section Runs

variable (lslPast : BitVec 32 → BitVec 32 → BitVec 32)

theorem step_eq_ok (dev : Device) {call : Call}
    (hcall : call.Refused dev.data ∨ ¬ call.ZeroDivisor dev.data) :
    ∃ regs, step lslPast (.ok dev) call = .ok ⟨dev.data, regs⟩ := by
  by_cases hrefused : call.Refused dev.data
  · exact ⟨dev.regs, step_of_refused lslPast hrefused⟩
  · exact ⟨_, step_of_accepted lslPast hrefused (hcall.resolve_left hrefused)⟩

theorem run_error (fault : Fault) (calls : List Call) :
    run (step lslPast) (.error fault) calls = .error fault := by
  induction calls with
  | nil => rfl
  | cons call calls ih => exact ih

/-- A run ends without a fault exactly when its limits refuse every zero divisor it is asked for. -/
theorem run_ok_iff (data : LedData) (regs : Registers) (calls : List Call) :
    (∃ final, run (step lslPast) (.ok ⟨data, regs⟩) calls = .ok final)
      ↔ ∀ call ∈ calls, call.Refused data ∨ ¬ call.ZeroDivisor data := by
  induction calls generalizing regs with
  | nil => simp
  | cons call calls ih =>
      rw [List.forall_mem_cons, run_cons]
      by_cases hcall : call.Refused data ∨ ¬ call.ZeroDivisor data
      · obtain ⟨regs', hstep⟩ := step_eq_ok lslPast ⟨data, regs⟩ hcall
        rw [hstep, ih]
        exact (and_iff_right hcall).symm
      · obtain ⟨hrefused, hzero⟩ := not_or.mp hcall
        rw [step_of_zeroDivisor lslPast hrefused (not_not.mp hzero)]
        simp [hcall, run_error]

end Runs

/-- **Division by zero.** From zeroed driver data and whatever is on the chip, a run of calls after
`pca9632_led_init` never divides by zero exactly when the initialisation got through or no call asks
for zero. -/
theorem faultFree_iff_initialised_or_no_zero (lslPast : BitVec 32 → BitVec 32 → BitVec 32)
    (busReady : Bool) (ok : Nat → Bool) (regs : Registers) (calls : List Call) :
    (∃ final, run (step lslPast) (.ok (pca9632LedInit busReady ok ⟨.zeroed, regs⟩).dev) calls
      = .ok final)
      ↔ (busReady = true ∧ ok 0 = true ∧ ok 1 = true) ∨ ∀ call ∈ calls, ¬ call.AsksZero := by
  rw [run_ok_iff]
  by_cases hinit : busReady = true ∧ ok 0 = true ∧ ok 1 = true
  · obtain ⟨rfl, hfirst, hsecond⟩ := id hinit
    rw [pca9632LedInit_of_ok hfirst hsecond]
    refine iff_of_true (fun call _ => ?_) (.inl hinit)
    exact or_iff_not_imp_right.mpr fun hzero => LedData.limits_refuse (not_not.mp hzero)
  · rw [(pca9632LedInit_of_failed hinit _).2, or_iff_right hinit]
    exact forall₂_congr fun call _ => LedData.zeroed_refuse_iff call

/-- The bus is not ready at start-up, and LED 0 is then set to brightness 0. -/
theorem notReady_setBrightness_faults :
    ¬ ∃ final, run (step fun word _ => word)
        (.ok (pca9632LedInit false (fun _ => true) ⟨.zeroed, fun _ => 0⟩).dev)
        [⟨0, .setBrightness 0, fun _ => true⟩] = .ok final := by
  rw [run_ok_iff]
  intro hcalls
  exact (LedData.zeroed_refuse_iff _).mp (hcalls _ (List.mem_singleton_self _)) rfl

end RcFirmware.Pca9632
