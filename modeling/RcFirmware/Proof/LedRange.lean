import RcFirmware.Pca9632

/-!
# Calls for an LED the chip does not have

The chip drives four LEDs and no operation checks the LED it is given, so a call is turned away only
by what it checks besides, or by the bus.
-/

namespace RcFirmware.Pca9632

open RegisterFile

section

variable (lslPast : BitVec 32 → BitVec 32 → BitVec 32)

/-- Whatever is on the chip, the call returns an error and leaves its nine registers as they are. -/
def Call.Rejected (data : LedData) (call : Call) : Prop :=
  ∀ regs, ∃ returned, exec lslPast ⟨data, regs⟩ call = .ok returned ∧ returned.rc < 0
    ∧ ∀ reg ≤ ledout, returned.dev.regs reg = regs reg

/-- Whatever is on the chip, the registers a call for a brightness writes are the PWM registers. -/
def Call.KeepsToPwm (data : LedData) (call : Call) : Prop :=
  ∀ regs returned brightness, exec lslPast ⟨data, regs⟩ call = .ok returned →
    call.op = .setBrightness brightness →
    ∀ reg value, .write reg value ∈ returned.taken → pwmBase ≤ reg ∧ reg ≤ pwmBase + 3

/-- The bus fails before the call has changed a register. A brightness write may still have gone to
an address where the chip has none. -/
def Call.FailsBeforeChange (call : Call) : Prop :=
  match call.op with
  | .on | .off | .blink _ _ => call.ok 0 = false
  | .setBrightness _ =>
      call.ok 0 = false
        ∨ call.ok 1 = false ∧ 7 ≤ call.led.toNat % 256 ∧ call.led.toNat % 256 < 254

theorem makeAccesses_rc_neg_iff {dev : Device} {ok : Nat → Bool} {accesses : List ChipAccess} :
    (dev.makeAccesses ok accesses).rc < 0 ↔ taken ok accesses ≠ accesses := by
  rw [Ne, ← completed_iff, Device.makeAccesses]
  cases completed ok accesses <;> simp [eio]

theorem accesses_ne_nil (data : LedData) (call : Call) : call.accesses lslPast data ≠ [] := by
  obtain ⟨led, op, ok⟩ := call
  cases op <;> simp [Call.accesses]

theorem rejected_of_refused {data : LedData} {call : Call} (hrefused : call.Refused data) :
    call.Rejected lslPast data := fun regs =>
  ⟨_, exec_of_refused lslPast ⟨data, regs⟩ hrefused, show -einval < 0 by decide, fun _ _ => rfl⟩

theorem rejected_iff_of_accepted {data : LedData} {call : Call} (hrefused : ¬ call.Refused data)
    (hzero : ¬ call.ZeroDivisor data) :
    call.Rejected lslPast data ↔
      taken call.ok (call.accesses lslPast data) ≠ call.accesses lslPast data
        ∧ ∀ regs, ∀ reg ≤ ledout,
            applyAll regs (taken call.ok (call.accesses lslPast data)) reg = regs reg := by
  have hexec := fun regs => exec_of_accepted lslPast ⟨data, regs⟩ hrefused hzero
  constructor
  · intro hrejected
    refine ⟨?_, fun regs => ?_⟩
    · obtain ⟨returned, hreturned, hrc, -⟩ := hrejected fun _ => 0
      cases (hexec fun _ => 0).symm.trans hreturned
      exact makeAccesses_rc_neg_iff.mp hrc
    · obtain ⟨returned, hreturned, -, hregs⟩ := hrejected regs
      cases (hexec regs).symm.trans hreturned
      exact hregs
  · rintro ⟨hfails, hregs⟩ regs
    exact ⟨_, hexec regs, makeAccesses_rc_neg_iff.mpr hfails, hregs regs⟩

theorem not_unchanged_of_write {ok : Nat → Bool} {reg : BitVec 8} (value : BitVec 8)
    {rest : List ChipAccess} (hreg : reg ≤ ledout) (hrest : ∀ access ∈ rest, access.reg ≠ reg) :
    ¬ ∀ regs : Registers, ∀ other ≤ ledout,
      applyAll regs (.write reg value :: taken ok rest) other = regs other := by
  intro hunchanged
  have hwritten : applyAll (fun _ => ~~~value) (.write reg value :: taken ok rest) reg = value :=
    (applyAll_of_reg_ne fun access haccess => hrest access (taken_isPrefix.subset haccess)).trans
      (apply_write_self reg value)
  have hne : ∀ byte : BitVec 8, byte ≠ ~~~byte := by decide
  exact hne value (hwritten.symm.trans (hunchanged _ reg hreg))

theorem unchanged_write_iff (ok : Nat → Bool) (reg value : BitVec 8) :
    (∀ regs : Registers, ∀ other ≤ ledout,
      applyAll regs (.write reg value :: taken ok []) other = regs other) ↔ ¬ reg ≤ ledout := by
  refine ⟨fun hunchanged hreg => ?_, fun hreg regs other hother => ?_⟩
  · exact not_unchanged_of_write value hreg (List.forall_mem_nil _) hunchanged
  · refine applyAll_of_reg_ne fun access haccess => ?_
    rw [List.mem_singleton.mp haccess]
    rintro rfl
    exact hreg hother

theorem pwmReg_toNat (led : BitVec 32) :
    ((pwmBase.setWidth 32 + led).setWidth 8).toNat = (led.toNat + 2) % 256 := by
  rw [BitVec.toNat_setWidth, BitVec.toNat_add, show (pwmBase.setWidth 32).toNat = 2 from rfl]
  omega

/-! ### A call that gets its first access through -/

/-- Only a brightness write to an address where the chip has no register changes nothing. -/
theorem setBrightness_unchanged_iff (data : LedData) (led : BitVec 32) (value : BitVec 8)
    {ok : Nat → Bool} (hfirst : ok 0 = true) (hsecond : ok 1 = false) :
    (∀ regs : Registers, ∀ reg ≤ ledout,
      applyAll regs (taken ok (Call.accesses lslPast data ⟨led, .setBrightness value, ok⟩)) reg =
        regs reg)
      ↔ 7 ≤ led.toNat % 256 ∧ led.toNat % 256 < 254 := by
  have htaken : taken ok (Call.accesses lslPast data ⟨led, .setBrightness value, ok⟩) =
      .write ((pwmBase.setWidth 32 + led).setWidth 8)
        ((value.setWidth 32 * 255 / data.maxBrightness.setWidth 32).setWidth 8) :: taken ok [] := by
    simp [Call.accesses, taken, hfirst, hsecond]
  rw [htaken, unchanged_write_iff, BitVec.le_def, pwmReg_toNat, ledout_toNat]
  omega

theorem blink_not_unchanged (data : LedData) (led delayOn delayOff : BitVec 32) {ok : Nat → Bool}
    (hfirst : ok 0 = true) :
    ¬ ∀ regs : Registers, ∀ reg ≤ ledout,
      applyAll regs (taken ok (Call.accesses lslPast data ⟨led, .blink delayOn delayOff, ok⟩)) reg =
        regs reg := by
  intro hunchanged
  simp only [Call.accesses, taken_cons_of_ok hfirst] at hunchanged
  refine not_unchanged_of_write _ (by decide) (fun access haccess => ?_) hunchanged
  simp only [List.mem_cons, List.not_mem_nil, or_false] at haccess
  obtain rfl | rfl | rfl := haccess <;> simp [Access.reg, grppwm, grpfreq, mode2, ledout]

theorem rejected_iff_failsBeforeChange {data : LedData} {call : Call}
    (hrefused : ¬ call.Refused data) (hzero : ¬ call.ZeroDivisor data) :
    call.Rejected lslPast data ↔ call.FailsBeforeChange := by
  rw [rejected_iff_of_accepted lslPast hrefused hzero]
  obtain ⟨led, op, ok⟩ := call
  cases hfirst : ok 0 with
  | false =>
      have htaken := (taken_eq_nil_iff (accesses_ne_nil lslPast data ⟨led, op, ok⟩)).mpr hfirst
      have hfails : Call.FailsBeforeChange ⟨led, op, ok⟩ := by
        cases op <;> simp [Call.FailsBeforeChange, hfirst]
      refine iff_of_true ?_ hfails
      rw [htaken]
      exact ⟨(accesses_ne_nil lslPast data _).symm, fun _ _ _ => rfl⟩
  | true =>
      cases op with
      | on => simp [Call.accesses, Call.FailsBeforeChange, taken, hfirst]
      | off => simp [Call.accesses, Call.FailsBeforeChange, taken, hfirst]
      | setBrightness value =>
          cases hsecond : ok 1 with
          | true => simp [Call.accesses, Call.FailsBeforeChange, taken, hfirst, hsecond]
          | false =>
              rw [setBrightness_unchanged_iff lslPast data led value hfirst hsecond]
              simp [Call.accesses, Call.FailsBeforeChange, taken, hfirst, hsecond]
      | blink delayOn delayOff =>
          refine iff_of_false (fun hrejected => ?_) (by simp [Call.FailsBeforeChange, hfirst])
          exact blink_not_unchanged lslPast data led delayOn delayOff hfirst hrejected.2

/-! ### Every call -/

theorem rejected_iff (data : LedData) (call : Call) :
    call.Rejected lslPast data
      ↔ call.Refused data ∨ ¬ call.ZeroDivisor data ∧ call.FailsBeforeChange := by
  by_cases hrefused : call.Refused data
  · exact iff_of_true (rejected_of_refused lslPast hrefused) (.inl hrefused)
  rw [or_iff_right hrefused]
  by_cases hzero : call.ZeroDivisor data
  · refine iff_of_false (fun hrejected => ?_) (fun h => h.1 hzero)
    obtain ⟨returned, hreturned, -⟩ := hrejected fun _ => 0
    cases (exec_of_zeroDivisor lslPast ⟨data, fun _ => 0⟩ hrefused hzero).symm.trans hreturned
  · rw [rejected_iff_failsBeforeChange lslPast hrefused hzero, and_iff_right hzero]

theorem pwmReg_between_iff (led : BitVec 32) :
    (pwmBase ≤ (pwmBase.setWidth 32 + led).setWidth 8
        ∧ (pwmBase.setWidth 32 + led).setWidth 8 ≤ pwmBase + 3)
      ↔ led.toNat % 256 < 4 := by
  have hlast : (pwmBase + 3).toNat = 5 := rfl
  rw [BitVec.le_def, BitVec.le_def, pwmReg_toNat, pwmBase_toNat, hlast]
  omega

/-- The only register a brightness is written to, if the bus takes the write. -/
theorem write_mem_setBrightness_iff (data : LedData) (led : BitVec 32) (brightness : BitVec 8)
    (ok : Nat → Bool) (reg value : BitVec 8) :
    .write reg value ∈ taken ok (Call.accesses lslPast data ⟨led, .setBrightness brightness, ok⟩)
      ↔ ok 0 = true ∧ reg = (pwmBase.setWidth 32 + led).setWidth 8
        ∧ value = (brightness.setWidth 32 * 255 / data.maxBrightness.setWidth 32).setWidth 8 := by
  cases hfirst : ok 0 with
  | false => simp [Call.accesses, taken, hfirst]
  | true => cases hsecond : ok 1 <;> simp [Call.accesses, taken, hfirst, hsecond]

theorem keepsToPwm_iff (data : LedData) (call : Call) :
    call.KeepsToPwm lslPast data ↔
      ∀ brightness, call.op = .setBrightness brightness →
        call.Refused data ∨ call.ZeroDivisor data ∨ call.ok 0 = false
          ∨ call.led.toNat % 256 < 4 := by
  obtain ⟨led, op, ok⟩ := call
  constructor
  · rintro hkeeps brightness rfl
    by_contra! hnot
    obtain ⟨hrefused, hzero, hfirst, hled⟩ := hnot
    have hwritten := (write_mem_setBrightness_iff lslPast data led brightness ok _ _).mpr
      ⟨Bool.of_not_eq_false hfirst, rfl, rfl⟩
    have hbetween := hkeeps (fun _ => 0) _ brightness
      (exec_of_accepted lslPast _ hrefused hzero) rfl _ _ hwritten
    exact hled.not_gt ((pwmReg_between_iff led).mp hbetween)
  · rintro hcondition regs returned brightness hreturned rfl reg value hwrite
    have hstops := hcondition brightness rfl
    by_cases hrefused : Call.Refused data ⟨led, .setBrightness brightness, ok⟩
    · cases (exec_of_refused lslPast ⟨data, regs⟩ hrefused).symm.trans hreturned
      exact absurd hwrite List.not_mem_nil
    by_cases hzero : Call.ZeroDivisor data ⟨led, .setBrightness brightness, ok⟩
    · cases (exec_of_zeroDivisor lslPast ⟨data, regs⟩ hrefused hzero).symm.trans hreturned
    cases (exec_of_accepted lslPast ⟨data, regs⟩ hrefused hzero).symm.trans hreturned
    obtain ⟨hfirst, hreg, -⟩ :=
      (write_mem_setBrightness_iff lslPast data led brightness ok reg value).mp hwrite
    obtain hfailed | hled := (hstops.resolve_left hrefused).resolve_left hzero
    · exact absurd (hfailed.symm.trans hfirst) Bool.false_ne_true
    · rw [hreg]
      exact (pwmReg_between_iff led).mpr hled

/-- **LEDs the chip does not have.** A call for an LED past the fourth is rejected, and a brightness
written to a PWM register, exactly under these conditions on the call and the limits: for an LED past
the fourth the call's own range check or the bus turns it away in time, and for a brightness that is
written the LED is one of the first four modulo 256. -/
theorem ledChecked_iff (data : LedData) (call : Call) :
    ((4 ≤ call.led → call.Rejected lslPast data) ∧ call.KeepsToPwm lslPast data)
      ↔ (4 ≤ call.led → call.Refused data ∨ ¬ call.ZeroDivisor data ∧ call.FailsBeforeChange)
        ∧ ∀ brightness, call.op = .setBrightness brightness →
            call.Refused data ∨ call.ZeroDivisor data ∨ call.ok 0 = false
              ∨ call.led.toNat % 256 < 4 := by
  rw [rejected_iff, keepsToPwm_iff]

end

/-- Brightness 50 for LED 4: the call returns 0 and has written the group PWM register. -/
theorem setBrightness_led4_unchecked :
    ¬ Call.Rejected (fun word _ => word) .limits ⟨4, .setBrightness 50, fun _ => true⟩
      ∧ ¬ Call.KeepsToPwm (fun word _ => word) .limits ⟨4, .setBrightness 50, fun _ => true⟩ := by
  rw [rejected_iff, keepsToPwm_iff]
  constructor
  · simp [Call.Refused, Call.FailsBeforeChange, LedData.limits]
  · intro hcondition
    simpa [Call.Refused, Call.ZeroDivisor, LedData.limits] using hcondition 50 rfl

end RcFirmware.Pca9632
