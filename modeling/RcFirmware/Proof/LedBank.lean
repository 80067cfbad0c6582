import RcFirmware.Proof.LedIsolation

/-!
# The chip as a bank of four LEDs

A call for an LED is through once it has selected the LED's source, and that access comes last. So an
LED is driven by what the last call for it that returned 0 asked for, however many calls failed after
it. A failed call is not without effect: it may have left a brightness or the timing of the blinking
LEDs behind. Each of these holds what the last call that got so far put there.
-/

namespace RcFirmware.Pca9632

open RegisterFile StepMachine

/-- What drives an LED once a call for it is through. -/
def Op.source : Op → BitVec 32
  | .on => ledOn
  | .off => ledOff
  | .setBrightness _ => ledPwm
  | .blink _ _ => ledGrpPwm

def Op.accessCount : Op → Nat
  | .on | .off => 1
  | .setBrightness _ => 2
  | .blink _ _ => 4

instance (data : LedData) (call : Call) : Decidable (call.Refused data) :=
  match call with
  | ⟨_, .on, _⟩ | ⟨_, .off, _⟩ => .isFalse not_false
  | ⟨_, .setBrightness _, _⟩ | ⟨_, .blink _ _, _⟩ => inferInstanceAs (Decidable (_ ∨ _))

/-- An initialised driver accepts the call and the bus takes every access of it. -/
def Call.Succeeds (call : Call) : Prop :=
  ¬ call.Refused .limits ∧ ∀ n < call.op.accessCount, call.ok n = true

instance (call : Call) : Decidable call.Succeeds := inferInstanceAs (Decidable (_ ∧ _))

/-- The source a call leaves an LED with. -/
def Call.source (led : BitVec 32) (call : Call) : Option (BitVec 2) :=
  if call.led = led ∧ call.Succeeds then some (call.op.source.setWidth 2) else none

/-- The brightness a call leaves an LED with, which its first access writes. -/
def Call.level (led : BitVec 32) (call : Call) : Option (BitVec 8) :=
  match call.op with
  | .on | .off | .blink _ _ => none
  | .setBrightness value =>
      if call.led = led ∧ ¬ call.Refused .limits ∧ call.ok 0 = true then
        some (.ofNat 8 (value.toNat * 255 / 100))
      else none

/-- The duty cycle a call leaves the blinking LEDs with. -/
def Call.duty (call : Call) : Option (BitVec 8) :=
  match call.op with
  | .on | .off | .setBrightness _ => none
  | .blink delayOn delayOff =>
      if ¬ call.Refused .limits ∧ call.ok 0 = true then
        some ((delayOn * 256 / (delayOn + delayOff)).setWidth 8)
      else none

/-- The frequency a call leaves the blinking LEDs with. -/
def Call.frequency (call : Call) : Option (BitVec 8) :=
  match call.op with
  | .on | .off | .setBrightness _ => none
  | .blink delayOn delayOff =>
      if ¬ call.Refused .limits ∧ call.ok 0 = true ∧ call.ok 1 = true then
        some (((delayOn + delayOff) * 24 / 1000 - 1).setWidth 8)
      else none

section

variable (lslPast : BitVec 32 → BitVec 32 → BitVec 32)

theorem length_accesses (call : Call) (data : LedData) :
    (call.accesses lslPast data).length = call.op.accessCount := by
  obtain ⟨led, op, ok⟩ := call
  cases op <;> rfl

/-- The accesses an initialised chip takes from a call. -/
def Call.carried (call : Call) : List ChipAccess :=
  if call.Refused .limits then [] else taken call.ok (call.accesses lslPast .limits)

def carry (regs : Registers) (call : Call) : Registers := applyAll regs (call.carried lslPast)

theorem step_eq_carry (regs : Registers) (call : Call) :
    step lslPast (.ok ⟨.limits, regs⟩) call = .ok ⟨.limits, carry lslPast regs call⟩ := by
  rw [carry, Call.carried]
  split_ifs with hrefused
  · apply step_of_refused
    exact hrefused
  · apply step_of_accepted
    · exact hrefused
    · exact mt LedData.limits_refuse hrefused

theorem run_eq_carry (regs : Registers) (calls : List Call) :
    run (step lslPast) (.ok ⟨.limits, regs⟩) calls =
      .ok ⟨.limits, run (carry lslPast) regs calls⟩ := by
  induction calls generalizing regs with
  | nil => rfl
  | cons call calls ih => rw [run_cons, step_eq_carry, ih, run_cons]

/-- What a call to an initialised driver returns. -/
theorem exec_rc_eq_zero_iff (regs : Registers) (call : Call) :
    ∃ returned, exec lslPast ⟨.limits, regs⟩ call = .ok returned
      ∧ (returned.rc = 0 ↔ call.Succeeds) := by
  by_cases hrefused : call.Refused .limits
  · refine ⟨_, exec_of_refused lslPast ⟨.limits, regs⟩ hrefused, ?_⟩
    apply iff_of_false
    · simp [Device.refuse, einval]
    · intro hsucceeds
      exact hsucceeds.1 hrefused
  · refine ⟨_, exec_of_accepted lslPast ⟨.limits, regs⟩ hrefused
      (mt LedData.limits_refuse hrefused), ?_⟩
    rw [makeAccesses_rc_eq_zero_iff, taken_eq_self_iff, length_accesses]
    exact (and_iff_right hrefused).symm

/-! ### The source of an LED -/

def selectSource (led source : BitVec 32) : ChipAccess :=
  .update ledout ((lsl lslPast mask (led <<< 1)).setWidth 8)
    ((lsl lslPast source (led <<< 1)).setWidth 8)

theorem selectSource_value_getLsbD {led : BitVec 32} (hled : led < 4) (source : BitVec 32)
    {bit : Nat} (hbit : bit < 2) :
    ((lsl lslPast source (led <<< 1)).setWidth 8).getLsbD (2 * led.toNat + bit) =
      source.getLsbD bit := by
  have hlt : led.toNat < 4 := hled
  have hamount : (led <<< 1).toNat = 2 * led.toNat := by
    rw [BitVec.toNat_shiftLeft, Nat.shiftLeft_eq]
    omega
  rw [lsl_of_lt lslPast hled, BitVec.shiftLeft_eq', hamount, BitVec.getLsbD_setWidth,
    BitVec.getLsbD_shiftLeft, Nat.add_sub_cancel_left, decide_eq_true (by omega),
    decide_eq_true (by omega), decide_eq_false (by omega)]
  simp

theorem ledoutField_selectSource {led other : BitVec 32} (hled : led < 4) (hother : other < 4)
    (source : BitVec 32) (regs : Registers) :
    ledoutField ((selectSource lslPast other source).apply regs) led =
      if other = led then source.setWidth 2 else ledoutField regs led := by
  apply BitVec.eq_of_getLsbD_eq
  intro bit hbit
  have htouches : (selectSource lslPast other source).Touches ledout (2 * led.toNat + bit)
      ↔ other = led := by
    have hfield : (2 * led.toNat + bit) / 2 = other.toNat ↔ other = led := by
      rw [← BitVec.toNat_inj]
      omega
    rw [Access.Touches, selectSource, Access.mask, ledoutMask_getLsbD lslPast hother,
      decide_eq_true_eq, hfield]
    exact and_iff_right rfl
  rw [ledoutField, BitVec.getLsbD_extractLsb', apply_getLsbD]
  by_cases heq : other = led
  · rw [if_pos (htouches.mpr heq), if_pos heq, selectSource, Access.value, heq,
      selectSource_value_getLsbD lslPast hled source hbit, BitVec.getLsbD_setWidth]
  · rw [if_neg (mt htouches.mp heq), if_neg heq, ledoutField, BitVec.getLsbD_extractLsb']

theorem lsl_ledOff {led : BitVec 32} (hled : led < 4) : lsl lslPast ledOff (led <<< 1) = ledOff := by
  rw [lsl_of_lt lslPast hled]
  exact BitVec.zero_shiftLeft _

/-- Selecting the source is the last access of a call, and the only one to the select register. -/
theorem accesses_eq_concat {call : Call} (hcall : call.led < 4) (data : LedData) :
    ∃ before, call.accesses lslPast data = before ++ [selectSource lslPast call.led call.op.source]
      ∧ ∀ access ∈ before, access.reg ≠ ledout := by
  obtain ⟨led, op, ok⟩ := call
  cases op with
  | on => exact ⟨[], rfl, List.forall_mem_nil _⟩
  | off =>
      refine ⟨[], ?_, List.forall_mem_nil _⟩
      rw [Call.accesses, selectSource, Op.source, lsl_ledOff lslPast hcall, List.nil_append]
  | setBrightness value =>
      refine ⟨[_], rfl, List.forall_mem_singleton.mpr ?_⟩
      change (pwmBase.setWidth 32 + led).setWidth 8 ≠ ledout
      obtain rfl | rfl | rfl | rfl := led_cases hcall <;> decide
  | blink delayOn delayOff =>
      refine ⟨[_, _, _], rfl, ?_⟩
      simp [Access.reg, grppwm, grpfreq, mode2, ledout]

theorem ledoutField_carry {led : BitVec 32} (hled : led < 4) {call : Call} (hcall : call.led < 4)
    (regs : Registers) :
    ledoutField (carry lslPast regs call) led =
      (call.source led).getD (ledoutField regs led) := by
  obtain ⟨before, haccesses, hbefore⟩ := accesses_eq_concat lslPast hcall .limits
  have hlength := length_accesses lslPast call .limits
  rw [haccesses, List.length_append, List.length_singleton] at hlength
  by_cases hsucceeds : call.Succeeds
  · have htaken : taken call.ok (before ++ [selectSource lslPast call.led call.op.source]) =
        before ++ [selectSource lslPast call.led call.op.source] := by
      rw [taken_eq_self_iff, List.length_append, List.length_singleton, hlength]
      exact hsucceeds.2
    have hsame : ledoutField (applyAll regs before) led = ledoutField regs led := by
      rw [ledoutField, applyAll_of_reg_ne hbefore, ledoutField]
    rw [carry, Call.carried, if_neg hsucceeds.1, haccesses, htaken, applyAll, List.foldl_concat,
      ← applyAll, ledoutField_selectSource lslPast hled hcall, hsame, Call.source]
    by_cases heq : call.led = led
    · rw [if_pos heq, if_pos ⟨heq, hsucceeds⟩, Option.getD_some]
    · rw [if_neg heq, if_neg (fun h => heq h.1), Option.getD_none]
  · have hcarried : ∀ access ∈ call.carried lslPast, access.reg ≠ ledout := by
      intro access haccess
      rw [Call.carried] at haccess
      split_ifs at haccess with hrefused
      · cases haccess
      · rw [haccesses] at haccess
        refine hbefore access (taken_concat_subset (fun hall => hsucceeds ⟨hrefused, ?_⟩) haccess)
        rwa [hlength] at hall
    rw [Call.source, if_neg (fun h => hsucceeds h.2), Option.getD_none, ledoutField, carry,
      applyAll_of_reg_ne hcarried, ledoutField]

/-! ### Brightness and blinking -/

theorem carried_subset (call : Call) : call.carried lslPast ⊆ call.accesses lslPast .limits := by
  rw [Call.carried]
  split_ifs
  · exact List.nil_subset _
  · exact taken_isPrefix.subset

theorem carry_of_reg_ne {call : Call} {reg : BitVec 8}
    (hreg : ∀ access ∈ call.accesses lslPast .limits, access.reg ≠ reg) (regs : Registers) :
    carry lslPast regs call reg = regs reg :=
  applyAll_of_reg_ne fun access haccess => hreg access (carried_subset lslPast call haccess)

theorem carried_of_first {call : Call} {first : ChipAccess} {rest : List ChipAccess}
    (haccesses : call.accesses lslPast .limits = first :: rest)
    (hfirst : ¬ call.Refused .limits ∧ call.ok 0 = true) :
    call.carried lslPast = first :: taken (fun n => call.ok (n + 1)) rest := by
  rw [Call.carried, if_neg hfirst.1, haccesses, taken_cons_of_ok hfirst.2]

theorem carried_of_not_first {call : Call}
    (hfirst : ¬ (¬ call.Refused .limits ∧ call.ok 0 = true)) : call.carried lslPast = [] := by
  rw [Call.carried]
  split_ifs with hrefused
  · rfl
  · have hne : call.accesses lslPast .limits ≠ [] := by
      intro hnil
      have hlength := length_accesses lslPast call .limits
      rw [hnil] at hlength
      cases hop : call.op <;> simp [hop, Op.accessCount] at hlength
    rw [taken_eq_nil_iff hne]
    exact Bool.eq_false_of_not_eq_true fun hok => hfirst ⟨hrefused, hok⟩

theorem brightness_word (value : BitVec 8) :
    (value.setWidth 32 * 255 / LedData.limits.maxBrightness.setWidth 32).setWidth 8 =
      BitVec.ofNat 8 (value.toNat * 255 / 100) := by
  have hvalue := value.isLt
  have hproduct : value.toNat * 255 % 2 ^ 32 = value.toNat * 255 := Nat.mod_eq_of_lt (by omega)
  apply BitVec.eq_of_toNat_eq
  rw [BitVec.toNat_setWidth, BitVec.toNat_udiv, BitVec.toNat_mul,
    BitVec.toNat_setWidth_of_le (by decide), show (255 : BitVec 32).toNat = 255 from rfl, hproduct,
    BitVec.toNat_ofNat]
  rfl

theorem pwmReg_ne {led : BitVec 32} (hled : led < 4) :
    ledout ≠ pwmReg led ∧ grppwm ≠ pwmReg led ∧ grpfreq ≠ pwmReg led ∧ mode2 ≠ pwmReg led := by
  obtain rfl | rfl | rfl | rfl := led_cases hled <;> decide

theorem pwmReg_inj {led other : BitVec 32} (hled : led < 4) (hother : other < 4) :
    pwmReg other = pwmReg led ↔ other = led := by
  rw [← BitVec.toNat_inj, ← BitVec.toNat_inj, pwmReg_toNat_of_lt hled, pwmReg_toNat_of_lt hother]
  omega

theorem pwm_carry {led : BitVec 32} (hled : led < 4) {call : Call} (hcall : call.led < 4)
    (regs : Registers) :
    carry lslPast regs call (pwmReg led) = (call.level led).getD (regs (pwmReg led)) := by
  obtain ⟨hledout, hgrppwm, hgrpfreq, hmode2⟩ := pwmReg_ne hled
  obtain ⟨other, op, ok⟩ := call
  cases op with
  | on | off | blink _ _ =>
      refine carry_of_reg_ne lslPast ?_ regs
      simp [Call.accesses, Access.reg, hledout, hgrppwm, hgrpfreq, hmode2]
  | setBrightness value =>
      let call : Call := ⟨other, .setBrightness value, ok⟩
      have hlevel : call.level led =
          if other = led ∧ ¬ call.Refused .limits ∧ ok 0 = true then
            some (.ofNat 8 (value.toNat * 255 / 100))
          else none := rfl
      by_cases hfirst : ¬ call.Refused .limits ∧ ok 0 = true
      · have hselect : ∀ access ∈ taken (fun n => ok (n + 1)) [selectSource lslPast other ledPwm],
            access.reg ≠ pwmReg led := by
          intro access haccess
          rw [List.mem_singleton.mp (taken_isPrefix.subset haccess)]
          exact hledout
        rw [hlevel, carry, carried_of_first lslPast rfl hfirst, brightnessReg_eq, brightness_word]
        by_cases heq : other = led
        · subst heq
          rw [if_pos ⟨rfl, hfirst⟩, Option.getD_some]
          exact applyAll_write_cons _ hselect
        · rw [if_neg fun h => heq h.1, Option.getD_none]
          refine applyAll_of_reg_ne (List.forall_mem_cons.mpr ⟨?_, hselect⟩)
          exact mt (pwmReg_inj hled hcall).mp heq
      · rw [hlevel, carry, carried_of_not_first lslPast hfirst, if_neg fun h => hfirst h.2]
        rfl

theorem grppwm_carry {call : Call} (hcall : call.led < 4) (regs : Registers) :
    carry lslPast regs call grppwm = call.duty.getD (regs grppwm) := by
  obtain ⟨other, op, ok⟩ := call
  cases op with
  | on | off | setBrightness _ =>
      have hpwm : pwmReg other ≠ grppwm := (pwmReg_ne hcall).2.1.symm
      refine carry_of_reg_ne lslPast ?_ regs
      simp [Call.accesses, Access.reg, brightnessReg_eq, hpwm, show ledout ≠ grppwm by decide]
  | blink delayOn delayOff =>
      let call : Call := ⟨other, .blink delayOn delayOff, ok⟩
      have hduty : call.duty =
          if ¬ call.Refused .limits ∧ ok 0 = true then
            some ((delayOn * 256 / (delayOn + delayOff)).setWidth 8)
          else none := rfl
      by_cases hfirst : ¬ call.Refused .limits ∧ ok 0 = true
      · rw [hduty, carry, carried_of_first lslPast rfl hfirst, if_pos hfirst, Option.getD_some]
        apply applyAll_write_cons
        intro access haccess
        have hmem := taken_isPrefix.subset haccess
        simp only [List.mem_cons, List.not_mem_nil, or_false] at hmem
        obtain rfl | rfl | rfl := hmem <;> simp [Access.reg, grpfreq, grppwm, mode2, ledout]
      · rw [hduty, carry, carried_of_not_first lslPast hfirst, if_neg hfirst]
        rfl

theorem grpfreq_carry {call : Call} (hcall : call.led < 4) (regs : Registers) :
    carry lslPast regs call grpfreq = call.frequency.getD (regs grpfreq) := by
  obtain ⟨other, op, ok⟩ := call
  cases op with
  | on | off | setBrightness _ =>
      have hpwm : pwmReg other ≠ grpfreq := (pwmReg_ne hcall).2.2.1.symm
      refine carry_of_reg_ne lslPast ?_ regs
      simp [Call.accesses, Access.reg, brightnessReg_eq, hpwm, show ledout ≠ grpfreq by decide]
  | blink delayOn delayOff =>
      let call : Call := ⟨other, .blink delayOn delayOff, ok⟩
      have hfrequency : call.frequency =
          if ¬ call.Refused .limits ∧ ok 0 = true ∧ ok 1 = true then
            some (((delayOn + delayOff) * 24 / 1000 - 1).setWidth 8)
          else none := rfl
      by_cases hfirst : ¬ call.Refused .limits ∧ ok 0 = true
      · rw [hfrequency, carry, carried_of_first lslPast rfl hfirst]
        by_cases hsecond : ok 1 = true
        · rw [taken_cons_of_ok hsecond, if_pos ⟨hfirst.1, hfirst.2, hsecond⟩, Option.getD_some,
            applyAll, List.foldl_cons, ← applyAll]
          apply applyAll_write_cons
          intro access haccess
          have hmem := taken_isPrefix.subset haccess
          simp only [List.mem_cons, List.not_mem_nil, or_false] at hmem
          obtain rfl | rfl := hmem <;> simp [Access.reg, grpfreq, mode2, ledout]
        · rw [taken_cons_of_failed hsecond, if_neg fun h => hsecond h.2.2, Option.getD_none]
          exact applyAll_of_reg_ne (by simp [Access.reg, grppwm, grpfreq])
      · rw [hfrequency, carry, carried_of_not_first lslPast hfirst,
          if_neg fun h => hfirst ⟨h.1, h.2.1⟩]
        rfl

/-! ### Whole runs -/

/-- A register or field that each call sets or leaves alone keeps what was last put there. -/
theorem run_carry {δ : Type*} (get : Registers → δ) {put : Call → Option δ}
    (hget : ∀ regs call, call.led < 4 → get (carry lslPast regs call) = (put call).getD (get regs))
    (regs : Registers) {calls : List Call} (hcalls : ∀ call ∈ calls, call.led < 4) :
    get (run (carry lslPast) regs calls) = (calls.filterMap put).getLast?.getD (get regs) := by
  rw [get_run (I := fun _ => True) (fun _ _ _ _ => trivial)
    (fun regs call _ hcall => hget regs call hcall) trivial hcalls, collected_eq_filterMap]

end

theorem regs_initAccesses {regs : Registers} {reg : BitVec 8} (hmode1 : mode1 ≠ reg)
    (hmode2 : mode2 ≠ reg) : applyAll regs initAccesses reg = regs reg :=
  applyAll_of_reg_ne (by simp [initAccesses, Access.reg, hmode1, hmode2])

/-- **The bank of LEDs.** After a successful initialisation, whatever calls are made for the four
LEDs and whichever accesses fail, each LED is driven by the source of the last call for it that
returned 0, its brightness is of the last call that wrote one, and the blinking LEDs share the duty
cycle and the frequency of the last calls that wrote those. What no call wrote is as the chip had
it. -/
theorem registers_of_last_calls (lslPast : BitVec 32 → BitVec 32 → BitVec 32) {busReady : Bool}
    {ok : Nat → Bool} {dev : Device} (hinit : (pca9632LedInit busReady ok dev).rc = 0)
    {calls : List Call} (hcalls : ∀ call ∈ calls, call.led < 4) {led : BitVec 32} (hled : led < 4) :
    Along (step lslPast)
        (fun state call => ∃ dev returned, state = .ok dev ∧ exec lslPast dev call = .ok returned
          ∧ (returned.rc = 0 ↔ call.Succeeds))
        (.ok (pca9632LedInit busReady ok dev).dev) calls
      ∧ ∃ final : Device,
        run (step lslPast) (.ok (pca9632LedInit busReady ok dev).dev) calls = .ok final
          ∧ ledoutField final.regs led =
              (calls.filterMap (Call.source led)).getLast?.getD (ledoutField dev.regs led)
          ∧ final.regs (pwmReg led) =
              (calls.filterMap (Call.level led)).getLast?.getD (dev.regs (pwmReg led))
          ∧ final.regs grppwm = (calls.filterMap Call.duty).getLast?.getD (dev.regs grppwm)
          ∧ final.regs grpfreq =
              (calls.filterMap Call.frequency).getLast?.getD (dev.regs grpfreq) := by
  have hok : busReady = true ∧ ok 0 = true ∧ ok 1 = true := by
    by_contra hfailed
    exact (pca9632LedInit_of_failed hfailed dev).1 hinit
  obtain ⟨rfl, hfirst, hsecond⟩ := hok
  rw [pca9632LedInit_of_ok hfirst hsecond]
  let start := applyAll dev.regs initAccesses
  constructor
  · have hsettled : Settled start (.ok ⟨.limits, start⟩) := ⟨start, rfl, AgreeOn.refl⟩
    refine along_of_invariant ?_ hsettled (along_event_iff.mpr hcalls)
    intro state call hsettled hcall
    refine ⟨step_settled lslPast hsettled hcall, ?_⟩
    obtain ⟨regs, rfl, -⟩ := hsettled
    obtain ⟨returned, hexec, hrc⟩ := exec_rc_eq_zero_iff lslPast regs call
    exact ⟨_, returned, rfl, hexec, hrc⟩
  · have hstart : ∀ {reg : BitVec 8}, mode1 ≠ reg → mode2 ≠ reg → start reg = dev.regs reg :=
      fun hmode1 hmode2 => regs_initAccesses hmode1 hmode2
    have hpwm : mode1 ≠ pwmReg led ∧ mode2 ≠ pwmReg led := by
      obtain rfl | rfl | rfl | rfl := led_cases hled <;> decide
    have hfield : ledoutField start led = ledoutField dev.regs led := by
      rw [ledoutField, hstart (by decide) (by decide), ledoutField]
    refine ⟨_, run_eq_carry lslPast start calls, ?_, ?_, ?_, ?_⟩
    · rw [← hfield]
      exact run_carry lslPast (fun regs => ledoutField regs led)
        (fun regs _ hcall => ledoutField_carry lslPast hled hcall regs) start hcalls
    · rw [← hstart hpwm.1 hpwm.2]
      exact run_carry lslPast (fun regs => regs (pwmReg led))
        (fun regs _ hcall => pwm_carry lslPast hled hcall regs) start hcalls
    · rw [← hstart (by decide) (by decide)]
      exact run_carry lslPast (fun regs => regs grppwm)
        (fun regs _ hcall => grppwm_carry lslPast hcall regs) start hcalls
    · rw [← hstart (by decide) (by decide)]
      exact run_carry lslPast (fun regs => regs grpfreq)
        (fun regs _ hcall => grpfreq_carry lslPast hcall regs) start hcalls

/-- LED 1 is switched on, then a brightness for it is written but not selected. -/
theorem registers_of_last_calls_example :
    let start := (pca9632LedInit true (fun _ => true) ⟨.zeroed, fun _ => 0⟩).dev
    let calls : List Call := [⟨1, .on, fun _ => true⟩, ⟨1, .setBrightness 50, fun n => n == 0⟩]
    ∃ final : Device, run (step fun word _ => word) (.ok start) calls = .ok final
      ∧ ledoutField final.regs 1 = 1 ∧ final.regs (pwmReg 1) = 127 := by
  obtain ⟨-, final, hrun, hfield, hpwm, -, -⟩ :=
    @registers_of_last_calls (fun word _ => word) true (fun _ => true) ⟨.zeroed, fun _ => 0⟩ rfl
      [⟨1, .on, fun _ => true⟩, ⟨1, .setBrightness 50, fun n => n == 0⟩] (by decide) 1 (by decide)
  exact ⟨final, hrun, hfield, hpwm⟩

end RcFirmware.Pca9632
