import RcFirmware.Proof.LedFaults

/-!
# Isolation of the four LEDs

The four LEDs share the select register, and every blinking LED shares the group registers with the
others. What an LED has for itself is its field of the select register and its brightness register: a
call sets bits of its own LED and shared bits, and no others. So each LED ends up as if only its own
calls had been made, and the mode bits that initialisation settles stay settled.
-/

namespace RcFirmware.Pca9632

open RegisterFile StepMachine

def ledoutField (regs : Registers) (led : BitVec 32) : BitVec 2 :=
  (regs ledout).extractLsb' (2 * led.toNat) 2

def pwmReg (led : BitVec 32) : BitVec 8 := pwmBase + led.setWidth 8

/-- Out of sleep, driving totem-pole outputs, inverted. -/
structure ModesKept (regs : Registers) : Prop where
  sleep : regs mode1 &&& mode1Sleep = 0
  outdrv : regs mode2 &&& mode2Outdrv = mode2Outdrv
  invrt : regs mode2 &&& mode2Invrt = mode2Invrt

/-- The bits an LED has for itself. -/
def OwnBits (led : BitVec 32) (reg : BitVec 8) (bit : Nat) : Prop :=
  reg = ledout ∧ bit / 2 = led.toNat ∨ reg = pwmReg led

/-- The bits every LED may set. -/
def SharedBits (reg : BitVec 8) (bit : Nat) : Prop :=
  reg = grppwm ∨ reg = grpfreq ∨ reg = mode2 ∧ bit = 5

def ModeBits (reg : BitVec 8) (bit : Nat) : Prop :=
  reg = mode1 ∧ bit = 4 ∨ reg = mode2 ∧ (bit = 2 ∨ bit = 4)

theorem led_cases {led : BitVec 32} (hled : led < 4) : led = 0 ∨ led = 1 ∨ led = 2 ∨ led = 3 := by
  have hlt : led.toNat < 4 := hled
  simp only [← BitVec.toNat_inj, BitVec.ofNat_eq_ofNat, BitVec.toNat_ofNat]
  omega

theorem pwmReg_toNat_of_lt {led : BitVec 32} (hled : led < 4) :
    (pwmReg led).toNat = led.toNat + 2 := by
  obtain rfl | rfl | rfl | rfl := led_cases hled <;> rfl

theorem ownBits_disjoint {led other : BitVec 32} (hled : led < 4) (hother : other < 4)
    (hne : other ≠ led) {reg : BitVec 8} {bit : Nat} (hown : OwnBits led reg bit) :
    ¬ OwnBits other reg bit := by
  have hlt : led.toNat < 4 := hled
  have hlt' : other.toNat < 4 := hother
  have hne' : other.toNat ≠ led.toNat := mt BitVec.eq_of_toNat_eq hne
  simp only [OwnBits, ← BitVec.toNat_inj, pwmReg_toNat_of_lt hled, pwmReg_toNat_of_lt hother,
    ledout_toNat] at hown ⊢
  omega

theorem ownBits_not_shared {led : BitVec 32} (hled : led < 4) {reg : BitVec 8} {bit : Nat}
    (hown : OwnBits led reg bit) : ¬ SharedBits reg bit := by
  have hlt : led.toNat < 4 := hled
  simp only [OwnBits, SharedBits, ← BitVec.toNat_inj, pwmReg_toNat_of_lt hled,
    ledout_toNat, grppwm_toNat, grpfreq_toNat, mode2_toNat] at hown ⊢
  omega

theorem modeBits_not_set {led : BitVec 32} (hled : led < 4) {reg : BitVec 8} {bit : Nat}
    (hmode : ModeBits reg bit) : ¬ (OwnBits led reg bit ∨ SharedBits reg bit) := by
  simp only [ModeBits, OwnBits, SharedBits, ← BitVec.toNat_inj, pwmReg_toNat_of_lt hled,
    ledout_toNat, grppwm_toNat, grpfreq_toNat, mode1_toNat, mode2_toNat] at hmode ⊢
  omega

/-- The address `pca9632_led_set_brightness` computes in 32 bits. -/
theorem brightnessReg_eq (led : BitVec 32) :
    (pwmBase.setWidth 32 + led).setWidth 8 = pwmReg led :=
  BitVec.setWidth_add _ _ (by decide)

theorem eq_five_of_dmblnk {bit : Nat} (hbit : mode2Dmblnk.getLsbD bit = true) : bit = 5 := by
  have hbits : ∀ bit < 8, mode2Dmblnk.getLsbD bit = true → bit = 5 := by decide
  exact hbits bit (BitVec.lt_of_getLsbD hbit) hbit

section

variable (lslPast : BitVec 32 → BitVec 32 → BitVec 32)

/-- A shift by twice the LED stays below 32, where C gives it a value. -/
theorem lsl_of_lt {led : BitVec 32} (hled : led < 4) (word : BitVec 32) :
    lsl lslPast word (led <<< 1) = word <<< (led <<< 1) := by
  refine if_pos ?_
  obtain rfl | rfl | rfl | rfl := led_cases hled <;> decide

theorem ledoutMask_getLsbD {led : BitVec 32} (hled : led < 4) (bit : Nat) :
    ((lsl lslPast mask (led <<< 1)).setWidth 8).getLsbD bit = decide (bit / 2 = led.toNat) := by
  rw [lsl_of_lt lslPast hled]
  obtain hbit | hbit := Nat.lt_or_ge bit 8
  · revert bit
    obtain rfl | rfl | rfl | rfl := led_cases hled <;> decide
  · have hlt : led.toNat < 4 := hled
    rw [BitVec.getLsbD_of_ge _ _ hbit, eq_comm, decide_eq_false_iff_not]
    omega

/-- **Footprint.** A call for an LED of the chip sets bits of that LED and shared bits only. -/
theorem touches_own_or_shared {data : LedData} {call : Call} (hled : call.led < 4)
    {access : ChipAccess} (haccess : access ∈ call.accesses lslPast data) {reg : BitVec 8}
    {bit : Nat} (htouch : access.Touches reg bit) :
    OwnBits call.led reg bit ∨ SharedBits reg bit := by
  have hselect : ∀ {value : BitVec 8},
      access = .update ledout ((lsl lslPast mask (call.led <<< 1)).setWidth 8) value →
        OwnBits call.led reg bit := by
    rintro value rfl
    obtain ⟨rfl, hbit⟩ := htouch
    exact .inl ⟨rfl, of_decide_eq_true ((ledoutMask_getLsbD lslPast hled bit).symm.trans hbit)⟩
  obtain ⟨led, op, ok⟩ := call
  cases op with
  | on => exact .inl (hselect (List.mem_singleton.mp haccess))
  | off => exact .inl (hselect (List.mem_singleton.mp haccess))
  | setBrightness value =>
      obtain rfl | hlast := List.mem_cons.mp haccess
      · exact .inl (.inr (htouch.1.symm.trans (brightnessReg_eq led)))
      · exact .inl (hselect (List.mem_singleton.mp hlast))
  | blink delayOn delayOff =>
      simp only [Call.accesses, List.mem_cons, List.not_mem_nil, or_false] at haccess
      obtain rfl | rfl | rfl | hlast := haccess
      · exact .inr (.inl htouch.1.symm)
      · exact .inr (.inr (.inl htouch.1.symm))
      · exact .inr (.inr (.inr ⟨htouch.1.symm, eq_five_of_dmblnk htouch.2⟩))
      · exact .inl (hselect hlast)

/-! ### One call -/

theorem step_limits (call : Call) :
    ∃ accesses, (∀ access ∈ accesses, access ∈ call.accesses lslPast .limits) ∧
      ∀ regs, step lslPast (.ok ⟨.limits, regs⟩) call = .ok ⟨.limits, applyAll regs accesses⟩ := by
  by_cases hrefused : call.Refused .limits
  · exact ⟨[], List.forall_mem_nil _, fun regs =>
      step_of_refused lslPast (show call.Refused (Device.mk .limits regs).data from hrefused)⟩
  · have hzero : ¬ call.ZeroDivisor .limits := mt LedData.limits_refuse hrefused
    exact ⟨_, fun access haccess => taken_isPrefix.subset haccess, fun regs =>
      step_of_accepted lslPast (show ¬ call.Refused (Device.mk .limits regs).data from hrefused)
        hzero⟩

theorem step_frame {call : Call} (hcall : call.led < 4) {Observed : BitVec 8 → Nat → Prop}
    (hunset : ∀ reg bit, Observed reg bit → ¬ (OwnBits call.led reg bit ∨ SharedBits reg bit))
    (regs : Registers) :
    ∃ regs', step lslPast (.ok ⟨.limits, regs⟩) call = .ok ⟨.limits, regs'⟩
      ∧ AgreeOn Observed regs' regs := by
  obtain ⟨accesses, hmade, hstep⟩ := step_limits lslPast call
  refine ⟨_, hstep regs, agreeOn_applyAll_self fun access haccess reg bit hobserved htouch => ?_⟩
  exact hunset reg bit hobserved (touches_own_or_shared lslPast hcall (hmade access haccess) htouch)

/-! ### Whole runs -/

def Settled (start : Registers) (state : Except Fault Device) : Prop :=
  ∃ regs, state = .ok ⟨.limits, regs⟩ ∧ AgreeOn ModeBits regs start

def SameFor (led : BitVec 32) (state state' : Except Fault Device) : Prop :=
  ∀ regs regs', state = .ok ⟨.limits, regs⟩ → state' = .ok ⟨.limits, regs'⟩ →
    AgreeOn (OwnBits led) regs regs'

theorem step_settled {start : Registers} {state : Except Fault Device} {call : Call}
    (hsettled : Settled start state) (hcall : call.led < 4) :
    Settled start (step lslPast state call) := by
  obtain ⟨regs, rfl, hagree⟩ := hsettled
  obtain ⟨regs', hstep, hframe⟩ :=
    step_frame lslPast hcall (fun _ _ => modeBits_not_set hcall) regs
  exact ⟨regs', hstep, hframe.trans hagree⟩

theorem sameFor_of_other {start : Registers} {led : BitVec 32} (hled : led < 4)
    {state state' : Except Fault Device} {call : Call} (hsettled : Settled start state)
    (hcall : call.led < 4) (hother : call.led ≠ led) (hsame : SameFor led state state') :
    SameFor led (step lslPast state call) state' := by
  obtain ⟨regs₀, rfl, -⟩ := hsettled
  intro regs regs' hregs hregs'
  have hunset : ∀ reg bit, OwnBits led reg bit →
      ¬ (OwnBits call.led reg bit ∨ SharedBits reg bit) := fun reg bit hown =>
    not_or.mpr ⟨ownBits_disjoint hled hcall hother hown, ownBits_not_shared hled hown⟩
  obtain ⟨regs₁, hstep, hframe⟩ := step_frame lslPast hcall hunset regs₀
  cases hstep.symm.trans hregs
  exact hframe.trans (hsame regs₀ regs' rfl hregs')

theorem sameFor_of_own {start : Registers} {led : BitVec 32} {state state' : Except Fault Device}
    {call : Call} (hsettled : Settled start state) (hsettled' : Settled start state')
    (hsame : SameFor led state state') :
    SameFor led (step lslPast state call) (step lslPast state' call) := by
  obtain ⟨regs₀, rfl, -⟩ := hsettled
  obtain ⟨regs₀', rfl, -⟩ := hsettled'
  obtain ⟨accesses, -, hstep⟩ := step_limits lslPast call
  intro regs regs' hregs hregs'
  cases (hstep regs₀).symm.trans hregs
  cases (hstep regs₀').symm.trans hregs'
  exact (hsame regs₀ regs₀' rfl rfl).applyAll accesses

theorem run_sameFor {start : Registers} {led : BitVec 32} (hled : led < 4) {calls : List Call}
    (hcalls : ∀ call ∈ calls, call.led < 4) :
    SameFor led (run (step lslPast) (.ok ⟨.limits, start⟩) calls)
      (run (step lslPast) (.ok ⟨.limits, start⟩) (calls.filter fun call => call.led = led)) := by
  have hstart : Settled start (.ok ⟨.limits, start⟩) := ⟨start, rfl, AgreeOn.refl⟩
  have hsame : SameFor led (.ok ⟨.limits, start⟩) (.ok ⟨.limits, start⟩) := by
    rintro regs regs' hregs hregs'
    cases hregs
    cases hregs'
    exact AgreeOn.refl
  refine run_filter_same (fun _ _ => step_settled lslPast) ?_ ?_ hcalls hstart hstart hsame
  · intro state state' call hsettled _ hcall hother
    exact sameFor_of_other lslPast hled hsettled hcall (of_decide_eq_false hother)
  · intro state state' call hsettled hsettled' _ _
    exact sameFor_of_own lslPast hsettled hsettled'

theorem run_settled {start : Registers} {calls : List Call}
    (hcalls : ∀ call ∈ calls, call.led < 4) :
    Settled start (run (step lslPast) (.ok ⟨.limits, start⟩) calls) :=
  run_invariant (fun _ _ => step_settled lslPast) ⟨start, rfl, AgreeOn.refl⟩
    (along_event_iff.mpr hcalls)

end

/-! ### What initialisation settles -/

theorem modesKept_iff {regs : Registers} :
    ModesKept regs ↔ (regs mode1).getLsbD 4 = false
      ∧ (regs mode2).getLsbD 2 = true ∧ (regs mode2).getLsbD 4 = true := by
  have hbits : ∀ byte : BitVec 8, (byte &&& mode1Sleep = 0 ↔ byte.getLsbD 4 = false)
      ∧ (byte &&& mode2Outdrv = mode2Outdrv ↔ byte.getLsbD 2 = true)
      ∧ (byte &&& mode2Invrt = mode2Invrt ↔ byte.getLsbD 4 = true) := by decide
  rw [← (hbits (regs mode1)).1, ← (hbits (regs mode2)).2.1, ← (hbits (regs mode2)).2.2]
  exact ⟨fun h => ⟨h.1, h.2, h.3⟩, fun h => ⟨h.1, h.2.1, h.2.2⟩⟩

theorem modesKept_initAccesses (regs : Registers) : ModesKept (applyAll regs initAccesses) := by
  rw [modesKept_iff]
  simp only [initAccesses, applyAll, List.foldl_cons, List.foldl_nil, apply_getLsbD]
  refine ⟨?_, ?_, ?_⟩
  · rw [if_neg (by decide), if_pos (by decide)]
    decide
  · rw [if_pos (by decide)]
    decide
  · rw [if_pos (by decide)]
    decide

theorem ModesKept.of_agreeOn {regs start : Registers} (hkept : ModesKept start)
    (hagree : AgreeOn ModeBits regs start) : ModesKept regs := by
  rw [modesKept_iff] at hkept ⊢
  rwa [hagree mode1 4 (by simp [ModeBits]), hagree mode2 2 (by simp [ModeBits]),
    hagree mode2 4 (by simp [ModeBits])]

theorem ledoutField_eq_of_agreeOn {regs regs' : Registers} {led : BitVec 32}
    (hagree : AgreeOn (OwnBits led) regs regs') : ledoutField regs led = ledoutField regs' led := by
  apply BitVec.eq_of_getLsbD_eq
  intro bit hbit
  have hown : OwnBits led ledout (2 * led.toNat + bit) := .inl ⟨rfl, by omega⟩
  simp only [ledoutField, BitVec.getLsbD_extractLsb', hagree ledout _ hown]

theorem pwm_eq_of_agreeOn {regs regs' : Registers} {led : BitVec 32}
    (hagree : AgreeOn (OwnBits led) regs regs') : regs (pwmReg led) = regs' (pwmReg led) :=
  BitVec.eq_of_getLsbD_eq fun bit _ => hagree (pwmReg led) bit (.inr rfl)

/-- **LED isolation.** After a successful initialisation, whatever calls are made for the four LEDs
and whichever accesses fail, no call faults, each LED's field of the select register and its
brightness are what its own calls alone leave there, and the chip stays awake with its outputs
configured. -/
theorem led_isolated (lslPast : BitVec 32 → BitVec 32 → BitVec 32) {busReady : Bool}
    {ok : Nat → Bool} {dev : Device} (hinit : (pca9632LedInit busReady ok dev).rc = 0)
    {calls : List Call} (hcalls : ∀ call ∈ calls, call.led < 4) {led : BitVec 32} (hled : led < 4) :
    ∃ all own : Device,
      run (step lslPast) (.ok (pca9632LedInit busReady ok dev).dev) calls = .ok all
        ∧ run (step lslPast) (.ok (pca9632LedInit busReady ok dev).dev)
            (calls.filter fun call => call.led = led) = .ok own
        ∧ ledoutField all.regs led = ledoutField own.regs led
        ∧ all.regs (pwmReg led) = own.regs (pwmReg led)
        ∧ ModesKept all.regs := by
  have hok : busReady = true ∧ ok 0 = true ∧ ok 1 = true := by
    by_contra hfailed
    exact (pca9632LedInit_of_failed hfailed dev).1 hinit
  obtain ⟨rfl, hfirst, hsecond⟩ := hok
  have hown : ∀ call ∈ calls.filter fun call => call.led = led, call.led < 4 := fun call hcall =>
    hcalls call (List.mem_of_mem_filter hcall)
  rw [pca9632LedInit_of_ok hfirst hsecond]
  have hsettled : Settled (applyAll dev.regs initAccesses) _ := run_settled lslPast hcalls
  have hsettled' : Settled (applyAll dev.regs initAccesses) _ := run_settled lslPast hown
  obtain ⟨all, hall, hmodes⟩ := hsettled
  obtain ⟨own, howns, -⟩ := hsettled'
  have hagree := run_sameFor lslPast hled hcalls all own hall howns
  exact ⟨_, _, hall, howns, ledoutField_eq_of_agreeOn hagree, pwm_eq_of_agreeOn hagree,
    (modesKept_initAccesses dev.regs).of_agreeOn hmodes⟩

/-- LED 0 goes on while a brightness for LED 1 gets only as far as its first access. -/
theorem led_isolated_example :
    let start := (pca9632LedInit true (fun _ => true) ⟨.zeroed, fun _ => 0⟩).dev
    let calls : List Call := [⟨0, .on, fun _ => true⟩, ⟨1, .setBrightness 50, fun n => n == 0⟩]
    ∃ all own : Device,
      run (step fun word _ => word) (.ok start) calls = .ok all
        ∧ run (step fun word _ => word) (.ok start) (calls.filter fun call => call.led = 1)
          = .ok own
        ∧ ledoutField all.regs 1 = ledoutField own.regs 1
        ∧ all.regs (pwmReg 1) = own.regs (pwmReg 1)
        ∧ ModesKept all.regs :=
  led_isolated _ rfl (by decide) (by decide)

end RcFirmware.Pca9632
