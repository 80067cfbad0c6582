import Mathlib.Data.BitVec
import Mathlib.Data.List.Infix
import Mathlib.Logic.Function.Basic

/-!
# Registers behind a bus that can fail

A driver reaches its chip through two kinds of access: it writes a register, or it updates the bits
of a mask in one. It makes its accesses in order and gives up at the first that fails, so a call
leaves behind a prefix of them.

An access touches bits. What two register files agree on they still agree on after the same accesses,
and the bits no access touches stay as they were; isolation results are these two facts over a set of
observed bits.
-/

namespace RegisterFile

variable {α : Type*} {w : Nat}

inductive Access (α : Type*) (w : Nat) where
  | write (reg : α) (value : BitVec w)
  | update (reg : α) (mask value : BitVec w)
  deriving DecidableEq, Repr

namespace Access

def reg : Access α w → α
  | write reg _ => reg
  | update reg _ _ => reg

def mask : Access α w → BitVec w
  | write _ _ => BitVec.allOnes w
  | update _ mask _ => mask

def value : Access α w → BitVec w
  | write _ value => value
  | update _ _ value => value

def Touches (access : Access α w) (reg : α) (bit : Nat) : Prop :=
  access.reg = reg ∧ access.mask.getLsbD bit = true

instance [DecidableEq α] (access : Access α w) (reg : α) (bit : Nat) :
    Decidable (access.Touches reg bit) := inferInstanceAs (Decidable (_ ∧ _))

def apply [DecidableEq α] (regs : α → BitVec w) : Access α w → α → BitVec w
  | write reg value => Function.update regs reg value
  | update reg mask value => Function.update regs reg (regs reg &&& ~~~mask ||| value &&& mask)

end Access

/-- The accesses that are carried out: those before the first that fails. -/
def taken (ok : Nat → Bool) : List (Access α w) → List (Access α w)
  | [] => []
  | access :: accesses => if ok 0 then access :: taken (fun n => ok (n + 1)) accesses else []

def completed (ok : Nat → Bool) (accesses : List (Access α w)) : Bool :=
  (taken ok accesses).length == accesses.length

def applyAll [DecidableEq α] (regs : α → BitVec w) (accesses : List (Access α w)) : α → BitVec w :=
  accesses.foldl Access.apply regs

/-- Two register files look the same to an observer of some of their bits. -/
def AgreeOn (Observed : α → Nat → Prop) (regs regs' : α → BitVec w) : Prop :=
  ∀ reg bit, Observed reg bit → (regs reg).getLsbD bit = (regs' reg).getLsbD bit

section Taken

variable {ok : Nat → Bool} {accesses : List (Access α w)}

theorem taken_isPrefix : taken ok accesses <+: accesses := by
  induction accesses generalizing ok with
  | nil => exact List.prefix_rfl
  | cons access accesses ih =>
      rw [taken]
      split_ifs
      · exact List.cons_prefix_cons.mpr ⟨rfl, ih⟩
      · exact List.nil_prefix

theorem taken_cons_of_ok (hok : ok 0 = true) (access : Access α w) (accesses : List (Access α w)) :
    taken ok (access :: accesses) = access :: taken (fun n => ok (n + 1)) accesses := by
  rw [taken, if_pos hok]

theorem taken_cons_of_failed (hok : ¬ ok 0 = true) (access : Access α w)
    (accesses : List (Access α w)) : taken ok (access :: accesses) = [] := by
  rw [taken, if_neg hok]

theorem taken_eq_nil_iff (hne : accesses ≠ []) : taken ok accesses = [] ↔ ok 0 = false := by
  obtain ⟨access, rest, rfl⟩ := List.exists_cons_of_ne_nil hne
  cases hok : ok 0 <;> simp [taken, hok]

theorem taken_eq_self_iff : taken ok accesses = accesses ↔ ∀ n < accesses.length, ok n = true := by
  induction accesses generalizing ok with
  | nil => simp [taken]
  | cons access accesses ih =>
      rw [taken, List.length_cons, Nat.forall_lt_succ_left]
      cases hok : ok 0 <;> simp [ih]

theorem completed_iff : completed ok accesses = true ↔ taken ok accesses = accesses := by
  rw [completed, beq_iff_eq]
  exact ⟨fun hlength => taken_isPrefix.eq_of_length hlength, congrArg List.length⟩

/-- Short of the last access, what is carried out is among those before it. -/
theorem taken_concat_subset {last : Access α w} (hfailed : ¬ ∀ n < accesses.length + 1, ok n = true) :
    taken ok (accesses ++ [last]) ⊆ accesses := by
  obtain hall | hbefore :=
    List.prefix_concat_iff.mp (taken_isPrefix : taken ok (accesses ++ [last]) <+: _)
  · rw [taken_eq_self_iff, List.length_append, List.length_singleton] at hall
    exact absurd hall hfailed
  · exact hbefore.subset

end Taken

section Bits

variable {Observed : α → Nat → Prop} {regs regs' : α → BitVec w} {access : Access α w}
  {accesses : List (Access α w)}

theorem AgreeOn.refl : AgreeOn Observed regs regs := fun _ _ _ => rfl

theorem AgreeOn.trans {regs'' : α → BitVec w} (hagree : AgreeOn Observed regs regs')
    (hagree' : AgreeOn Observed regs' regs'') : AgreeOn Observed regs regs'' :=
  fun reg bit hobserved => (hagree reg bit hobserved).trans (hagree' reg bit hobserved)

variable [DecidableEq α]

theorem apply_getLsbD {reg : α} {bit : Nat} :
    (access.apply regs reg).getLsbD bit =
      if access.Touches reg bit then access.value.getLsbD bit else (regs reg).getLsbD bit := by
  by_cases hreg : reg = access.reg
  · subst hreg
    cases access with
    | write reg value =>
        simp only [Access.apply, Access.Touches, Access.reg, Access.mask, Access.value,
          Function.update_self, BitVec.getLsbD_allOnes, true_and, decide_eq_true_eq]
        split_ifs with hbit
        · rfl
        · rw [BitVec.getLsbD_of_ge _ _ (by omega), BitVec.getLsbD_of_ge _ _ (by omega)]
    | update reg mask value =>
        simp only [Access.apply, Access.Touches, Access.reg, Access.mask, Access.value,
          Function.update_self, BitVec.getLsbD_or, BitVec.getLsbD_and, BitVec.getLsbD_not, true_and]
        by_cases hbit : bit < w
        · cases mask.getLsbD bit <;> simp [hbit]
        · simp [BitVec.getLsbD_of_ge _ _ (Nat.le_of_not_lt hbit)]
  · have htouch : ¬ access.Touches reg bit := fun h => hreg h.1.symm
    rw [if_neg htouch]
    cases access <;> exact congrArg (BitVec.getLsbD · bit) (Function.update_of_ne hreg _ _)

@[simp]
theorem apply_write_self (reg : α) (value : BitVec w) :
    (Access.write reg value).apply regs reg = value := by
  simp [Access.apply]

theorem AgreeOn.apply (hagree : AgreeOn Observed regs regs') (access : Access α w) :
    AgreeOn Observed (access.apply regs) (access.apply regs') := by
  intro reg bit hobserved
  rw [apply_getLsbD, apply_getLsbD, hagree reg bit hobserved]

/-- **Locality.** What two register files agree on they agree on after the same accesses. -/
theorem AgreeOn.applyAll (hagree : AgreeOn Observed regs regs') (accesses : List (Access α w)) :
    AgreeOn Observed (applyAll regs accesses) (applyAll regs' accesses) := by
  induction accesses generalizing regs regs' with
  | nil => exact hagree
  | cons access accesses ih => exact ih (hagree.apply access)

/-- **Frame.** Bits that no access touches stay as they were. -/
theorem agreeOn_applyAll_self
    (huntouched : ∀ access ∈ accesses, ∀ reg bit, Observed reg bit → ¬ access.Touches reg bit) :
    AgreeOn Observed (applyAll regs accesses) regs := by
  induction accesses generalizing regs with
  | nil => exact AgreeOn.refl
  | cons access accesses ih =>
      obtain ⟨hfirst, hrest⟩ := List.forall_mem_cons.mp huntouched
      refine AgreeOn.trans (ih hrest) fun reg bit hobserved => ?_
      rw [apply_getLsbD, if_neg (hfirst reg bit hobserved)]

theorem applyAll_of_reg_ne {reg : α} (hreg : ∀ access ∈ accesses, access.reg ≠ reg) :
    applyAll regs accesses reg = regs reg := by
  apply BitVec.eq_of_getLsbD_eq
  intro bit _
  have hframe : AgreeOn (fun other _ => other = reg) (applyAll regs accesses) regs :=
    agreeOn_applyAll_self fun access haccess other _ hother htouch =>
      hreg access haccess (htouch.1.trans hother)
  exact hframe reg bit rfl

/-- What was written to a register stays there when nothing after it goes to that register. -/
theorem applyAll_write_cons {reg : α} (value : BitVec w)
    (hreg : ∀ access ∈ accesses, access.reg ≠ reg) :
    applyAll regs (.write reg value :: accesses) reg = value :=
  (applyAll_of_reg_ne hreg).trans (apply_write_self reg value)

end Bits

end RegisterFile
