import RcFirmware.Motor

/-!
# The main loop

After its initialisations `main` sweeps both motors up in speed, turns them round and starts over, one
step a second. What the loop keeps from one turn to the next are the two locals `motor_level` and
`motor_dir`.
-/

namespace RcFirmware.MainLoop

open Motor

structure Locals where
  motorLevel : BitVec 32
  motorDir : BitVec 32
  deriving DecidableEq, Repr

def Locals.start : Locals := ⟨0, 0⟩

/-- The `motor_set_speed` calls of one turn. -/
def Locals.commands (locals : Locals) : List Command :=
  if locals.motorDir ≠ 0 then
    [⟨motorLeft, dirForward, locals.motorLevel⟩, ⟨motorRight, dirForward, locals.motorLevel⟩]
  else
    [⟨motorLeft, dirReverse, locals.motorLevel⟩, ⟨motorRight, dirReverse, locals.motorLevel⟩]

def Locals.next (locals : Locals) : Locals :=
  let motorLevel := locals.motorLevel + 10
  if BitVec.sle 201 motorLevel then
    { motorLevel := 0
      motorDir := if locals.motorDir = 0 then 1 else 0 }
  else { locals with motorLevel := motorLevel }

/-- The commands of the first `turns` turns of the loop, turn by turn. -/
def loop : Nat → Locals → List (List Command)
  | 0, _ => []
  | turns + 1, locals => locals.commands :: loop turns locals.next

end RcFirmware.MainLoop
