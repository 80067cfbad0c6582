import RcFirmware.CanReceive
import RcFirmware.Lib.Word

/-!
# What the receive thread prints

One line for each counter frame that was not dropped, in the order of the frames.
-/

namespace RcFirmware.CanReceive

open StepMachine Mailbox

/-- The frames on the bus that `rx_thread` listens to. -/
def counterFrames : List Event → List ZcanFrame
  | [] => []
  | .frame frame :: events =>
      if counterFilter.Matches frame then frame :: counterFrames events else counterFrames events
  | .kMsgqGet :: events | .printk :: events => counterFrames events

theorem and_ff (word : BitVec 16) : word &&& 0xff#16 = (word.setWidth 8).setWidth 16 := by
  apply BitVec.eq_of_toNat_eq
  rw [BitVec.toNat_and, BitVec.toNat_setWidth_of_le (by decide), BitVec.toNat_setWidth]
  exact Nat.and_two_pow_sub_one_eq_mod word.toNat 8

theorem toNat_bswap16 (word : BitVec 16) :
    (bswap16 word).toNat = 256 * (word.toNat % 256) + word.toNat / 256 := by
  have hword := word.isLt
  rw [bswap16, and_ff, and_ff, BitVec.or_comm, Word.toNat_shiftLeft_or le_rfl, BitVec.toNat_setWidth,
    BitVec.toNat_setWidth, BitVec.toNat_ushiftRight, Nat.shiftRight_eq_div_pow]
  omega

theorem sysBe16ToCpu_unalignedGet (endian : Endian) (data : Fin 8 → BitVec 8) :
    (sysBe16ToCpu endian (unalignedGet endian data)).toNat =
      256 * (data 0).toNat + (data 1).toNat := by
  have hbytes := Word.toNat_shiftLeft_or (w := 16) le_rfl (data 0) (data 1)
  cases endian with
  | little =>
      have hhigh := (data 0).isLt
      rw [sysBe16ToCpu, unalignedGet, toNat_bswap16, Word.toNat_shiftLeft_or le_rfl]
      omega
  | big => exact hbytes

theorem printk_eq_reported (endian : Endian) : CanReceive.printk endian = reported := by
  funext frame
  have hdlc : frame.dlc = 2 ↔ frame.dlc.toNat = 2 := BitVec.toNat_inj.symm
  rw [CanReceive.printk, reported, sysBe16ToCpu_unalignedGet]
  by_cases hlength : frame.dlc = 2
  · rw [if_neg (not_not_intro hlength), if_pos (hdlc.mp hlength)]
  · rw [if_pos hlength, if_neg (mt hdlc.mpr hlength)]

section

variable {canMatches : ZcanFilter → ZcanFrame → Bool}
  {canDefineMsgq : Nat → MessageQueue.Api ZcanFrame}

theorem arrivals_atMsgq
    (hfilter : ∀ filter frame, canMatches filter frame = true ↔ filter.Matches frame)
    (events : List Event) :
    arrivals (events.filterMap (Event.atMsgq canMatches)) = counterFrames events := by
  induction events with
  | nil => rfl
  | cons event events ih =>
      cases event with
      | frame frame =>
          by_cases hmatches : counterFilter.Matches frame
          · have hseen : (Event.frame frame).atMsgq canMatches = some (.arrive frame) :=
              if_pos ((hfilter _ _).mpr hmatches)
            rw [List.filterMap_cons_some hseen, counterFrames, if_pos hmatches, ← ih]
            rfl
          · have hseen : (Event.frame frame).atMsgq canMatches = none :=
              if_neg (mt (hfilter _ _).mp hmatches)
            rw [List.filterMap_cons_none hseen, counterFrames, if_neg hmatches, ih]
      | kMsgqGet | printk => exact ih

/-- A counter frame finds fewer than two others in `counter_msgq`. -/
def MsgqHasRoom (state : State canDefineMsgq) (event : Event) : Prop :=
  ∀ msg, event = .frame msg → counterFilter.Matches msg →
    ((counterMsgq canDefineMsgq).letters state.queue).length < 2

theorem msgqHasRoom_iff
    (hfilter : ∀ filter frame, canMatches filter frame = true ↔ filter.Matches frame)
    {state : State canDefineMsgq} {event : Event} :
    MsgqHasRoom state event
      ↔ ∀ seen, event.atMsgq canMatches = some seen →
        HasRoom counterMsgqSize state.mailbox seen := by
  cases event with
  | frame msg =>
      by_cases hmatches : counterFilter.Matches msg <;>
        simp [MsgqHasRoom, Event.atMsgq, hfilter, hmatches, HasRoom, MessageQueue.State.mailbox,
          counterMsgqSize]
  | kMsgqGet | printk => simp [MsgqHasRoom, Event.atMsgq, HasRoom]

/-- `count` iterations of the loop with nothing on the bus. -/
def quiet (count : Nat) : List Event := (List.replicate count [.printk, .kMsgqGet]).flatten

theorem quiet_atMsgq (count : Nat) :
    (quiet count).filterMap (Event.atMsgq canMatches) = Mailbox.iterations count := by
  induction count with
  | zero => rfl
  | succ count ih =>
      rw [quiet, List.replicate_succ, List.flatten_cons, List.filterMap_append, ← quiet, ih,
        iterations_succ]
      rfl

end

/-- **Every counter frame is printed once.** Let the CAN driver compare frames with filters and the
kernel keep message queues as documented. However frames and the thread are interleaved, once the bus
is quiet and the thread has gone round four times, the lines are those of counter frames in the order
they came, and of all of them exactly when none came upon two others in the queue. -/
theorem lines_of_counterFrames {canMatches : ZcanFilter → ZcanFrame → Bool}
    {canDefineMsgq : Nat → MessageQueue.Api ZcanFrame}
    (hfilter : ∀ filter frame, canMatches filter frame = true ↔ filter.Matches frame)
    (hmsgq : ∀ size, (canDefineMsgq size).Lawful size) (endian : Endian) (events : List Event)
    (more : Nat) :
    let step := step canMatches canDefineMsgq endian
    let final := run step (start canDefineMsgq) (events ++ quiet (4 + more))
    final.outputs.Sublist ((counterFrames events).map reported)
      ∧ (final.outputs = (counterFrames events).map reported
          ↔ Along step MsgqHasRoom (start canDefineMsgq) events) := by
  intro step final
  let received := events.filterMap (Event.atMsgq canMatches)
  let atBus : Mailbox.State ZcanFrame Line :=
    run (Mailbox.step counterMsgqSize reported) .fresh received
  have hfresh : Consistent counterMsgqSize (.fresh : Mailbox.State ZcanFrame Line) :=
    consistent_fresh
  have houtputs : final.outputs = atBus.account reported := by
    have hmailbox : final.mailbox =
        run (Mailbox.step counterMsgqSize reported) atBus (iterations (4 + more)) := by
      rw [← run_append, ← quiet_atMsgq, ← List.filterMap_append, ← printk_eq_reported endian,
        ← MessageQueue.mailbox_run (hmsgq counterMsgqSize), ← run_through]
      rfl
    calc
      final.outputs = final.mailbox.outputs := rfl
      _ = atBus.account reported := by
        rw [hmailbox]
        exact outputs_iterations (consistent_run hfresh) (Nat.le_add_right 4 more)
  have haccount : (.fresh : Mailbox.State ZcanFrame Line).account reported = [] := rfl
  have hsublist := @account_run_sublist _ _ counterMsgqSize reported _ received hfresh
  have hiff := @account_run_eq_iff _ _ counterMsgqSize reported _ received hfresh
  rw [haccount, List.nil_append, arrivals_atMsgq hfilter] at hsublist hiff
  rw [houtputs]
  refine ⟨hsublist, hiff.trans ?_⟩
  rw [← printk_eq_reported endian, ← MessageQueue.along_hasRoom_iff (hmsgq counterMsgqSize),
    ← along_through]
  exact along_congr fun state event => (msgqHasRoom_iff hfilter).symm

/-- Two counter frames find the queue as it was defined, and the thread comes to them after that. -/
theorem lines_of_counterFrames_example :
    let canMatches : ZcanFilter → ZcanFrame → Bool := fun filter frame => filter.Matches frame
    let data : Fin 8 → BitVec 8 := fun byte => BitVec.ofNat 8 (byte + 1)
    let counter : ZcanFrame := ⟨counterMsgId, .extended, .dataframe, 2, data⟩
    let long : ZcanFrame := { counter with dlc := 3 }
    let other : ZcanFrame := { counter with id := 0x10 }
    let events : List Event := [.frame counter, .frame other, .frame long]
    (run (step canMatches MessageQueue.listQueue .little) (start MessageQueue.listQueue)
        (events ++ quiet 4)).outputs = [.counterReceived 258, .wrongDataLength 3] := by
  intro canMatches data counter long other events
  have hfilter : ∀ filter frame, canMatches filter frame = true ↔ filter.Matches frame :=
    fun _ _ => decide_eq_true_iff
  obtain ⟨-, hall⟩ := lines_of_counterFrames hfilter MessageQueue.listQueue_lawful .little events 0
  have hroom : Along (step canMatches MessageQueue.listQueue .little) MsgqHasRoom
      (start MessageQueue.listQueue) events :=
    ⟨fun _ _ _ => by decide, fun _ _ _ => by decide, fun _ _ _ => by decide, trivial⟩
  exact (hall.mpr hroom).trans (by decide)

end RcFirmware.CanReceive
