import RcFirmware.As7341
import Mathlib.Tactic.FinCases

/-!
# Which sample a channel number gets

The third guard tests a channel number for being nonzero, which it is, so nothing comes past it: every
channel but the first two gets the sample of the third, and no channel is refused. What is stored of a
sample is the integer part alone, and the fraction is whatever the value held before.
-/

namespace RcFirmware.As7341

variable (channels : SensorChannels)

namespace SensorChannels

def number : Channel → BitVec 32
  | .f1 => channels.f1415
  | .f2 => channels.f2445
  | .f3 => channels.f3480
  | .f4 => channels.f4515
  | .f5 => channels.f5555
  | .f6 => channels.f6590
  | .f7 => channels.f7630
  | .f8 => channels.f8680
  | .nir => channels.nir
  | .clear => channels.clear
  | .fd => channels.fd

/-- The common channel a channel of the chip also answers to. -/
def alias? : Channel → Option (BitVec 32)
  | .f3 => some channels.blue
  | .f5 => some channels.green
  | .f8 => some channels.red
  | .nir => some channels.ir
  | _ => none

def Names (chan : BitVec 16) (channel : Channel) : Prop :=
  chan.setWidth 32 = channels.number channel ∨ channels.alias? channel = some (chan.setWidth 32)

end SensorChannels

/-- A channel that is named gets its own sample and no fraction, and a number that names none is
refused. -/
structure Dispatches (drvData : DriverData) (val : SensorValue) (chan : BitVec 16) : Prop where
  named : ∀ channel, channels.Names chan channel →
    as7341ChannelGet channels drvData (chan.setWidth 32) val =
      (0, ⟨(drvData.sample channel).setWidth 32, 0⟩)
  unnamed : (∀ channel, ¬ channels.Names chan channel) →
    as7341ChannelGet channels drvData (chan.setWidth 32) val = (-enotsup, val)

/-- A change of the channel's sample shows under exactly the numbers that name it. -/
def ShowsUnder (channel : Channel) (chan : BitVec 16) : Prop :=
  ∀ drvData val sample, sample ≠ drvData.sample channel →
    (as7341ChannelGet channels (drvData.set sample channel) (chan.setWidth 32) val ≠
        as7341ChannelGet channels drvData (chan.setWidth 32) val
      ↔ channels.Names chan channel)

/-- The sample the guards let a number through to. -/
def reached (chan : BitVec 16) : Channel :=
  if chan.setWidth 32 = channels.f1415 then .f1
  else if chan.setWidth 32 = channels.f2445 then .f2
  else .f3

/-! ### The numbers -/

section Numbers

variable {channels} {chan : BitVec 16} {channel other : Channel}

theorem ctorIdx_le (channel : Channel) : channel.ctorIdx ≤ 10 := by
  cases channel <;> decide

theorem ctorIdx_injective : Function.Injective Channel.ctorIdx := by
  intro channel other hidx
  cases channel <;> cases other <;> first | rfl | cases hidx

theorem number_toNat (channel : Channel) :
    (channels.number channel).toNat = channels.privStart.toNat + channel.ctorIdx := by
  have hnumber : channels.number channel = channels.privStart + BitVec.ofNat 32 channel.ctorIdx := by
    cases channel <;> first | rfl | exact (BitVec.add_zero _).symm
  have hfits := channels.fits
  have hidx := ctorIdx_le channel
  rw [hnumber, BitVec.toNat_add, BitVec.toNat_ofNat]
  omega

theorem number_injective (hnumber : channels.number channel = channels.number other) :
    channel = other := by
  have htoNat := congrArg BitVec.toNat hnumber
  rw [number_toNat, number_toNat] at htoNat
  exact ctorIdx_injective (Nat.add_left_cancel htoNat)

theorem alias_lt {number : BitVec 32} (halias : channels.alias? channel = some number) :
    number < channels.privStart := by
  apply channels.common
  cases channel <;> cases halias <;> simp

theorem number_ne_alias {number : BitVec 32} (halias : channels.alias? channel = some number)
    (other : Channel) : number ≠ channels.number other := by
  have hlt : number.toNat < channels.privStart.toNat := alias_lt halias
  rintro rfl
  rw [number_toNat] at hlt
  omega

theorem alias_injective {number : BitVec 32} (halias : channels.alias? channel = some number)
    (hother : channels.alias? other = some number) : channel = other := by
  have hdistinct := channels.distinct
  simp only [List.nodup_cons, List.mem_cons, List.not_mem_nil, or_false, not_or] at hdistinct
  cases channel <;> cases halias <;> cases other <;> grind [SensorChannels.alias?]

/-- A number names one channel at most. -/
theorem names_unique (hnames : channels.Names chan channel) (hother : channels.Names chan other) :
    channel = other := by
  obtain hnumber | halias := hnames <;> obtain hnumber' | halias' := hother
  · exact number_injective (hnumber.symm.trans hnumber')
  · exact absurd hnumber (number_ne_alias halias' channel)
  · exact absurd hnumber' (number_ne_alias halias other)
  · exact alias_injective halias halias'

theorem f3480_ne_zero : channels.f3480 ≠ 0 := by
  intro hzero
  have hnumber : (channels.number .f3).toNat = channels.privStart.toNat + 2 := number_toNat .f3
  rw [show channels.number .f3 = 0 from hzero] at hnumber
  exact absurd hnumber (by simp)

/-! ### The guards -/

theorem names_f1_iff : channels.Names chan .f1 ↔ chan.setWidth 32 = channels.f1415 :=
  or_iff_left nofun

theorem names_f2_iff : channels.Names chan .f2 ↔ chan.setWidth 32 = channels.f2445 :=
  or_iff_left nofun

theorem reached_eq_f1_iff : reached channels chan = .f1 ↔ channels.Names chan .f1 := by
  rw [names_f1_iff, reached]
  split_ifs <;> simp_all

theorem reached_eq_f2_iff : reached channels chan = .f2 ↔ channels.Names chan .f2 := by
  rw [names_f2_iff, reached]
  split_ifs with hf1 hf2
  · refine iff_of_false nofun fun hf2 => ?_
    cases names_unique (names_f1_iff.mpr hf1) (names_f2_iff.mpr hf2)
  · simp [hf2]
  · simp [hf2]

theorem reached_eq_f3_iff :
    reached channels chan = .f3 ↔ ¬ channels.Names chan .f1 ∧ ¬ channels.Names chan .f2 := by
  rw [← reached_eq_f1_iff, ← reached_eq_f2_iff, reached]
  split_ifs <;> simp

variable (channels) in
theorem channelGet_eq (drvData : DriverData) (chan : BitVec 16) (val : SensorValue) :
    as7341ChannelGet channels drvData (chan.setWidth 32) val =
      (0, ⟨(drvData.sample (reached channels chan)).setWidth 32, val.val2⟩) := by
  have hnarrow : ∀ sample : BitVec 16, (sample.setWidth 64).setWidth 32 = sample.setWidth 32 :=
    fun sample => BitVec.setWidth_setWidth_of_le sample (by decide)
  simp only [as7341ChannelGet, Word.setWidth_setWidth_self (show 16 ≤ 32 by decide), reached,
    if_pos (Or.inr f3480_ne_zero), as7341ChannelLuxConvert, hnarrow]
  split_ifs <;> rfl

theorem reached_of_names (hnames : channels.Names chan channel) :
    reached channels chan = if channel = .f1 ∨ channel = .f2 then channel else .f3 := by
  split_ifs with hfirst
  · obtain rfl | rfl := hfirst
    · exact reached_eq_f1_iff.mpr hnames
    · exact reached_eq_f2_iff.mpr hnames
  · rw [not_or] at hfirst
    rw [reached_eq_f3_iff]
    constructor
    · intro hother
      exact hfirst.1 (names_unique hnames hother)
    · intro hother
      exact hfirst.2 (names_unique hnames hother)

theorem reached_of_names_first (hfirst : channel ∈ [Channel.f1, .f2, .f3])
    (hnames : channels.Names chan channel) : reached channels chan = channel := by
  rw [reached_of_names hnames]
  simp only [List.mem_cons, List.not_mem_nil, or_false] at hfirst
  obtain rfl | rfl | rfl := hfirst <;> rfl

theorem sample_reached_eq_iff (drvData : DriverData) (hnames : channels.Names chan channel) :
    drvData.sample (reached channels chan) = drvData.sample channel
      ↔ channel = .f1 ∨ channel = .f2 ∨ drvData.sample channel = drvData.sample .f3 := by
  rw [reached_of_names hnames, ← or_assoc]
  split_ifs with hfirst
  · exact iff_of_true rfl (.inl hfirst)
  · rw [or_iff_right hfirst]
    exact eq_comm

theorem setWidth_injective {sample sample' : BitVec 16}
    (hsample : sample.setWidth 32 = sample'.setWidth 32) : sample = sample' := by
  have hnarrowed := congrArg (BitVec.setWidth 16) hsample
  rwa [Word.setWidth_setWidth_self (by decide), Word.setWidth_setWidth_self (by decide)]
    at hnarrowed

end Numbers

/-! ### Every number -/

theorem dispatches_iff (drvData : DriverData) (val : SensorValue) (chan : BitVec 16) :
    Dispatches channels drvData val chan
      ↔ val.val2 = 0 ∧ ∃ channel, channels.Names chan channel
        ∧ (channel = .f1 ∨ channel = .f2 ∨ drvData.sample channel = drvData.sample .f3) := by
  constructor
  · intro hdispatches
    by_cases hnamed : ∃ channel, channels.Names chan channel
    · obtain ⟨channel, hnames⟩ := hnamed
      have hget := hdispatches.named channel hnames
      simp only [channelGet_eq, Prod.mk.injEq, SensorValue.mk.injEq, true_and] at hget
      exact ⟨hget.2, channel, hnames,
        (sample_reached_eq_iff drvData hnames).mp (setWidth_injective hget.1)⟩
    · have hget := hdispatches.unnamed (not_exists.mp hnamed)
      rw [channelGet_eq] at hget
      exact absurd (congrArg Prod.fst hget) (show (0 : Int) ≠ -enotsup by decide)
  · rintro ⟨hval2, channel, hnames, hsample⟩
    refine ⟨fun other hother => ?_, fun hnone => absurd hnames (hnone channel)⟩
    rw [← names_unique hnames hother, channelGet_eq, hval2,
      (sample_reached_eq_iff drvData hnames).mpr hsample]

theorem channelGet_set_ne_iff {drvData : DriverData} {channel : Channel} {sample : BitVec 16}
    (hsample : sample ≠ drvData.sample channel) (chan : BitVec 16) (val : SensorValue) :
    as7341ChannelGet channels (drvData.set sample channel) (chan.setWidth 32) val ≠
        as7341ChannelGet channels drvData (chan.setWidth 32) val
      ↔ reached channels chan = channel := by
  simp only [channelGet_eq, sample_set, ne_eq, Prod.mk.injEq, SensorValue.mk.injEq, true_and,
    and_true]
  split_ifs with hreached
  · refine iff_of_true (fun hsame => hsample ?_) hreached
    rw [← hreached]
    exact setWidth_injective hsame
  · exact iff_of_false (not_not_intro rfl) hreached

/-- A channel shows under a number as it should when the number leads to it exactly if it names it. -/
theorem showsUnder_iff_reached (channel : Channel) (chan : BitVec 16) :
    ShowsUnder channels channel chan
      ↔ (reached channels chan = channel ↔ channels.Names chan channel) := by
  constructor
  · intro hshows
    have hone : (1 : BitVec 16) ≠
        DriverData.sample ⟨0, 0, 0, 0, 0, 0, 0, 0, 0, 0, 0⟩ channel := by
      cases channel <;> decide
    rw [← channelGet_set_ne_iff channels hone chan ⟨0, 0⟩]
    exact hshows _ _ _ hone
  · intro hreached drvData val sample hsample
    rw [channelGet_set_ne_iff channels hsample chan val, hreached]

/-- Under a number of the first three channels every channel shows as it should. -/
theorem reached_iff_names_of_first {named : Channel} {chan : BitVec 16}
    (hmem : named ∈ [Channel.f1, .f2, .f3]) (hnames : channels.Names chan named)
    (channel : Channel) : reached channels chan = channel ↔ channels.Names chan channel := by
  rw [reached_of_names_first hmem hnames]
  constructor
  · rintro rfl
    exact hnames
  · intro hother
    exact names_unique hnames hother

theorem showsUnder_iff (channel : Channel) (chan : BitVec 16) :
    ShowsUnder channels channel chan
      ↔ (∃ named ∈ [Channel.f1, .f2, .f3], channels.Names chan named)
        ∨ channel ≠ .f3 ∧ ¬ channels.Names chan channel := by
  rw [showsUnder_iff_reached]
  by_cases hfirst : ∃ named ∈ [Channel.f1, .f2, .f3], channels.Names chan named
  · obtain ⟨named, hmem, hnames⟩ := hfirst
    exact iff_of_true (reached_iff_names_of_first channels hmem hnames channel)
      (.inl ⟨named, hmem, hnames⟩)
  · have hnone : ∀ named ∈ [Channel.f1, .f2, .f3], ¬ channels.Names chan named :=
      fun named hmem hnames => hfirst ⟨named, hmem, hnames⟩
    have hreached : reached channels chan = .f3 :=
      reached_eq_f3_iff.mpr ⟨hnone .f1 (by simp), hnone .f2 (by simp)⟩
    rw [hreached, or_iff_right hfirst]
    by_cases hchannel : channel = .f3
    · subst hchannel
      simp [hnone .f3 (by simp)]
    · simp [hchannel, Ne.symm hchannel]

/-- **Dispatch.** A channel number gets what it should exactly when the value held no fraction and the
number names one of the first three channels, or another whose sample happens to be the third's; and a
sample shows under its own numbers exactly for the numbers of the first three channels, and for the
other channels for the numbers that do not name them. -/
theorem channelGet_dispatch_iff (chan : BitVec 16) :
    (∀ drvData val, Dispatches channels drvData val chan
      ↔ val.val2 = 0 ∧ ∃ channel, channels.Names chan channel
        ∧ (channel = .f1 ∨ channel = .f2 ∨ drvData.sample channel = drvData.sample .f3))
      ∧ ∀ channel, ShowsUnder channels channel chan
        ↔ (∃ named ∈ [Channel.f1, .f2, .f3], channels.Names chan named)
          ∨ channel ≠ .f3 ∧ ¬ channels.Names chan channel :=
  ⟨fun drvData val => dispatches_iff channels drvData val chan,
    fun channel => showsUnder_iff channels channel chan⟩

/-- A numbering like Zephyr's. -/
def SensorChannels.zephyr : SensorChannels where
  ir := 18
  red := 19
  green := 20
  blue := 21
  privStart := 58
  distinct := by decide
  common := by simp
  fits := by simp

/-- Channel F4 gets the sample of F3. -/
theorem channelGet_f4_not_dispatched :
    ¬ Dispatches .zephyr ⟨1, 2, 3, 4, 5, 6, 7, 8, 9, 10, 11⟩ ⟨0, 0⟩ 61 := by
  intro hdispatches
  have hget := hdispatches.named .f4 (.inl rfl)
  rw [channelGet_eq] at hget
  exact absurd (congrArg (fun result => result.2.val1) hget) (by decide)

end RcFirmware.As7341
