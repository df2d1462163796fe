import Mathlib.Algebra.Group.Int.Defs
import Mathlib.Algebra.GroupWithZero.Nat
import Mathlib.Tactic.Common

/-!
# The start time of two stations on two channels

Two stations share an interval of 150 ms.  The time at which the interval starts is taken
from the difference of the timers of their access points: for the beacon of the first one
there are three places, which are tried one after the other.  The bounds of the start time
are kept in bytes with a sign.
-/

namespace Rtl8821ce

namespace Mcc

def TU : UInt32 := 1024

def MCC_UPDATE_PARAMETER_THRESHOLD : UInt32 := 5

/-- A station with the beacon period of its access point. -/
structure Station where
  beacon_period : UInt32
  mcc_duration : UInt8

/-- `struct mcc_obj_priv` and the adapters of the device, the primary one and the other one.
`other_first` says that the other one has order 0. -/
structure MccObj where
  duration : UInt8
  interval : UInt8
  start_time : UInt8
  last_tsfdiff : UInt8
  mcc_stop_threshold : UInt8
  primary : Station
  other : Station
  other_first : Bool

def MccObj.iface0 (mcc : MccObj) : Station := if mcc.other_first then mcc.other else mcc.primary

def MccObj.iface1 (mcc : MccObj) : Station := if mcc.other_first then mcc.primary else mcc.other

/-- The bounds of the start time for both stations. -/
structure Bounds where
  upper_0 : Int8
  lower_0 : Int8
  upper_1 : Int8
  lower_1 : Int8

/-- A value of 32 bits that is assigned to a byte with a sign. -/
def to_s8 (value : UInt32) : Int8 := Int8.ofNat value.toNat

def case_bounds (case_num : Nat) (tsfdiff : UInt32) (duration_1 : UInt8) (bounds : Bounds) : Bounds :=
  let duration : UInt32 := duration_1.toUInt32
  let upper_1 : Int8 := Int8.ofInt (150 - duration_1.toNat)
  match case_num with
  | 1 => ⟨to_s8 tsfdiff, to_s8 (tsfdiff - duration), upper_1, 0⟩
  | 2 => ⟨to_s8 (tsfdiff + 100), to_s8 (tsfdiff + 100 - duration), upper_1, 0⟩
  | 3 => ⟨to_s8 (tsfdiff + 50), to_s8 (tsfdiff + 50 - duration), upper_1, 0⟩
  | 4 => ⟨to_s8 tsfdiff, to_s8 (tsfdiff - duration), upper_1, 0⟩
  | 5 => ⟨to_s8 (200 - tsfdiff), to_s8 (200 - tsfdiff - duration), upper_1, 0⟩
  | 6 => ⟨to_s8 (tsfdiff - 50), to_s8 (tsfdiff - 50 - duration), upper_1, 0⟩
  | _ => bounds

/-- A start time that is too small or too large is replaced; whether the new one is accepted
is tested with both comparisons at once. -/
def replaced (start_time : UInt8) (final_lower_bound final_upper_bound : Int8) : Bool × UInt8 :=
  (!((start_time.toNat : Int) < final_lower_bound.toInt ∧ (start_time.toNat : Int) > final_upper_bound.toInt : Bool),
    start_time)

/-- The start time in the common part of the intervals. -/
def choose_start_time (final_lower_bound final_upper_bound : Int8) : Bool × UInt8 :=
  let start_time : UInt8 := UInt8.ofInt ((final_lower_bound.toInt + final_upper_bound.toInt).tdiv 2)
  let (accepted, start_time) :=
    if start_time ≤ 5 then replaced 6 final_lower_bound final_upper_bound else (true, start_time)
  if accepted = false then (false, start_time)
  else if start_time ≥ 95 then replaced 90 final_lower_bound final_upper_bound
  else (true, start_time)

def rtw_hal_mcc_check_start_time_is_valid (case_num : Nat) (tsfdiff : UInt32) (bounds : Bounds) (mcc : MccObj) :
    Bool × Bounds × MccObj :=
  let bounds := case_bounds case_num tsfdiff mcc.iface1.mcc_duration bounds
  if bounds.lower_1 ≥ bounds.upper_0 ∨ bounds.lower_0 ≥ bounds.upper_1 then (false, bounds, mcc)
  else
    let final_upper_bound := if bounds.upper_0 > bounds.upper_1 then bounds.upper_1 else bounds.upper_0
    let final_lower_bound := if bounds.lower_0 > bounds.lower_1 then bounds.lower_0 else bounds.lower_1
    let (intersection, start_time) := choose_start_time final_lower_bound final_upper_bound
    (intersection, bounds, { mcc with start_time })

def rtw_hal_mcc_decide_duration (mcc : MccObj) : MccObj :=
  let mcc_interval : UInt8 := 150
  let duration : UInt8 := if mcc.duration = 0 then 30 else mcc.duration
  let duration_time := UInt8.ofNat (mcc_interval.toNat * duration.toNat / 100)
  { mcc with
    interval := mcc_interval
    mcc_stop_threshold := UInt8.ofNat (2000 * 4 / 300 - 6)
    primary := { mcc.primary with mcc_duration := duration_time }
    other := { mcc.other with mcc_duration := mcc_interval - duration_time } }

/-- `do_div`: the divisor has 32 bits, and there is no division by zero. -/
def rtw_modular64 (x y : UInt64) : Option UInt64 :=
  if y.toUInt32 = 0 then none else some (x % y.toUInt32.toUInt64)

/-- What is left of the timers when a beacon of the first access point is due, in ms. -/
def tsf_difference (tsf0 tsf1 : UInt64) (beaconperiod_0 : UInt32) : UInt32 :=
  (if tsf0 > tsf1 then (tsf0 - tsf1).toUInt32 else (tsf0 + (beaconperiod_0 * TU).toUInt64 - tsf1).toUInt32) / TU

/-- The parameters are updated by force or when the difference has changed enough. -/
def needs_update (force_update : Bool) (last_tsfdiff : UInt8) (tsfdiff : UInt32) : Bool :=
  force_update ||
    if last_tsfdiff.toUInt32 > tsfdiff then last_tsfdiff.toUInt32 > tsfdiff + MCC_UPDATE_PARAMETER_THRESHOLD
    else tsfdiff > last_tsfdiff.toUInt32 && tsfdiff > last_tsfdiff.toUInt32 + MCC_UPDATE_PARAMETER_THRESHOLD

/-- One case that was checked, with the answer and the start time that is stored then. -/
structure Check where
  case_num : Nat
  valid : Bool
  start_time : UInt8

def try_cases (tsfdiff : UInt32) : List Nat -> Bounds -> MccObj -> List Check × MccObj
  | [], _, mcc => ([], mcc)
  | case_num :: rest, bounds, mcc =>
      let (valid, bounds, next) := rtw_hal_mcc_check_start_time_is_valid case_num tsfdiff bounds mcc
      let check : Check := ⟨case_num, valid, next.start_time⟩
      if valid then ([check], next)
      else
        let (checks, last) := try_cases tsfdiff rest bounds next
        (check :: checks, last)

structure Update where
  need_update : Bool
  tsfdiff : UInt32
  checks : List Check
  mcc : MccObj

/-- The part of the update behind the computation of the difference. -/
def update_by_tsfdiff (force_update : Bool) (tsfdiff : UInt32) (mcc : MccObj) : Update :=
  if needs_update force_update mcc.last_tsfdiff tsfdiff then
    let mcc := rtw_hal_mcc_decide_duration { mcc with last_tsfdiff := tsfdiff.toUInt8 }
    let (checks, mcc) := try_cases tsfdiff (if tsfdiff ≤ 50 then [1, 2, 3] else [4, 5, 6]) ⟨0, 0, 0, 0⟩ mcc
    ⟨true, tsfdiff, checks, mcc⟩
  else ⟨false, tsfdiff, [], mcc⟩

/-- For two stations, with the timers that the firmware answers; `none` is a division by
zero. -/
def rtw_hal_mcc_update_timing_parameters (force_update : Bool) (tsf : UInt64 × UInt64) (mcc : MccObj) :
    Option Update := do
  let beaconperiod_0 := mcc.iface0.beacon_period
  let tsf0 <- rtw_modular64 tsf.1 (beaconperiod_0 * TU).toUInt64
  let beaconperiod_1 := mcc.iface1.beacon_period
  let tsf1 <- rtw_modular64 tsf.2 (beaconperiod_1 * TU).toUInt64
  return update_by_tsfdiff force_update (tsf_difference tsf0 tsf1 beaconperiod_0) mcc

end Mcc

end Rtl8821ce
