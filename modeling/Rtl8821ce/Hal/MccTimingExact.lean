import Rtl8821ce.Hal.MccTiming

/-!
# When the start time is right

A bound that is cut to a byte differs from the exact one by a multiple of 256.  A case that is
accepted therefore need not be one whose exact intervals meet, and the start time that
replaces one that is too small or too large need not be in them.
-/

namespace Rtl8821ce

namespace Mcc

/-- The upper bound of the first station, without cutting. -/
def exact_upper_0 (case_num : Nat) (tsfdiff : Int) : Int :=
  match case_num with
  | 1 => tsfdiff
  | 2 => tsfdiff + 100
  | 3 => tsfdiff + 50
  | 4 => tsfdiff
  | 5 => 200 - tsfdiff
  | 6 => tsfdiff - 50
  | _ => 0

/-- A start time in both exact intervals and apart from the ends. -/
structure WithinBounds (upper_0 duration_1 start_time : Int) : Prop where
  lower_0 : upper_0 - duration_1 ≤ start_time
  upper_0 : start_time ≤ upper_0
  lower_1 : 0 ≤ start_time
  upper_1 : start_time ≤ 150 - duration_1
  min_start_time : 5 < start_time
  max_start_time : start_time < 95

/-- The intervals meet when their bounds are cut to bytes. -/
structure Accepts (upper_0 duration_1 : Int) : Prop where
  positive : 1 ≤ upper_0 % 256
  signed : upper_0 % 256 ≤ 127
  short : 23 ≤ duration_1
  long : duration_1 ≤ upper_0 % 256 + 128

/-- The upper bound needs no cutting, the replacement of a small start time lies before the
ends of the intervals, and that of a large one does not lie before them. -/
structure Fits (upper_0 duration_1 : Int) : Prop where
  start : 6 ≤ upper_0
  byte : upper_0 ≤ 127
  short : duration_1 ≤ 144
  late : 91 ≤ upper_0 - duration_1 -> upper_0 - duration_1 + min upper_0 (150 - duration_1) < 190

instance (upper_0 duration_1 : Int) : Decidable (Accepts upper_0 duration_1) :=
  decidable_of_iff (1 ≤ upper_0 % 256 ∧ upper_0 % 256 ≤ 127 ∧ 23 ≤ duration_1 ∧ duration_1 ≤ upper_0 % 256 + 128)
    ⟨fun ⟨positive, signed, short, long⟩ => ⟨positive, signed, short, long⟩,
      fun accepts => ⟨accepts.positive, accepts.signed, accepts.short, accepts.long⟩⟩

def LowByte (byte : Int8) (value : Int) : Prop := ∃ k : Int, value = byte.toInt + 256 * k

theorem lowByte_ofInt (value : Int) : LowByte (Int8.ofInt value) value := by
  refine ⟨(value - value.bmod 256) / 256, ?_⟩
  have cut : (Int8.ofInt value).toInt = value.bmod 256 := Int8.toInt_ofInt
  rw [cut, Int.bmod_def]
  split <;> omega

theorem lowByte_to_s8 {word : UInt32} {value : Int} (same : value % 256 = word.toNat % 256) :
    LowByte (to_s8 word) value := by
  have ⟨k, whole⟩ := lowByte_ofInt (word.toNat : Int)
  refine ⟨k + (value - word.toNat) / 256, ?_⟩
  have cut : to_s8 word = Int8.ofInt (word.toNat : Int) := rfl
  rw [cut]
  omega

theorem case_bounds_bytes {case_num : Nat} (known : case_num ∈ [1, 2, 3, 4, 5, 6]) (tsfdiff : UInt32)
    (duration_1 : UInt8) (bounds : Bounds) :
    let cut := case_bounds case_num tsfdiff duration_1 bounds
    LowByte cut.upper_0 (exact_upper_0 case_num tsfdiff.toNat) ∧
      LowByte cut.lower_0 (exact_upper_0 case_num tsfdiff.toNat - duration_1.toNat) ∧
      LowByte cut.upper_1 (150 - duration_1.toNat) ∧ cut.lower_1 = 0 := by
  have word := tsfdiff.toNat_lt
  have byte := duration_1.toNat_lt
  have hundred : (100 : UInt32).toNat = 100 := rfl
  have fifty : (50 : UInt32).toNat = 50 := rfl
  have two_hundred : (200 : UInt32).toNat = 200 := rfl
  dsimp only
  simp only [List.mem_cons, List.not_mem_nil, or_false] at known
  rcases known with rfl | rfl | rfl | rfl | rfl | rfl <;>
    refine ⟨lowByte_to_s8 ?_, lowByte_to_s8 ?_, lowByte_ofInt _, rfl⟩ <;>
    simp only [exact_upper_0, UInt32.toNat_add, UInt32.toNat_sub, UInt8.toNat_toUInt32, hundred, fifty, two_hundred] <;>
    omega

theorem replaced_of_le {lower upper : Int8} (ordered : lower.toInt ≤ upper.toInt) (start_time : UInt8) :
    replaced start_time lower upper = (true, start_time) := by
  have not_both : ¬ ((start_time.toNat : Int) < lower.toInt ∧ (start_time.toNat : Int) > upper.toInt) := by omega
  unfold replaced
  rw [decide_eq_false not_both]
  rfl

theorem choose_start_time_eq {lower upper : Int8} (positive : 0 ≤ lower.toInt) (ordered : lower.toInt < upper.toInt) :
    ∃ start_time, choose_start_time lower upper = (true, start_time) ∧
      (start_time.toNat : Int) =
        if (lower.toInt + upper.toInt) / 2 ≤ 5 then 6
        else if 95 ≤ (lower.toInt + upper.toInt) / 2 then 90
        else (lower.toInt + upper.toInt) / 2 := by
  have small := upper.toInt_lt
  have half : (UInt8.ofInt ((lower.toInt + upper.toInt).tdiv 2)).toNat = ((lower.toInt + upper.toInt) / 2).toNat := by
    rw [Int.tdiv_eq_ediv_of_nonneg (by omega)]
    show (UInt8.ofNat _).toNat = _
    rw [UInt8.toNat_ofNat']
    omega
  have first : UInt8.ofInt ((lower.toInt + upper.toInt).tdiv 2) ≤ 5 <-> (lower.toInt + upper.toInt) / 2 ≤ 5 := by
    rw [UInt8.le_iff_toNat_le, half]
    show _ ≤ 5 <-> _
    omega
  have second : UInt8.ofInt ((lower.toInt + upper.toInt).tdiv 2) ≥ 95 <-> 95 ≤ (lower.toInt + upper.toInt) / 2 := by
    rw [ge_iff_le, UInt8.le_iff_toNat_le, half]
    show 95 ≤ _ <-> _
    omega
  unfold choose_start_time
  dsimp only
  by_cases early : (lower.toInt + upper.toInt) / 2 ≤ 5
  · rw [if_pos (first.mpr early), replaced_of_le (Int.le_of_lt ordered), if_pos early]
    exact ⟨6, rfl, rfl⟩
  · rw [if_neg (mt first.mp early), if_neg early]
    by_cases late : 95 ≤ (lower.toInt + upper.toInt) / 2
    · refine ⟨90, ?_, (if_pos late).symm⟩
      dsimp only
      rw [if_neg (by decide), if_pos (second.mpr late), replaced_of_le (Int.le_of_lt ordered)]
    · refine ⟨_, ?_, (by rw [if_neg late, half]; omega)⟩
      dsimp only
      rw [if_neg (by decide), if_neg (mt second.mp late)]

theorem meet_iff {upper_0 lower_0 upper_1 : Int8} {exact duration_1 : Int} (positive : 1 ≤ duration_1)
    (below : duration_1 ≤ 149) (upper : LowByte upper_0 exact) (lower : LowByte lower_0 (exact - duration_1))
    (last : LowByte upper_1 (150 - duration_1)) :
    (0 < upper_0.toInt ∧ lower_0.toInt < upper_1.toInt <-> Accepts exact duration_1) ∧
      (Accepts exact duration_1 -> upper_0.toInt = exact % 256 ∧ lower_0.toInt = exact % 256 - duration_1 ∧
        upper_1.toInt = 150 - duration_1) := by
  rcases upper with ⟨k, upper⟩
  rcases lower with ⟨j, lower⟩
  rcases last with ⟨i, last⟩
  have upper_small := upper_0.toInt_lt
  have upper_large := upper_0.le_toInt
  have lower_small := lower_0.toInt_lt
  have lower_large := lower_0.le_toInt
  have last_small := upper_1.toInt_lt
  have last_large := upper_1.le_toInt
  refine ⟨⟨?_, ?_⟩, ?_⟩
  · intro ⟨after, before⟩
    exact ⟨by omega, by omega, by omega, by omega⟩
  · intro ⟨after, signed, short, long⟩
    omega
  · intro ⟨after, signed, short, long⟩
    omega

theorem within_iff_fits {exact duration_1 start_time : Int} (accepts : Accepts exact duration_1)
    (chosen : start_time =
      let middle := (max (exact % 256 - duration_1) 0 + min (exact % 256) (150 - duration_1)) / 2
      if middle ≤ 5 then 6 else if 95 ≤ middle then 90 else middle) (below : duration_1 ≤ 149) :
    WithinBounds exact duration_1 start_time <-> Fits exact duration_1 := by
  rcases accepts with ⟨positive, signed, short, long⟩
  dsimp only at chosen
  constructor
  · intro ⟨lower_0, upper_0, lower_1, upper_1, min_start_time, max_start_time⟩
    split at chosen
    · exact ⟨by omega, by omega, by omega, by omega⟩
    · split at chosen <;> exact ⟨by omega, by omega, by omega, by omega⟩
  · intro ⟨start, byte, short, late⟩
    split at chosen
    · exact ⟨by omega, by omega, by omega, by omega, by omega, by omega⟩
    · split at chosen <;> exact ⟨by omega, by omega, by omega, by omega, by omega, by omega⟩

/-- What a check does: the exact condition under which it accepts a case, and the one under
which the start time that it stores is right. -/
structure Checked (case_num : Nat) (tsfdiff : UInt32) (mcc : MccObj) (valid : Bool) (next : MccObj) : Prop where
  valid_iff : valid = true <-> Accepts (exact_upper_0 case_num tsfdiff.toNat) mcc.iface1.mcc_duration.toNat
  within_iff : valid = true ->
    (WithinBounds (exact_upper_0 case_num tsfdiff.toNat) mcc.iface1.mcc_duration.toNat next.start_time.toNat <->
      Fits (exact_upper_0 case_num tsfdiff.toNat) mcc.iface1.mcc_duration.toNat)
  iface0 : next.iface0 = mcc.iface0
  iface1 : next.iface1 = mcc.iface1

theorem check_spec {case_num : Nat} (known : case_num ∈ [1, 2, 3, 4, 5, 6]) (tsfdiff : UInt32) (bounds : Bounds)
    {mcc : MccObj} (positive : 1 ≤ mcc.iface1.mcc_duration.toNat) (below : mcc.iface1.mcc_duration.toNat ≤ 149) :
    let answer := rtw_hal_mcc_check_start_time_is_valid case_num tsfdiff bounds mcc
    Checked case_num tsfdiff mcc answer.1 answer.2.2 := by
  have ⟨upper, lower, last, zero⟩ := case_bounds_bytes known tsfdiff mcc.iface1.mcc_duration bounds
  unfold rtw_hal_mcc_check_start_time_is_valid
  dsimp only
  generalize case_bounds case_num tsfdiff mcc.iface1.mcc_duration bounds = cut at upper lower last zero ⊢
  have ⟨meet, bytes⟩ := meet_iff (by omega) (by omega) upper lower last
  rw [zero]
  have apart_iff : (0 : Int8) ≥ cut.upper_0 ∨ cut.lower_0 ≥ cut.upper_1 <->
      cut.upper_0.toInt ≤ 0 ∨ cut.upper_1.toInt ≤ cut.lower_0.toInt :=
    or_congr Int8.le_iff_toInt_le Int8.le_iff_toInt_le
  by_cases apart : (0 : Int8) ≥ cut.upper_0 ∨ cut.lower_0 ≥ cut.upper_1
  · rw [if_pos apart]
    have refused : ¬ Accepts (exact_upper_0 case_num tsfdiff.toNat) mcc.iface1.mcc_duration.toNat := by
      rw [apart_iff] at apart
      rw [← meet]
      omega
    exact ⟨iff_of_false Bool.false_ne_true refused, fun impossible => absurd impossible Bool.false_ne_true, rfl, rfl⟩
  · rw [if_neg apart]
    have accepts := meet.mp (by rw [apart_iff] at apart; omega)
    have ⟨upper_eq, lower_eq, last_eq⟩ := bytes accepts
    have final_upper : (if cut.upper_0 > cut.upper_1 then cut.upper_1 else cut.upper_0).toInt =
        min (exact_upper_0 case_num tsfdiff.toNat % 256) (150 - mcc.iface1.mcc_duration.toNat) := by
      rcases Int.lt_or_le cut.upper_1.toInt cut.upper_0.toInt with larger | smaller
      · rw [if_pos (Int8.lt_iff_toInt_lt.mpr larger)]
        omega
      · rw [if_neg (mt Int8.lt_iff_toInt_lt.mp (Int.not_lt.mpr smaller))]
        omega
    have final_lower : (if cut.lower_0 > 0 then cut.lower_0 else (0 : Int8)).toInt =
        max (exact_upper_0 case_num tsfdiff.toNat % 256 - mcc.iface1.mcc_duration.toNat) 0 := by
      rcases Int.lt_or_le (0 : Int8).toInt cut.lower_0.toInt with larger | smaller
      · have above : (0 : Int) < cut.lower_0.toInt := larger
        rw [if_pos (Int8.lt_iff_toInt_lt.mpr larger)]
        omega
      · have under : cut.lower_0.toInt ≤ (0 : Int) := smaller
        rw [if_neg (mt Int8.lt_iff_toInt_lt.mp (Int.not_lt.mpr smaller))]
        change 0 = _
        omega
    have ⟨after, signed, short, _⟩ := accepts
    have ⟨start_time, chosen, value⟩ := @choose_start_time_eq
      (if cut.lower_0 > 0 then cut.lower_0 else (0 : Int8)) (if cut.upper_0 > cut.upper_1 then cut.upper_1 else cut.upper_0)
      (by rw [final_lower]; omega) (by rw [final_lower, final_upper]; omega)
    rw [chosen]
    rw [final_lower, final_upper] at value
    exact ⟨iff_of_true rfl accepts, fun _ => within_iff_fits accepts value (by omega), rfl, rfl⟩

/-- The first case that is accepted has a right start time. -/
def FirstFits (duration_1 : Int) : List Int -> Prop
  | [] => True
  | upper_0 :: rest => if Accepts upper_0 duration_1 then Fits upper_0 duration_1 else FirstFits duration_1 rest

/-- Every case that was found valid has a right start time. -/
def ChecksRight (tsfdiff duration_1 : Int) (checks : List Check) : Prop :=
  ∀ check ∈ checks, check.valid = true ->
    WithinBounds (exact_upper_0 check.case_num tsfdiff) duration_1 check.start_time.toNat

theorem try_cases_spec (tsfdiff : UInt32) {cases : List Nat}
    (known : ∀ case_num ∈ cases, case_num ∈ [1, 2, 3, 4, 5, 6]) (bounds : Bounds) {mcc : MccObj}
    (positive : 1 ≤ mcc.iface1.mcc_duration.toNat) (below : mcc.iface1.mcc_duration.toNat ≤ 149) :
    (ChecksRight tsfdiff.toNat mcc.iface1.mcc_duration.toNat (try_cases tsfdiff cases bounds mcc).1 <->
      FirstFits mcc.iface1.mcc_duration.toNat (cases.map (exact_upper_0 · tsfdiff.toNat))) ∧
      (try_cases tsfdiff cases bounds mcc).2.iface0 = mcc.iface0 ∧
      (try_cases tsfdiff cases bounds mcc).2.iface1 = mcc.iface1 := by
  induction cases generalizing bounds mcc with
  | nil => exact ⟨iff_of_true (fun _ none => absurd none List.not_mem_nil) trivial, rfl, rfl⟩
  | cons case_num rest ih =>
      have spec := check_spec (known case_num List.mem_cons_self) tsfdiff bounds positive below
      dsimp only at spec
      unfold try_cases
      generalize rtw_hal_mcc_check_start_time_is_valid case_num tsfdiff bounds mcc = answer at spec ⊢
      rcases answer with ⟨valid, cut, next⟩
      dsimp only at spec ⊢
      have same0 := spec.iface0
      have same1 := spec.iface1
      rw [List.map_cons, FirstFits]
      cases valid with
      | true =>
          rw [if_pos rfl, if_pos (spec.valid_iff.mp rfl), ← spec.within_iff rfl]
          refine ⟨⟨fun right => right _ List.mem_cons_self rfl, ?_⟩, same0, same1⟩
          intro within check member _
          rw [List.mem_singleton.mp member]
          exact within
      | false =>
          rw [if_neg Bool.false_ne_true, if_neg (fun accepts => absurd (spec.valid_iff.mpr accepts) Bool.false_ne_true)]
          have later := @ih (fun other member => known other (List.mem_cons_of_mem _ member)) cut next
            (by rw [same1]; exact positive) (by rw [same1]; exact below)
          rw [same0, same1] at later
          refine ⟨?_, later.2⟩
          rw [← later.1]
          constructor
          · exact fun right check member => right check (List.mem_cons_of_mem _ member)
          · intro right check member valid
            rcases List.mem_cons.mp member with rfl | behind
            · exact absurd valid Bool.false_ne_true
            · exact right check behind valid

/-- The share of the second station in the 150 ms, by the percentage of the primary one. -/
def MccObj.duration_1 (mcc : MccObj) : Nat :=
  if mcc.other_first then 150 * mcc.duration.toNat / 100 else 150 - 150 * mcc.duration.toNat / 100

theorem decide_duration_spec {mcc : MccObj} (positive : 1 ≤ mcc.duration.toNat) (below : mcc.duration.toNat ≤ 99) :
    (rtw_hal_mcc_decide_duration mcc).iface1.mcc_duration.toNat = mcc.duration_1 ∧
      (rtw_hal_mcc_decide_duration mcc).iface0.mcc_duration.toNat = 150 - mcc.duration_1 ∧
      1 ≤ mcc.duration_1 ∧ mcc.duration_1 ≤ 149 := by
  have given : mcc.duration ≠ 0 := by
    intro zero
    rw [zero] at positive
    exact absurd positive (by decide)
  have primary : (UInt8.ofNat ((150 : UInt8).toNat * mcc.duration.toNat / 100)).toNat = 150 * mcc.duration.toNat / 100 := by
    rw [UInt8.toNat_ofNat']
    show 150 * mcc.duration.toNat / 100 % 256 = _
    omega
  have other : ((150 : UInt8) - UInt8.ofNat ((150 : UInt8).toNat * mcc.duration.toNat / 100)).toNat =
      150 - 150 * mcc.duration.toNat / 100 := by
    rw [UInt8.toNat_sub, primary]
    show (256 - 150 * mcc.duration.toNat / 100 + 150) % 256 = _
    omega
  unfold rtw_hal_mcc_decide_duration MccObj.iface0 MccObj.iface1 MccObj.duration_1
  dsimp only
  rw [if_neg given]
  cases mcc.other_first with
  | true =>
      rw [if_pos rfl, if_pos rfl, if_pos rfl, primary, other]
      omega
  | false =>
      rw [if_neg Bool.false_ne_true, if_neg Bool.false_ne_true, if_neg Bool.false_ne_true, primary, other]
      omega

/-- Nothing is divided by zero, the start times of the valid cases are right, and durations
that are set share the interval. -/
structure Sound (update : Update) : Prop where
  checks : ChecksRight update.tsfdiff.toNat update.mcc.iface1.mcc_duration.toNat update.checks
  durations : update.need_update = true ->
    0 < update.mcc.iface0.mcc_duration.toNat ∧ 0 < update.mcc.iface1.mcc_duration.toNat ∧
      update.mcc.iface0.mcc_duration.toNat + update.mcc.iface1.mcc_duration.toNat = 150

/-- The difference of the timers that the stations' access points have. -/
def MccObj.tsfdiff (mcc : MccObj) (tsf : UInt64 × UInt64) : UInt32 :=
  tsf_difference (tsf.1 % (mcc.iface0.beacon_period * TU).toUInt64) (tsf.2 % (mcc.iface1.beacon_period * TU).toUInt64)
    mcc.iface0.beacon_period

def upper_bounds (tsfdiff : Int) : List Int :=
  if tsfdiff ≤ 50 then [tsfdiff, tsfdiff + 100, tsfdiff + 50] else [tsfdiff, 200 - tsfdiff, tsfdiff - 50]

/-- The beacon periods are no multiples of 2^22, and when the parameters are updated, the
first case that is accepted fits. -/
structure Meets (force_update : Bool) (tsf : UInt64 × UInt64) (mcc : MccObj) : Prop where
  beaconperiod_0 : mcc.iface0.beacon_period.toNat % 2 ^ 22 ≠ 0
  beaconperiod_1 : mcc.iface1.beacon_period.toNat % 2 ^ 22 ≠ 0
  fits : needs_update force_update mcc.last_tsfdiff (mcc.tsfdiff tsf) = true ->
    FirstFits mcc.duration_1 (upper_bounds (mcc.tsfdiff tsf).toNat)

theorem rtw_modular64_eq (x : UInt64) (period : UInt32) : rtw_modular64 x (period * TU).toUInt64 =
    if period.toNat % 2 ^ 22 = 0 then none else some (x % (period * TU).toUInt64) := by
  have whole : (period * TU).toUInt64.toUInt32 = period * TU := UInt32.toUInt32_toUInt64 _
  have zero_iff : period * TU = 0 <-> period.toNat % 2 ^ 22 = 0 := by
    rw [← UInt32.toNat_inj, UInt32.toNat_mul]
    show period.toNat * 1024 % 2 ^ 32 = 0 <-> _
    omega
  unfold rtw_modular64
  rw [whole]
  by_cases zero : period * TU = 0
  · rw [if_pos zero, if_pos (zero_iff.mp zero)]
  · rw [if_neg zero, if_neg (mt zero_iff.mpr zero)]

theorem cases_known (tsfdiff : UInt32) : ∀ case_num,
    case_num ∈ (if tsfdiff ≤ 50 then [1, 2, 3] else [4, 5, 6]) -> case_num ∈ [1, 2, 3, 4, 5, 6] := by
  split <;> decide

theorem cases_upper_bounds (tsfdiff : UInt32) :
    (if tsfdiff ≤ 50 then [1, 2, 3] else [4, 5, 6]).map (exact_upper_0 · tsfdiff.toNat) = upper_bounds tsfdiff.toNat := by
  have same : tsfdiff ≤ 50 <-> (tsfdiff.toNat : Int) ≤ 50 := by
    rw [UInt32.le_iff_toNat_le]
    show tsfdiff.toNat ≤ 50 <-> _
    omega
  unfold upper_bounds
  by_cases close : tsfdiff ≤ 50
  · rw [if_pos close, if_pos (same.mp close)]
    rfl
  · rw [if_neg close, if_neg (mt same.mpr close)]
    rfl

theorem update_by_tsfdiff_sound_iff (force_update : Bool) (tsfdiff : UInt32) {mcc : MccObj}
    (positive : 1 ≤ mcc.duration.toNat) (below : mcc.duration.toNat ≤ 99) :
    Sound (update_by_tsfdiff force_update tsfdiff mcc) <->
      (needs_update force_update mcc.last_tsfdiff tsfdiff = true ->
        FirstFits mcc.duration_1 (upper_bounds tsfdiff.toNat)) := by
  unfold update_by_tsfdiff
  by_cases due : needs_update force_update mcc.last_tsfdiff tsfdiff = true
  · have ⟨share1, share0, least, most⟩ := @decide_duration_spec { mcc with last_tsfdiff := tsfdiff.toUInt8 } positive below
    have ⟨right, same0, same1⟩ := try_cases_spec tsfdiff (cases_known tsfdiff) ⟨0, 0, 0, 0⟩ (share1.symm ▸ least)
      (share1.symm ▸ most)
    rw [cases_upper_bounds, share1] at right
    rw [if_pos due]
    constructor
    · intro sound _
      have checks := sound.checks
      dsimp only at checks
      rw [same1, share1] at checks
      exact right.mp checks
    · intro fits
      refine ⟨?_, fun _ => ?_⟩
      · dsimp only
        rw [same1, share1]
        exact right.mpr (fits due)
      · dsimp only
        rw [same0, same1, share0, share1]
        omega
  · rw [if_neg due]
    exact iff_of_true ⟨fun _ none => absurd none List.not_mem_nil, fun set => absurd set Bool.false_ne_true⟩
      (fun needed => absurd needed due)

/-- For every percentage from 1 to 99: the update does as it should exactly under the
condition. -/
theorem update_timing_sound_iff (force_update : Bool) (tsf : UInt64 × UInt64) {mcc : MccObj}
    (positive : 1 ≤ mcc.duration.toNat) (below : mcc.duration.toNat ≤ 99) :
    (∃ update,
        rtw_hal_mcc_update_timing_parameters force_update tsf mcc = some update ∧ Sound update) <->
      Meets force_update tsf mcc := by
  unfold rtw_hal_mcc_update_timing_parameters
  dsimp only
  rw [rtw_modular64_eq, rtw_modular64_eq]
  by_cases zero0 : mcc.iface0.beacon_period.toNat % 2 ^ 22 = 0
  · rw [if_pos zero0]
    exact iff_of_false (by rintro ⟨_, ⟨⟩, _⟩) (fun meets => meets.beaconperiod_0 zero0)
  by_cases zero1 : mcc.iface1.beacon_period.toNat % 2 ^ 22 = 0
  · rw [if_neg zero0, if_pos zero1]
    exact iff_of_false (by rintro ⟨_, ⟨⟩, _⟩) (fun meets => meets.beaconperiod_1 zero1)
  rw [if_neg zero0, if_neg zero1]
  have sound_iff := update_by_tsfdiff_sound_iff force_update (mcc.tsfdiff tsf) positive below
  constructor
  · rintro ⟨update, result, sound⟩
    rw [← Option.some.inj result] at sound
    exact ⟨zero0, zero1, sound_iff.mp sound⟩
  · intro meets
    exact ⟨_, rfl, sound_iff.mpr meets.fits⟩

/-- Both access points have a beacon every 100 TU and share the time equally, and the first
beacon comes 40 ms after the second one. -/
def equal_shares : MccObj := ⟨50, 0, 0, 0, 0, ⟨100, 0⟩, ⟨100, 0⟩, false⟩

theorem update_timing_equal_shares :
    ∃ update,
      rtw_hal_mcc_update_timing_parameters true (40 * 1024, 0) equal_shares = some update ∧ Sound update := by
  refine (update_timing_sound_iff true (40 * 1024, 0) (by decide) (by decide)).mpr ⟨by decide, by decide, fun _ => ?_⟩
  have difference : (equal_shares.tsfdiff (40 * 1024, 0)).toNat = 40 := by decide
  rw [difference]
  exact ⟨by decide, by decide, by decide, by decide⟩

/-- When it comes 3 ms after the second one, the start time is set to 6 ms, which is behind the
bound of 3 ms. -/
theorem update_timing_misses : ¬ ∀ tsf : UInt64 × UInt64,
    ∃ update,
      rtw_hal_mcc_update_timing_parameters true tsf equal_shares = some update ∧ Sound update := by
  intro all
  have ⟨update, result, sound⟩ := all (3 * 1024, 0)
  have known : rtw_hal_mcc_update_timing_parameters true (3 * 1024, 0) equal_shares =
      some ⟨true, 3, [⟨1, true, 6⟩], ⟨50, 150, 6, 3, 20, ⟨100, 75⟩, ⟨100, 75⟩, false⟩⟩ := by
    rfl
  rw [Option.some.inj (result.symm.trans known)] at sound
  exact absurd (sound.checks ⟨1, true, 6⟩ List.mem_cons_self rfl).upper_0 (by decide)

end Mcc

end Rtl8821ce
