import Mathlib.Tactic.NormNum

/-!
# The airtime metric of a mesh link

`rtw_airtime_link_metric_get` estimates how long a test frame and its repetitions occupy the
medium.  The estimate is a product of two fixed point numbers.  The driver multiplies them as
32 bit numbers, and widens the product only afterwards.
-/

namespace Rtl8821ce
namespace Airtime

/-- `struct rtw_atlm_param`; the number in `err_rate` has twenty bits behind the point. -/
structure AtlmParam where
  err_rate : UInt64
  data_rate : UInt16

def rtw_ewma_err_rate_read (e : UInt64) : UInt64 := e >>> 20

def RTW_MAX_METRIC : UInt32 := 0xffffffff
def RTW_TEST_FRAME_LEN : UInt32 := 8192
def RTW_ARITH_SHIFT : UInt32 := 8
def RTW_LINK_FAIL_THRESH : UInt32 := 95

def AtlmParam.fail_avg (metrics : AtlmParam) : UInt32 :=
  (rtw_ewma_err_rate_read metrics.err_rate).toUInt32

/-- `plcp` is the answer of `phydm_get_plcp`. -/
def rtw_airtime_link_metric_get (plcp : UInt8) (metrics : AtlmParam) : UInt32 :=
  let device_constant := plcp.toUInt32 <<< RTW_ARITH_SHIFT
  let test_frame_len := RTW_TEST_FRAME_LEN <<< RTW_ARITH_SHIFT
  let s_unit := (1 : UInt32) <<< RTW_ARITH_SHIFT
  if RTW_LINK_FAIL_THRESH < metrics.fail_avg then RTW_MAX_METRIC
  else if metrics.data_rate < 10 then RTW_MAX_METRIC
  else
    let rate := metrics.data_rate.toUInt32
    let err := (metrics.fail_avg <<< RTW_ARITH_SHIFT) / 100
    let tx_time := device_constant + 10 * test_frame_len / rate
    let estimated_retx := ((1 : UInt32) <<< (2 * RTW_ARITH_SHIFT)) / (s_unit - err)
    -- the product is one of 32 bits
    let result := ((tx_time * estimated_retx) >>> (2 * RTW_ARITH_SHIFT)).toUInt64
    ((result * 100) >>> 10).toUInt32

/-- The time for the test frame, in steps of 1/256 us. -/
def tx_time (plcp rate : Nat) : Nat := 256 * plcp + 20971520 / rate

/-- How often a frame is transmitted, in steps of 1/256. -/
def estimated_retx (fail_avg : Nat) : Nat := 65536 / (256 - 256 * fail_avg / 100)

def metric_of_product (product : Nat) : Nat := product / 2 ^ 16 * 100 / 1024

def exact_metric (plcp rate fail_avg : Nat) : Nat :=
  metric_of_product (tx_time plcp rate * estimated_retx fail_avg)

theorem tx_time_anti (plcp : Nat) {slow fast : Nat} (positive : 0 < slow) (faster : slow ≤ fast) :
    tx_time plcp fast ≤ tx_time plcp slow :=
  Nat.add_le_add_left (Nat.div_le_div_left faster positive) _

theorem estimated_retx_mono {less more : Nat} (bound : more ≤ 95) (worse : less ≤ more) :
    estimated_retx less ≤ estimated_retx more := by
  have err : 256 * less / 100 ≤ 256 * more / 100 := Nat.div_le_div_right (Nat.mul_le_mul_left 256 worse)
  exact Nat.div_le_div_left (Nat.sub_le_sub_left err 256) (by omega)

theorem metric_of_product_mono {less more : Nat} (le : less ≤ more) :
    metric_of_product less ≤ metric_of_product more :=
  Nat.div_le_div_right (Nat.mul_le_mul_right 100 (Nat.div_le_div_right le))

theorem tx_time_le (plcp : UInt8) {rate : Nat} (fast : 10 ≤ rate) : tx_time plcp.toNat rate ≤ 2162432 := by
  have whole : 20971520 / rate ≤ 20971520 / 10 := Nat.div_le_div_left fast (by decide)
  have byte : plcp.toNat < 256 := plcp.toNat_lt
  unfold tx_time
  omega

theorem shl_toNat {x : UInt32} (small : x.toNat < 2 ^ 24) : (x <<< RTW_ARITH_SHIFT).toNat = 256 * x.toNat := by
  rw [UInt32.toNat_shiftLeft]
  change x.toNat <<< 8 % 2 ^ 32 = _
  rw [Nat.shiftLeft_eq, Nat.mod_eq_of_lt (by omega), Nat.mul_comm]

theorem err_toNat (metrics : AtlmParam) (usable : metrics.fail_avg ≤ 95) :
    ((metrics.fail_avg <<< RTW_ARITH_SHIFT) / 100).toNat = 256 * metrics.fail_avg.toNat / 100 := by
  have small : metrics.fail_avg.toNat ≤ 95 := usable
  rw [UInt32.toNat_div, shl_toNat (by omega)]
  rfl

theorem tx_time_toNat (plcp : UInt8) (rate : UInt16) (fast : 10 ≤ rate) :
    ((plcp.toUInt32 <<< RTW_ARITH_SHIFT) +
        10 * (RTW_TEST_FRAME_LEN <<< RTW_ARITH_SHIFT) / rate.toUInt32).toNat =
      tx_time plcp.toNat rate.toNat := by
  have byte : plcp.toUInt32.toNat < 256 := plcp.toNat_lt
  have bound : tx_time plcp.toNat rate.toNat ≤ 2162432 := tx_time_le plcp fast
  have frame : (10 * (RTW_TEST_FRAME_LEN <<< RTW_ARITH_SHIFT) / rate.toUInt32).toNat =
      20971520 / rate.toNat := by
    rw [UInt32.toNat_div]
    rfl
  rw [UInt32.toNat_add, shl_toNat (by omega), frame]
  exact Nat.mod_eq_of_lt (Nat.lt_of_le_of_lt bound (by decide))

theorem estimated_retx_toNat (metrics : AtlmParam) (usable : metrics.fail_avg ≤ 95) :
    (((1 : UInt32) <<< (2 * RTW_ARITH_SHIFT)) /
        (((1 : UInt32) <<< RTW_ARITH_SHIFT) - (metrics.fail_avg <<< RTW_ARITH_SHIFT) / 100)).toNat =
      estimated_retx metrics.fail_avg.toNat := by
  have small : metrics.fail_avg.toNat ≤ 95 := usable
  have err := err_toNat metrics usable
  have below : (metrics.fail_avg <<< RTW_ARITH_SHIFT) / 100 ≤ (1 : UInt32) <<< RTW_ARITH_SHIFT := by
    rw [UInt32.le_iff_toNat_le, err]
    change 256 * metrics.fail_avg.toNat / 100 ≤ 256
    omega
  rw [UInt32.toNat_div, UInt32.toNat_sub_of_le _ _ below, err]
  rfl

theorem metric_of_product_toNat (product : UInt32) :
    ((((product >>> (2 * RTW_ARITH_SHIFT)).toUInt64 * 100) >>> 10).toUInt32).toNat =
      metric_of_product product.toNat := by
  have bound : product.toNat < 2 ^ 32 := product.toNat_lt
  have high : (product >>> (2 * RTW_ARITH_SHIFT)).toUInt64.toNat = product.toNat / 2 ^ 16 := by
    change (product >>> (2 * RTW_ARITH_SHIFT)).toNat = _
    rw [UInt32.toNat_shiftRight]
    exact Nat.shiftRight_eq_div_pow product.toNat 16
  have hundredfold : ((product >>> (2 * RTW_ARITH_SHIFT)).toUInt64 * 100).toNat =
      product.toNat / 2 ^ 16 * 100 := by
    rw [UInt64.toNat_mul, high]
    exact Nat.mod_eq_of_lt (show product.toNat / 2 ^ 16 * 100 < 2 ^ 64 by omega)
  rw [UInt64.toNat_toUInt32, UInt64.toNat_shiftRight, hundredfold]
  change (product.toNat / 2 ^ 16 * 100) >>> 10 % 2 ^ 32 = _
  rw [Nat.shiftRight_eq_div_pow]
  exact Nat.mod_eq_of_lt (by omega)

theorem rtw_airtime_link_metric_get_toNat (plcp : UInt8) (metrics : AtlmParam)
    (usable : metrics.fail_avg ≤ 95) (fast : 10 ≤ metrics.data_rate) :
    (rtw_airtime_link_metric_get plcp metrics).toNat =
      metric_of_product
        (tx_time plcp.toNat metrics.data_rate.toNat * estimated_retx metrics.fail_avg.toNat %
          2 ^ 32) := by
  have notFailed : ¬ RTW_LINK_FAIL_THRESH < metrics.fail_avg := UInt32.not_lt.mpr usable
  have notSlow : ¬ metrics.data_rate < 10 := UInt16.not_lt.mpr fast
  unfold rtw_airtime_link_metric_get
  simp only [if_neg notFailed, if_neg notSlow]
  rw [metric_of_product_toNat, UInt32.toNat_mul, tx_time_toNat plcp _ fast, estimated_retx_toNat metrics usable]

/-- The inputs for which the product of the two numbers is one of 32 bits. -/
def ProductFits (plcp rate fail_avg : Nat) : Prop :=
  tx_time plcp rate * estimated_retx fail_avg < 2 ^ 32

instance (plcp rate fail_avg : Nat) : Decidable (ProductFits plcp rate fail_avg) :=
  inferInstanceAs (Decidable (_ < _))

/-- The link can be measured at all. -/
structure Measured (metrics : AtlmParam) : Prop where
  usable : metrics.fail_avg ≤ 95
  fast : 10 ≤ metrics.data_rate

/-- The metric of a link, and how it stands to the metrics of links that are better in one
respect. -/
structure MetricRight (plcp : UInt8) (metrics : AtlmParam) : Prop where
  exact : (rtw_airtime_link_metric_get plcp metrics).toNat =
    exact_metric plcp.toNat metrics.data_rate.toNat metrics.fail_avg.toNat
  noOverflow : tx_time plcp.toNat metrics.data_rate.toNat * estimated_retx metrics.fail_avg.toNat <
    UInt32.size
  grows : ∀ better : AtlmParam, better.data_rate = metrics.data_rate ->
    better.fail_avg ≤ metrics.fail_avg ->
    rtw_airtime_link_metric_get plcp better ≤ rtw_airtime_link_metric_get plcp metrics
  falls : ∀ faster : AtlmParam, faster.fail_avg = metrics.fail_avg ->
    metrics.data_rate ≤ faster.data_rate ->
    rtw_airtime_link_metric_get plcp faster ≤ rtw_airtime_link_metric_get plcp metrics

theorem metric_of_wrapped_product {product : Nat} (wraps : 2 ^ 32 ≤ product) :
    metric_of_product (product % 2 ^ 32) < metric_of_product product := by
  unfold metric_of_product
  omega

theorem metric_exact_iff (plcp : UInt8) (metrics : AtlmParam) (link : Measured metrics) :
    (rtw_airtime_link_metric_get plcp metrics).toNat =
        exact_metric plcp.toNat metrics.data_rate.toNat metrics.fail_avg.toNat <->
      ProductFits plcp.toNat metrics.data_rate.toNat metrics.fail_avg.toNat := by
  rw [rtw_airtime_link_metric_get_toNat plcp metrics link.usable link.fast]
  constructor
  · intro same
    by_contra wraps
    exact absurd same (Nat.ne_of_lt (metric_of_wrapped_product (Nat.le_of_not_lt wraps)))
  · intro fits
    rw [Nat.mod_eq_of_lt fits]
    rfl

theorem metric_le_of_product_le (plcp : UInt8) {better metrics : AtlmParam}
    (link : Measured metrics) (betterLink : Measured better)
    (fits : ProductFits plcp.toNat metrics.data_rate.toNat metrics.fail_avg.toNat)
    (le : tx_time plcp.toNat better.data_rate.toNat * estimated_retx better.fail_avg.toNat ≤
      tx_time plcp.toNat metrics.data_rate.toNat * estimated_retx metrics.fail_avg.toNat) :
    rtw_airtime_link_metric_get plcp better ≤ rtw_airtime_link_metric_get plcp metrics := by
  rw [UInt32.le_iff_toNat_le, (metric_exact_iff plcp better betterLink).mpr (Nat.lt_of_le_of_lt le fits),
    (metric_exact_iff plcp metrics link).mpr fits]
  exact metric_of_product_mono le

theorem airtime_metric_right_iff (plcp : UInt8) (metrics : AtlmParam) (link : Measured metrics) :
    MetricRight plcp metrics <->
      ProductFits plcp.toNat metrics.data_rate.toNat metrics.fail_avg.toNat := by
  constructor
  · intro right
    exact (metric_exact_iff plcp metrics link).mp right.exact
  · intro fits
    have slow : 0 < metrics.data_rate.toNat := Nat.lt_of_lt_of_le (by decide) link.fast
    refine ⟨(metric_exact_iff plcp metrics link).mpr fits, fits, ?_, ?_⟩
    · intro better sameRate fewer
      have betterLink : Measured better :=
        ⟨UInt32.le_trans fewer link.usable, sameRate ▸ link.fast⟩
      refine metric_le_of_product_le plcp link betterLink fits ?_
      rw [sameRate]
      exact Nat.mul_le_mul_left _ (estimated_retx_mono link.usable fewer)
    · intro faster sameFailures higher
      have fasterLink : Measured faster :=
        ⟨sameFailures ▸ link.usable, UInt16.le_trans link.fast higher⟩
      refine metric_le_of_product_le plcp link fasterLink fits ?_
      rw [sameFailures]
      exact Nat.mul_le_mul_right _ (tx_time_anti plcp.toNat slow higher)

def fair_link : AtlmParam where
  err_rate := 34603008
  data_rate := 10

def lossy_link : AtlmParam where
  err_rate := 99614720
  data_rate := 10

theorem airtime_metric_right_fair : Measured fair_link /\ MetricRight 192 fair_link := by
  have link : Measured fair_link := ⟨by decide, by decide⟩
  exact ⟨link, (airtime_metric_right_iff 192 fair_link link).mpr (by decide)⟩

theorem airtime_metric_wraps :
    Measured lossy_link /\ (rtw_airtime_link_metric_get 0 lossy_link).toNat = 2953 /\
      exact_metric 0 10 95 = 15753 /\ ¬ MetricRight 0 lossy_link := by
  have value : (rtw_airtime_link_metric_get 0 lossy_link).toNat = 2953 := by decide
  have formula : exact_metric 0 10 95 = 15753 := by decide
  refine ⟨⟨by decide, by decide⟩, value, formula, ?_⟩
  intro right
  have same : (rtw_airtime_link_metric_get 0 lossy_link).toNat = exact_metric 0 10 95 := right.exact
  rw [value, formula] at same
  exact absurd same (by decide)

end Airtime
end Rtl8821ce
