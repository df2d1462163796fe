import Rtl8821ce.Library.Memory

/-!
# Maps of segments

A map has bytes in some segments, and one value everywhere else.  A range is copied segment by
segment, a single byte is looked up.
-/

namespace Rtl8821ce
namespace SegmentMap

def _FAIL : Nat := 0

def _SUCCESS : Nat := 1

/-- `struct map_seg_t`, with the memory that `c` points to. -/
structure MapSeg where
  sa : UInt16
  len : UInt16
  c : Nat -> UInt8

/-- `struct map_t`; `seg_num` is the length of the list. -/
structure MapT where
  len : UInt16
  init_value : UInt8
  segs : List MapSeg

/-- The bytes that one `_rtw_memcpy` moves. -/
structure Copy where
  c_dst : Nat
  seg : MapSeg
  c_src : Nat
  c_len : Nat

/-- The body of the loop of `map_readN`; `c_len` has 16 bits. -/
def seg_copy (offset len : UInt16) (seg : MapSeg) : Option Copy :=
  let sa := seg.sa.toNat
  let stop := sa + seg.len.toNat
  if stop ≤ offset.toNat ∨ offset.toNat + len.toNat ≤ sa then none
  else if offset.toNat ≤ sa then
    some ⟨sa - offset.toNat, seg, 0,
      if stop ≤ offset.toNat + len.toNat then seg.len.toNat else (offset.toNat + len.toNat - sa) % 2 ^ 16⟩
  else
    some ⟨0, seg, offset.toNat - sa,
      if offset.toNat + len.toNat ≤ stop then len.toNat else (stop - offset.toNat) % 2 ^ 16⟩

def _rtw_memcpy (buf : Nat -> UInt8) (copy : Copy) : Nat -> UInt8 :=
  Memory.write buf copy.c_dst (Memory.read copy.seg.c copy.c_src copy.c_len)

/-- What `map_readN` returns and leaves, with the length that it sets and the copies that it makes. -/
structure ReadN where
  ret : Nat
  buf : Nat -> UInt8
  memset : Nat
  copies : List Copy

/-- `ret` is not assigned again. -/
def map_readN (map : MapT) (offset len : UInt16) (buf : Nat -> UInt8) : ReadN :=
  let ret := _FAIL
  if len = 0 then ⟨ret, buf, 0, []⟩
  else if map.len.toNat < offset.toNat + len.toNat then ⟨ret, buf, 0, []⟩
  else
    let copies := map.segs.filterMap (seg_copy offset len)
    ⟨ret, copies.foldl _rtw_memcpy (Memory.write buf 0 (List.replicate len.toNat map.init_value)), len.toNat, copies⟩

def MapSeg.covers (seg : MapSeg) (offset : Nat) : Bool :=
  !decide (seg.sa.toNat + seg.len.toNat ≤ offset ∨ offset + 1 ≤ seg.sa.toNat)

def map_read8 (map : MapT) (offset : UInt16) : UInt8 :=
  if map.len.toNat < offset.toNat + 1 then map.init_value
  else
    match map.segs.find? (fun seg => seg.covers offset.toNat) with
    | none => map.init_value
    | some seg => seg.c (offset.toNat - seg.sa.toNat)

theorem covers_iff (seg : MapSeg) (x : Nat) :
    seg.covers x = true <-> seg.sa.toNat ≤ x ∧ x < seg.sa.toNat + seg.len.toNat := by
  rw [MapSeg.covers, Bool.not_eq_true', decide_eq_false_iff_not]
  omega

section copy

variable {offset len : UInt16} {seg : MapSeg} {copy : Copy}

theorem seg_copy_some (copied : seg_copy offset len seg = some copy) :
    copy.seg = seg ∧ copy.c_src + copy.c_len ≤ seg.len.toNat ∧ copy.c_dst + copy.c_len ≤ len.toNat ∧
      offset.toNat + copy.c_dst = seg.sa.toNat + copy.c_src ∧
      ∀ k, k < len.toNat ->
        (seg.covers (offset.toNat + k) = true <-> copy.c_dst ≤ k ∧ k < copy.c_dst + copy.c_len) := by
  have seg_len := seg.len.toNat_lt
  have range_len := len.toNat_lt
  unfold seg_copy at copied
  dsimp only at copied
  split at copied
  case isTrue => exact nomatch copied
  case isFalse common =>
    split at copied
    case isTrue from_start =>
      have short : (if seg.sa.toNat + seg.len.toNat ≤ offset.toNat + len.toNat then seg.len.toNat
          else (offset.toNat + len.toNat - seg.sa.toNat) % 2 ^ 16) =
            min seg.len.toNat (offset.toNat + len.toNat - seg.sa.toNat) := by
        split <;> omega
      rw [short] at copied
      rw [← Option.some.inj copied]
      refine ⟨rfl, ?_, ?_, ?_, fun k inside => ?_⟩
      · change 0 + min _ _ ≤ _
        omega
      · change _ - _ + min _ _ ≤ _
        omega
      · change _ + (_ - _) = _ + 0
        omega
      · rw [covers_iff]
        change _ <-> _ - _ ≤ k ∧ k < _ - _ + min _ _
        omega
    case isFalse from_middle =>
      have short : (if offset.toNat + len.toNat ≤ seg.sa.toNat + seg.len.toNat then len.toNat
          else (seg.sa.toNat + seg.len.toNat - offset.toNat) % 2 ^ 16) =
            min len.toNat (seg.sa.toNat + seg.len.toNat - offset.toNat) := by
        split <;> omega
      rw [short] at copied
      rw [← Option.some.inj copied]
      refine ⟨rfl, ?_, ?_, ?_, fun k inside => ?_⟩
      · change _ - _ + min _ _ ≤ _
        omega
      · change 0 + min _ _ ≤ _
        omega
      · change _ + 0 = _ + (_ - _)
        omega
      · rw [covers_iff]
        change _ <-> 0 ≤ k ∧ k < 0 + min _ _
        omega

theorem seg_copy_none (passed : seg_copy offset len seg = none) {k : Nat} (inside : k < len.toNat) :
    seg.covers (offset.toNat + k) = false := by
  unfold seg_copy at passed
  dsimp only at passed
  split at passed
  case isTrue beside =>
    rw [MapSeg.covers, Bool.not_eq_false', decide_eq_true_eq]
    omega
  case isFalse =>
    split at passed <;> cases passed

theorem memcpy_inside (copied : seg_copy offset len seg = some copy) (buf : Nat -> UInt8) {k : Nat}
    (inside : k < len.toNat) (covered : seg.covers (offset.toNat + k) = true) :
    _rtw_memcpy buf copy k = seg.c (offset.toNat + k - seg.sa.toNat) := by
  have ⟨same, _, _, start, range⟩ := seg_copy_some copied
  have ⟨from_dst, before⟩ := (range k inside).mp covered
  have place : k = copy.c_dst + (k - copy.c_dst) := by omega
  have within : k - copy.c_dst < (Memory.read copy.seg.c copy.c_src copy.c_len).length := by
    rw [Memory.length_read]
    omega
  have source : copy.c_src + (k - copy.c_dst) = offset.toNat + k - seg.sa.toNat := by
    have reached := ((covers_iff _ _).mp covered).1
    omega
  rw [_rtw_memcpy, place, Memory.write_of_inside _ within, Memory.getElem_read, ← place, source, same]

theorem memcpy_outside (copied : seg_copy offset len seg = some copy) (buf : Nat -> UInt8) {k : Nat}
    (outside : len.toNat ≤ k ∨ seg.covers (offset.toNat + k) = false) : _rtw_memcpy buf copy k = buf k := by
  have ⟨_, _, fits, _, range⟩ := seg_copy_some copied
  refine Memory.write_of_outside _ ?_
  rw [Memory.length_read]
  by_cases inside : k < len.toNat
  · have not_covered := outside.resolve_left (Nat.not_le.mpr inside)
    by_contra within
    have covered := (range k inside).mpr (by omega)
    exact absurd (covered.symm.trans not_covered) (by decide)
  · omega

end copy

section range

variable {offset len : UInt16}

theorem copies_outside (segs : List MapSeg) (buf : Nat -> UInt8) {k : Nat} (outside : len.toNat ≤ k) :
    (segs.filterMap (seg_copy offset len)).foldl _rtw_memcpy buf k = buf k := by
  induction segs generalizing buf with
  | nil => rfl
  | cons seg rest ih =>
      cases copied : seg_copy offset len seg with
      | none => rw [List.filterMap_cons_none copied, ih]
      | some copy =>
          rw [List.filterMap_cons_some copied, List.foldl_cons, ih, memcpy_outside copied buf (Or.inl outside)]

theorem copies_inside {segs : List MapSeg}
    (apart : segs.Pairwise (fun first second => ∀ x, ¬ (first.covers x = true ∧ second.covers x = true)))
    (buf : Nat -> UInt8) {k : Nat} (inside : k < len.toNat) :
    (segs.filterMap (seg_copy offset len)).foldl _rtw_memcpy buf k =
      match segs.find? (fun seg => seg.covers (offset.toNat + k)) with
      | none => buf k
      | some seg => seg.c (offset.toNat + k - seg.sa.toNat) := by
  induction segs generalizing buf with
  | nil => rfl
  | cons seg rest ih =>
      have ⟨not_rest, rest_apart⟩ := List.pairwise_cons.mp apart
      rw [List.find?_cons]
      cases copied : seg_copy offset len seg with
      | none =>
          rw [List.filterMap_cons_none copied, ih rest_apart, seg_copy_none copied inside]
      | some copy =>
          rw [List.filterMap_cons_some copied, List.foldl_cons, ih rest_apart]
          cases covered : seg.covers (offset.toNat + k) with
          | true =>
              have none : rest.find? (fun seg => seg.covers (offset.toNat + k)) = none :=
                List.find?_eq_none.mpr (fun other member also => not_rest other member _ ⟨covered, also⟩)
              rw [none]
              exact memcpy_inside copied buf inside covered
          | false => rw [memcpy_outside copied buf (Or.inr covered)]

end range

/-- A map whose segments have no byte in common; a segment may be empty, or begin where another
one ends. -/
structure DisjointMap extends MapT where
  apart : segs.Pairwise (fun first second => ∀ x, ¬ (first.covers x = true ∧ second.covers x = true))

/-- The bytes of the range are set, and no others; each segment is read inside its bytes; and every
byte is the one that `map_read8` finds. -/
structure Copied (map : MapT) (offset len : UInt16) (buf : Nat -> UInt8) (read : ReadN) : Prop where
  set : read.memset = len.toNat
  writes : ∀ copy ∈ read.copies, copy.c_dst + copy.c_len ≤ len.toNat
  behind : ∀ k, len.toNat ≤ k -> read.buf k = buf k
  reads : ∀ copy ∈ read.copies, copy.seg ∈ map.segs ∧ copy.c_src + copy.c_len ≤ copy.seg.len.toNat
  bytes : ∀ k, k < len.toNat -> read.buf k = map_read8 map (UInt16.ofNat (offset.toNat + k))

/-- What is promised of a range: success with its bytes, or failure without a change. -/
def Promised (map : MapT) (offset len : UInt16) (buf : Nat -> UInt8) (read : ReadN) : Prop :=
  if offset.toNat + len.toNat ≤ map.len.toNat then read.ret = _SUCCESS ∧ Copied map offset len buf read
  else read = ⟨_FAIL, buf, 0, []⟩

theorem map_readN_inside {map : MapT} {offset len : UInt16} (positive : len ≠ 0)
    (inside : offset.toNat + len.toNat ≤ map.len.toNat) (buf : Nat -> UInt8) :
    map_readN map offset len buf =
      ⟨_FAIL, (map.segs.filterMap (seg_copy offset len)).foldl _rtw_memcpy
        (Memory.write buf 0 (List.replicate len.toNat map.init_value)), len.toNat,
        map.segs.filterMap (seg_copy offset len)⟩ := by
  unfold map_readN
  rw [if_neg positive, if_neg (Nat.not_lt.mpr inside)]

theorem map_readN_copied (map : DisjointMap) {offset len : UInt16} (positive : len ≠ 0)
    (inside : offset.toNat + len.toNat ≤ map.len.toNat) (buf : Nat -> UInt8) :
    Copied map.toMapT offset len buf (map_readN map.toMapT offset len buf) := by
  have bound := map.len.toNat_lt
  have length : (List.replicate len.toNat map.init_value).length = len.toNat := List.length_replicate
  rw [map_readN_inside positive inside]
  refine ⟨rfl, fun copy member => ?_, fun k outside => ?_, fun copy member => ?_, fun k below => ?_⟩
  · have ⟨seg, _, copied⟩ := List.mem_filterMap.mp member
    exact (seg_copy_some copied).2.2.1
  · refine (copies_outside _ _ outside).trans (Memory.write_of_outside _ (Or.inr ?_))
    rw [length, Nat.zero_add]
    exact outside
  · have ⟨seg, listed, copied⟩ := List.mem_filterMap.mp member
    have ⟨same, within, _⟩ := seg_copy_some copied
    rw [same]
    exact ⟨listed, within⟩
  · have place : (UInt16.ofNat (offset.toNat + k)).toNat = offset.toNat + k := Nat.mod_eq_of_lt (by omega)
    have initial : Memory.write buf 0 (List.replicate len.toNat map.init_value) k = map.init_value := by
      have written := @Memory.write_of_inside _ buf 0 k (List.replicate len.toNat map.init_value) (by
        rw [length]
        exact below)
      rw [Nat.zero_add] at written
      rw [written, List.getElem_replicate]
    unfold map_read8
    rw [place, if_neg (by omega)]
    exact (copies_inside map.apart _ below).trans (by rw [initial])

/-- The bytes of a range are always right, but success is never reported: what is promised holds
of the ranges that are not inside the map. -/
theorem map_readN_iff (map : DisjointMap) (offset len : UInt16) (positive : len ≠ 0) (buf : Nat -> UInt8) :
    (Promised map.toMapT offset len buf (map_readN map.toMapT offset len buf) <->
      map.len.toNat < offset.toNat + len.toNat) ∧
    (offset.toNat + len.toNat ≤ map.len.toNat ->
      Copied map.toMapT offset len buf (map_readN map.toMapT offset len buf)) := by
  refine ⟨?_, fun inside => map_readN_copied map positive inside buf⟩
  unfold Promised
  by_cases inside : offset.toNat + len.toNat ≤ map.len.toNat
  · rw [if_pos inside, map_readN_inside positive inside]
    exact iff_of_false (fun promised => nomatch promised.1) (Nat.not_lt.mpr inside)
  · rw [if_neg inside]
    refine iff_of_true ?_ (Nat.not_le.mp inside)
    unfold map_readN
    rw [if_neg positive, if_pos (Nat.not_le.mp inside)]

/-- Four bytes, of which the middle two are in a segment. -/
def small_map : DisjointMap where
  len := 4
  init_value := 0xff
  segs := [⟨1, 2, fun i => if i = 0 then 0x12 else 0x34⟩]
  apart := List.pairwise_singleton _ _

theorem map_readN_iff_beyond :
    Promised small_map.toMapT 2 3 (fun _ => 0) (map_readN small_map.toMapT 2 3 (fun _ => 0)) :=
  (map_readN_iff small_map 2 3 (by decide) (fun _ => 0)).1.mpr (by decide)

/-- The whole map is read, and the answer is a failure. -/
theorem map_readN_fails :
    ¬ ∀ (map : DisjointMap) (offset len : UInt16), len ≠ 0 -> ∀ buf : Nat -> UInt8,
      Promised map.toMapT offset len buf (map_readN map.toMapT offset len buf) := by
  intro promised
  have whole := promised small_map 0 4 (by decide) (fun _ => 0)
  unfold Promised at whole
  rw [if_pos (by decide)] at whole
  exact absurd whole.1 (by decide)

end SegmentMap
end Rtl8821ce
