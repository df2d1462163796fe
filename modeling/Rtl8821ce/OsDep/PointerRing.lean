import Rtl8821ce.Library.Ring
import Rtl8821ce.Library.Run

/-!
# The ring of pointers

One place of the ring stays free, so that a full ring is not taken for an empty one.  The test
for a full ring does not wrap, and does not see it when the read index is zero.
-/

namespace Rtl8821ce
namespace Cbuf

/-- `struct rtw_cbuf`.  A pointer is a number, and `NULL` is zero. -/
structure RtwCbuf where
  write : UInt32
  read : UInt32
  size : UInt32
  bufs : Nat -> Nat

def rtw_cbuf_alloc (size : UInt32) (bufs : Nat -> Nat) : RtwCbuf :=
  { write := 0, read := 0, size := size, bufs := bufs }

def rtw_cbuf_full (cbuf : RtwCbuf) : Bool := cbuf.write == cbuf.read - 1

def rtw_cbuf_empty (cbuf : RtwCbuf) : Bool := cbuf.write == cbuf.read

def rtw_cbuf_push (cbuf : RtwCbuf) (buf : Nat) : Bool × RtwCbuf :=
  if rtw_cbuf_full cbuf then (false, cbuf)
  else
    (true, { cbuf with
      bufs := Function.update cbuf.bufs cbuf.write.toNat buf
      write := (cbuf.write + 1) % cbuf.size })

def rtw_cbuf_pop (cbuf : RtwCbuf) : Nat × RtwCbuf :=
  if rtw_cbuf_empty cbuf then (0, cbuf)
  else (cbuf.bufs cbuf.read.toNat, { cbuf with read := (cbuf.read + 1) % cbuf.size })

namespace RtwCbuf

def count (cbuf : RtwCbuf) : Nat :=
  (cbuf.write.toNat + cbuf.size.toNat - cbuf.read.toNat) % cbuf.size.toNat

def held (cbuf : RtwCbuf) : List Nat :=
  (List.range cbuf.count).map (fun k => cbuf.bufs (Ring.place cbuf.size.toNat cbuf.read.toNat k))

/-- Both indices are in the array, which has two places at least. -/
structure Inside (cbuf : RtwCbuf) : Prop where
  size : 2 ≤ cbuf.size.toNat
  read : cbuf.read.toNat < cbuf.size.toNat
  write : cbuf.write.toNat < cbuf.size.toNat

variable {cbuf : RtwCbuf}

theorem length_held (cbuf : RtwCbuf) : cbuf.held.length = cbuf.count := by
  rw [held, List.length_map, List.length_range]

theorem toNat_next {index : UInt32} (small : index.toNat < cbuf.size.toNat) :
    ((index + 1) % cbuf.size).toNat = Ring.place cbuf.size.toNat index.toNat 1 := by
  have bound := cbuf.size.toNat_lt
  have whole : (index + 1).toNat = index.toNat + 1 := by
    rw [UInt32.toNat_add, UInt32.toNat_one, Nat.mod_eq_of_lt (by omega)]
  rw [UInt32.toNat_mod, whole]
  rfl

namespace Inside

theorem count_lt (inside : cbuf.Inside) : cbuf.count < cbuf.size.toNat :=
  Nat.mod_lt _ (Nat.lt_of_lt_of_le (by decide) inside.size)

theorem write_eq (inside : cbuf.Inside) :
    cbuf.write.toNat = Ring.place cbuf.size.toNat cbuf.read.toNat cbuf.count := by
  have read := inside.read
  have around : cbuf.read.toNat + (cbuf.write.toNat + cbuf.size.toNat - cbuf.read.toNat) =
      cbuf.write.toNat + cbuf.size.toNat := by omega
  rw [Ring.place, count, Nat.add_mod_mod, around, Nat.add_mod_right, Nat.mod_eq_of_lt inside.write]

theorem count_eq (inside : cbuf.Inside) {places : Nat} (small : places < cbuf.size.toNat)
    (write : cbuf.write.toNat = Ring.place cbuf.size.toNat cbuf.read.toNat places) : cbuf.count = places := by
  have read : Ring.place cbuf.size.toNat cbuf.read.toNat 0 = cbuf.read.toNat := Nat.mod_eq_of_lt inside.read
  have distance := @Ring.distance cbuf.size.toNat cbuf.read.toNat 0 places (Nat.zero_le _) small
  rw [read, ← write] at distance
  exact distance

theorem empty_iff (inside : cbuf.Inside) : rtw_cbuf_empty cbuf = true <-> cbuf.count = 0 := by
  rw [rtw_cbuf_empty, beq_iff_eq]
  constructor
  · intro same
    refine inside.count_eq (Nat.zero_lt_of_lt inside.read) ?_
    rw [same]
    exact (Nat.mod_eq_of_lt inside.read).symm
  · intro none
    have write := inside.write_eq
    rw [none, Ring.place, Nat.add_zero, Nat.mod_eq_of_lt inside.read] at write
    exact UInt32.toNat_inj.mp write

theorem full_iff (inside : cbuf.Inside) :
    rtw_cbuf_full cbuf = true <-> cbuf.count + 1 = cbuf.size.toNat ∧ cbuf.read ≠ 0 := by
  have size := inside.size
  have read := inside.read
  have write := inside.write
  have bound := cbuf.size.toNat_lt
  rw [rtw_cbuf_full, beq_iff_eq]
  by_cases zero : cbuf.read = 0
  · refine iff_of_false (fun same => ?_) (fun both => both.2 zero)
    have last : cbuf.write.toNat = 2 ^ 32 - 1 := by
      rw [same, zero]
      rfl
    omega
  · have positive : 0 < cbuf.read.toNat := by
      refine Nat.pos_of_ne_zero (fun none => zero ?_)
      exact UInt32.toNat_inj.mp none
    have before : (cbuf.read - 1).toNat = cbuf.read.toNat - 1 :=
      UInt32.toNat_sub_of_le _ _ (UInt32.le_iff_toNat_le.mpr positive)
    rw [and_iff_left zero, ← UInt32.toNat_inj, before]
    constructor
    · intro same
      have counted := inside.count_eq (Nat.sub_lt (Nat.zero_lt_of_lt read) Nat.one_pos) (by
        have around : cbuf.read.toNat + (cbuf.size.toNat - 1) = cbuf.write.toNat + cbuf.size.toNat := by omega
        rw [Ring.place, around, Nat.add_mod_right, Nat.mod_eq_of_lt write])
      omega
    · intro full
      have last := inside.write_eq
      have around : cbuf.read.toNat + cbuf.count = cbuf.read.toNat - 1 + cbuf.size.toNat := by omega
      rw [Ring.place, around, Nat.add_mod_right, Nat.mod_eq_of_lt (by omega)] at last
      exact last

theorem push (inside : cbuf.Inside) {buf : Nat} (free : cbuf.count + 1 < cbuf.size.toNat) {next : RtwCbuf}
    (pushed : next = { cbuf with
      bufs := Function.update cbuf.bufs cbuf.write.toNat buf
      write := (cbuf.write + 1) % cbuf.size }) : next.Inside ∧ next.held = cbuf.held ++ [buf] := by
  have write : next.write.toNat = Ring.place cbuf.size.toNat cbuf.read.toNat (cbuf.count + 1) := by
    rw [pushed]
    change ((cbuf.write + 1) % cbuf.size).toNat = _
    rw [toNat_next inside.write, inside.write_eq, Ring.place_place]
  have next_inside : next.Inside := by
    subst pushed
    exact ⟨inside.size, inside.read, write ▸ Ring.place_lt (Nat.zero_lt_of_lt inside.read) _ _⟩
  refine ⟨next_inside, ?_⟩
  subst pushed
  rw [held, next_inside.count_eq free write, List.range_succ, List.map_append, List.map_singleton]
  dsimp only
  rw [inside.write_eq, Function.update_self]
  congr 1
  refine List.map_congr_left (fun k member => Function.update_of_ne (fun same => ?_) _ _)
  have early := List.mem_range.mp member
  have reached := Ring.place_injective (by omega) inside.count_lt same
  omega

theorem pop (inside : cbuf.Inside) (some : cbuf.count ≠ 0) {next : RtwCbuf}
    (popped : next = { cbuf with read := (cbuf.read + 1) % cbuf.size }) :
    next.Inside ∧ cbuf.held = cbuf.bufs cbuf.read.toNat :: next.held := by
  have small := inside.count_lt
  have read : next.read.toNat = Ring.place cbuf.size.toNat cbuf.read.toNat 1 := by
    rw [popped]
    exact toNat_next inside.read
  have next_inside : next.Inside := by
    subst popped
    exact ⟨inside.size, read ▸ Ring.place_lt (Nat.zero_lt_of_lt inside.read) _ _, inside.write⟩
  refine ⟨next_inside, ?_⟩
  have same_size : next.size = cbuf.size := popped ▸ rfl
  have same_bufs : next.bufs = cbuf.bufs := popped ▸ rfl
  have same_write : next.write = cbuf.write := popped ▸ rfl
  have counted : next.count = cbuf.count - 1 := by
    refine next_inside.count_eq ?_ ?_
    · rw [same_size]
      omega
    · rw [same_write, same_size, read, ← Ring.place_next _ _ some, inside.write_eq]
  have whole : cbuf.count = cbuf.count - 1 + 1 := by omega
  rw [held, held, whole, List.range_succ_eq_map, List.map_cons, List.map_map, counted, same_size, same_bufs, read]
  congr 1
  · rw [Ring.place, Nat.add_zero, Nat.mod_eq_of_lt inside.read]
  · refine List.map_congr_left (fun k _ => ?_)
    change cbuf.bufs _ = cbuf.bufs _
    rw [Ring.place_place, Nat.add_comm 1 k]

end Inside

end RtwCbuf

/-! ## Runs -/

/-- A buffer of at least two places, and the place where both indices are. -/
structure Fresh where
  size : UInt32
  position : UInt32
  size_ge : 2 ≤ size.toNat
  position_lt : position.toNat < size.toNat

inductive CbufOp
  | push (buf : Nat)
  | pop

/-- What a call answered, and how many pointers were held before it. -/
inductive Answer
  | push (held : Nat) (success : Bool)
  | pop (held : Nat) (buf : Nat)

/-- A push fails with all places but one taken, and a pop gives `NULL` with none taken. -/
def Answer.Right (size : Nat) : Answer -> Prop
  | .push held success => success = false <-> held = size - 1
  | .pop held buf => buf = 0 <-> held = 0

/-- The ring, the pointers that were pushed with success and those that were popped, oldest first,
and the latest answer. -/
structure History where
  cbuf : RtwCbuf
  pushed : List Nat
  popped : List Nat
  answer : Option Answer

namespace History

def start (fresh : Fresh) (bufs : Nat -> Nat) : History where
  cbuf := { rtw_cbuf_alloc fresh.size bufs with write := fresh.position, read := fresh.position }
  pushed := []
  popped := []
  answer := none

def holds (h : History) : Nat := h.pushed.length - h.popped.length

def after_push (h : History) (buf : Nat) (pushed : Bool × RtwCbuf) : History where
  cbuf := pushed.2
  pushed := if pushed.1 then h.pushed ++ [buf] else h.pushed
  popped := h.popped
  answer := some (.push h.holds pushed.1)

def after_pop (h : History) (popped : Nat × RtwCbuf) : History where
  cbuf := popped.2
  pushed := h.pushed
  popped := if popped.1 = 0 then h.popped else h.popped ++ [popped.1]
  answer := some (.pop h.holds popped.1)

def step (h : History) : CbufOp -> History
  | .push buf => h.after_push buf (rtw_cbuf_push h.cbuf buf)
  | .pop => h.after_pop (rtw_cbuf_pop h.cbuf)

end History

/-- What the ring promises: what was pushed is popped in order or still in the ring, and the
latest answer is right. -/
structure Sound (h : History) : Prop where
  order : h.popped ++ h.cbuf.held = h.pushed
  right : ∀ answer, h.answer = some answer -> answer.Right h.cbuf.size.toNat

/-- No push finds the ring full with the read index at zero, and no pop finds `NULL` in the ring. -/
def Meets (h : History) : CbufOp -> Prop
  | .push _ => ¬ (h.cbuf.read = 0 ∧ h.cbuf.write.toNat + 1 = h.cbuf.size.toNat)
  | .pop => h.cbuf.read ≠ h.cbuf.write -> h.cbuf.bufs h.cbuf.read.toNat ≠ 0

structure Kept (h : History) : Prop extends Sound h where
  inside : h.cbuf.Inside

namespace Kept

variable {h : History}

theorem holds_eq (kept : Kept h) : h.holds = h.cbuf.count := by
  rw [History.holds, ← kept.order, List.length_append, Nat.add_sub_cancel_left, RtwCbuf.length_held]

theorem last_iff (kept : Kept h) (zero : h.cbuf.read = 0) :
    h.cbuf.write.toNat + 1 = h.cbuf.size.toNat <-> h.cbuf.count + 1 = h.cbuf.size.toNat := by
  have write := kept.inside.write_eq
  have none : h.cbuf.read.toNat = 0 := congrArg UInt32.toNat zero
  rw [none, Ring.place, Nat.zero_add, Nat.mod_eq_of_lt kept.inside.count_lt] at write
  rw [write]

theorem step_push (kept : Kept h) (buf : Nat) :
    (Meets h (.push buf) -> Kept (h.step (.push buf))) ∧ (Sound (h.step (.push buf)) -> Meets h (.push buf)) := by
  have small := kept.inside.count_lt
  have size := kept.inside.size
  have holds := kept.holds_eq
  by_cases full : rtw_cbuf_full h.cbuf = true
  · have ⟨taken, not_zero⟩ := kept.inside.full_iff.mp full
    have next : h.step (.push buf) = h.after_push buf (false, h.cbuf) := congrArg (h.after_push buf) (if_pos full)
    rw [next]
    refine ⟨fun _ => ⟨⟨kept.order, fun answer same => ?_⟩, kept.inside⟩, fun _ both => not_zero both.1⟩
    rw [← Option.some.inj same]
    refine iff_of_true rfl ?_
    change h.holds = h.cbuf.size.toNat - 1
    omega
  · have next : h.step (.push buf) = h.after_push buf (true, _) := congrArg (h.after_push buf) (if_neg full)
    rw [next]
    constructor
    · intro meets
      have free : h.cbuf.count + 1 < h.cbuf.size.toNat := by
        refine Nat.lt_of_le_of_ne small (fun taken => ?_)
        by_cases zero : h.cbuf.read = 0
        · exact meets ⟨zero, (kept.last_iff zero).mpr taken⟩
        · exact full (kept.inside.full_iff.mpr ⟨taken, zero⟩)
      have ⟨inside, held⟩ := @RtwCbuf.Inside.push h.cbuf kept.inside buf free _ rfl
      have order : h.popped ++ (h.cbuf.held ++ [buf]) = h.pushed ++ [buf] := by
        rw [← List.append_assoc, kept.order]
      rw [← held] at order
      refine ⟨⟨order, fun answer same => ?_⟩, inside⟩
      rw [← Option.some.inj same]
      refine iff_of_false (fun impossible => nomatch impossible) ?_
      change h.holds ≠ h.cbuf.size.toNat - 1
      omega
    · rintro sound ⟨zero, last⟩
      have taken := (kept.last_iff zero).mp last
      have held : h.holds = h.cbuf.size.toNat - 1 := by omega
      have failed : true = false := (sound.right _ rfl).mpr held
      exact nomatch failed

theorem step_pop (kept : Kept h) : (Meets h .pop -> Kept (h.step .pop)) ∧ (Sound (h.step .pop) -> Meets h .pop) := by
  have holds := kept.holds_eq
  by_cases empty : rtw_cbuf_empty h.cbuf = true
  · have none := kept.inside.empty_iff.mp empty
    have next : h.step .pop = h.after_pop (0, h.cbuf) := congrArg h.after_pop (if_pos empty)
    have same_index : h.cbuf.read = h.cbuf.write := (beq_iff_eq.mp empty).symm
    rw [next]
    refine ⟨fun _ => ⟨⟨kept.order, fun answer same => ?_⟩, kept.inside⟩, fun _ different => absurd same_index different⟩
    rw [← Option.some.inj same]
    exact iff_of_true rfl (holds.trans none)
  · have some_held : h.holds ≠ 0 := fun none => empty (kept.inside.empty_iff.mpr (holds.symm.trans none))
    have next : h.step .pop = h.after_pop (h.cbuf.bufs h.cbuf.read.toNat, _) := congrArg h.after_pop (if_neg empty)
    have different : h.cbuf.read ≠ h.cbuf.write := fun same => empty (beq_iff_eq.mpr same.symm)
    rw [next]
    constructor
    · intro meets
      have not_null := meets different
      have ⟨inside, held⟩ := @RtwCbuf.Inside.pop h.cbuf kept.inside (holds ▸ some_held) _ rfl
      have order := kept.order
      rw [held] at order
      refine ⟨⟨?_, fun answer same => ?_⟩, inside⟩
      · change (if h.cbuf.bufs h.cbuf.read.toNat = 0 then h.popped else _) ++ RtwCbuf.held _ = h.pushed
        rw [if_neg not_null, List.append_assoc]
        exact order
      · rw [← Option.some.inj same]
        exact iff_of_false not_null some_held
    · intro sound _ null
      have none : h.holds = 0 := (sound.right _ rfl).mp null
      exact some_held none

end Kept

theorem kept_start (fresh : Fresh) (bufs : Nat -> Nat) : Kept (History.start fresh bufs) := by
  have inside : (History.start fresh bufs).cbuf.Inside := ⟨fresh.size_ge, fresh.position_lt, fresh.position_lt⟩
  have none := inside.empty_iff.mp (beq_self_eq_true fresh.position)
  refine ⟨⟨?_, fun answer impossible => (nomatch impossible)⟩, inside⟩
  have nothing := List.eq_nil_of_length_eq_zero ((RtwCbuf.length_held _).trans none)
  rw [nothing]
  rfl

/-- In every state of a run the pointers are in order and the answers are right exactly when no
push finds the ring full with the read index at zero, and no pop finds `NULL` in the ring. -/
theorem pointer_ring_iff (fresh : Fresh) (bufs : Nat -> Nat) (ops : List CbufOp) :
    (∀ done, done <+: ops -> Sound (Run.execute History.step (History.start fresh bufs) done)) <->
      Run.Guarded History.step Meets (History.start fresh bufs) ops := by
  refine Run.guarded_iff_promised (fun _ kept => kept.toSound) ?_ ?_ (kept_start fresh bufs) ops
  · intro h op meets kept
    cases op with
    | push buf => exact (kept.step_push buf).1 meets
    | pop => exact kept.step_pop.1 meets
  · intro h op kept sound
    cases op with
    | push buf => exact (kept.step_push buf).2 sound
    | pop => exact kept.step_pop.2 sound

def two_places : Fresh := ⟨2, 0, by decide, by decide⟩

/-- The second pointer is taken, and the ring is empty then. -/
theorem pushed_when_full :
    ¬ ∀ ops done, done <+: ops ->
      Sound (Run.execute History.step (History.start two_places (fun _ => 0)) done) := by
  intro sound
  have order := (sound [.push 1, .push 2] [.push 1, .push 2] (List.prefix_refl _)).order
  exact absurd order (by decide)

end Cbuf
end Rtl8821ce
