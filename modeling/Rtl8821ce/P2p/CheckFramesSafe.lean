import Mathlib.Data.List.Perm.Subperm
import Rtl8821ce.P2p.CheckFrames
import Rtl8821ce.P2p.ChannelListSafe

/-!
# When a P2P action frame is followed safely

A frame that is sent is changed before it is looked at: then its channel list has two
channels at most.  Otherwise it is looked at as it came.
-/

namespace Rtl8821ce
namespace P2p

open Program (Decides exists_succeeds_iff get_bind_eq_ok keeps_get keeps_ite keeps_pure keeps_require
  keeps_stop keeps_update succeeds_iff)

variable {s t : Wdev} {ie : Nat × Nat} {host : Host} {adapter : Adapter}

abbrev KeepsMem {Value : Type} (program : P2pProgram Value) : Prop := Program.Keeps Wdev.mem program

theorem keeps_load (stop place : Nat) : KeepsMem (load stop place) :=
  (keeps_require _ _ _).bind fun _ => (keeps_get _).bind fun _ => keeps_pure _ _

theorem keeps_get_attr_content (fuel : Nat) (ie : Nat × Nat) (attr_id : UInt8) :
    KeepsMem (get_attr_content fuel ie attr_id) := by
  refine (keeps_get _).bind fun s => ?_
  cases rtw_get_p2p_attr_content s.mem ie.1 ie.2 attr_id fuel with
  | none => exact keeps_stop _ _
  | some content => exact keeps_pure _ _

section visits

variable {visit : Nat -> P2pProgram Bool}

theorem keeps_for_channels (keeps : ∀ place, KeepsMem (visit place)) (count place : Nat) :
    KeepsMem (for_channels visit count place) := by
  induction count generalizing place with
  | zero => exact keeps_pure _ _
  | succ count ih =>
      exact (keeps place).bind fun leave => keeps_ite (keeps_pure _ _) (ih _)

theorem keeps_walk_entries (keeps : ∀ place, KeepsMem (visit place)) (stop fuel place left : Nat) :
    KeepsMem (walk_entries stop visit fuel place left) := by
  induction fuel generalizing place left with
  | zero => exact keeps_stop _ _
  | succ fuel ih =>
      refine keeps_ite ?_ (keeps_pure _ _)
      exact (keeps_load _ _).bind fun _ => (keeps_for_channels keeps _ _).bind fun _ => ih _ _

end visits

theorem keeps_walk_ch_list {visit : Nat -> Nat -> P2pProgram Bool} (keeps : ∀ stop place, KeepsMem (visit stop place))
    (fuel : Nat) (ie : Nat × Nat) : KeepsMem (walk_ch_list fuel visit ie) := by
  refine (keeps_get_attr_content _ _ _).bind fun content => ?_
  cases content with
  | none => exact keeps_pure _ _
  | some content => exact keeps_walk_entries (keeps _) _ _ _ _

theorem keeps_each_p2p_ie {action : Nat × Nat -> P2pProgram PUnit} (keeps : ∀ ie, KeepsMem (action ie))
    (ies : Nat) (ies_len : Int) (fuel : Nat) (start : Option (Nat × Nat)) :
    KeepsMem (each_p2p_ie ies ies_len action fuel start) := by
  induction fuel generalizing start with
  | zero => exact keeps_stop _ _
  | succ fuel ih =>
      cases start with
      | none => exact keeps_pure _ _
      | some ie => exact (keeps ie).bind fun _ => (keeps_get _).bind fun _ => ih _

theorem keeps_chk (fuel frame_body len : Nat) : KeepsMem (rtw_chk_p2pie_ch_list_with_buddy host fuel frame_body len) := by
  refine Program.Keeps.bind (keeps_update ?_) fun _ => Program.Keeps.bind ?_ fun _ =>
    (keeps_get _).bind fun _ => keeps_pure _ _
  · exact fun _ => rfl
  · refine (keeps_get _).bind fun _ => keeps_each_p2p_ie (fun ie => keeps_walk_ch_list (fun _ _ => ?_) _ _) _ _ _ _
    refine (keeps_load _ _).bind fun _ => keeps_ite
      (Program.Keeps.bind (keeps_update ?_) fun _ => keeps_pure _ _) (keeps_pure _ _)
    exact fun _ => rfl

theorem keeps_note (stop place : Nat) : KeepsMem (note_channel stop place) := by
  refine (keeps_load _ _).bind fun _ => (keeps_get _).bind fun _ => keeps_ite (keeps_pure _ _) ?_
  refine (keeps_require _ _ _).bind fun _ => Program.Keeps.bind (keeps_update ?_) fun _ =>
    keeps_pure _ _
  exact fun _ => rfl

theorem keeps_print_texts (buf_len : Nat) (texts : List (List UInt8)) (w_sz : Nat) :
    KeepsMem (print_texts host buf_len texts w_sz) := by
  induction texts generalizing w_sz with
  | nil => exact keeps_pure _ _
  | cons text rest ih =>
      refine keeps_ite (ih _) ((keeps_require _ _ _).bind fun _ =>
        Program.Keeps.bind (keeps_update ?_) fun _ => ih _)
      exact fun _ => rfl

theorem keeps_dump (fuel buf_len : Nat) (ie : Nat × Nat) : KeepsMem (dump_p2p_attr_ch_list host fuel ie buf_len) := by
  refine Program.Keeps.bind (keeps_update ?_) fun _ => (keeps_walk_ch_list keeps_note _ _).bind fun _ =>
    (keeps_get _).bind fun _ => keeps_print_texts _ _ _
  exact fun _ => rfl

def Adjusted (host : Host) (channel : UInt8) : Prop := channel = 0 ∨ channel = host.union_ch

theorem adjust_channel_adjusts {stop place : Nat} {leave : Bool}
    (success : adjust_channel host stop place s = (.ok leave, t)) :
    Adjusted host (t.mem place) ∧ ∀ p, t.mem p = s.mem p ∨ t.mem p = host.union_ch := by
  rw [adjust_channel_eq (adjust_channel_inside success)] at success
  by_cases other : s.mem place ≠ 0 ∧ s.mem place ≠ host.union_ch
  · rw [if_pos other] at success
    have same : { s with mem := Function.update s.mem place host.union_ch } = t := congrArg Prod.snd success
    rw [← same]
    refine ⟨Or.inr (Function.update_self _ _ _), fun p => ?_⟩
    by_cases here : p = place
    · exact Or.inr (here ▸ Function.update_self _ _ _)
    · exact Or.inl (Function.update_of_ne here _ _)
  · rw [if_neg other] at success
    have same : s = t := congrArg Prod.snd success
    rw [← same]
    refine ⟨?_, fun p => Or.inl rfl⟩
    unfold Adjusted
    by_cases zero : s.mem place = 0
    · exact Or.inl zero
    · exact Or.inr (Classical.byContradiction fun different => other ⟨zero, different⟩)

theorem visit_each_adjusts {stop : Nat} {places : List Nat} {result : PUnit}
    (success : visit_each (adjust_channel host stop) places s = (.ok result, t)) :
    (∀ p ∈ places, Adjusted host (t.mem p)) ∧ ∀ p, t.mem p = s.mem p ∨ t.mem p = host.union_ch := by
  induction places generalizing s with
  | nil =>
      have same : s = t := congrArg Prod.snd success
      exact ⟨fun _ impossible => (nomatch impossible), fun p => Or.inl (same ▸ rfl)⟩
  | cons place rest ih =>
      rw [visit_each] at success
      rcases Program.bind_eq_ok.mp success with ⟨leave, next, visited, later⟩
      have first := adjust_channel_adjusts visited
      have others := ih later
      refine ⟨fun p member => ?_, fun p => ?_⟩
      · rcases List.mem_cons.mp member with here | there
        · rcases others.2 place with same | union
          · exact here ▸ same ▸ first.1
          · exact here ▸ Or.inr union
        · exact others.1 p there
      · rcases others.2 p with same | union
        · rw [same]
          exact first.2 p
        · exact Or.inr union

theorem nodup_notes {channels ch_list : List UInt8} (once : ch_list.Nodup) : (channels.foldl note ch_list).Nodup := by
  induction channels generalizing ch_list with
  | nil => exact once
  | cons channel rest ih =>
      refine ih ?_
      unfold note
      split
      case isTrue => exact once
      case isFalse fresh =>
        refine List.nodup_append.mpr ⟨once, List.pairwise_singleton _ _, fun first before second new same => ?_⟩
        exact fresh (List.mem_singleton.mp new ▸ same ▸ before)

theorem mem_notes {channels ch_list : List UInt8} {channel : UInt8} (noted : channel ∈ channels.foldl note ch_list) :
    channel ∈ ch_list ∨ channel ∈ channels := by
  induction channels generalizing ch_list with
  | nil => exact Or.inl noted
  | cons head rest ih =>
      rcases ih noted with here | later
      · unfold note at here
        split at here
        case isTrue => exact Or.inl here
        case isFalse =>
          rcases List.mem_append.mp here with before | new
          · exact Or.inl before
          · exact Or.inr (List.mem_singleton.mp new ▸ List.mem_cons_self)
      · exact Or.inr (List.mem_cons_of_mem _ later)

theorem length_distinct_adjusted {mem : Nat -> UInt8} {places : List Nat}
    (adjusted : ∀ p ∈ places, Adjusted host (mem p)) : (distinct_channels mem places).length ≤ 2 := by
  have subset : distinct_channels mem places ⊆ [0, host.union_ch] := by
    intro channel noted
    rcases mem_notes noted with impossible | member
    · cases impossible
    · rcases List.mem_map.mp member with ⟨p, inside, rfl⟩
      rcases adjusted p inside with zero | union
      · exact List.mem_cons.mpr (Or.inl zero)
      · exact List.mem_cons_of_mem _ (List.mem_singleton.mpr union)
  have few := ((nodup_notes List.nodup_nil).subperm subset).length_le
  exact few

theorem textsBegin_of_room {buf_len : Nat} {texts : List (List UInt8)} {w_sz : Nat}
    (short : ∀ text ∈ texts, text.length ≤ 5) (room : w_sz + 5 * texts.length ≤ buf_len) :
    TextsBegin buf_len texts w_sz := by
  induction texts generalizing w_sz with
  | nil => trivial
  | cons text rest ih =>
      have five := short text List.mem_cons_self
      rw [List.length_cons] at room
      exact ⟨by omega, ih (fun text member => short text (List.mem_cons_of_mem _ member)) (by omega)⟩

theorem length_ch_texts (ch_list : List UInt8) :
    (ch_texts ch_list).length ≤ ch_list.length ∧ ∀ text ∈ ch_texts ch_list, text.length ≤ 5 := by
  constructor
  · have count := List.length_filterMap_le (ch_text ch_list) (List.range ch_list.length)
    rw [List.length_range] at count
    exact count
  · intro text member
    rcases List.mem_filterMap.mp member with ⟨j, _, printed⟩
    exact length_ch_text printed

theorem adjusted_ie {fuel : Nat} {result : PUnit} {next : Wdev} (success : adjust_ie host fuel ie s = (.ok result, next))
    (later : ∀ p, p < ie.1 + 9 ∨ p < ie.1 + ie.2 -> t.mem p = next.mem p) :
    (∀ attr_id found, Lookup t.mem ie attr_id found <-> Lookup s.mem ie attr_id found) ∧
      DumpSound host t.mem ie 128 := by
  have sound := (adjustSound_of_ok success).1
  rcases adjust_ie_of_ok success with ⟨walk, walked, found, lookup, nothing, changed⟩
  have during := lookup_after_walk (checked_adjust host) walked
  have after : ∀ attr_id other, Lookup next.mem ie attr_id other <-> Lookup walk.mem ie attr_id other := by
    intro attr_id other
    cases found with
    | none => rw [nothing rfl]
    | some content =>
        rcases content with ⟨pattr, len⟩
        rcases changed pattr len rfl with ⟨fits, same | updated⟩
        · rw [same]
        · refine Lookup.beside ((during _ _).mpr lookup) fits.1 (fun p outside => ?_)
          rw [updated, Function.update_of_ne (by omega)]
  have final : ∀ attr_id other, Lookup t.mem ie attr_id other <-> Lookup next.mem ie attr_id other := by
    intro attr_id other
    exact Lookup.congr (fun p _ before => later p (by omega)) (fun attr _ inside p _ before => later p (by omega))
  have lookups : ∀ attr_id other, Lookup t.mem ie attr_id other <-> Lookup s.mem ie attr_id other := by
    intro attr_id other
    rw [final, after, during]
  refine ⟨lookups, ?_⟩
  rcases sound.1 with ⟨list, listed, filled⟩
  refine ⟨list, (lookups _ _).mpr listed, fun pattr len here => ?_⟩
  rcases filled pattr len here with ⟨small, long, places, entries⟩
  have listed := here ▸ listed
  have inside := listed.inside small
  rcases walk_ch_list_of_ok walked with ⟨other, again, _, entered⟩
  rcases entered pattr len (again.unique listed) with ⟨_, _, walked_entries⟩
  rw [show len - 3 = pattr + len - (pattr + 3) by omega] at walked_entries
  have plain : Plain (adjust_channel host (pattr + len)) := by
    intro s t place leave success
    rw [adjust_channel_eq (adjust_channel_inside success)] at success
    split at success
    · exact (Except.ok.inj (congrArg Prod.fst success)).symm
    · exact (Except.ok.inj (congrArg Prod.fst success)).symm
  have visited := visit_each_of_walk (checked_adjust host _) plain entries (by omega) (fun _ _ _ => rfl) walked_entries
  have kept := visit_each_keeps (checked_adjust host _) visited
  have adjusted := (visit_each_adjusts visited).1
  -- the other change is outside of the list
  have outside : ∀ p, pattr ≤ p -> p < pattr + len -> t.mem p = walk.mem p := by
    intro p behind before
    rw [later p (by omega)]
    cases found with
    | none => rw [nothing rfl]
    | some content =>
        rcases changed content.1 content.2 rfl with ⟨fits, same | updated⟩
        · rw [same]
        · have apart := listed.disjoint lookup (by decide) small fits.1
          dsimp only at apart
          rw [updated, Function.update_of_ne (by omega)]
  refine ⟨small, long, places, entries.congr (fun p behind before other => ?_), ?_⟩
  · rw [outside p (by omega) before]
    exact kept p other
  · have few : (distinct_channels t.mem places).length ≤ 2 := by
      refine @length_distinct_adjusted host _ _ (fun p member => ?_)
      have bounds := entries.bounds p member
      rw [outside p (by omega) bounds.2]
      exact adjusted p member
    have texts := length_ch_texts (distinct_channels t.mem places)
    exact ⟨by omega, Or.inr (textsBegin_of_room texts.2 (by omega))⟩

/-! ## The parts of the handlers -/

def Adjusts (adapter : Adapter) (tx : Bool) : Prop :=
  tx = true ∧ adapter.mi_linked = true ∧ adapter.full_ch_in_p2p_handshake = false ∧ adapter.host.mcc_en = false

def body_ies (mem : Nat -> UInt8) (len : Nat) : List (Nat × Nat) := frame_ies mem HDR_3ADDR (u32_sub len HDR_3ADDR)

def AdjustInside (adapter : Adapter) (len : Nat) (tx : Bool) (mem : Nat -> UInt8) : Prop :=
  Adjusts adapter tx -> ∀ ie ∈ body_ies mem len, AdjustSound mem ie

def ReceivedInside (adapter : Adapter) (len : Nat) (tx : Bool) (mem : Nat -> UInt8) : Prop :=
  tx = false -> adapter.mi_linked = true -> ∀ ie ∈ body_ies mem len, ListSound mem ie

def LookupEnds (mem : Nat -> UInt8) (p2p_ie : Option (Nat × Nat)) (attr_id : UInt8) : Prop :=
  ∀ ie, p2p_ie = some ie -> ∃ found, Lookup mem ie attr_id found

def ChannelInside (mem : Nat -> UInt8) (p2p_ie : Option (Nat × Nat)) (attr_id : UInt8) : Prop :=
  ∀ ie, p2p_ie = some ie -> ChannelSound mem ie attr_id

def DumpInside (adapter : Adapter) (tx : Bool) (mem : Nat -> UInt8) (p2p_ie : Option (Nat × Nat)) : Prop :=
  ∀ ie, p2p_ie = some ie -> ¬ Adjusts adapter tx -> DumpSound adapter.host mem ie 128

/-- The frame as it is looked at, and as it was. -/
structure Seen (adapter : Adapter) (tx : Bool) (mem : Nat -> UInt8) (p2p_ie : Option (Nat × Nat))
    (now : Nat -> UInt8) : Prop where
  small : ∀ ie, p2p_ie = some ie -> ie.2 ≤ 257
  lookup : ∀ ie, p2p_ie = some ie -> ∀ attr_id found, Lookup now ie attr_id found <-> Lookup mem ie attr_id found
  dump : ∀ ie, p2p_ie = some ie -> (DumpSound adapter.host now ie 128 <->
    (¬ Adjusts adapter tx -> DumpSound adapter.host mem ie 128))
  received : tx = false -> now = mem

theorem Seen.bind {First Rest : Type} {enough here later : Prop} {first : P2pProgram First}
    {rest : First -> P2pProgram Rest} {tx : Bool} {mem : Nat -> UInt8} {p2p_ie : Option (Nat × Nat)}
    (seen : Seen adapter tx mem p2p_ie s.mem) (keeps : KeepsMem first) (head : Decides enough first s here)
    (tail : ∀ value next, Seen adapter tx mem p2p_ie next.mem -> Decides enough (rest value) next later) :
    Decides enough (first >>= rest) s (here ∧ later) := by
  refine head.bind fun value next ended => tail value next ?_
  have same : next.mem = s.mem := (congrArg (fun outcome => outcome.2.mem) ended).symm.trans (keeps s)
  rw [same]
  exact seen

theorem Seen.update {Rest : Type} {enough condition : Prop} {change : Wdev -> Wdev} {rest : PUnit -> P2pProgram Rest}
    {tx : Bool} {mem : Nat -> UInt8} {p2p_ie : Option (Nat × Nat)} (seen : Seen adapter tx mem p2p_ie s.mem)
    (keeps : ∀ s, (change s).mem = s.mem)
    (tail : ∀ next, Seen adapter tx mem p2p_ie next.mem -> Decides enough (rest ⟨⟩) next condition) :
    Decides enough (Program.update change >>= rest) s condition := by
  refine Decides.update_bind (tail _ ?_)
  rw [keeps s]
  exact seen

section parts

variable {tx : Bool} {mem : Nat -> UInt8} {p2p_ie : Option (Nat × Nat)} {fuel : Nat}

theorem keeps_find_content (fuel : Nat) (p2p_ie : Option (Nat × Nat)) (attr_id : UInt8) :
    KeepsMem (find_content fuel p2p_ie attr_id) := by
  cases p2p_ie with
  | none => exact keeps_pure _ _
  | some ie => exact keeps_get_attr_content _ _ _

theorem find_content_eq_ok {attr_id : UInt8} {found : Option (Nat × Nat)}
    (success : find_content fuel p2p_ie attr_id s = (.ok found, t)) :
    t = s ∧ (p2p_ie = none -> found = none) ∧ ∀ ie, p2p_ie = some ie -> Lookup s.mem ie attr_id found := by
  cases p2p_ie with
  | none =>
      have same := Prod.mk.inj success
      exact ⟨same.2.symm, fun _ => (Except.ok.inj same.1).symm, nofun⟩
  | some ie =>
      have looked := lookup_of_get success
      exact ⟨looked.1, nofun, fun other same => Option.some.inj same ▸ looked.2⟩

theorem find_content_decides (seen : Seen adapter tx mem p2p_ie s.mem) (attr_id : UInt8) :
    Decides (2 ^ 32 ≤ fuel) (find_content fuel p2p_ie attr_id) s (LookupEnds mem p2p_ie attr_id) := by
  constructor
  · intro success ie here
    rcases succeeds_iff.mp success with ⟨found, next, ended⟩
    exact ⟨found, (seen.lookup ie here _ _).mp ((find_content_eq_ok ended).2.2 ie here)⟩
  · intro enough ends
    cases p2p_ie with
    | none => exact Program.succeeds_pure _ _
    | some ie =>
        rcases ends ie rfl with ⟨found, lookup⟩
        have small := seen.small ie rfl
        exact succeeds_iff.mpr ⟨found, s, ((seen.lookup ie rfl _ _).mpr lookup).get (by omega)⟩

theorem keeps_first_byte (attr_id : UInt8) : KeepsMem (first_byte fuel p2p_ie attr_id) :=
  (keeps_find_content _ _ _).bind fun _ => (keeps_get _).bind fun _ => keeps_pure _ _

theorem first_byte_decides (seen : Seen adapter tx mem p2p_ie s.mem) (attr_id : UInt8) :
    Decides (2 ^ 32 ≤ fuel) (first_byte fuel p2p_ie attr_id) s (LookupEnds mem p2p_ie attr_id) :=
  ((find_content_decides seen attr_id).bind fun _ _ _ => .of_iff (iff_of_true
    (Program.succeeds_get_bind.mpr (Program.succeeds_pure _ _)) trivial)).congr (and_iff_left trivial)

theorem keeps_content_addr (attr_id : UInt8) : KeepsMem (content_addr fuel p2p_ie attr_id) :=
  (keeps_find_content _ _ _).bind fun _ => (keeps_get _).bind fun _ => keeps_pure _ _

theorem content_addr_decides (seen : Seen adapter tx mem p2p_ie s.mem) (attr_id : UInt8) :
    Decides (2 ^ 32 ≤ fuel) (content_addr fuel p2p_ie attr_id) s (LookupEnds mem p2p_ie attr_id) :=
  ((find_content_decides seen attr_id).bind fun _ _ _ => .of_iff (iff_of_true
    (Program.succeeds_get_bind.mpr (Program.succeeds_pure _ _)) trivial)).congr (and_iff_left trivial)

theorem keeps_content_channel (attr_id : UInt8) : KeepsMem (content_channel fuel p2p_ie attr_id) := by
  refine (keeps_find_content _ _ _).bind fun cont => ?_
  cases cont with
  | none => exact keeps_pure _ _
  | some cont =>
      refine Program.Keeps.bind ?_ fun _ => keeps_pure _ _
      exact (keeps_require _ _ _).bind fun _ => (keeps_get _).bind fun _ => keeps_pure _ _

theorem content_channel_decides (seen : Seen adapter tx mem p2p_ie s.mem) (attr_id : UInt8) :
    Decides (2 ^ 32 ≤ fuel) (content_channel fuel p2p_ie attr_id) s (ChannelInside mem p2p_ie attr_id) := by
  have loads : ∀ cont : Nat × Nat, (load_channel cont >>= fun channel =>
      (pure (some channel) : P2pProgram (Option UInt8))).Succeeds s <-> cont.2 < 65536 ∧ 5 ≤ cont.2 := by
    intro cont
    constructor
    · intro success
      rcases succeeds_iff.mp (Program.succeeds_head success) with ⟨channel, next, loaded⟩
      exact (load_channel_eq_ok.mp loaded).1
    · intro fits
      exact (Program.succeeds_bind_of_ok (load_channel_eq_ok.mpr ⟨fits, rfl, rfl⟩)).mpr (Program.succeeds_pure _ _)
  constructor
  · intro success ie here
    rcases succeeds_iff.mp success with ⟨_, final, ran⟩
    rcases Program.bind_eq_ok.mp ran with ⟨found, next, looked, rest⟩
    rcases find_content_eq_ok looked with ⟨rfl, _, lookup⟩
    refine ⟨found, (seen.lookup ie here _ _).mp (lookup ie here), fun pattr len content => ?_⟩
    rw [content] at rest
    exact (loads (pattr, len)).mp (succeeds_iff.mpr ⟨_, final, rest⟩)
  · intro enough inside
    unfold content_channel
    cases p2p_ie with
    | none => exact Program.succeeds_pure _ _
    | some ie =>
        rcases inside ie rfl with ⟨found, lookup, fits⟩
        have small := seen.small ie rfl
        have looked : find_content fuel (some ie) attr_id s = (.ok found, s) :=
          ((seen.lookup ie rfl _ _).mpr lookup).get (by omega)
        rw [Program.succeeds_bind_of_ok looked]
        cases found with
        | none => exact Program.succeeds_pure _ _
        | some cont => exact (loads cont).mpr (fits cont.1 cont.2 rfl)

theorem keeps_dump_ch_list : KeepsMem (dump_ch_list adapter fuel p2p_ie) := by
  cases p2p_ie with
  | none => exact keeps_pure _ _
  | some ie => exact keeps_dump _ _ _

theorem dump_ch_list_decides (seen : Seen adapter tx mem p2p_ie s.mem) :
    Decides (2 ^ 32 ≤ fuel) (dump_ch_list adapter fuel p2p_ie) s (DumpInside adapter tx mem p2p_ie) := by
  cases p2p_ie with
  | none => exact .of_iff (iff_of_true (Program.succeeds_pure _ _) nofun)
  | some ie =>
      have small := seen.small ie rfl
      have dumps := @dump_p2p_attr_ch_list_decides s ie adapter.host fuel 128 (by decide)
      constructor
      · intro success other same
        exact Option.some.inj same ▸ (seen.dump ie rfl).mp (dumps.shows success)
      · intro enough inside
        exact dumps.achieves (by omega) ((seen.dump ie rfl).mpr (inside ie rfl))

theorem change_received_decides (len : Nat) (same : tx = false -> s.mem = mem) :
    Decides (2 ^ 32 ≤ fuel) (change_received adapter fuel len tx) s (ReceivedInside adapter len tx mem) := by
  unfold change_received ReceivedInside body_ies
  by_cases received : tx = false ∧ adapter.mi_linked = true
  · rw [if_pos received, imp_iff_right received.1, imp_iff_right received.2, ← same received.1]
    refine (rtw_chk_p2pie_ch_list_with_buddy_decides _ _ _).bind_ends fun fit next ended enough sound => ?_
    have kept : next.mem = s.mem := (congrArg (fun outcome => outcome.2.mem) ended).symm.trans (keeps_chk _ _ _ s)
    split
    · exact (rtw_change_p2pie_ch_list_decides _ _ _ _).achieves enough (fun _ => kept ▸ sound)
    · exact Program.succeeds_pure _ _
  · rw [if_neg received]
    exact .of_iff (iff_of_true (Program.succeeds_pure _ _) fun sent linked => absurd ⟨sent, linked⟩ received)

theorem adjust_first {len : Nat} (small : len < 2 ^ 32) {result : PUnit} (allowed : host.mcc_en = false)
    (success : rtw_cfg80211_adjust_p2pie_channel host fuel HDR_3ADDR (u32_sub len HDR_3ADDR) s = (.ok result, t))
    (found : rtw_get_p2p_ie s.mem (HDR_3ADDR + _PUBLIC_ACTION_IE_OFFSET_)
      (int_of_u32 (u32_sub len (HDR_3ADDR + _PUBLIC_ACTION_IE_OFFSET_))) = some ie) :
    ∃ more next, adjust_ie host more ie s = (.ok ⟨⟩, next) ∧
      ∀ p, p < ie.1 + 9 ∨ p < ie.1 + ie.2 -> t.mem p = next.mem p := by
  have lengths : u32_sub (u32_sub len HDR_3ADDR) _PUBLIC_ACTION_IE_OFFSET_ =
      u32_sub len (HDR_3ADDR + _PUBLIC_ACTION_IE_OFFSET_) := by
    unfold u32_sub HDR_3ADDR _PUBLIC_ACTION_IE_OFFSET_
    omega
  unfold rtw_cfg80211_adjust_p2pie_channel at success
  rw [allowed, if_neg Bool.false_ne_true] at success
  unfold frame_p2p_ies at success
  rw [get_bind_eq_ok, lengths, found] at success
  cases fuel with
  | zero => exact absurd (congrArg Prod.fst success) nofun
  | succ fuel =>
      rw [each_p2p_ie] at success
      rcases Program.bind_eq_ok.mp success with ⟨_, next, acted, rest⟩
      rw [get_bind_eq_ok] at rest
      refine ⟨_, next, acted, fun p before => ?_⟩
      refine each_keeps (fun s t ie result success => (adjustSound_of_ok success).2) rest (fun other later => ?_)
      have behind := (rtw_get_p2p_ie_some later).1
      have size := (rtw_get_p2p_ie_some found).2.2.1
      unfold ie_size at size
      omega

def first_ie (mem : Nat -> UInt8) (len : Nat) : Option (Nat × Nat) :=
  rtw_get_p2p_ie mem (HDR_3ADDR + _PUBLIC_ACTION_IE_OFFSET_)
    (int_of_u32 (u32_sub len (HDR_3ADDR + _PUBLIC_ACTION_IE_OFFSET_)))

theorem first_ie_small {len : Nat} {ie : Nat × Nat} (found : first_ie mem len = some ie) : ie.2 ≤ 257 := by
  have size := (rtw_get_p2p_ie_some found).2.2.1
  have few := (mem (ie.1 + 1)).toNat_lt
  unfold ie_size at size
  omega

theorem adjust_sent_decides (len : Nat) :
    Decides (2 ^ 32 ≤ fuel) (adjust_sent adapter fuel len tx) s (AdjustInside adapter len tx s.mem) := by
  unfold adjust_sent AdjustInside Adjusts
  by_cases sent : tx = true ∧ adapter.mi_linked = true ∧ ¬ adapter.full_ch_in_p2p_handshake = true
  · rw [if_pos sent]
    refine (rtw_cfg80211_adjust_p2pie_channel_decides _ _ _).congr ?_
    have full := Bool.eq_false_iff.mpr sent.2.2
    exact ⟨fun all adjusts => all adjusts.2.2.2, fun all allowed => all ⟨sent.1, sent.2.1, full, allowed⟩⟩
  · rw [if_neg sent]
    refine .of_iff (iff_of_true (Program.succeeds_pure _ _) fun adjusts => absurd ⟨adjusts.1, adjusts.2.1, ?_⟩ sent)
    rw [adjusts.2.2.1]
    exact Bool.false_ne_true

theorem seen_after_adjust {len : Nat} (small : len < 2 ^ 32) {result : PUnit}
    (success : adjust_sent adapter fuel len tx s = (.ok result, t)) :
    Seen adapter tx s.mem (first_ie s.mem len) t.mem := by
  by_cases adjusts : Adjusts adapter tx
  · have sent : tx = true ∧ adapter.mi_linked = true ∧ ¬ adapter.full_ch_in_p2p_handshake = true := by
      rw [adjusts.2.2.1]
      exact ⟨adjusts.1, adjusts.2.1, Bool.false_ne_true⟩
    unfold adjust_sent at success
    rw [if_pos sent] at success
    refine ⟨fun ie => first_ie_small, fun ie found => ?_, fun ie found => ?_, fun received => ?_⟩
    · rcases adjust_first small adjusts.2.2.2 success found with ⟨more, next, acted, later⟩
      exact (adjusted_ie acted later).1
    · rcases adjust_first small adjusts.2.2.2 success found with ⟨more, next, acted, later⟩
      exact iff_of_true (adjusted_ie acted later).2 (fun impossible => absurd adjusts impossible)
    · rw [adjusts.1] at received
      cases received
  · have same : t.mem = s.mem := by
      unfold adjust_sent at success
      split at success
      case isTrue sent =>
        have full := Bool.eq_false_iff.mpr sent.2.2
        have disallowed : adapter.host.mcc_en = true := by
          cases mcc : adapter.host.mcc_en with
          | true => rfl
          | false => exact absurd ⟨sent.1, sent.2.1, full, mcc⟩ adjusts
        unfold rtw_cfg80211_adjust_p2pie_channel at success
        rw [disallowed, if_pos rfl] at success
        exact (congrArg (fun outcome => outcome.2.mem) success).symm
      case isFalse => exact (congrArg (fun outcome => outcome.2.mem) success).symm
    rw [same]
    refine ⟨fun ie => first_ie_small, fun _ _ _ _ => Iff.rfl, fun ie _ => ?_, fun _ => rfl⟩
    exact ⟨fun holds _ => holds, fun holds => holds adjusts⟩

end parts

/-! ## The handlers -/

def GoNegoReqInside (adapter : Adapter) (len : Nat) (tx : Bool) (mem : Nat -> UInt8) : Prop :=
  AdjustInside adapter len tx mem ∧
    ChannelInside mem (first_ie mem len) P2P_ATTR_OPERATING_CH ∧
    ChannelInside mem (first_ie mem len) P2P_ATTR_LISTEN_CH ∧
    LookupEnds mem (first_ie mem len) P2P_ATTR_GO_INTENT ∧
    LookupEnds mem (first_ie mem len) P2P_ATTR_INTENDED_IF_ADDR ∧
    DumpInside adapter tx mem (first_ie mem len) ∧ ReceivedInside adapter len tx mem

def GoNegoRespInside (adapter : Adapter) (len : Nat) (tx : Bool) (mem : Nat -> UInt8) : Prop :=
  AdjustInside adapter len tx mem ∧
    ChannelInside mem (first_ie mem len) P2P_ATTR_OPERATING_CH ∧
    LookupEnds mem (first_ie mem len) P2P_ATTR_GO_INTENT ∧
    LookupEnds mem (first_ie mem len) P2P_ATTR_STATUS ∧
    LookupEnds mem (first_ie mem len) P2P_ATTR_INTENDED_IF_ADDR ∧
    DumpInside adapter tx mem (first_ie mem len) ∧ ReceivedInside adapter len tx mem

def GoNegoConfInside (adapter : Adapter) (len : Nat) (tx : Bool) (mem : Nat -> UInt8) : Prop :=
  AdjustInside adapter len tx mem ∧
    ChannelInside mem (first_ie mem len) P2P_ATTR_OPERATING_CH ∧
    LookupEnds mem (first_ie mem len) P2P_ATTR_STATUS ∧ DumpInside adapter tx mem (first_ie mem len)

def InvitReqInside (adapter : Adapter) (len : Nat) (tx : Bool) (mem : Nat -> UInt8) : Prop :=
  AdjustInside adapter len tx mem ∧
    LookupEnds mem (first_ie mem len) P2P_ATTR_INVITATION_FLAGS ∧
    ChannelInside mem (first_ie mem len) P2P_ATTR_OPERATING_CH ∧
    LookupEnds mem (first_ie mem len) P2P_ATTR_GROUP_BSSID ∧
    DumpInside adapter tx mem (first_ie mem len) ∧
    (adapter.full_ch_in_p2p_handshake = false -> ReceivedInside adapter len tx mem)

def InvitRespInside (adapter : Adapter) (len : Nat) (tx : Bool) (mem : Nat -> UInt8) : Prop :=
  AdjustInside adapter len tx mem ∧
    LookupEnds mem (first_ie mem len) P2P_ATTR_STATUS ∧
    ChannelInside mem (first_ie mem len) P2P_ATTR_OPERATING_CH ∧
    LookupEnds mem (first_ie mem len) P2P_ATTR_GROUP_BSSID ∧ DumpInside adapter tx mem (first_ie mem len)

section handlers

variable {tx : Bool} {len fuel : Nat} {dialogToken : UInt8}

theorem go_nego_req_decides (small : len < 2 ^ 32) :
    Decides (2 ^ 32 ≤ fuel) (go_nego_req adapter fuel len tx dialogToken (first_ie s.mem len)) s
      (GoNegoReqInside adapter len tx s.mem) := by
  refine (adjust_sent_decides len).bind fun _ sent ended => ?_
  have seen := seen_after_adjust small ended
  refine seen.bind (keeps_content_channel _) (content_channel_decides seen _) fun _ _ seen => ?_
  refine seen.bind (keeps_content_channel _) (content_channel_decides seen _) fun _ _ seen => ?_
  refine seen.bind (keeps_first_byte _) (first_byte_decides seen _) fun _ _ seen => ?_
  refine seen.bind (keeps_content_addr _) (content_addr_decides seen _) fun _ _ seen => ?_
  refine seen.update (fun _ => rfl) fun _ seen => ?_
  refine seen.bind keeps_dump_ch_list (dump_ch_list_decides seen) fun _ _ seen => ?_
  exact change_received_decides len seen.received

theorem go_nego_resp_decides (small : len < 2 ^ 32) :
    Decides (2 ^ 32 ≤ fuel) (go_nego_resp adapter fuel len tx dialogToken (first_ie s.mem len)) s
      (GoNegoRespInside adapter len tx s.mem) := by
  refine (adjust_sent_decides len).bind fun _ sent ended => ?_
  have seen := seen_after_adjust small ended
  refine seen.bind (keeps_content_channel _) (content_channel_decides seen _) fun _ _ seen => ?_
  refine seen.bind (keeps_first_byte _) (first_byte_decides seen _) fun _ _ seen => ?_
  refine seen.bind (keeps_first_byte _) (first_byte_decides seen _) fun _ _ seen => ?_
  refine seen.bind (keeps_content_addr _) (content_addr_decides seen _) fun _ _ seen => ?_
  refine seen.update (fun s => by split <;> rfl) fun _ seen => ?_
  refine seen.bind keeps_dump_ch_list (dump_ch_list_decides seen) fun _ _ seen => ?_
  refine seen.update (fun s => by split <;> rfl) fun _ seen => ?_
  exact change_received_decides len seen.received

theorem go_nego_conf_decides (small : len < 2 ^ 32) :
    Decides (2 ^ 32 ≤ fuel) (go_nego_conf adapter fuel len tx dialogToken (first_ie s.mem len)) s
      (GoNegoConfInside adapter len tx s.mem) := by
  refine (adjust_sent_decides len).bind fun _ sent ended => ?_
  have seen := seen_after_adjust small ended
  refine seen.bind (keeps_content_channel _) (content_channel_decides seen _) fun _ _ seen => ?_
  refine seen.bind (keeps_first_byte _) (first_byte_decides seen _) fun _ _ seen => ?_
  refine seen.update (fun s => by split <;> rfl) fun _ seen => ?_
  exact dump_ch_list_decides seen

theorem invit_req_decides (small : len < 2 ^ 32) :
    Decides (2 ^ 32 ≤ fuel) (invit_req adapter fuel len tx dialogToken (first_ie s.mem len)) s
      (InvitReqInside adapter len tx s.mem) := by
  refine (adjust_sent_decides len).bind fun _ sent ended => ?_
  have seen := seen_after_adjust small ended
  refine seen.bind (keeps_first_byte _) (first_byte_decides seen _) fun _ _ seen => ?_
  refine seen.bind (keeps_content_channel _) (content_channel_decides seen _) fun _ _ seen => ?_
  refine seen.bind (keeps_content_addr _) (content_addr_decides seen _) fun _ _ seen => ?_
  refine seen.update (fun _ => rfl) fun _ seen => ?_
  refine seen.bind keeps_dump_ch_list (dump_ch_list_decides seen) fun _ _ seen => ?_
  cases adapter.full_ch_in_p2p_handshake with
  | true => exact .of_iff (iff_of_true (Program.succeeds_pure _ _) nofun)
  | false =>
      rw [if_neg Bool.false_ne_true, imp_iff_right rfl]
      exact change_received_decides len seen.received

theorem invit_resp_decides (small : len < 2 ^ 32) :
    Decides (2 ^ 32 ≤ fuel) (invit_resp adapter fuel len tx dialogToken (first_ie s.mem len)) s
      (InvitRespInside adapter len tx s.mem) := by
  refine (adjust_sent_decides len).bind fun _ sent ended => ?_
  have seen := seen_after_adjust small ended
  refine seen.bind (keeps_first_byte _) (first_byte_decides seen _) fun _ _ seen => ?_
  refine seen.bind (keeps_content_channel _) (content_channel_decides seen _) fun _ _ seen => ?_
  refine seen.bind (keeps_content_addr _) (content_addr_decides seen _) fun _ _ seen => ?_
  refine seen.update (fun s => by split <;> rfl) fun _ seen => ?_
  exact dump_ch_list_decides seen

theorem seen_as_it_came (adapter : Adapter) (mem : Nat -> UInt8) (len : Nat) :
    Seen adapter false mem (first_ie mem len) mem where
  small _ := first_ie_small
  lookup _ _ _ _ := Iff.rfl
  dump _ _ := ⟨fun holds _ => holds, fun holds => holds (fun adjusts => (nomatch adjusts.1))⟩
  received _ := rfl

theorem provision_disc_req_decides :
    Decides (2 ^ 32 ≤ fuel) (provision_disc_req fuel (first_ie s.mem len)) s
      (LookupEnds s.mem (first_ie s.mem len) P2P_ATTR_GROUP_ID) := by
  refine (seen_as_it_came ⟨⟨false, 0, false⟩, false, false⟩ s.mem len).update (fun _ => rfl) fun next seen => ?_
  cases found : first_ie s.mem len with
  | none => exact .of_iff (iff_of_true (Program.succeeds_pure _ _) nofun)
  | some ie =>
      rw [found] at seen
      have looked : Decides (2 ^ 32 ≤ fuel) (get_attr_content fuel ie P2P_ATTR_GROUP_ID) next
          (LookupEnds s.mem (some ie) P2P_ATTR_GROUP_ID) := find_content_decides seen P2P_ATTR_GROUP_ID
      exact looked.bind_ends fun _ _ _ _ _ => ⟨_, rfl⟩

theorem devdisc_resp_decides :
    Decides (2 ^ 32 ≤ fuel) (first_byte fuel (first_ie s.mem len) P2P_ATTR_STATUS) s
      (LookupEnds s.mem (first_ie s.mem len) P2P_ATTR_STATUS) :=
  first_byte_decides (seen_as_it_came ⟨⟨false, 0, false⟩, false, false⟩ s.mem len) P2P_ATTR_STATUS

end handlers

def FrameInside (adapter : Adapter) (len : Nat) (tx : Bool) (mem : Nat -> UInt8) : Prop :=
  mem 24 = 4 -> mem 25 = 9 -> bytes_at mem 26 P2P_OUI = true ->
    match mem 30 with
    | 0 => GoNegoReqInside adapter len tx mem
    | 1 => GoNegoRespInside adapter len tx mem
    | 2 => GoNegoConfInside adapter len tx mem
    | 3 => InvitReqInside adapter len tx mem
    | 4 => InvitRespInside adapter len tx mem
    | 6 => LookupEnds mem (first_ie mem len) P2P_ATTR_STATUS
    | 7 => LookupEnds mem (first_ie mem len) P2P_ATTR_GROUP_ID
    | _ => True

theorem rtw_p2p_check_frames_decides {len : Nat} (small : len < 2 ^ 32) (tx : Bool) (fuel : Nat) :
    Decides (2 ^ 32 ≤ fuel) (rtw_p2p_check_frames adapter fuel len tx) s (FrameInside adapter len tx s.mem) := by
  unfold rtw_p2p_check_frames FrameInside
  have done : ∀ (condition : Prop) (subtype : Option UInt8), condition ->
      Decides (2 ^ 32 ≤ fuel) (pure subtype : P2pProgram (Option UInt8)) s condition :=
    fun condition subtype holds => .of_iff (iff_of_true (Program.succeeds_pure _ _) holds)
  have first : rtw_get_p2p_ie s.mem (HDR_3ADDR + _PUBLIC_ACTION_IE_OFFSET_)
      (int_of_u32 (u32_sub len (HDR_3ADDR + _PUBLIC_ACTION_IE_OFFSET_))) = first_ie s.mem len := rfl
  have get : ∀ (program : Wdev -> P2pProgram (Option UInt8)) (condition : Prop),
      Decides (2 ^ 32 ≤ fuel) (program s) s condition ->
        Decides (2 ^ 32 ≤ fuel) (Program.get >>= program) s condition :=
    fun program condition tail => ⟨fun success => tail.shows success, fun more holds => tail.achieves more holds⟩
  have answer : ∀ {program : P2pProgram PUnit} {condition : Prop} (subtype : Option UInt8),
      Decides (2 ^ 32 ≤ fuel) program s condition ->
        Decides (2 ^ 32 ≤ fuel) (program >>= fun _ => pure subtype) s condition :=
    fun subtype decided => decided.bind_ends fun _ _ _ _ _ => Program.succeeds_pure _ _
  refine get _ _ ?_
  dsimp only
  rw [first]
  by_cases category : s.mem HDR_3ADDR = 4
  case neg =>
    rw [if_neg category]
    split
    · exact done _ _ fun same => absurd same category
    · exact done _ _ fun same => absurd same category
  rw [if_pos category, imp_iff_right (show s.mem 24 = 4 from category)]
  by_cases vendor : s.mem (HDR_3ADDR + 1) = 9 ∧ bytes_at s.mem (HDR_3ADDR + 2) [0x50, 0x6F, 0x9A, 0x09] = true
  case neg =>
    rw [if_neg vendor]
    exact done _ _ fun action oui => absurd ⟨action, oui⟩ vendor
  rw [if_pos vendor, imp_iff_right (show s.mem 25 = 9 from vendor.1),
    imp_iff_right (show bytes_at s.mem 26 P2P_OUI = true from vendor.2)]
  obtain ⟨subtype, here⟩ : ∃ subtype, s.mem (HDR_3ADDR + 6) = subtype := ⟨_, rfl⟩
  rw [here, show s.mem 30 = subtype from here]
  split
  · exact answer _ (go_nego_req_decides small)
  · exact answer _ (go_nego_resp_decides small)
  · exact answer _ (go_nego_conf_decides small)
  · exact answer _ (invit_req_decides small)
  · exact answer _ (invit_resp_decides small)
  · exact devdisc_resp_decides.bind_ends fun _ _ _ _ _ => Program.succeeds_pure _ _
  · exact answer _ provision_disc_req_decides
  · exact done _ _ (by simp)

/-- For each function: it ends and stays inside exactly under its condition. -/
theorem p2p_walks_inside_iff (adapter : Adapter) (s : Wdev) (len : Nat) (small : len < 2 ^ 32) :
    (∀ ie buf_len, buf_len < 2 ^ 32 ->
      ((∃ fuel, (dump_p2p_attr_ch_list adapter.host fuel ie buf_len).Succeeds s) <->
        DumpSound adapter.host s.mem ie buf_len)) ∧
    (∀ frame_body,
      (∃ fuel, (rtw_chk_p2pie_ch_list_with_buddy adapter.host fuel frame_body len).Succeeds s) <->
        ∀ ie ∈ frame_ies s.mem frame_body len, ListSound s.mem ie) ∧
    (∀ frame_body ch,
      (∃ fuel, (rtw_change_p2pie_ch_list adapter.host fuel frame_body len ch).Succeeds s) <->
        (adapter.host.mcc_en = false -> ∀ ie ∈ frame_ies s.mem frame_body len, ListSound s.mem ie)) ∧
    (∀ frame_body,
      (∃ fuel, (rtw_cfg80211_adjust_p2pie_channel adapter.host fuel frame_body len).Succeeds s) <->
        (adapter.host.mcc_en = false -> ∀ ie ∈ frame_ies s.mem frame_body len, AdjustSound s.mem ie)) ∧
    ∀ tx, (∃ fuel, (rtw_p2p_check_frames adapter fuel len tx).Succeeds s) <->
      FrameInside adapter len tx s.mem := by
  refine ⟨fun ie buf_len buffer => ?_, fun frame_body => ?_, fun frame_body ch => ?_, fun frame_body => ?_, fun tx => ?_⟩
  · exact exists_succeeds_iff (Nat.lt_succ_self _) fun fuel => dump_p2p_attr_ch_list_decides fuel buffer
  · exact exists_succeeds_iff (Nat.le_refl _) fun fuel => rtw_chk_p2pie_ch_list_with_buddy_decides fuel _ _
  · exact exists_succeeds_iff (Nat.le_refl _) fun fuel => rtw_change_p2pie_ch_list_decides fuel _ _ ch
  · exact exists_succeeds_iff (Nat.le_refl _) fun fuel => rtw_cfg80211_adjust_p2pie_channel_decides fuel _ _
  · exact exists_succeeds_iff (Nat.le_refl _) fun fuel => rtw_p2p_check_frames_decides small tx fuel

/-- An element at 32 whose Channel List attribute has one byte behind the country string. -/
def cut_list (place : Nat) : UInt8 :=
  if place < 32 then 0
  else [0xdd, 0x0b, 0x50, 0x6f, 0x9a, 0x09, 0x0b, 0x04, 0x00, 0x55, 0x53, 0x04, 0x51].getD (place - 32) 0

def idle_wdev (mem : Nat -> UInt8) : Wdev := ⟨mem, NEGO_INIT, INVIT_INIT, false, [], fun _ => 0, false⟩

def single_adapter : Adapter := ⟨⟨false, 0, true⟩, false, false⟩

/-- A frame of another category is not touched. -/
theorem p2p_walks_inside_iff_other :
    ∃ fuel, (rtw_p2p_check_frames single_adapter fuel 45 false).Succeeds (idle_wdev cut_list) :=
  ((p2p_walks_inside_iff single_adapter (idle_wdev cut_list) 45 (by decide)).2.2.2.2 false).mpr
    fun impossible => absurd impossible (by decide)

/-- The walk through the list leaves it. -/
theorem cut_list_left :
    ¬ ∃ fuel, (dump_p2p_attr_ch_list single_adapter.host fuel (32, 13) 128).Succeeds (idle_wdev cut_list) := by
  intro ⟨fuel, success⟩
  rcases (dump_p2p_attr_ch_list_decides fuel (by decide)).shows success with ⟨found, lookup, filled⟩
  have content : Lookup cut_list (32, 13) P2P_ATTR_CH_LIST (some (41, 4)) := ⟨1, by decide⟩
  rcases filled 41 4 (lookup.unique content) with ⟨_, _, places, entries, _⟩
  cases entries with
  | entry inside _ => omega

end P2p
end Rtl8821ce
