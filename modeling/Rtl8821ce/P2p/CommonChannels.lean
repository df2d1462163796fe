import Rtl8821ce.Library.ResumedSearch
import Rtl8821ce.P2p.GoNego

/-!
# The channels that a peer has in common

The channels of a Channel List attribute are read class by class, while a length of eight
bits counts down, and then looked up in the set of the device.
-/

namespace Rtl8821ce
namespace GoNego

theorem channel_entries_cons (reg : RegClass) (rest : List RegClass) :
    channel_entries (reg :: rest) =
      reg.reg_class :: UInt8.ofNat reg.channel.length :: (reg.channel ++ channel_entries rest) := by
  simp [channel_entries]

theorem length_channel_entries_cons (reg : RegClass) (rest : List RegClass) :
    (channel_entries (reg :: rest)).length = 2 + reg.channel.length + (channel_entries rest).length := by
  rw [channel_entries_cons]
  simp only [List.length_cons, List.length_append]
  omega

theorem length_channels_le (regs : List RegClass) :
    regs.length + (regs.flatMap (·.channel)).length ≤ (channel_entries regs).length := by
  induction regs with
  | nil => exact Nat.le_refl 0
  | cons reg rest ih =>
      rw [length_channel_entries_cons, List.flatMap_cons]
      simp only [List.length_cons, List.length_append]
      omega

/-- The classes that are read: the loop ends where the length that is left is a multiple of 256. -/
def heard : List RegClass -> List RegClass
  | [] => []
  | reg :: rest => if (channel_entries (reg :: rest)).length % 256 = 0 then [] else reg :: heard rest

def unheard : List RegClass -> List RegClass
  | [] => []
  | reg :: rest => if (channel_entries (reg :: rest)).length % 256 = 0 then reg :: rest else unheard rest

theorem heard_append_unheard (regs : List RegClass) : heard regs ++ unheard regs = regs := by
  induction regs with
  | nil => rfl
  | cons reg rest ih =>
      unfold heard unheard
      split
      case isTrue ends => rfl
      case isFalse goes_on => exact congrArg (reg :: ·) ih

theorem heard_of_short {regs : List RegClass} (short : (channel_entries regs).length < 256) : heard regs = regs := by
  induction regs with
  | nil => rfl
  | cons reg rest ih =>
      have total := length_channel_entries_cons reg rest
      rw [heard, if_neg (by omega), ih (by omega)]

theorem ofNat_length_pos_iff {length : Nat} : (0 : UInt8) < UInt8.ofNat length <-> length % 256 ≠ 0 := by
  rw [UInt8.lt_iff_toNat_lt, UInt8.toNat_ofNat']
  show 0 < length % 256 <-> _
  exact Nat.pos_iff_ne_zero

theorem peer_ch_entries_heard (regs : List RegClass) {fuel : Nat} (enough : regs.length < fuel)
    (narrow : (regs.flatMap (·.channel)).length < 256) :
    peer_ch_entries fuel (channel_entries regs) (UInt8.ofNat (channel_entries regs).length) =
      (heard regs).flatMap (·.channel) := by
  induction regs generalizing fuel with
  | nil =>
      cases fuel with
      | zero => rfl
      | succ fuel => rfl
  | cons reg rest ih =>
      cases fuel with
      | zero => exact absurd enough (Nat.not_lt_zero _)
      | succ fuel =>
          rw [List.flatMap_cons, List.length_append] at narrow
          have total := length_channel_entries_cons reg rest
          have count : (UInt8.ofNat reg.channel.length).toNat = reg.channel.length :=
            UInt8.toNat_ofNat_of_lt' (show _ < 256 by omega)
          rw [peer_ch_entries, heard]
          by_cases ends : (channel_entries (reg :: rest)).length % 256 = 0
          · rw [if_pos ends, if_neg (mt ofNat_length_pos_iff.mp (not_not.mpr ends))]
            rfl
          · have left : UInt8.ofNat (2 + reg.channel.length + (channel_entries rest).length) - 1 -
                (UInt8.ofNat reg.channel.length + 1) = UInt8.ofNat (channel_entries rest).length := by
              simp only [UInt8.ofNat_add]
              grind
            rw [if_neg ends, if_pos (ofNat_length_pos_iff.mpr ends), total, channel_entries_cons]
            simp only [List.getD_cons_succ, List.getD_cons_zero, count, List.drop_succ_cons, List.drop_zero,
              List.take_left', left]
            rw [show 2 + reg.channel.length = reg.channel.length + 2 by omega]
            simp only [List.drop_succ_cons, List.drop_left']
            rw [ih (by simpa using enough) (by omega)]
            rfl

theorem get_peer_ch_list_heard {country : List UInt8} (three : country.length = 3) (regs : List RegClass)
    (narrow : (regs.flatMap (·.channel)).length < 256) :
    rtw_p2p_get_peer_ch_list (country ++ channel_entries regs) = (heard regs).flatMap (·.channel) := by
  have bound := length_channels_le regs
  have left : UInt8.ofNat (country ++ channel_entries regs).length - 3 = UInt8.ofNat (channel_entries regs).length := by
    rw [List.length_append, three, UInt8.ofNat_add]
    grind
  have split : regs.flatMap (·.channel) = (heard regs).flatMap (·.channel) ++ (unheard regs).flatMap (·.channel) := by
    rw [← List.flatMap_append, heard_append_unheard]
  have few : ((heard regs).flatMap (·.channel)).length < 256 := by
    rw [split, List.length_append] at narrow
    omega
  have enough : regs.length < (country ++ channel_entries regs).length + 1 := by
    rw [List.length_append]
    omega
  rw [rtw_p2p_get_peer_ch_list, left, List.drop_left' three, peer_ch_entries_heard regs enough narrow,
    Nat.mod_eq_of_lt few, List.take_length]

theorem ch_inclusion_eq_pick (channel_set peers : List UInt8) (temp : Nat) :
    ch_inclusion channel_set peers temp = ResumedSearch.pick channel_set peers temp := by
  induction peers generalizing temp with
  | nil => rfl
  | cons ch rest ih =>
      rw [ch_inclusion, ResumedSearch.pick]
      cases (channel_set.drop temp).findIdx? (· == ch) with
      | none => exact ih temp
      | some j => exact congrArg (ch :: ·) (ih (temp + j))

/-- The content of a Channel List attribute: at most 100 channels in any classes. -/
structure ChListAttr where
  country : List UInt8
  regs : List RegClass
  three : country.length = 3
  few : (regs.flatMap (·.channel)).length ≤ 100

def ChListAttr.content (attr : ChListAttr) : List UInt8 := attr.country ++ channel_entries attr.regs

def ChListAttr.channels (attr : ChListAttr) : List UInt8 := attr.regs.flatMap (·.channel)

/-- The channels that are listed and in the set, in the order of the peer; their number is 0
only when there is none. -/
structure CommonFound (d : Device) (attr : ChListAttr) : Prop where
  common : ch_list_inclusioned d attr.content = attr.channels.filter (· ∈ d.channel_set)
  none_iff : UInt8.ofNat (ch_list_inclusioned d attr.content).length = 0 <->
    ∀ ch ∈ attr.channels, ch ∉ d.channel_set

/-- No channel of the set is in the classes that are not read, and the places of those that are
read never go down. -/
structure ListedInOrder (d : Device) (attr : ChListAttr) : Prop where
  unread : ∀ reg ∈ unheard attr.regs, ∀ ch ∈ reg.channel, ch ∉ d.channel_set
  ascending : ResumedSearch.Ascending d.channel_set ((heard attr.regs).flatMap (·.channel))

theorem unread_iff {d : Device} {attr : ChListAttr} :
    (∀ reg ∈ unheard attr.regs, ∀ ch ∈ reg.channel, ch ∉ d.channel_set) <->
      ((unheard attr.regs).flatMap (·.channel)).filter (· ∈ d.channel_set) = [] := by
  rw [List.filter_eq_nil_iff]
  constructor
  · intro unread ch member
    rcases List.mem_flatMap.mp member with ⟨reg, inside, listed⟩
    rw [decide_eq_true_eq]
    exact unread reg inside ch listed
  · intro none reg inside ch listed member
    exact none ch (List.mem_flatMap.mpr ⟨reg, inside, listed⟩) (decide_eq_true member)

/-- The common channels are found exactly when the peer lists them in the order of the set. -/
theorem common_channels_iff {d : Device} (distinct : d.channel_set.Nodup) (attr : ChListAttr) :
    CommonFound d attr <-> ListedInOrder d attr := by
  have few := attr.few
  have found : ch_list_inclusioned d attr.content =
      ResumedSearch.pick d.channel_set ((heard attr.regs).flatMap (·.channel)) 0 := by
    rw [ch_list_inclusioned, rtw_p2p_ch_inclusion, ChListAttr.content,
      get_peer_ch_list_heard attr.three attr.regs (by omega), ch_inclusion_eq_pick]
  have split : attr.channels.filter (· ∈ d.channel_set) =
      ((heard attr.regs).flatMap (·.channel)).filter (· ∈ d.channel_set) ++
        ((unheard attr.regs).flatMap (·.channel)).filter (· ∈ d.channel_set) := by
    rw [ChListAttr.channels, ← List.filter_append, ← List.flatMap_append, heard_append_unheard]
  have sublist := ResumedSearch.pick_sublist distinct ((heard attr.regs).flatMap (·.channel)) 0
  have in_order := ResumedSearch.pick_zero_eq_filter_iff distinct ((heard attr.regs).flatMap (·.channel))
  constructor
  · intro ⟨common, _⟩
    rw [found, split] at common
    have length := sublist.length_le
    rw [common, List.length_append] at length
    have none_unread := List.length_eq_zero_iff.mp (show (((unheard attr.regs).flatMap (·.channel)).filter
      (· ∈ d.channel_set)).length = 0 by omega)
    rw [none_unread, List.append_nil] at common
    exact ⟨unread_iff.mpr none_unread, in_order.mp common⟩
  · intro ⟨unread, ascending⟩
    have common : ch_list_inclusioned d attr.content = attr.channels.filter (· ∈ d.channel_set) := by
      rw [found, split, in_order.mpr ascending, unread_iff.mp unread, List.append_nil]
    have short : (attr.channels.filter (· ∈ d.channel_set)).length ≤ 100 :=
      Nat.le_trans (List.length_filter_le _ _) few
    refine ⟨common, ?_⟩
    rw [common, ← UInt8.toNat_inj, UInt8.toNat_ofNat_of_lt' (show _ < 256 by omega)]
    show _ = 0 <-> _
    rw [List.length_eq_zero_iff, List.filter_eq_nil_iff]
    exact forall₂_congr (fun _ _ => not_congr decide_eq_true_iff)

def device_on (channel_set : List UInt8) : Device where
  channel_set
  ht_enable := true
  bw_5g_40 := false
  mi_linked := false
  full_ch_in_p2p_handshake := false
  union_chan := 0
  union_chan_mem := nofun
  intent := 7
  intent_le := by decide
  adapter_mac_addr := [0, 0xe0, 0x4c, 0, 0, 1]
  device_addr := [0, 0xe0, 0x4c, 0, 0, 1]
  nego_ssid := [0x44]
  listen_channel := 11

def peer_list (classes : List RegClass) (few : (classes.flatMap (·.channel)).length ≤ 100) : ChListAttr where
  country := country_string
  regs := classes
  three := rfl
  few

theorem common_channels_in_order :
    CommonFound (device_on [1, 6, 11, 36, 40]) (peer_list [⟨81, [1, 2, 11]⟩, ⟨115, [36, 36, 44]⟩] (by decide)) :=
  (common_channels_iff (by decide) _).mpr ⟨by decide, by decide⟩

/-- With the 5 GHz class first, the channels of the other class are missed. -/
theorem common_channels_missed : ¬ ∀ attr : ChListAttr, CommonFound (device_on [1, 6, 11, 36, 40]) attr := by
  intro all
  have common := (all (peer_list [⟨115, [36, 40]⟩, ⟨81, [1, 6, 11]⟩] (by decide))).common
  exact absurd common (by decide)

end GoNego
end Rtl8821ce
