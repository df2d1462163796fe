import Rtl8821ce.Hal.C2hAccess
import Rtl8821ce.Hal.OffloadMatching

/-!
# Which firmware packets are handled inside

The handlers trust the packet: a word that a handler reads may lie behind the
packet, and the place of a segment is not compared with its buffer.  Debug messages
are followed by their own lengths, with an index of eight bits.
-/

namespace Rtl8821ce
namespace Offload
namespace C2h

variable {buf : Packet} {i fuel efuse_idx : Nat} {host : Host}

variable {s : C2hState}

/-! ## Debug messages -/

/-- A newline with a zero or `0xff` behind it ends the first message. -/
def LineEnds (buf : ByteMap) (i : Nat) : Prop :=
  buf (C2H_DBG_HDR_LEN.toNat + i) = 0x0A ∧
    (buf (C2H_DBG_HDR_LEN.toNat + i + 1) = 0 ∨ buf (C2H_DBG_HDR_LEN.toNat + i + 1) = 0xff)

instance (buf : ByteMap) (i : Nat) : Decidable (LineEnds buf i) := inferInstanceAs (Decidable (_ ∧ _))

def ends_line (buf : ByteMap) (i : Nat) : Bool := decide (LineEnds buf i)

/-- Where the further messages start; 0 if no line ends. -/
def further_start (buf : ByteMap) (left i : Nat) : Nat :=
  match (List.range' i left).find? (ends_line buf) with
  | some k => C2H_DBG_HDR_LEN.toNat + k + 1
  | none => 0

/-- A character and, behind a newline, the next one are in the packet. -/
def CharacterInside (buf : Packet) (i : Nat) : Prop :=
  C2H_DBG_HDR_LEN.toNat + i < buf.size ∧
    (buf.data (C2H_DBG_HDR_LEN.toNat + i) = 0x0A -> C2H_DBG_HDR_LEN.toNat + i + 1 < buf.size)

/-- The characters up to the first end of a line are in the packet. -/
def SearchInside (buf : Packet) (left i : Nat) : Prop :=
  ∀ k, i ≤ k -> k < i + left -> (∀ j, i ≤ j -> j < k -> ¬ LineEnds buf.data j) -> CharacterInside buf k

theorem searchInside_succ {left : Nat} :
    SearchInside buf (left + 1) i <->
      CharacterInside buf i ∧ (¬ LineEnds buf.data i -> SearchInside buf left (i + 1)) := by
  constructor
  · intro search
    refine ⟨search i (Nat.le_refl i) (by omega) (fun j first last => absurd last (Nat.not_lt.mpr first)), ?_⟩
    intro goes k first last before
    refine search k (by omega) (by omega) (fun j start behind => ?_)
    rcases Nat.eq_or_lt_of_le start with same | later
    · exact same ▸ goes
    · exact before j later behind
  · intro ⟨here, rest⟩ k first last before
    rcases Nat.eq_or_lt_of_le first with same | later
    · exact same ▸ here
    · exact rest (before i (Nat.le_refl i) later) k later (by omega)
        (fun j start behind => before j (by omega) behind)

theorem further_start_of_ends {buf : ByteMap} {left : Nat} (ends : LineEnds buf i) :
    further_start buf (left + 1) i = C2H_DBG_HDR_LEN.toNat + i + 1 := by
  have here : ends_line buf i = true := decide_eq_true ends
  rw [further_start, List.range'_succ, List.find?_cons_of_pos here]

theorem further_start_of_goes {buf : ByteMap} {left : Nat} (goes : ¬ LineEnds buf i) :
    further_start buf (left + 1) i = further_start buf left (i + 1) := by
  have here : ¬ ends_line buf i = true := fun ends => goes (of_decide_eq_true ends)
  rw [further_start, List.range'_succ, List.find?_cons_of_neg here, further_start]

theorem succeeds_first_message_end {Value : Type} {rest : Nat -> C2hM Value} {left : Nat} :
    (first_message_end buf left i >>= rest).Succeeds s <->
      SearchInside buf left i ∧ (rest (further_start buf.data left i)).Succeeds s := by
  induction left generalizing i with
  | zero =>
      refine ⟨fun success => ⟨fun k first last _ => absurd last (Nat.not_lt.mpr first), success⟩, fun both => both.2⟩
  | succ left ih =>
      rw [first_message_end, Program.bind_assoc, succeeds_load, searchInside_succ]
      by_cases newline : buf.data (C2H_DBG_HDR_LEN.toNat + i) = 0x0A
      · rw [if_pos newline, Program.bind_assoc, succeeds_load]
        by_cases behind : buf.data (C2H_DBG_HDR_LEN.toNat + i + 1) = 0 ∨
            buf.data (C2H_DBG_HDR_LEN.toNat + i + 1) = 0xff
        · have ends : LineEnds buf.data i := ⟨newline, behind⟩
          rw [if_pos behind, Program.succeeds_pure_bind, further_start_of_ends ends]
          exact ⟨fun ⟨here, next, success⟩ => ⟨⟨⟨here, fun _ => next⟩, fun goes => absurd ends goes⟩, success⟩,
            fun ⟨⟨character, _⟩, success⟩ => ⟨character.1, character.2 newline, success⟩⟩
        · have goes : ¬ LineEnds buf.data i := fun ends => behind ends.2
          rw [if_neg behind, ih, further_start_of_goes goes]
          exact ⟨fun ⟨here, next, search, success⟩ => ⟨⟨⟨here, fun _ => next⟩, fun _ => search⟩, success⟩,
            fun ⟨⟨character, search⟩, success⟩ => ⟨character.1, character.2 newline, search goes, success⟩⟩
      · have goes : ¬ LineEnds buf.data i := fun ends => newline ends.1
        rw [if_neg newline, ih, further_start_of_goes goes]
        exact ⟨fun ⟨here, search, success⟩ => ⟨⟨⟨here, fun is => absurd is newline⟩, fun _ => search⟩, success⟩,
          fun ⟨⟨character, search⟩, success⟩ => ⟨character.1, search goes, success⟩⟩

/-- A message of `msg_len` bytes, one at least, is in the packet. -/
def MessageInside (buf : Packet) (start : Nat) (msg_len : UInt8) : Prop :=
  start + msg_len.toNat ≤ buf.size ∧ 0 < msg_len.toNat

theorem succeeds_print_message {Value : Type} {turn : Nat} {start : Nat}
    {msg_len : UInt8} {rest : Bool -> C2hM Value} :
    (print_message host turn buf start msg_len >>= rest).Succeeds s <->
      (host.malloc turn = true -> MessageInside buf start msg_len) ∧ (rest (host.malloc turn)).Succeeds s := by
  unfold print_message MessageInside
  cases granted : host.malloc turn with
  | false =>
      rw [if_neg Bool.false_ne_true, Program.succeeds_pure_bind]
      exact ⟨fun success => ⟨fun impossible => (nomatch impossible), success⟩, fun both => both.2⟩
  | true =>
      rw [if_pos rfl, Program.bind_assoc, succeeds_inside, Program.bind_assoc, Program.succeeds_require_bind,
        Program.succeeds_pure_bind, decide_eq_true_eq]
      exact ⟨fun ⟨fits, some_, success⟩ => ⟨fun _ => ⟨fits, some_⟩, success⟩,
        fun ⟨message, success⟩ => ⟨(message rfl).1, (message rfl).2, success⟩⟩

/-- Messages from a place on.  Each has its length in its fourth byte and is in the
packet; a zero byte or a refused allocation ends the chain. -/
inductive Messages (host : Host) (buf : Packet) : Nat -> UInt8 -> Prop
  | ended {turn : Nat} {place : UInt8} (known : place.toNat < buf.size) (zero : buf.data place.toNat = 0) :
      Messages host buf turn place
  | refused {turn : Nat} {place : UInt8} (known : place.toNat + 3 < buf.size) (another : buf.data place.toNat ≠ 0)
      (none_left : host.malloc turn = false) : Messages host buf turn place
  | message {turn : Nat} {place : UInt8} (known : place.toNat + 3 < buf.size) (another : buf.data place.toNat ≠ 0)
      (granted : host.malloc turn = true)
      (text : MessageInside buf (place.toNat + C2H_DBG_HDR_LEN.toNat) (buf.data (place.toNat + 3) - 1))
      (further : Messages host buf (turn + 1) (place + (C2H_DBG_HDR_LEN + (buf.data (place.toNat + 3) - 1)))) :
      Messages host buf turn place

theorem messages_of_succeeds {turn : Nat} {place : UInt8}
    (success : (further_messages host buf fuel turn place).Succeeds s) : Messages host buf turn place := by
  induction fuel generalizing turn place with
  | zero => exact absurd success (Program.succeeds_stop _ _).mp
  | succ fuel ih =>
      rw [further_messages, succeeds_load] at success
      rcases success with ⟨here, success⟩
      by_cases zero : buf.data place.toNat = 0
      · exact Messages.ended here zero
      · dsimp only at success
        rw [if_neg zero, succeeds_load, succeeds_print_message] at success
        rcases success with ⟨known, text, success⟩
        cases granted : host.malloc turn with
        | false => exact Messages.refused known zero granted
        | true =>
            rw [granted, if_pos rfl] at success
            exact Messages.message known zero granted (text granted) (ih success)

theorem succeeds_of_messages {host : Host} {buf : Packet} {turn : Nat} {place : UInt8}
    (messages : Messages host buf turn place) : ∃ fuel, (further_messages host buf fuel turn place).Succeeds s := by
  induction messages with
  | ended known zero =>
      refine ⟨1, ?_⟩
      rw [further_messages, succeeds_load, if_pos zero]
      exact ⟨known, Program.succeeds_pure _ _⟩
  | refused known another none_left =>
      refine ⟨1, ?_⟩
      rw [further_messages, succeeds_load, if_neg another]
      dsimp only
      rw [succeeds_load, succeeds_print_message, none_left, if_neg Bool.false_ne_true]
      exact ⟨by omega, known, fun impossible => (nomatch impossible), Program.succeeds_pure _ _⟩
  | message known another granted text _ ih =>
      rcases ih with ⟨fuel, success⟩
      refine ⟨fuel + 1, ?_⟩
      rw [further_messages, succeeds_load, if_neg another]
      dsimp only
      rw [succeeds_load, succeeds_print_message, granted, if_pos rfl]
      exact ⟨by omega, known, fun _ => text, success⟩

/-- A debug message: the end of the first one is looked for inside, and the messages
are printed inside. -/
def DbgInside (host : Host) (buf : Packet) : Prop :=
  C2H_HDR_GET_LEN buf.data ≤ C2H_DBG_CONTENT_MAX_LENGTH ->
    SearchInside buf (C2H_HDR_GET_LEN buf.data) 0 ∧
      (host.malloc 0 = true ->
        MessageInside buf C2H_DBG_HDR_LEN.toNat
            (UInt8.ofNat (further_start buf.data (C2H_HDR_GET_LEN buf.data) 0) - C2H_DBG_HDR_LEN) ∧
          Messages host buf 1 (UInt8.ofNat (further_start buf.data (C2H_HDR_GET_LEN buf.data) 0)))

theorem get_c2h_dbg_iff (header : 4 ≤ buf.size) :
    (∃ fuel, (get_c2h_dbg_88xx host fuel buf).Succeeds s) <-> DbgInside host buf := by
  have first : ∀ fuel, (get_c2h_dbg_88xx host fuel buf).Succeeds s <->
      (C2H_HDR_GET_LEN buf.data ≤ C2H_DBG_CONTENT_MAX_LENGTH ->
        SearchInside buf (C2H_HDR_GET_LEN buf.data) 0 ∧
          (host.malloc 0 = true ->
            MessageInside buf C2H_DBG_HDR_LEN.toNat
                (UInt8.ofNat (further_start buf.data (C2H_HDR_GET_LEN buf.data) 0) - C2H_DBG_HDR_LEN) ∧
              (further_messages host buf fuel 1
                (UInt8.ofNat (further_start buf.data (C2H_HDR_GET_LEN buf.data) 0))).Succeeds s)) := by
    intro fuel
    rw [get_c2h_dbg_88xx, succeeds_load_field]
    by_cases long : C2H_DBG_CONTENT_MAX_LENGTH < C2H_HDR_GET_LEN buf.data
    · rw [if_pos long]
      exact ⟨fun _ short => absurd long (Nat.not_lt.mpr short), fun _ => ⟨header, Program.succeeds_pure _ _⟩⟩
    · rw [if_neg long, succeeds_first_message_end]
      dsimp only
      rw [succeeds_print_message]
      cases granted : host.malloc 0 with
      | false =>
          rw [if_neg Bool.false_ne_true]
          exact ⟨fun ⟨_, search, _⟩ _ => ⟨search, fun impossible => (nomatch impossible)⟩,
            fun both => ⟨header, (both (Nat.not_lt.mp long)).1, fun impossible => (nomatch impossible),
              Program.succeeds_pure _ _⟩⟩
      | true =>
          rw [if_pos rfl]
          exact ⟨fun ⟨_, search, text, more⟩ _ => ⟨search, fun _ => ⟨text rfl, more⟩⟩,
            fun both => ⟨header, (both (Nat.not_lt.mp long)).1,
              fun _ => ((both (Nat.not_lt.mp long)).2 rfl).1, ((both (Nat.not_lt.mp long)).2 rfl).2⟩⟩
  constructor
  · rintro ⟨fuel, success⟩ short
    rcases (first fuel).mp success short with ⟨search, printed⟩
    exact ⟨search, fun granted => ⟨(printed granted).1, messages_of_succeeds (printed granted).2⟩⟩
  · intro holds
    by_cases printed : C2H_HDR_GET_LEN buf.data ≤ C2H_DBG_CONTENT_MAX_LENGTH ∧ host.malloc 0 = true
    · rcases (holds printed.1).2 printed.2 with ⟨text, messages⟩
      rcases @succeeds_of_messages s _ _ _ _ messages with ⟨fuel, success⟩
      exact ⟨fuel, (first fuel).mpr (fun short => ⟨(holds short).1, fun _ => ⟨text, success⟩⟩)⟩
    · exact ⟨0, (first 0).mpr (fun short =>
        ⟨(holds short).1, fun granted => absurd ⟨short, granted⟩ printed⟩)⟩

/-! ## Acknowledgements -/

theorem succeeds_when_expected {feature : HalmacFeature} {seq_num : Nat} {handler : C2hM Status} :
    (when_expected feature seq_num handler).Succeeds s <->
      (Expected feature seq_num s.adapter -> handler.Succeeds s) := by
  rw [when_expected, Program.succeeds_get_bind]
  by_cases expected : Expected feature seq_num s.adapter
  · rw [if_pos expected]
    exact ⟨fun success _ => success, fun success => success expected⟩
  · rw [if_neg expected]
    exact ⟨fun _ is => absurd is expected, fun _ => Program.succeeds_pure _ _⟩

theorem succeeds_load_ack {handler : ByteMap -> HalmacM Unit} :
    (load_ack buf handler).Succeeds s <-> 12 ≤ buf.size := by
  rw [load_ack, succeeds_load_field]
  exact ⟨fun both => both.1, fun number => ⟨number, succeeds_on_adapter _⟩⟩

theorem get_h2c_ack_cfg_param_iff :
    (get_h2c_ack_cfg_param_88xx buf).Succeeds s <->
      12 ≤ buf.size ∧ (Expected .CFG_PARA (H2C_ACK_HDR_GET_H2C_SEQ buf.data) s.adapter -> 20 ≤ buf.size) := by
  rw [get_h2c_ack_cfg_param_88xx, succeeds_load_field, succeeds_when_expected]
  refine and_congr Iff.rfl (imp_congr Iff.rfl ?_)
  rw [succeeds_load_field, succeeds_load_field]
  exact ⟨fun success => success.2.1, fun sums => ⟨by omega, sums, succeeds_on_adapter _⟩⟩

/-- The acknowledgements whose handler reads the number of the command. -/
def AckWithNumber (sub_cmd_id : Nat) : Prop :=
  sub_cmd_id = HalmacFeature.DUMP_PHYSICAL_EFUSE.sub_cmd_id ∨ sub_cmd_id = HalmacFeature.CFG_PARA.sub_cmd_id ∨
    sub_cmd_id = HalmacFeature.UPDATE_PACKET.sub_cmd_id ∨ sub_cmd_id = HalmacFeature.CHANNEL_SWITCH.sub_cmd_id ∨
    sub_cmd_id = HalmacFeature.IQK.sub_cmd_id ∨ sub_cmd_id = HalmacFeature.POWER_TRACKING.sub_cmd_id ∨
    sub_cmd_id = OtherCommand.FW_SNDING.sub_cmd_id

/-- The words behind the first two that an acknowledgement has to have. -/
def NumberInside (buf : Packet) (adapter : Adapter) (sub_cmd_id : Nat) : Prop :=
  (AckWithNumber sub_cmd_id -> 12 ≤ buf.size) ∧
    (sub_cmd_id = HalmacFeature.CFG_PARA.sub_cmd_id ->
      Expected .CFG_PARA (H2C_ACK_HDR_GET_H2C_SEQ buf.data) adapter -> 20 ≤ buf.size)

theorem numberInside_iff {adapter : Adapter} {sub_cmd_id : Nat} (named : AckWithNumber sub_cmd_id)
    (plain : sub_cmd_id ≠ HalmacFeature.CFG_PARA.sub_cmd_id) :
    12 ≤ buf.size <-> NumberInside buf adapter sub_cmd_id :=
  ⟨fun number => ⟨fun _ => number, fun same => absurd same plain⟩, fun holds => holds.1 named⟩

theorem numberInside_of_not {adapter : Adapter} {sub_cmd_id : Nat} (unnamed : ¬ AckWithNumber sub_cmd_id) :
    NumberInside buf adapter sub_cmd_id :=
  ⟨fun named => absurd named unnamed, fun same => absurd (Or.inr (Or.inl same)) unnamed⟩

def AckInside (buf : Packet) (adapter : Adapter) : Prop :=
  8 ≤ buf.size ∧
    (H2C_ACK_HDR_GET_H2C_CMD_ID buf.data = 0xFF ->
      NumberInside buf adapter (H2C_ACK_HDR_GET_H2C_SUB_CMD_ID buf.data % 256))

theorem get_h2c_ack_iff : (get_h2c_ack_88xx buf).Succeeds s <-> AckInside buf s.adapter := by
  rw [get_h2c_ack_88xx, succeeds_load_field, succeeds_load_field, AckInside, ← and_assoc, and_self]
  refine and_congr_right (fun header => ?_)
  by_cases other : H2C_ACK_HDR_GET_H2C_CMD_ID buf.data ≠ 0xFF
  · rw [if_pos other]
    exact ⟨fun _ same => absurd same other, fun _ => Program.succeeds_pure _ _⟩
  · rw [if_neg other, succeeds_load_field, and_iff_right header, forall_prop_of_true (not_not.mp other)]
    dsimp only
    generalize H2C_ACK_HDR_GET_H2C_SUB_CMD_ID buf.data % 256 = sub_cmd_id
    have ends : ∀ status : Status, ¬ AckWithNumber sub_cmd_id ->
        ((pure status : C2hM Status).Succeeds s <-> NumberInside buf s.adapter sub_cmd_id) :=
      fun status unnamed => ⟨fun _ => numberInside_of_not unnamed, fun _ => Program.succeeds_pure _ _⟩
    split_ifs with efuse cfg update datapack switch iqk tracking psd sounding
    · rw [succeeds_load_ack]
      exact numberInside_iff (Or.inl efuse) (by rw [efuse]; decide)
    · rw [get_h2c_ack_cfg_param_iff, NumberInside, forall_prop_of_true cfg,
        forall_prop_of_true (show AckWithNumber sub_cmd_id from Or.inr (Or.inl cfg))]
    · rw [succeeds_load_ack]
      exact numberInside_iff (Or.inr (Or.inr (Or.inl update))) (by rw [update]; decide)
    · refine ends _ ?_
      rcases datapack with rfl | rfl <;> unfold AckWithNumber <;> decide
    · rw [succeeds_load_ack]
      exact numberInside_iff (by unfold AckWithNumber; rw [switch]; decide) (by rw [switch]; decide)
    · rw [succeeds_load_ack]
      exact numberInside_iff (by unfold AckWithNumber; rw [iqk]; decide) (by rw [iqk]; decide)
    · rw [succeeds_load_ack]
      exact numberInside_iff (by unfold AckWithNumber; rw [tracking]; decide) (by rw [tracking]; decide)
    · refine ends _ ?_
      rw [psd]
      unfold AckWithNumber
      decide
    · rw [succeeds_load_ack]
      exact numberInside_iff (by unfold AckWithNumber; rw [sounding]; decide) (by rw [sounding]; decide)
    · refine ends _ ?_
      unfold AckWithNumber
      simp only [efuse, cfg, update, switch, iqk, tracking, sounding, or_false, not_false_eq_true]

section parser

variable {hw_info : HwCfgInfo} {phy_map : ByteMap}

theorem load_phy_map_ok {room : Nat} (known : efuse_idx < room) :
    load_phy_map phy_map room efuse_idx s = (.ok (phy_map efuse_idx), s) := by
  rw [load_phy_map, decide_eq_true known]
  rfl

theorem copy_to_log_map_ok {room eeprom_idx : Nat} (known : efuse_idx < room)
    (fits : eeprom_idx < hw_info.eeprom_size) :
    copy_to_log_map hw_info phy_map room eeprom_idx efuse_idx s = (.ok ⟨⟩, s) := by
  rw [copy_to_log_map, Program.bind_of_ok (load_phy_map_ok known), decide_eq_true fits]
  rfl

theorem second_byte_inside {blk_idx : Nat} (first : (blk_idx <<< 3) + (i <<< 1) + 1 ≤ hw_info.eeprom_size) :
    (blk_idx <<< 3) + (i <<< 1) + 1 < hw_info.eeprom_size := by
  have even := hw_info.eeprom_even
  rw [Nat.shiftLeft_eq, Nat.shiftLeft_eq] at *
  omega

theorem parse_words_ok {blk_idx word_en : Nat} {words : List Nat} (start : efuse_idx ≤ hw_info.limit) :
    ∃ next, parse_words hw_info phy_map hw_info.efuse_size blk_idx word_en words efuse_idx s = (.ok next, s) ∧
      ∀ stop, next = some stop -> efuse_idx ≤ stop ∧ stop ≤ hw_info.limit := by
  have room := hw_info.limit_add
  have reserve : PROTECT_EFUSE_SIZE = 96 := rfl
  induction words generalizing efuse_idx with
  | nil => exact ⟨_, rfl, fun stop same => Option.some.inj same ▸ ⟨Nat.le_refl _, start⟩⟩
  | cons i rest ih =>
      unfold parse_words
      by_cases skipped : word_en.testBit i
      · rw [if_pos skipped]
        exact ih start
      · rw [if_neg skipped]
        have failed : ∀ stop : Nat, none = some stop -> efuse_idx ≤ stop ∧ stop ≤ hw_info.limit := nofun
        by_cases large : (blk_idx <<< 3) + (i <<< 1) + 1 > hw_info.eeprom_size
        · rw [if_pos large]
          exact ⟨none, rfl, failed⟩
        · have second := second_byte_inside (Nat.not_lt.mp large)
          have first : (blk_idx <<< 3) + (i <<< 1) < hw_info.eeprom_size := by omega
          have known : efuse_idx < hw_info.efuse_size := by omega
          rw [if_neg large, Program.bind_of_ok (copy_to_log_map_ok known first)]
          by_cases last : efuse_idx + 1 > hw_info.efuse_size - PROTECT_EFUSE_SIZE - 1
          · rw [if_pos last]
            exact ⟨none, rfl, failed⟩
          · have next : efuse_idx + 1 < hw_info.efuse_size := by omega
            rw [if_neg last, Program.bind_of_ok (copy_to_log_map_ok next second)]
            by_cases full : efuse_idx + 2 > hw_info.efuse_size - PROTECT_EFUSE_SIZE
            · rw [if_pos full]
              exact ⟨none, rfl, failed⟩
            · rw [if_neg full]
              rcases @ih (efuse_idx + 2) (by unfold HwCfgInfo.limit; omega) with ⟨outcome, ran, bounds⟩
              exact ⟨outcome, ran, fun stop same => ⟨by have := bounds stop same; omega, (bounds stop same).2⟩⟩

theorem parse_section_ok {blk_idx word_en efuse_idx : Nat} :
    ∃ next,
      parse_section hw_info phy_map hw_info.efuse_size blk_idx word_en efuse_idx s = (.ok next, s) ∧
        ∀ stop, next = some stop -> efuse_idx ≤ stop ∧ stop ≤ hw_info.limit := by
  unfold parse_section
  by_cases full : efuse_idx >= hw_info.efuse_size - PROTECT_EFUSE_SIZE - 1
  · rw [if_pos full]
    exact ⟨none, rfl, nofun⟩
  · rw [if_neg full]
    exact parse_words_ok (by unfold HwCfgInfo.limit; omega)

theorem eeprom_parser_ok (start : efuse_idx ≤ hw_info.limit) (enough : hw_info.limit - efuse_idx < fuel) :
    (eeprom_parser_reads hw_info phy_map hw_info.efuse_size fuel efuse_idx).Succeeds s := by
  have room := hw_info.limit_add
  have reserve : PROTECT_EFUSE_SIZE = 96 := rfl
  induction fuel generalizing efuse_idx with
  | zero => exact absurd enough (Nat.not_lt_zero _)
  | succ fuel ih =>
      -- each section moves the index forward
      have section_ok : ∀ blk_idx word_en from_idx, efuse_idx < from_idx ->
          (parse_section hw_info phy_map hw_info.efuse_size blk_idx word_en from_idx >>= fun next =>
            match next with
            | some next => eeprom_parser_reads hw_info phy_map hw_info.efuse_size fuel next
            | none => pure false).Succeeds s := by
        intro blk_idx word_en from_idx ahead
        rcases @parse_section_ok s hw_info phy_map blk_idx word_en from_idx with ⟨next, ran, bounds⟩
        rw [Program.succeeds_bind_of_ok ran]
        cases next with
        | none => exact Program.succeeds_pure _ _
        | some stop =>
            have inside_ := bounds stop rfl
            exact ih inside_.2 (by omega)
      unfold eeprom_parser_reads
      have known : efuse_idx < hw_info.efuse_size := by omega
      rw [Program.succeeds_bind_of_ok (load_phy_map_ok known)]
      by_cases ext : is_ext_hdr (phy_map efuse_idx)
      · have next : efuse_idx + 1 < hw_info.efuse_size := by omega
        rw [if_pos ext, Program.succeeds_bind_of_ok (load_phy_map_ok next)]
        by_cases blank : phy_map (efuse_idx + 1) = 0xff
        · rw [if_pos blank]
          exact Program.succeeds_pure _ _
        · rw [if_neg blank]
          exact section_ok _ _ _ (by omega)
      · rw [if_neg ext]
        by_cases blank : phy_map efuse_idx = 0xff
        · rw [if_pos blank]
          exact Program.succeeds_pure _ _
        · rw [if_neg blank]
          exact section_ok _ _ _ (by omega)

theorem eeprom_parser_null : ¬ (eeprom_parser_reads hw_info phy_map 0 fuel 0).Succeeds s := by
  intro success
  cases fuel with
  | zero => exact (Program.succeeds_stop _ _).mp success
  | succ fuel =>
      unfold eeprom_parser_reads load_phy_map at success
      rw [Program.bind_assoc, Program.succeeds_require_bind, decide_eq_true_eq] at success
      exact absurd success.1 (Nat.not_lt_zero _)

end parser

theorem succeeds_copy_segment {Value : Type} {place seg_size room : Nat} {rest : PUnit -> C2hM Value} :
    (copy_segment buf place seg_size room >>= rest).Succeeds s <->
      (C2H_DATA_OFFSET_88XX + seg_size ≤ buf.size ∧ Fits place seg_size room) ∧ (rest ⟨⟩).Succeeds s := by
  rw [copy_segment, Program.bind_assoc, succeeds_inside, Program.succeeds_require_bind, decide_eq_true_eq, and_assoc]

/-- A segment is in the packet, and its place is in the buffer. -/
def SegmentInside (buf : Packet) (stride room : Nat) : Prop :=
  C2H_DATA_OFFSET_88XX + DATA_GET_SEGMENT_SIZE buf.data ≤ buf.size ∧
    Fits (segment_place (DATA_GET_SEGMENT_ID buf.data) (DATA_GET_SEGMENT_SIZE buf.data) stride)
      (DATA_GET_SEGMENT_SIZE buf.data) room

def PsdInside (host : Host) (buf : Packet) (s : C2hState) : Prop :=
  12 ≤ buf.size ∧
    (Expected .PSD (DATA_GET_H2C_SEQ buf.data) s.adapter ->
      SegmentInside buf s.adapter.psd.seg_size (psd_room host (DATA_GET_TOTAL_SIZE buf.data) s))

theorem get_psd_data_iff : (get_psd_data_88xx host buf).Succeeds s <-> PsdInside host buf s := by
  rw [get_psd_data_88xx, succeeds_load_field, succeeds_when_expected, PsdInside]
  refine and_congr_right (fun number => imp_congr Iff.rfl ?_)
  rw [succeeds_load_field, succeeds_load_field, succeeds_load_field, Program.succeeds_get_bind, succeeds_copy_segment,
    succeeds_load_field, Program.succeeds_update_bind]
  exact ⟨fun success => success.2.2.2.1,
    fun segment => ⟨by omega, by omega, by omega, segment, by omega, succeeds_on_adapter _⟩⟩

def EfuseInside (host : Host) (buf : Packet) (adapter : Adapter) : Prop :=
  12 ≤ buf.size ∧
    (Expected .DUMP_PHYSICAL_EFUSE (DATA_GET_H2C_SEQ buf.data) adapter -> host.malloc 0 = true ->
      SegmentInside buf adapter.efuse_seg_size (held adapter.efuse_map host.hw_cfg_info.efuse_size) ∧
        (WantsLogMap (DATA_GET_END_SEGMENT buf.data) adapter -> adapter.efuse_map.isSome = true))

theorem get_efuse_data_decides :
    Program.Decides (host.hw_cfg_info.limit < fuel) (get_efuse_data_88xx host fuel buf) s
      (EfuseInside host buf s.adapter) := by
  have whole : (get_efuse_data_88xx host fuel buf).Succeeds s <->
      12 ≤ buf.size ∧
        (Expected .DUMP_PHYSICAL_EFUSE (DATA_GET_H2C_SEQ buf.data) s.adapter -> host.malloc 0 = true ->
          SegmentInside buf s.adapter.efuse_seg_size (held s.adapter.efuse_map host.hw_cfg_info.efuse_size) ∧
            (WantsLogMap (DATA_GET_END_SEGMENT buf.data) s.adapter ->
              (parse_efuse_map host fuel
                (segment_place (DATA_GET_SEGMENT_ID buf.data) (DATA_GET_SEGMENT_SIZE buf.data) s.adapter.efuse_seg_size)
                (held s.adapter.efuse_map host.hw_cfg_info.efuse_size) buf s.adapter.efuse_map).Succeeds s)) := by
    rw [get_efuse_data_88xx, succeeds_load_field, succeeds_when_expected]
    refine and_congr_right (fun number => imp_congr Iff.rfl ?_)
    have header : 0x04 + 4 ≤ buf.size := by omega
    rw [succeeds_load_field, succeeds_load_field, Program.succeeds_get_bind, and_iff_right header, and_iff_right header]
    dsimp only
    cases granted : host.malloc 0 with
    | false =>
        rw [if_neg Bool.false_ne_true]
        exact ⟨fun _ impossible => (nomatch impossible), fun _ => succeeds_on_adapter _⟩
    | true =>
        rw [if_pos rfl, succeeds_copy_segment, succeeds_load_field, and_iff_right header, forall_prop_of_true rfl]
        refine and_congr Iff.rfl ?_
        by_cases wanted : WantsLogMap (DATA_GET_END_SEGMENT buf.data) s.adapter
        · rw [if_pos wanted, forall_prop_of_true wanted]
          refine ⟨Program.succeeds_head, fun success => ?_⟩
          rcases Program.succeeds_iff.mp success with ⟨parsed, next, ran⟩
          exact (Program.succeeds_bind_of_ok ran).mpr (succeeds_on_adapter _)
        · rw [if_neg wanted]
          exact ⟨fun _ is => absurd is wanted, fun _ => succeeds_on_adapter _⟩
  constructor
  · intro success
    refine ⟨(whole.mp success).1, fun expected granted => ?_⟩
    rcases (whole.mp success).2 expected granted with ⟨segment, parsed⟩
    refine ⟨segment, fun wanted => ?_⟩
    cases held_map : s.adapter.efuse_map with
    | none =>
        have impossible := parsed wanted
        rw [held_map] at impossible
        exact absurd impossible eeprom_parser_null
    | some map => rfl
  · intro enough holds
    refine whole.mpr ⟨holds.1, fun expected granted => ?_⟩
    rcases holds.2 expected granted with ⟨segment, exists_⟩
    refine ⟨segment, fun wanted => ?_⟩
    rw [held, if_pos (exists_ wanted)]
    exact eeprom_parser_ok (Nat.zero_le _) (by omega)

/-- What a packet has to be like, by its kind.  `pkt` starts behind the descriptor. -/
def PacketInside (host : Host) (pkt : Packet) (s : C2hState) : Prop :=
  C2H_HDR_GET_CMD_ID pkt.data = 0xFF ->
    if C2H_HDR_GET_C2H_SUB_CMD_ID pkt.data = C2H_SUB_CMD_ID_C2H_DBG then DbgInside host pkt
    else if C2H_HDR_GET_C2H_SUB_CMD_ID pkt.data = C2H_SUB_CMD_ID_H2C_ACK_HDR then AckInside pkt s.adapter
    else if C2H_HDR_GET_C2H_SUB_CMD_ID pkt.data = C2H_SUB_CMD_ID_SCAN_STATUS_RPT then 8 ≤ pkt.size
    else if C2H_HDR_GET_C2H_SUB_CMD_ID pkt.data = C2H_SUB_CMD_ID_PSD_DATA then PsdInside host pkt s
    else if C2H_HDR_GET_C2H_SUB_CMD_ID pkt.data = C2H_SUB_CMD_ID_EFUSE_DATA then EfuseInside host pkt s.adapter
    else True

theorem exists_const_iff {program : C2hM Status} {condition : Prop} (same : program.Succeeds s <-> condition) :
    (∃ _ : Nat, program.Succeeds s) <-> condition :=
  ⟨fun ⟨_, success⟩ => same.mp success, fun holds => ⟨0, same.mpr holds⟩⟩

theorem get_scan_rpt_iff : (get_scan_rpt_88xx buf).Succeeds s <-> 8 ≤ buf.size := by
  rw [get_scan_rpt_88xx, succeeds_load_field]
  exact ⟨fun both => both.1, fun known => ⟨known, succeeds_on_adapter _⟩⟩

theorem get_efuse_data_iff :
    (∃ fuel, (get_efuse_data_88xx host fuel buf).Succeeds s) <-> EfuseInside host buf s.adapter :=
  Program.exists_succeeds_iff (Nat.lt_succ_self host.hw_cfg_info.limit) (fun _ => get_efuse_data_decides)

/-- A packet is handled inside and to an end exactly when it is like that. -/
theorem parse_c2h_pkt_inside_iff (host : Host) (buf : Packet) (s : C2hState)
    (size : host.rxdesc_size + 4 < buf.size) :
    (∃ fuel, (parse_c2h_pkt_88xx host fuel buf).Succeeds s) <->
      PacketInside host (buf.skip host.rxdesc_size) s := by
  have header : 4 ≤ (buf.skip host.rxdesc_size).size := by
    change 4 ≤ buf.size - host.rxdesc_size
    omega
  unfold parse_c2h_pkt_88xx PacketInside
  generalize buf.skip host.rxdesc_size = pkt at header
  dsimp only
  simp only [succeeds_load_field, and_iff_right (show 0x00 + 4 ≤ pkt.size from header)]
  have ends : ∀ status : Status, ((pure status : C2hM Status).Succeeds s <-> True) :=
    fun status => iff_true_intro (Program.succeeds_pure status s)
  by_cases other : C2H_HDR_GET_CMD_ID pkt.data ≠ 0xFF
  · simp only [if_pos other]
    exact exists_const_iff ((ends _).trans (iff_of_true trivial (fun same => absurd same other)))
  · simp only [if_neg other, succeeds_load_field, and_iff_right (show 0x00 + 4 ≤ pkt.size from header)]
    rw [forall_prop_of_true (not_not.mp other)]
    split_ifs with dbg ack scan psd efuse
    · exact get_c2h_dbg_iff header
    · exact exists_const_iff get_h2c_ack_iff
    · exact exists_const_iff get_scan_rpt_iff
    · exact exists_const_iff get_psd_data_iff
    · exact get_efuse_data_iff
    · exact exists_const_iff (ends _)

def host_8821c : Host where
  hw_cfg_info := HwCfgInfo.of8821c
  rxdesc_size := 24
  malloc := fun _ => true

/-- A debug message behind a descriptor.  Its line `A` is followed by a message of
63 characters, of which the packet has none. -/
def long_message : Packet where
  data := fun place => [0xff, 0x00, 0x00, 0x03, 0x41, 0x0a, 0xff, 0x00, 0x00, 0x40].getD (place - 24) 0
  size := 34

def short_message : Packet where
  data := fun place => [0xff, 0x00, 0x00, 0x03, 0x41, 0x0a, 0x00].getD (place - 24) 0
  size := 31

def idle_state : C2hState := ⟨Adapter.init, 0⟩

theorem parse_c2h_pkt_inside_iff_short :
    (∃ fuel, (parse_c2h_pkt_88xx host_8821c fuel short_message).Succeeds idle_state) <->
      PacketInside host_8821c (short_message.skip 24) idle_state :=
  parse_c2h_pkt_inside_iff host_8821c short_message idle_state (by decide)

theorem long_message_left :
    host_8821c.rxdesc_size + 4 < long_message.size ∧
      ¬ ∃ fuel, (parse_c2h_pkt_88xx host_8821c fuel long_message).Succeeds idle_state := by
  refine ⟨by decide, ?_⟩
  rintro ⟨fuel, success⟩
  have run : parse_c2h_pkt_88xx host_8821c fuel long_message =
      get_c2h_dbg_88xx host_8821c fuel (long_message.skip 24) := rfl
  rw [run] at success
  have inside_ := get_c2h_dbg_iff (show 4 ≤ (long_message.skip 24).size by decide) |>.mp ⟨fuel, success⟩
  have messages := ((inside_ (by decide)).2 rfl).2
  cases messages with
  | ended known zero => exact absurd zero (by decide)
  | refused known another none_left => cases none_left
  | message known another granted text further => exact absurd text.1 (by decide)

end C2h

end Offload

end Rtl8821ce
