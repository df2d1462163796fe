import Rtl8821ce.P2p.FrameWalk

/-!
# When the walks stay inside their attributes

For each of the functions that walk through a channel list: it ends and stays inside
exactly for frames whose lists are filled by whole entries.
-/

namespace Rtl8821ce
namespace P2p

open Program (Decides bind_of_ok get_bind_eq_ok succeeds_bind_of_ok succeeds_iff)

variable {s t : Wdev} {ie : Nat × Nat} {host : Host}

theorem ListSound.local_ {first second : Nat -> UInt8} (same : ∀ p, ie.1 ≤ p -> second p = first p)
    (sound : ListSound first ie) : ListSound second ie := by
  rcases sound with ⟨found, lookup, filled⟩
  refine ⟨found, (Lookup.local_ same).mpr lookup, fun pattr len here => ?_⟩
  rcases filled pattr len here with ⟨small, long, places, entries⟩
  have inside := Lookup.inside (here ▸ lookup) small
  exact ⟨small, long, places, entries.congr (fun p behind _ _ => same p (by omega))⟩

def frame_ies (mem : Nat -> UInt8) (frame_body len : Nat) : List (Nat × Nat) :=
  let ies := frame_body + _PUBLIC_ACTION_IE_OFFSET_
  let ies_len := int_of_u32 (u32_sub len _PUBLIC_ACTION_IE_OFFSET_)
  p2p_ies mem ies ies_len (ies_len.toNat + 1) (rtw_get_p2p_ie mem ies ies_len)

theorem int_of_u32_lt (value : Nat) (small : value < 2 ^ 32) : int_of_u32 value < 2 ^ 31 := by
  unfold int_of_u32
  split <;> omega

theorem u32_sub_lt (first second : Nat) : u32_sub first second < 2 ^ 32 := Nat.mod_lt _ (by decide)

theorem frame_p2p_ies_decides {fuel : Nat} {action : Nat × Nat -> P2pProgram PUnit}
    {condition : (Nat -> UInt8) -> Nat × Nat -> Prop} (step : ∀ s t ie result, action ie s = (.ok result, t) ->
      condition s.mem ie ∧ ∀ p, ie.1 + ie.2 ≤ p -> t.mem p = s.mem p)
    (live : ∀ s ie, ie.2 + 65536 < fuel -> condition s.mem ie -> (action ie).Succeeds s)
    (local_ : ∀ first second ie, (∀ p, ie.1 ≤ p -> second p = first p) -> condition first ie -> condition second ie)
    (frame_body len : Nat) :
    Decides (2 ^ 32 ≤ fuel) (frame_p2p_ies fuel frame_body len action) s
      (∀ ie ∈ frame_ies s.mem frame_body len, condition s.mem ie) := by
  unfold frame_p2p_ies frame_ies
  dsimp only
  constructor
  · intro success
    rcases succeeds_iff.mp (Program.succeeds_get_bind.mp success) with ⟨result, t, success⟩
    exact condition_of_each step local_ success _
  · intro enough all
    have bounded := int_of_u32_lt _ (u32_sub_lt len _PUBLIC_ACTION_IE_OFFSET_)
    obtain ⟨ies, ies_eq⟩ : ∃ ies, frame_body + _PUBLIC_ACTION_IE_OFFSET_ = ies := ⟨_, rfl⟩
    obtain ⟨ies_len, len_eq⟩ : ∃ ies_len, int_of_u32 (u32_sub len _PUBLIC_ACTION_IE_OFFSET_) = ies_len :=
      ⟨_, rfl⟩
    rw [ies_eq, len_eq] at all
    rw [len_eq] at bounded
    have first : left_at ies ies_len (rtw_get_p2p_ie s.mem ies ies_len) < ies_len.toNat + 1 := by
      cases found : rtw_get_p2p_ie s.mem ies ies_len with
      | none => exact Nat.zero_lt_succ _
      | some ie =>
          have begins := (rtw_get_p2p_ie_some found).1
          unfold left_at
          dsimp only
          omega
    have acts : ∀ s ie, ie.2 ≤ 257 -> condition s.mem ie ->
        ∃ t, action ie s = (.ok ⟨⟩, t) ∧ ∀ p, ie.1 + ie.2 ≤ p -> t.mem p = s.mem p := by
      intro s ie short holds
      rcases succeeds_iff.mp (live s ie (by omega) holds) with ⟨result, t, acted⟩
      exact ⟨t, acted, (step s t ie result acted).2⟩
    rcases each_of_condition acts local_ (show _ < fuel by omega) first
      (fun ie found => ⟨(rtw_get_p2p_ie_some found).2.1, (rtw_get_p2p_ie_some found).2.2.1⟩) all with ⟨t, ended⟩
    refine succeeds_iff.mpr ⟨⟨⟩, t, ?_⟩
    rw [ies_eq, len_eq]
    exact ended

/-! ## The four walks -/

theorem checked_change (ch : UInt8) (stop : Nat) : Checked stop (fun place => do
    store stop place ch
    pure false) := by
  intro s t place leave success
  rcases Program.bind_eq_ok.mp success with ⟨_, next, stored, rest⟩
  rcases store_eq_ok.mp stored with ⟨inside, rfl⟩
  have same : { s with mem := Function.update s.mem place ch } = t := congrArg Prod.snd rest
  exact ⟨inside, fun p other => same ▸ Function.update_of_ne other _ _⟩

theorem live_change (ch : UInt8) (stop : Nat) : Live stop (fun place => do
    store stop place ch
    pure false) := by
  intro s place inside
  have stored : store stop place ch s = (.ok ⟨⟩, { s with mem := Function.update s.mem place ch }) :=
    store_eq_ok.mpr ⟨inside, rfl⟩
  exact ⟨false, _, bind_of_ok stored⟩

theorem rtw_change_p2pie_ch_list_decides (fuel frame_body len : Nat) (ch : UInt8) :
    Decides (2 ^ 32 ≤ fuel) (rtw_change_p2pie_ch_list host fuel frame_body len ch) s
      (host.mcc_en = false -> ∀ ie ∈ frame_ies s.mem frame_body len, ListSound s.mem ie) := by
  unfold rtw_change_p2pie_ch_list
  cases host.mcc_en with
  | true => exact .of_iff (iff_of_true (Program.succeeds_pure _ _) nofun)
  | false =>
      simp only [Bool.false_eq_true, if_false, forall_const]
      refine frame_p2p_ies_decides (fun s t ie result success => ?_) (fun s ie enough sound => ?_)
        (fun first second ie same sound => sound.local_ same) frame_body len
      · exact ⟨listSound_of_walk (checked_change ch) success,
          fun p behind => walk_ch_list_outside (checked_change ch) success (Or.inr behind)⟩
      · exact walk_ch_list_live (checked_change ch) (live_change ch) sound enough

/-- The search for the channel of the other interface. -/
def chk_channel (host : Host) (stop place : Nat) : P2pProgram Bool := do
  let channel ← load stop place
  if channel = host.union_ch then do
    Program.update (fun s => { s with fit := true })
    pure true
  else pure false

theorem chk_channel_eq {stop place : Nat} (inside : place < stop) (s : Wdev) :
    chk_channel host stop place s =
      if s.mem place = host.union_ch then (.ok true, { s with fit := true }) else (.ok false, s) := by
  unfold chk_channel
  rw [bind_of_ok (load_inside inside)]
  split <;> rfl

theorem checked_chk (host : Host) (stop : Nat) : Checked stop (chk_channel host stop) := by
  intro s t place leave success
  have inside : place < stop := by
    rcases Program.bind_eq_ok.mp success with ⟨_, _, loaded, _⟩
    exact (load_eq_ok.mp loaded).1
  rw [chk_channel_eq inside] at success
  refine ⟨inside, fun p _ => ?_⟩
  split at success <;> exact congrArg (fun s => s.mem p) (congrArg Prod.snd success).symm

theorem live_chk (host : Host) (stop : Nat) : Live stop (chk_channel host stop) := by
  intro s place inside
  rw [chk_channel_eq inside]
  split
  · exact ⟨true, _, rfl⟩
  · exact ⟨false, _, rfl⟩

theorem rtw_chk_p2pie_ch_list_with_buddy_decides (fuel frame_body len : Nat) :
    Decides (2 ^ 32 ≤ fuel) (rtw_chk_p2pie_ch_list_with_buddy host fuel frame_body len) s
      (∀ ie ∈ frame_ies s.mem frame_body len, ListSound s.mem ie) := by
  have walked : Decides (2 ^ 32 ≤ fuel) (frame_p2p_ies fuel frame_body len (walk_ch_list fuel (chk_channel host)))
      { s with fit := false } (∀ ie ∈ frame_ies s.mem frame_body len, ListSound s.mem ie) :=
    frame_p2p_ies_decides
      (fun s t ie result success => ⟨listSound_of_walk (checked_chk host) success,
        fun p behind => walk_ch_list_outside (checked_chk host) success (Or.inr behind)⟩)
      (fun s ie enough sound => walk_ch_list_live (checked_chk host) (live_chk host) sound enough)
      (fun first second ie same sound => sound.local_ same) frame_body len
  unfold rtw_chk_p2pie_ch_list_with_buddy
  refine Decides.update_bind ((walked.bind fun _ next _ => ?_).congr (and_iff_left trivial))
  exact .of_iff (iff_of_true (Program.succeeds_get_bind.mpr (Program.succeeds_pure _ _)) trivial)

theorem adjust_channel_eq {stop place : Nat} (inside : place < stop) (s : Wdev) :
    adjust_channel host stop place s =
      if s.mem place ≠ 0 ∧ s.mem place ≠ host.union_ch then
        (.ok false, { s with mem := Function.update s.mem place host.union_ch })
      else (.ok false, s) := by
  have stored : store stop place host.union_ch s =
      (.ok ⟨⟩, { s with mem := Function.update s.mem place host.union_ch }) := store_eq_ok.mpr ⟨inside, rfl⟩
  unfold adjust_channel
  rw [bind_of_ok (load_inside inside)]
  split
  · exact bind_of_ok stored
  · rfl

theorem adjust_channel_inside {stop place : Nat} {leave : Bool}
    (success : adjust_channel host stop place s = (.ok leave, t)) : place < stop := by
  rcases Program.bind_eq_ok.mp success with ⟨_, _, loaded, _⟩
  exact (load_eq_ok.mp loaded).1

theorem checked_adjust (host : Host) (stop : Nat) : Checked stop (adjust_channel host stop) := by
  intro s t place leave success
  have inside := adjust_channel_inside success
  rw [adjust_channel_eq inside] at success
  refine ⟨inside, fun p other => ?_⟩
  split at success
  · have same : { s with mem := Function.update s.mem place host.union_ch } = t := congrArg Prod.snd success
    exact same ▸ Function.update_of_ne other _ _
  · exact congrArg (fun s => s.mem p) (congrArg Prod.snd success).symm

theorem live_adjust (host : Host) (stop : Nat) : Live stop (adjust_channel host stop) := by
  intro s place inside
  rw [adjust_channel_eq inside]
  split <;> exact ⟨false, _, rfl⟩

theorem lookup_after_walk {visit : Nat -> Nat -> P2pProgram Bool} (checked : ∀ stop, Checked stop (visit stop))
    {fuel : Nat} {result : PUnit} (success : walk_ch_list fuel visit ie s = (.ok result, t)) (attr_id : UInt8)
    (found : Option (Nat × Nat)) : Lookup t.mem ie attr_id found <-> Lookup s.mem ie attr_id found := by
  rcases walk_ch_list_of_ok success with ⟨list, lookup, nothing, walked⟩
  cases list with
  | none => rw [nothing rfl]
  | some content =>
      rcases content with ⟨pattr, len⟩
      have small := (walked pattr len rfl).1
      refine lookup.beside small (fun p outside => walk_ch_list_keeps checked success p ?_)
      intro other_pattr other_len places other entries member
      have same := Prod.mk.inj (Option.some.inj (lookup.unique other))
      have bounds := entries.bounds p member
      omega

/-- The search for a channel ends, and the content has the channel. -/
def ChannelSound (mem : Nat -> UInt8) (ie : Nat × Nat) (attr_id : UInt8) : Prop :=
  ∃ found, Lookup mem ie attr_id found ∧
    ∀ pattr len, found = some (pattr, len) -> len < 65536 ∧ 5 ≤ len

theorem load_channel_eq_ok {content : Nat × Nat} {channel : UInt8} :
    load_channel content s = (.ok channel, t) <->
      (content.2 < 65536 ∧ 5 ≤ content.2) ∧ t = s ∧ channel = s.mem (content.1 + 4) := by
  unfold load_channel content_stop
  rw [Program.require_bind_eq_ok, decide_eq_true_eq, get_bind_eq_ok, Program.pure_apply, Prod.mk.injEq,
    Except.ok.injEq]
  refine and_congr ?_ ⟨fun same => ⟨same.2.symm, same.1.symm⟩, fun same => ⟨same.2.symm, same.1.symm⟩⟩
  split <;> omega

theorem ChannelSound.local_ {first second : Nat -> UInt8} {attr_id : UInt8}
    (same : ∀ p, ie.1 ≤ p -> second p = first p) (sound : ChannelSound first ie attr_id) :
    ChannelSound second ie attr_id := by
  rcases sound with ⟨found, lookup, fits⟩
  exact ⟨found, (Lookup.local_ same).mpr lookup, fits⟩

/-- What is done to an element of a frame that is sent. -/
def adjust_ie (host : Host) (fuel : Nat) (ie : Nat × Nat) : P2pProgram PUnit := do
  walk_ch_list fuel (adjust_channel host) ie
  let content ← get_attr_content fuel ie P2P_ATTR_OPERATING_CH
  match content with
  | none => pure ⟨⟩
  | some content => do
      let channel ← load_channel content
      if channel ≠ 0 ∧ channel ≠ host.union_ch then
        Program.update (fun s => { s with mem := Function.update s.mem (content.1 + 4) host.union_ch })
      else pure ⟨⟩

theorem adjust_ie_of_ok {fuel : Nat} {result : PUnit} (success : adjust_ie host fuel ie s = (.ok result, t)) :
    ∃ next, walk_ch_list fuel (adjust_channel host) ie s = (.ok ⟨⟩, next) ∧
      ∃ found, Lookup s.mem ie P2P_ATTR_OPERATING_CH found ∧
        (found = none -> t = next) ∧
        ∀ pattr len, found = some (pattr, len) -> (len < 65536 ∧ 5 ≤ len) ∧
          (t.mem = next.mem ∨ t.mem = Function.update next.mem (pattr + 4) host.union_ch) := by
  unfold adjust_ie at success
  rcases Program.bind_eq_ok.mp success with ⟨_, next, walked, rest⟩
  rcases Program.bind_eq_ok.mp rest with ⟨found, same, looked, later⟩
  rcases lookup_of_get looked with ⟨rfl, lookup⟩
  refine ⟨same, walked, found, (lookup_after_walk (checked_adjust host) walked _ _).mp lookup, ?_, ?_⟩
  · intro nothing
    rw [nothing] at later
    exact (congrArg Prod.snd later).symm
  · intro pattr len here
    rw [here] at later
    rcases Program.bind_eq_ok.mp later with ⟨channel, still, loaded, changed⟩
    rcases load_channel_eq_ok.mp loaded with ⟨fits, rfl, _⟩
    refine ⟨fits, ?_⟩
    split at changed
    case isTrue => exact Or.inr (congrArg (fun s => s.2.mem) changed).symm
    case isFalse => exact Or.inl (congrArg (fun s => s.2.mem) changed).symm

def AdjustSound (mem : Nat -> UInt8) (ie : Nat × Nat) : Prop :=
  ListSound mem ie ∧ ChannelSound mem ie P2P_ATTR_OPERATING_CH

theorem adjustSound_of_ok {fuel : Nat} {result : PUnit} (success : adjust_ie host fuel ie s = (.ok result, t)) :
    AdjustSound s.mem ie ∧ ∀ p, p < ie.1 + 9 ∨ ie.1 + ie.2 ≤ p -> t.mem p = s.mem p := by
  rcases adjust_ie_of_ok success with ⟨next, walked, found, lookup, nothing, changed⟩
  refine ⟨⟨listSound_of_walk (checked_adjust host) walked, found, lookup, fun pattr len here => (changed pattr len here).1⟩, ?_⟩
  intro p outside
  rw [← walk_ch_list_outside (checked_adjust host) walked outside]
  cases found with
  | none => rw [nothing rfl]
  | some content =>
      rcases content with ⟨pattr, len⟩
      rcases changed pattr len rfl with ⟨fits, same | updated⟩
      · rw [same]
      · have inside := lookup.inside fits.1
        rw [updated, Function.update_of_ne (by omega)]

theorem adjust_ie_live {fuel : Nat} (enough : ie.2 + 65536 < fuel) (sound : AdjustSound s.mem ie) :
    (adjust_ie host fuel ie).Succeeds s := by
  rcases sound with ⟨list, found, lookup, fits⟩
  rcases succeeds_iff.mp (walk_ch_list_live (checked_adjust host) (live_adjust host) list enough) with
    ⟨result, next, walked⟩
  have lookup := (lookup_after_walk (checked_adjust host) walked _ _).mpr lookup
  unfold adjust_ie
  rw [succeeds_bind_of_ok walked, succeeds_bind_of_ok (lookup.get (by omega))]
  cases found with
  | none => exact Program.succeeds_pure _ _
  | some content =>
      have loaded : load_channel content next = (.ok (next.mem (content.1 + 4)), next) :=
        load_channel_eq_ok.mpr ⟨fits content.1 content.2 rfl, rfl, rfl⟩
      dsimp only
      rw [succeeds_bind_of_ok loaded]
      split
      · exact ⟨_, rfl⟩
      · exact Program.succeeds_pure _ _

theorem rtw_cfg80211_adjust_p2pie_channel_decides (fuel frame_body len : Nat) :
    Decides (2 ^ 32 ≤ fuel) (rtw_cfg80211_adjust_p2pie_channel host fuel frame_body len) s
      (host.mcc_en = false -> ∀ ie ∈ frame_ies s.mem frame_body len, AdjustSound s.mem ie) := by
  unfold rtw_cfg80211_adjust_p2pie_channel
  cases host.mcc_en with
  | true => exact .of_iff (iff_of_true (Program.succeeds_pure _ _) nofun)
  | false =>
      simp only [Bool.false_eq_true, if_false, forall_const]
      refine @frame_p2p_ies_decides s fuel (adjust_ie host fuel) AdjustSound (fun s t ie result success => ?_)
        (fun s ie enough sound => adjust_ie_live enough sound)
        (fun first second ie same sound => ⟨sound.1.local_ same, sound.2.local_ same⟩) frame_body len
      have both := adjustSound_of_ok success
      exact ⟨both.1, fun p behind => both.2 p (Or.inr behind)⟩

/-! ## The text of a list -/

/-- The channels that are put into `ch_list`, once each. -/
def note (ch_list : List UInt8) (channel : UInt8) : List UInt8 :=
  if channel ∈ ch_list then ch_list else ch_list ++ [channel]

def distinct_channels (mem : Nat -> UInt8) (places : List Nat) : List UInt8 := (places.map mem).foldl note []

theorem length_le_note (ch_list : List UInt8) (channel : UInt8) : ch_list.length ≤ (note ch_list channel).length := by
  unfold note
  split
  · exact Nat.le_refl _
  · rw [List.length_append]
    exact Nat.le_add_right _ _

theorem length_le_notes (channels ch_list : List UInt8) : ch_list.length ≤ (channels.foldl note ch_list).length := by
  induction channels generalizing ch_list with
  | nil => exact Nat.le_refl _
  | cons channel rest ih =>
      exact Nat.le_trans (length_le_note ch_list channel) (ih _)

theorem note_channel_inside {stop place : Nat} {leave : Bool}
    (success : note_channel stop place s = (.ok leave, t)) : place < stop := by
  rcases Program.bind_eq_ok.mp success with ⟨_, _, loaded, _⟩
  exact (load_eq_ok.mp loaded).1

theorem note_channel_eq_ok {stop place : Nat} (inside : place < stop) {leave : Bool} :
    note_channel stop place s = (.ok leave, t) <->
      (s.mem place ∈ s.ch_list ∨ s.ch_list.length < 40) ∧ leave = false ∧
        t = { s with ch_list := note s.ch_list (s.mem place) } := by
  unfold note_channel note
  rw [bind_of_ok (load_inside inside), get_bind_eq_ok]
  by_cases noted : s.mem place ∈ s.ch_list
  · rw [if_pos noted, if_pos noted, Program.pure_apply, Prod.mk.injEq, Except.ok.injEq]
    exact ⟨fun same => ⟨Or.inl noted, same.1.symm, same.2.symm⟩, fun both => ⟨both.2.1.symm, both.2.2.symm⟩⟩
  · rw [if_neg noted, if_neg noted, Program.require_bind_eq_ok, decide_eq_true_eq, or_iff_right noted]
    refine and_congr Iff.rfl ?_
    constructor
    · intro success
      rcases Program.bind_eq_ok.mp success with ⟨_, next, updated, ended⟩
      have same : { s with ch_list := s.ch_list ++ [s.mem place] } = next := congrArg Prod.snd updated
      have answer := Prod.mk.inj ended
      exact ⟨(Except.ok.inj answer.1).symm, same ▸ answer.2.symm⟩
    · intro both
      rw [bind_of_ok (Program.update_apply _ s), both.1, both.2]
      rfl

theorem checked_note (stop : Nat) : Checked stop (note_channel stop) := by
  intro s t place leave success
  have inside := note_channel_inside success
  rcases (note_channel_eq_ok inside).mp success with ⟨_, _, rfl⟩
  exact ⟨inside, fun _ _ => rfl⟩

theorem plain_note (stop : Nat) : Plain (note_channel stop) := fun _ _ _ _ success =>
  ((note_channel_eq_ok (note_channel_inside success)).mp success).2.1

theorem visit_notes_eq_ok {stop : Nat} {places : List Nat} (inside : ∀ p ∈ places, p < stop)
    (room : s.ch_list.length ≤ 40) {result : PUnit} :
    visit_each (note_channel stop) places s = (.ok result, t) <->
      ((places.map s.mem).foldl note s.ch_list).length ≤ 40 ∧
        t = { s with ch_list := (places.map s.mem).foldl note s.ch_list } := by
  induction places generalizing s with
  | nil => exact ⟨fun success => ⟨room, (congrArg Prod.snd success).symm⟩, fun both => by rw [both.2]; rfl⟩
  | cons place rest ih =>
      have here := inside place List.mem_cons_self
      have later : ∀ p ∈ rest, p < stop := fun p member => inside p (List.mem_cons_of_mem _ member)
      rw [visit_each, List.map_cons, List.foldl_cons]
      have longer := length_le_notes (rest.map s.mem) (note s.ch_list (s.mem place))
      constructor
      · intro success
        rcases Program.bind_eq_ok.mp success with ⟨leave, next, noted, others⟩
        rcases (note_channel_eq_ok here).mp noted with ⟨enough, _, rfl⟩
        have short : (note s.ch_list (s.mem place)).length ≤ 40 := by
          unfold note
          split
          case isTrue => exact room
          case isFalse fresh =>
            rw [List.length_append]
            exact enough.resolve_left fresh
        exact (ih later short).mp others
      · rintro ⟨short, ended⟩
        have enough : s.mem place ∈ s.ch_list ∨ s.ch_list.length < 40 := by
          by_cases noted : s.mem place ∈ s.ch_list
          · exact Or.inl noted
          · refine Or.inr ?_
            unfold note at longer short
            rw [if_neg noted, List.length_append] at longer
            rw [if_neg noted] at short
            exact Nat.lt_of_lt_of_le (Nat.lt_succ_self _) (Nat.le_trans longer short)
        rw [bind_of_ok ((note_channel_eq_ok here).mpr ⟨enough, rfl, rfl⟩)]
        exact (ih later (Nat.le_trans longer short)).mpr ⟨short, ended⟩

theorem length_decimal (value : UInt8) : (decimal value).length ≤ 3 := by
  have all : ∀ n : Fin 256, (Nat.toDigits 10 n.val).length ≤ 3 := by decide +kernel
  unfold decimal
  rw [List.length_map]
  exact all ⟨value.toNat, value.toNat_lt⟩

theorem length_ch_text {ch_list text : List UInt8} {j : Nat} (printed : ch_text ch_list j = some text) :
    text.length ≤ 5 := by
  have digits := length_decimal (ch_list.getD j 0)
  unfold ch_text at printed
  dsimp only at printed
  split_ifs at printed
  · rw [← Option.some.inj printed]
    omega
  · rw [← Option.some.inj printed, List.length_append, List.length_cons, List.length_cons, List.length_nil]
    omega
  · rw [← Option.some.inj printed, List.length_cons]
    omega

def ch_texts (ch_list : List UInt8) : List (List UInt8) := (List.range ch_list.length).filterMap (ch_text ch_list)

def TextsBegin (buf_len : Nat) : List (List UInt8) -> Nat -> Prop
  | [], _ => True
  | text :: rest, w_sz => w_sz ≤ buf_len ∧ TextsBegin buf_len rest (w_sz + text.length)

theorem length_snprintf_bytes (size : Nat) (text : List UInt8) : (snprintf_bytes size text).length ≤ size := by
  unfold snprintf_bytes
  split
  · exact Nat.zero_le _
  · rw [List.length_append, List.length_take, List.length_singleton]
    omega

theorem print_texts_iff {buf_len : Nat} (buffer : buf_len < 2 ^ 32) {texts : List (List UInt8)} {w_sz : Nat}
    (short : ∀ text ∈ texts, text.length ≤ 5) (few : w_sz + 5 * texts.length ≤ 2000) :
    (print_texts host buf_len texts w_sz).Succeeds s <->
      host.snprintf_rejects = true ∨ TextsBegin buf_len texts w_sz := by
  induction texts generalizing w_sz s with
  | nil => exact iff_of_true (Program.succeeds_pure _ _) (Or.inr trivial)
  | cons text rest ih =>
      have five := short text List.mem_cons_self
      have others : ∀ text ∈ rest, text.length ≤ 5 := fun text member =>
        short text (List.mem_cons_of_mem _ member)
      rw [List.length_cons] at few
      unfold print_texts TextsBegin
      dsimp only
      by_cases begins : w_sz ≤ buf_len
      · have bytes := length_snprintf_bytes (buf_len - w_sz) text
        rw [u32_sub_of_le buffer begins]
        by_cases rejected : host.snprintf_rejects = true ∧ 2 ^ 31 ≤ buf_len - w_sz
        · rw [if_pos rejected, ih others (by omega)]
          exact iff_of_true (Or.inl rejected.1) (Or.inl rejected.1)
        · rw [if_neg rejected, Program.succeeds_require_bind, decide_eq_true_eq, Program.succeeds_update_bind,
            ih others (by omega), and_iff_right (Or.inr (by omega)), and_iff_right begins]
      · have large : 2 ^ 31 ≤ buf_len + 2 ^ 32 - w_sz := by omega
        have behind : ¬ (w_sz ≤ buf_len ∧ TextsBegin buf_len rest (w_sz + text.length)) := fun both => begins both.1
        rw [u32_sub_of_lt (by omega), or_iff_left behind]
        by_cases rejects : host.snprintf_rejects = true
        · rw [if_pos ⟨rejects, large⟩, ih others (by omega)]
          exact iff_of_true (Or.inl rejects) rejects
        · rw [if_neg (fun both => rejects both.1), Program.succeeds_require_bind, decide_eq_true_eq]
          refine iff_of_false (fun both => ?_) rejects
          have written : snprintf_bytes (buf_len + 2 ^ 32 - w_sz) text ≠ [] := by
            unfold snprintf_bytes
            rw [if_neg (by omega)]
            exact List.append_ne_nil_of_right_ne_nil _ (List.cons_ne_nil _ _)
          rcases both.1 with nothing | inside
          · exact written nothing
          · omega

/-- The list is filled by entries, has at most as many different channels as the local
array has room for, and the texts begin in the buffer, unless `snprintf` takes care. -/
def DumpSound (host : Host) (mem : Nat -> UInt8) (ie : Nat × Nat) (buf_len : Nat) : Prop :=
  ∃ found, Lookup mem ie P2P_ATTR_CH_LIST found ∧
    ∀ pattr len, found = some (pattr, len) -> len < 65536 ∧ 3 ≤ len ∧
      ∃ places, Entries mem (pattr + len) (pattr + 3) places ∧
        (distinct_channels mem places).length ≤ 40 ∧
          (host.snprintf_rejects = true ∨ TextsBegin buf_len (ch_texts (distinct_channels mem places)) 0)

theorem print_ch_texts_iff {buf_len : Nat} (buffer : buf_len < 2 ^ 32) {ch_list : List UInt8} (few : ch_list.length ≤ 40) :
    (print_texts host buf_len (ch_texts ch_list) 0).Succeeds s <->
      host.snprintf_rejects = true ∨ TextsBegin buf_len (ch_texts ch_list) 0 := by
  refine print_texts_iff buffer (fun text member => ?_) ?_
  · rcases List.mem_filterMap.mp member with ⟨j, _, printed⟩
    exact length_ch_text printed
  · have count := List.length_filterMap_le (ch_text ch_list) (List.range ch_list.length)
    rw [List.length_range] at count
    unfold ch_texts
    omega

theorem dump_p2p_attr_ch_list_decides (fuel : Nat) {buf_len : Nat} (buffer : buf_len < 2 ^ 32) :
    Decides (ie.2 + 65536 < fuel) (dump_p2p_attr_ch_list host fuel ie buf_len) s
      (DumpSound host s.mem ie buf_len) := by
  unfold dump_p2p_attr_ch_list DumpSound
  refine Decides.update_bind ?_
  have room : ({ s with ch_list := [] } : Wdev).ch_list.length ≤ 40 := Nat.zero_le 40
  constructor
  · intro success
    rcases succeeds_iff.mp success with ⟨_, final, success⟩
    rcases Program.bind_eq_ok.mp success with ⟨_, next, walked, printed⟩
    rcases walk_ch_list_of_ok walked with ⟨found, lookup, _, entered⟩
    refine ⟨found, lookup, fun pattr len here => ?_⟩
    rcases entered pattr len here with ⟨small, long, walked⟩
    rcases entries_of_walk (checked_note _) (by omega) (by omega) walked with ⟨places, entries⟩
    rw [show len - 3 = pattr + len - (pattr + 3) by omega] at walked
    have visited := visit_each_of_walk (checked_note _) (plain_note _) entries (by omega) (fun _ _ _ => rfl) walked
    rcases (visit_notes_eq_ok (fun p member => (entries.bounds p member).2) room).mp visited with ⟨few, rfl⟩
    exact ⟨small, long, places, entries, few,
      (print_ch_texts_iff buffer few).mp (succeeds_iff.mpr ⟨_, final, printed⟩)⟩
  · intro enough ⟨found, lookup, filled⟩
    have looked : get_attr_content fuel ie P2P_ATTR_CH_LIST { s with ch_list := [] } =
        (.ok found, { s with ch_list := [] }) := Lookup.get lookup (by omega)
    unfold walk_ch_list
    rw [Program.bind_assoc, succeeds_bind_of_ok looked]
    cases found with
    | none => exact Program.succeeds_pure _ _
    | some content =>
        rcases content with ⟨pattr, len⟩
        rcases filled pattr len rfl with ⟨small, long, places, entries, few, texts⟩
        have visited : visit_each (note_channel (pattr + len)) places { s with ch_list := [] } = (.ok ⟨⟩, _) :=
          (visit_notes_eq_ok (fun p member => (entries.bounds p member).2) room).mpr ⟨few, rfl⟩
        have walked := (@walk_entries_eq { s with ch_list := [] } (pattr + len) (pattr + 3) _ (checked_note _)
          (plain_note _) s.mem places entries fuel (by omega) (by omega) (fun _ _ _ => rfl)).trans visited
        dsimp only
        rw [content_stop_eq small, u32_sub_of_le (by omega) long, show len - 3 = pattr + len - (pattr + 3) by omega,
          succeeds_bind_of_ok walked, Program.succeeds_get_bind]
        exact (print_ch_texts_iff buffer few).mpr texts

end P2p
end Rtl8821ce
