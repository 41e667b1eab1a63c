import Pherry.ControlPlane.AttentionRaise
import Pherry.ControlPlane.PushHealing

/-!
# The fan-out of a raise

The channels that the urgency of an event routes to, one behind the other, each over the devices that the raise
loaded. A send answers always; the lookup of the host's name and the write that clears a token may throw. What a
channel throws is caught around the whole channel.
-/

namespace Pherry.ControlPlane

open Lib

/-! ## Code that may throw -/

/-- What is done for a device. -/
inductive PushAct
  | send (channel : PushChannel) (push : Push)
  | clear (channel : PushChannel) (deviceId : JsString)

/-- What was done, and whether something was thrown behind it. -/
structure PushRun where
  acts : List PushAct
  thrown : Bool

namespace PushRun

/-- Nothing is done. -/
def pass : PushRun := ⟨[], false⟩

/-- One act. -/
def act (a : PushAct) : PushRun := ⟨[a], false⟩

/-- Something is thrown. -/
def throw : PushRun := ⟨[], true⟩

/-- Go on, unless something was thrown. -/
def andThen (a b : PushRun) : PushRun := if a.thrown then a else ⟨a.acts ++ b.acts, b.thrown⟩

/-- `try` and `catch`. -/
def caught (a : PushRun) : PushRun := ⟨a.acts, false⟩

lemma andThen_of_thrown {a b : PushRun} (h : a.thrown = true) : a.andThen b = a := if_pos h

lemma acts_andThen {a : PushRun} (h : a.thrown = false) (b : PushRun) :
    (a.andThen b).acts = a.acts ++ b.acts := by
  rw [andThen, if_neg (by simp [h])]

lemma thrown_andThen {a : PushRun} (h : a.thrown = false) (b : PushRun) :
    (a.andThen b).thrown = b.thrown := by
  rw [andThen, if_neg (by simp [h])]

lemma mem_andThen {a b : PushRun} {x : PushAct} (h : x ∈ (a.andThen b).acts) : x ∈ a.acts ∨ x ∈ b.acts := by
  cases hthrown : a.thrown with
  | true =>
    rw [andThen_of_thrown hthrown] at h
    exact .inl h
  | false =>
    rw [acts_andThen hthrown] at h
    exact List.mem_append.1 h

end PushRun

/-! ## The channels -/

/-- What the send of a push comes to, and whether the write that clears its token fails. -/
structure PushOutcome where
  delivery : PushDelivery
  fault : Option Fault

/-- What the channels run into: whether the lookup of the host's name returns, and the outcome of each push, by
its place among those of its channel. -/
structure FanoutWorld where
  lookup : PushChannel → Bool
  outcome : PushChannel → ℕ → PushOutcome

/-- `healDelivery`: only a bad token is cleared, by a write that may fail. -/
def healRun (channel : PushChannel) (deviceId : JsString) (outcome : PushOutcome) : PushRun :=
  match outcome.delivery with
  | .badToken =>
    match outcome.fault with
    | none => .act (.clear channel deviceId)
    | some .before => .throw
    | some .after => (PushRun.act (.clear channel deviceId)).andThen .throw
  | _ => .pass

/-- The loop over the devices that have a token, from the `k`-th on. -/
def deliverPushes (channel : PushChannel) (outcome : ℕ → PushOutcome) : ℕ → List Push → PushRun
  | _, [] => .pass
  | k, push :: rest =>
    ((PushRun.act (.send channel push)).andThen (healRun channel push.deviceId (outcome k))).andThen
      (deliverPushes channel outcome (k + 1) rest)

/-- `deliver` of the push and of the ring channel. The ring channel returns before its lookup where no device
can ring. -/
def deliverChannel (world : FanoutWorld) (devices : List PushDevice) (channel : PushChannel) : PushRun :=
  let loop := deliverPushes channel (world.outcome channel) 0 (pushesOf channel devices)
  match channel with
  | .push => if world.lookup .push then loop else .throw
  | .ring => if pushesOf .ring devices = [] then .pass else if world.lookup .ring then loop else .throw

/-- The loop over the channels: what one of them throws is caught. -/
def deliverChannels (world : FanoutWorld) (devices : List PushDevice) : List PushChannel → PushRun
  | [] => .pass
  | channel :: channels =>
    (deliverChannel world devices channel).caught.andThen (deliverChannels world devices channels)

/-- The end of `raiseAttention`, behind its rows: what is done, and the answer. -/
def fanOut (world : FanoutWorld) (row : AttentionEventRow) (urgency : Urgency) (devices : List PushDevice) :
    List PushAct × RaiseStage :=
  let run := deliverChannels world devices (attentionRouting urgency)
  (run.acts, if run.thrown then .failed else .raised row.id)

/-- What an act does to the rows. -/
def PushAct.apply (devices : PushDevices) : PushAct → PushDevices
  | .send _ _ => devices
  | .clear channel deviceId => healDelivery channel deviceId .badToken devices

/-- The pushes that were sent on a channel. -/
def sentOn (channel : PushChannel) (acts : List PushAct) : List Push :=
  acts.filterMap fun act =>
    match act with
    | .send c push => if c = channel then some push else none
    | .clear _ _ => none

/-! ## Isolation -/

section

variable (world : FanoutWorld) (devices : List PushDevice)

/-- A push of a device on a channel had a bad token. -/
def HadBadToken (channel : PushChannel) (deviceId : JsString) : Prop :=
  ∃ k push, (pushesOf channel devices)[k]? = some push ∧ push.deviceId = deviceId ∧
    (world.outcome channel k).delivery = .badToken

/-- Every device is sent what its channels owe it, whatever happens to the others; only the column of a bad token
is cleared; and the raise answers with its event. -/
structure Isolated (row : AttentionEventRow) (urgency : Urgency) (table : PushDevices) : Prop where
  sent : ∀ channel, sentOn channel (fanOut world row urgency devices).1 =
    if channel ∈ attentionRouting urgency then pushesOf channel devices else []
  cleared : ∀ deviceId before, table.get PushDevice.id deviceId = some before →
    ∃ after, ((fanOut world row urgency devices).1.foldl PushAct.apply table).get PushDevice.id deviceId =
        some after ∧
      (after.id, after.orgId, after.revokedAt) = (before.id, before.orgId, before.revokedAt) ∧
      ∀ channel, after.token channel = before.token channel ∨
        (after.token channel = none ∧ channel ∈ attentionRouting urgency ∧ HadBadToken world devices channel deviceId)
  answer : (fanOut world row urgency devices).2 = .raised row.id

/-- The lookup of a channel that has something to send returns, and no write that clears a token fails but the
last device's. -/
def Unbroken (channel : PushChannel) : Prop :=
  pushesOf channel devices ≠ [] → world.lookup channel = true ∧
    ∀ k, k + 1 < (pushesOf channel devices).length →
      (world.outcome channel k).delivery = .badToken → (world.outcome channel k).fault = none

end

/-! ## What is sent -/

@[simp] lemma sentOn_append (channel : PushChannel) (a b : List PushAct) :
    sentOn channel (a ++ b) = sentOn channel a ++ sentOn channel b := List.filterMap_append

lemma sentOn_of_clears {channel : PushChannel} {acts : List PushAct}
    (h : ∀ act ∈ acts, ∃ c deviceId, act = .clear c deviceId) : sentOn channel acts = [] := by
  rw [sentOn, List.filterMap_eq_nil_iff]
  intro act hact
  obtain ⟨c, deviceId, rfl⟩ := h act hact
  rfl

lemma mem_healRun {channel : PushChannel} {deviceId : JsString} {outcome : PushOutcome} {act : PushAct}
    (h : act ∈ (healRun channel deviceId outcome).acts) :
    act = .clear channel deviceId ∧ outcome.delivery = .badToken := by
  unfold healRun at h
  split at h
  · next hbad =>
    refine ⟨?_, hbad⟩
    split at h
    · exact List.mem_singleton.1 h
    · simp [PushRun.throw] at h
    · simpa [PushRun.andThen, PushRun.act, PushRun.throw] using h
  · simp [PushRun.pass] at h

lemma thrown_healRun (channel : PushChannel) (deviceId : JsString) (outcome : PushOutcome) :
    (healRun channel deviceId outcome).thrown = true ↔
      outcome.delivery = .badToken ∧ outcome.fault ≠ none := by
  obtain ⟨delivery, fault⟩ := outcome
  cases delivery with
  | ok => simp [healRun, PushRun.pass]
  | unavailable => simp [healRun, PushRun.pass]
  | badToken =>
    cases fault with
    | none => simp [healRun, PushRun.act]
    | some fault => cases fault <;> simp [healRun, PushRun.throw, PushRun.andThen, PushRun.act]

lemma sentOn_step (c channel : PushChannel) (push : Push) (outcome : PushOutcome) :
    sentOn c ((PushRun.act (.send channel push)).andThen (healRun channel push.deviceId outcome)).acts =
      if channel = c then [push] else [] := by
  have hheal : sentOn c (healRun channel push.deviceId outcome).acts = [] :=
    sentOn_of_clears fun act hact => ⟨_, _, (mem_healRun hact).1⟩
  rw [PushRun.acts_andThen rfl, sentOn_append, hheal, List.append_nil]
  show ([PushAct.send channel push].filterMap _) = _
  by_cases hc : channel = c <;> simp [hc]

lemma thrown_step (channel : PushChannel) (push : Push) (outcome : PushOutcome) :
    ((PushRun.act (.send channel push)).andThen (healRun channel push.deviceId outcome)).thrown =
      (healRun channel push.deviceId outcome).thrown :=
  PushRun.thrown_andThen rfl _

lemma sentOn_deliverPushes_of_ne {c channel : PushChannel} (hne : channel ≠ c) (outcome : ℕ → PushOutcome)
    (k : ℕ) (pushes : List Push) : sentOn c (deliverPushes channel outcome k pushes).acts = [] := by
  induction pushes generalizing k with
  | nil => rfl
  | cons push rest ih =>
    rw [deliverPushes]
    cases hthrown : (healRun channel push.deviceId (outcome k)).thrown with
    | true =>
      rw [PushRun.andThen_of_thrown (by rw [thrown_step, hthrown]), sentOn_step, if_neg hne]
    | false =>
      rw [PushRun.acts_andThen (by rw [thrown_step, hthrown]), sentOn_append, sentOn_step, if_neg hne, ih]
      rfl

lemma sentOn_deliverPushes (channel : PushChannel) (outcome : ℕ → PushOutcome) (k : ℕ) (pushes : List Push) :
    sentOn channel (deliverPushes channel outcome k pushes).acts = pushes ↔
      ∀ j, j + 1 < pushes.length → (outcome (k + j)).delivery = .badToken → (outcome (k + j)).fault = none := by
  induction pushes generalizing k with
  | nil => simp [deliverPushes, PushRun.pass, sentOn]
  | cons push rest ih =>
    have hthrow := thrown_healRun channel push.deviceId (outcome k)
    rw [deliverPushes]
    cases hthrown : (healRun channel push.deviceId (outcome k)).thrown with
    | true =>
      obtain ⟨hbad, hfault⟩ := hthrow.1 hthrown
      rw [PushRun.andThen_of_thrown (by rw [thrown_step, hthrown]), sentOn_step, if_pos rfl]
      constructor
      · intro heq j hj
        have hrest : rest = [] := by simpa using heq.symm
        rw [hrest, List.length_singleton] at hj
        omega
      · intro h
        rcases rest with _ | ⟨next, rest⟩
        · rfl
        · exact absurd (h 0 (by simp) hbad) hfault
    | false =>
      rw [PushRun.acts_andThen (by rw [thrown_step, hthrown]), sentOn_append, sentOn_step, if_pos rfl,
        List.singleton_append, List.cons.injEq, eq_self, true_and, ih (k + 1)]
      constructor
      · intro h j hj hbad
        rcases j with _ | j
        · by_contra hfault
          rw [hthrow.2 ⟨hbad, hfault⟩] at hthrown
          simp at hthrown
        · have hindex : k + 1 + j = k + (j + 1) := by omega
          have hnext := h j (by simpa using hj)
          rw [hindex] at hnext
          exact hnext hbad
      · intro h j hj hbad
        have hindex : k + 1 + j = k + (j + 1) := by omega
        rw [hindex] at hbad ⊢
        exact h (j + 1) (by simpa using hj) hbad

section

variable (world : FanoutWorld) (devices : List PushDevice)

lemma deliverChannel_eq (channel : PushChannel) :
    deliverChannel world devices channel =
        deliverPushes channel (world.outcome channel) 0 (pushesOf channel devices) ∧
        (pushesOf channel devices ≠ [] → world.lookup channel = true) ∨
      deliverChannel world devices channel = .throw ∧ world.lookup channel = false := by
  cases channel with
  | push =>
    cases hlookup : world.lookup .push with
    | true => exact .inl ⟨by simp [deliverChannel, hlookup], fun _ => rfl⟩
    | false => exact .inr ⟨by simp [deliverChannel, hlookup], rfl⟩
  | ring =>
    by_cases hempty : pushesOf .ring devices = []
    · exact .inl ⟨by simp [deliverChannel, hempty, deliverPushes], fun h => absurd hempty h⟩
    · cases hlookup : world.lookup .ring with
      | true => exact .inl ⟨by simp [deliverChannel, hlookup, hempty], fun _ => rfl⟩
      | false => exact .inr ⟨by simp [deliverChannel, hlookup, hempty], rfl⟩

lemma sentOn_deliverChannel_of_ne {c channel : PushChannel} (hne : channel ≠ c) :
    sentOn c (deliverChannel world devices channel).acts = [] := by
  rcases deliverChannel_eq world devices channel with ⟨heq, -⟩ | ⟨heq, -⟩
  · rw [heq]
    exact sentOn_deliverPushes_of_ne hne _ _ _
  · rw [heq]
    rfl

lemma sentOn_deliverChannel (channel : PushChannel) :
    sentOn channel (deliverChannel world devices channel).acts = pushesOf channel devices ↔
      Unbroken world devices channel := by
  have hloop := sentOn_deliverPushes channel (world.outcome channel) 0 (pushesOf channel devices)
  simp only [Nat.zero_add] at hloop
  unfold Unbroken
  rcases deliverChannel_eq world devices channel with ⟨heq, hlookup⟩ | ⟨heq, hlookup⟩
  · rw [heq, hloop]
    constructor
    · intro h hne
      exact ⟨hlookup hne, h⟩
    · intro h j hj
      have hne : pushesOf channel devices ≠ [] := by
        rintro hnil
        rw [hnil] at hj
        simp at hj
      exact (h hne).2 j hj
  · rw [heq, hlookup]
    constructor
    · intro h hne
      exact absurd h.symm hne
    · intro h
      by_contra hne
      have hlost := (h fun hnil => hne (by rw [hnil]; rfl)).1
      simp at hlost

lemma deliverChannels_eq (channels : List PushChannel) :
    (deliverChannels world devices channels).thrown = false ∧
      (deliverChannels world devices channels).acts =
        channels.flatMap fun channel => (deliverChannel world devices channel).acts := by
  induction channels with
  | nil => exact ⟨rfl, rfl⟩
  | cons channel channels ih =>
    rw [deliverChannels, PushRun.thrown_andThen rfl, PushRun.acts_andThen rfl, ih.2]
    exact ⟨ih.1, rfl⟩

lemma sentOn_flatMap {channel : PushChannel} {channels : List PushChannel} (hnodup : channels.Nodup) :
    sentOn channel (channels.flatMap fun c => (deliverChannel world devices c).acts) =
      if channel ∈ channels then sentOn channel (deliverChannel world devices channel).acts else [] := by
  induction channels with
  | nil => rfl
  | cons c channels ih =>
    rw [List.nodup_cons] at hnodup
    rw [List.flatMap_cons, sentOn_append, ih hnodup.2]
    by_cases hc : c = channel
    · rw [← hc, if_neg hnodup.1, if_pos List.mem_cons_self, List.append_nil]
    · have hmem : channel ∈ c :: channels ↔ channel ∈ channels := by
        rw [List.mem_cons]
        exact or_iff_right fun heq => hc heq.symm
      simp only [sentOn_deliverChannel_of_ne world devices hc, List.nil_append, hmem]

lemma nodup_attentionRouting (urgency : Urgency) : (attentionRouting urgency).Nodup := by
  cases urgency <;> decide

/-! ## What is cleared -/

lemma clear_mem_deliverPushes {c channel : PushChannel} {deviceId : JsString} {outcome : ℕ → PushOutcome}
    {k : ℕ} {pushes : List Push} (h : .clear c deviceId ∈ (deliverPushes channel outcome k pushes).acts) :
    c = channel ∧ ∃ j push, pushes[j]? = some push ∧ push.deviceId = deviceId ∧
      (outcome (k + j)).delivery = .badToken := by
  induction pushes generalizing k with
  | nil => simp [deliverPushes, PushRun.pass] at h
  | cons push rest ih =>
    rw [deliverPushes] at h
    rcases PushRun.mem_andThen h with hstep | hrest
    · rcases PushRun.mem_andThen hstep with hsend | hheal
      · simp [PushRun.act] at hsend
      · obtain ⟨hact, hbad⟩ := mem_healRun hheal
        simp only [PushAct.clear.injEq] at hact
        exact ⟨hact.1, 0, push, rfl, hact.2.symm, hbad⟩
    · obtain ⟨hc, j, push', hget, hid, hbad⟩ := ih hrest
      refine ⟨hc, j + 1, push', hget, hid, ?_⟩
      rw [show k + (j + 1) = k + 1 + j by omega]
      exact hbad

lemma clear_mem_deliverChannel {c channel : PushChannel} {deviceId : JsString}
    (h : .clear c deviceId ∈ (deliverChannel world devices channel).acts) :
    c = channel ∧ HadBadToken world devices c deviceId := by
  rcases deliverChannel_eq world devices channel with ⟨heq, -⟩ | ⟨heq, -⟩
  · rw [heq] at h
    obtain ⟨rfl, j, push, hget, hid, hbad⟩ := clear_mem_deliverPushes h
    rw [Nat.zero_add] at hbad
    exact ⟨rfl, j, push, hget, hid, hbad⟩
  · rw [heq] at h
    simp [PushRun.throw] at h

lemma clear_mem_fanOut {row : AttentionEventRow} {urgency : Urgency} {channel : PushChannel}
    {deviceId : JsString} (h : .clear channel deviceId ∈ (fanOut world row urgency devices).1) :
    channel ∈ attentionRouting urgency ∧ HadBadToken world devices channel deviceId := by
  have hmem : PushAct.clear channel deviceId ∈
      (deliverChannels world devices (attentionRouting urgency)).acts := h
  rw [(deliverChannels_eq world devices _).2, List.mem_flatMap] at hmem
  obtain ⟨c, hc, hclear⟩ := hmem
  obtain ⟨rfl, hbad⟩ := clear_mem_deliverChannel world devices hclear
  exact ⟨hc, hbad⟩

end

lemma get_foldl_apply {deviceId : JsString} (acts : List PushAct) {table : PushDevices} {before : PushDevice}
    (h : table.get PushDevice.id deviceId = some before) :
    ∃ after, (acts.foldl PushAct.apply table).get PushDevice.id deviceId = some after ∧
      (after.id, after.orgId, after.revokedAt) = (before.id, before.orgId, before.revokedAt) ∧
      ∀ channel, after.token channel = before.token channel ∨
        (after.token channel = none ∧ .clear channel deviceId ∈ acts) := by
  induction acts generalizing table before with
  | nil => exact ⟨before, h, rfl, fun _ => .inl rfl⟩
  | cons act acts ih =>
    -- one act keeps the row, or clears a column of it
    have hstep : ∃ row, (act.apply table).get PushDevice.id deviceId = some row ∧
        (row.id, row.orgId, row.revokedAt) = (before.id, before.orgId, before.revokedAt) ∧
        ∀ channel, row.token channel = before.token channel ∨
          (row.token channel = none ∧ act = .clear channel deviceId) := by
      cases act with
      | send channel push => exact ⟨before, h, rfl, fun _ => .inl rfl⟩
      | clear channel id =>
        have hid : before.id = deviceId := ((Table.get_eq_some id_mem_pushDeviceColumns).1 h).2
        have hget := Table.get_update (t := table) (k := deviceId) (p := fun row => decide (row.id = id))
          (pushDeviceColumns_of_id (id_cleared channel)) id_mem_pushDeviceColumns
        simp only [h, Option.map_some, decide_eq_true_eq, hid] at hget
        by_cases hsame : deviceId = id
        · rw [if_pos hsame] at hget
          refine ⟨_, hget, by cases channel <;> rfl, ?_⟩
          intro c
          by_cases hc : c = channel
          · rw [hc, hsame]
            exact .inr ⟨PushDevice.token_cleared channel before, rfl⟩
          · left
            cases c <;> cases channel <;> first | rfl | exact absurd rfl hc
        · rw [if_neg hsame] at hget
          exact ⟨before, hget, rfl, fun _ => .inl rfl⟩
    obtain ⟨row, hrow, hfields, htokens⟩ := hstep
    obtain ⟨after, hafter, hfields', htokens'⟩ := ih hrow
    refine ⟨after, hafter, hfields'.trans hfields, ?_⟩
    intro channel
    rcases htokens' channel with hkept | ⟨hnone, hmem⟩
    · rcases htokens channel with hkept' | ⟨hnone, hact⟩
      · exact .inl (hkept.trans hkept')
      · exact .inr ⟨hkept.trans hnone, by rw [hact]; exact List.mem_cons_self⟩
    · exact .inr ⟨hnone, List.mem_cons_of_mem _ hmem⟩

lemma sentOn_fanOut (world : FanoutWorld) (devices : List PushDevice) (row : AttentionEventRow)
    (urgency : Urgency) (channel : PushChannel) : sentOn channel (fanOut world row urgency devices).1 =
      if channel ∈ attentionRouting urgency then sentOn channel (deliverChannel world devices channel).acts
      else [] := by
  show sentOn channel (deliverChannels world devices (attentionRouting urgency)).acts = _
  rw [(deliverChannels_eq world devices _).2, sentOn_flatMap _ _ (nodup_attentionRouting urgency)]

lemma Isolated.unbroken {world : FanoutWorld} {devices : List PushDevice} {row : AttentionEventRow}
    {urgency : Urgency} {table : PushDevices} (h : Isolated world devices row urgency table)
    {channel : PushChannel} (hchannel : channel ∈ attentionRouting urgency) :
    Unbroken world devices channel := by
  have hall := h.sent channel
  rw [sentOn_fanOut, if_pos hchannel, if_pos hchannel] at hall
  exact (sentOn_deliverChannel world devices channel).1 hall

/-- The devices of a raise are isolated from each other exactly when, on every channel of its urgency that has
something to send, the lookup returns and no write fails that clears the token of a device before the last. -/
theorem isolated_iff (world : FanoutWorld) (devices : List PushDevice) (row : AttentionEventRow)
    (urgency : Urgency) (table : PushDevices) :
    Isolated world devices row urgency table ↔
      ∀ channel ∈ attentionRouting urgency, Unbroken world devices channel := by
  constructor
  · intro h channel hchannel
    exact h.unbroken hchannel
  · intro h
    refine ⟨?_, ?_, ?_⟩
    · intro channel
      rw [sentOn_fanOut]
      by_cases hchannel : channel ∈ attentionRouting urgency
      · rw [if_pos hchannel, if_pos hchannel]
        exact (sentOn_deliverChannel world devices channel).2 (h channel hchannel)
      · rw [if_neg hchannel, if_neg hchannel]
    · intro deviceId before hbefore
      obtain ⟨after, hafter, hfields, htokens⟩ := get_foldl_apply (fanOut world row urgency devices).1 hbefore
      refine ⟨after, hafter, hfields, ?_⟩
      intro channel
      exact (htokens channel).imp_right fun ⟨hnone, hclear⟩ => ⟨hnone, clear_mem_fanOut world devices hclear⟩
    · show (if (deliverChannels world devices _).thrown then RaiseStage.failed else _) = _
      rw [(deliverChannels_eq world devices _).1]
      rfl

/-- Of two phones, the first has a dead token that cannot be cleared: the second is not pushed. -/
theorem not_isolated :
    ¬ ∀ (world : FanoutWorld) (devices : List PushDevice) (row : AttentionEventRow) (urgency : Urgency)
      (table : PushDevices), Isolated world devices row urgency table := by
  intro h
  have hisolated := h ⟨fun _ => true, fun _ _ => ⟨.badToken, some .before⟩⟩
    [⟨[0], [], some [0], none, none⟩, ⟨[1], [], some [1], none, none⟩]
    ⟨[], [], [], [], [], [], none, none, [], none, 0⟩ .notify .empty
  have hfault := ((show Unbroken _ _ .push from hisolated.unbroken (by decide)) (by decide)).2 0 (by decide) rfl
  simp at hfault

end Pherry.ControlPlane
