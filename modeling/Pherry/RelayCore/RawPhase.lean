import Pherry.RelayCore.CellBridges

/-!
# The raw phase of a connection

A connection is framed until a splice makes it raw. `SameRaw` says that the raw side of every
connection is what it was; every step keeps it but the two that move raw bytes: a splice, and a
chunk on a connection that is raw already.
-/

namespace Pherry.RelayCore

open Lib

/-- The raw bytes of what was handed to a duplex. -/
def Outbound.rawBytes : Outbound → Bytes
  | .message _ => []
  | .raw bytes => bytes

/-- The answer that makes a data connection raw. -/
def Outbound.isDataReady : Outbound → Bool
  | .message .dataReady => true
  | _ => false

namespace OuterConnection

/-- The raw bytes written to the connection, in order. -/
def rawSent (k : OuterConnection) : Bytes := k.sent.flatMap Outbound.rawBytes

/-- Whether `data-ready` was written to the connection. -/
def ready (k : OuterConnection) : Bool := k.sent.any Outbound.isDataReady

/-- A connection whose raw phase has not begun. -/
structure Framed (k : OuterConnection) : Prop where
  raw : k.raw = false
  rawHandler : k.rawHandler = none
  rawBuffer : k.rawBuffer = []
  rawSent : k.rawSent = []
  ready : k.ready = false

/-- A connection that was told `data-ready`, and forwards along `route`. -/
structure Piped (k : OuterConnection) (route : RawRoute) : Prop where
  raw : k.raw = true
  rawHandler : k.rawHandler = some route
  ready : k.ready = true

end OuterConnection

/-- The raw side of the connection is what it was. -/
structure Conn.SameRaw (k k' : Conn) : Prop where
  raw : k'.outer.raw = k.outer.raw
  rawHandler : k'.outer.rawHandler = k.outer.rawHandler
  rawBuffer : k'.outer.rawBuffer = k.outer.rawBuffer
  rawSent : k'.outer.rawSent = k.outer.rawSent
  ready : k'.outer.ready = k.outer.ready

lemma Conn.SameRaw.of_outer {k k' : Conn} (h : k'.outer = k.outer) : k.SameRaw k' := by
  constructor <;> rw [h]

lemma Conn.SameRaw.refl (k : Conn) : k.SameRaw k := .of_outer rfl

lemma Conn.SameRaw.trans {k k' k'' : Conn} (h : k.SameRaw k') (h' : k'.SameRaw k'') :
    k.SameRaw k'' where
  raw := h'.raw.trans h.raw
  rawHandler := h'.rawHandler.trans h.rawHandler
  rawBuffer := h'.rawBuffer.trans h.rawBuffer
  rawSent := h'.rawSent.trans h.rawSent
  ready := h'.ready.trans h.ready

lemma Conn.SameRaw.framed {k k' : Conn} (h : k.SameRaw k') (hk : k.outer.Framed) :
    k'.outer.Framed :=
  ⟨h.raw.trans hk.raw, h.rawHandler.trans hk.rawHandler, h.rawBuffer.trans hk.rawBuffer,
    h.rawSent.trans hk.rawSent, h.ready.trans hk.ready⟩

lemma Conn.SameRaw.piped {k k' : Conn} (h : k.SameRaw k') {route : RawRoute}
    (hk : k.outer.Piped route) : k'.outer.Piped route :=
  ⟨h.raw.trans hk.raw, h.rawHandler.trans hk.rawHandler, h.ready.trans hk.ready⟩

namespace Cell

variable {o : CellOptions}

/-- The raw side of every connection is what it was. -/
def SameRaw (s s' : Cell) : Prop := ∀ c, (s.conn c).SameRaw (s'.conn c)

lemma SameRaw.refl (s : Cell) : SameRaw s s := fun _ => .refl _

lemma SameRaw.trans {s s' s'' : Cell} (h : SameRaw s s') (h' : SameRaw s' s'') :
    SameRaw s s'' := fun c => (h c).trans (h' c)

lemma SameRaw.foldl {α : Type*} {f : Cell → α → Cell} (hf : ∀ s a, SameRaw s (f s a))
    (l : List α) (s : Cell) : SameRaw s (l.foldl f s) := by
  induction l generalizing s with
  | nil => exact .refl s
  | cons a l ih => exact (hf s a).trans (ih (f s a))

lemma SameRaw.of_conn {s s' : Cell} (h : s'.conn = s.conn) : SameRaw s s' :=
  fun c => .of_outer (by rw [h])

/-! ## What does not touch the raw phase -/

lemma SameRaw.modify (s : Cell) (c : ConnId) {f : Conn → Conn}
    (hf : (s.conn c).SameRaw (f (s.conn c))) : SameRaw s (s.modify c f) := by
  intro c'
  by_cases h : c' = c
  · rw [h, modify_conn_self]
    exact hf
  · rw [modify_conn_ne s h]
    exact .refl _

lemma SameRaw.mild (s : Cell) (c : ConnId) {f : Conn → Conn} (hf : Mild f) :
    SameRaw s (s.modify c f) := .modify s c (.of_outer (hf _).1)

lemma SameRaw.closeOuter (s : Cell) (c : ConnId) : SameRaw s (s.closeOuter c) := by
  apply SameRaw.modify
  constructor <;> rfl

lemma SameRaw.setReader (s : Cell) (c : ConnId) (reader : OuterFrameReader) :
    SameRaw s (s.setReader c reader) := by
  apply SameRaw.modify
  constructor <;> rfl

lemma SameRaw.buffer (s : Cell) (c : ConnId) (chunk : Bytes) : SameRaw s (s.buffer c chunk) := by
  apply SameRaw.modify
  constructor <;> rfl

lemma SameRaw.send (s : Cell) (c : ConnId) {m : OuterMessage}
    (hm : Outbound.isDataReady (.message m) = false) : SameRaw s (s.send c m) := by
  apply SameRaw.modify
  split
  · exact .refl _
  · refine ⟨rfl, rfl, rfl, ?_, ?_⟩
    · simp [OuterConnection.rawSent, Outbound.rawBytes]
    · simp [OuterConnection.ready, hm]

lemma SameRaw.cleanupBridge (s : Cell) (c : ConnId) : SameRaw s (s.cleanupBridge c) := by
  unfold Cell.cleanupBridge
  split
  · exact .refl s
  · next bridge _ =>
    split
    · have hclear : SameRaw s ({ s with bridges := s.bridges.filter (· ≠ bridge) }.modify
          (bridge.peer c) fun k => { k with bridge := none }) :=
        SameRaw.modify { s with bridges := s.bridges.filter (· ≠ bridge) } _ (.of_outer rfl)
      exact hclear.trans (.closeOuter _ _)
    · exact .refl s

lemma SameRaw.cleanup (s : Cell) (c : ConnId) : SameRaw s (s.cleanup c) := by
  have htables : SameRaw s ((s.cleanupHost c).cleanupPending c) :=
    .of_conn (by rw [conn_cleanupPending, conn_cleanupHost])
  exact (htables.trans (.cleanupBridge _ c)).trans (.modify _ c (.of_outer rfl))

lemma SameRaw.detach (s : Cell) (c : ConnId) : SameRaw s (s.detach c) :=
  (SameRaw.cleanup s c).trans (.closeOuter _ c)

lemma SameRaw.refuse (s : Cell) (c : ConnId) (code : RelayCloseCode) :
    SameRaw s (s.refuse c code) :=
  (SameRaw.send s c rfl).trans (.detach _ c)

lemma SameRaw.supersede (s : Cell) (c : ConnId) (h : JsString) : SameRaw s (s.supersede c h) := by
  unfold Cell.supersede
  split
  · exact .refl s
  · split
    · exact .closeOuter s _
    · exact .refl s

lemma SameRaw.register (s : Cell) (c : ConnId) (h : JsString) (dataKey : Bytes) :
    SameRaw s (s.register c h dataKey) := by
  have hkey : SameRaw (s.supersede c h) ((s.supersede c h).modify c
      fun k => { k with dataKey := some dataKey, role := .control }) := .modify _ c (.of_outer rfl)
  exact (SameRaw.supersede s c h).trans (hkey.trans (.of_conn rfl))

lemma SameRaw.hostKeyReply (s : Cell) (c : ConnId) (hostId : JsString)
    (reply : Except Unit (Option Bytes)) (ephemeralSecret : Bytes) (nonce : Bytes32) :
    SameRaw s (s.hostKeyReply o c hostId reply ephemeralSecret nonce) := by
  unfold Cell.hostKeyReply
  split
  · exact .refuse s c _
  · split
    · exact .refl s
    · split
      · exact .refuse s c _
      · simp only
        split
        · exact (SameRaw.modify s c (.of_outer rfl)).trans (.send _ c rfl)
        · exact (SameRaw.modify s c (.of_outer rfl)).trans (.refuse _ c _)

lemma SameRaw.openPending (s : Cell) (c control : ConnId) (t : Ticket) (h : JsString)
    (nonce : Bytes32) : SameRaw s (s.openPending c control t h nonce) := by
  have hpending : SameRaw s (s.addPending c t h nonce) :=
    SameRaw.modify (s.markTicketUsed t) c (f := fun k =>
      { k with ticket := some t, hostId := some h }) (.of_outer rfl)
  exact hpending.trans (.send _ control rfl)

lemma SameRaw.ticketReply (s : Cell) (c : ConnId) (ticket : Ticket)
    (reply : Except Unit (Option TicketRecord)) (now : ℤ) (nonce : Bytes32) :
    SameRaw s (s.ticketReply c ticket reply now nonce) := by
  unfold Cell.ticketReply
  split
  · exact .refuse s c _
  · split
    · exact .refl s
    · split
      · exact .refuse s c _
      · split
        · exact .refuse s c _
        · split
          · exact .refuse s c _
          · split
            · exact .refuse s c _
            · exact .openPending s c _ _ _ _

lemma SameRaw.onBridgeTimeout (s : Cell) (t : Ticket) : SameRaw s (s.onBridgeTimeout t) := by
  unfold Cell.onBridgeTimeout
  split
  · exact .refl s
  · next pending _ =>
    have hrefuse := SameRaw.refuse { s with pending := s.pending.erase t } pending.controller
      .bridgeTimeout
    exact fun c => hrefuse c

lemma SameRaw.onTimer (s : Cell) (handle : TimerHandle) : SameRaw s (s.onTimer handle) := by
  unfold Cell.onTimer
  split
  · next t _ =>
    have htimeout := SameRaw.onBridgeTimeout (s.clearTimeout handle) t
    exact fun c => htimeout c
  · exact .refl s

lemma SameRaw.drain (s : Cell) : SameRaw s s.drain := by
  unfold Cell.drain
  split
  · exact .refl s
  · have hsend : ∀ (s : Cell) (c : ConnId), SameRaw s (s.send c .drain) :=
      fun s c => .send s c rfl
    have hfold := SameRaw.foldl hsend s.hosts.values { s with draining := true }
    exact fun c => hfold c

lemma SameRaw.close (s : Cell) : SameRaw s s.close := by
  unfold Cell.close
  split
  · exact .refl s
  · have hpendings : SameRaw s ({ s with closed := true } : Cell).closePendings := by
      have hone : ∀ (s : Cell) (p : PendingBridge),
          SameRaw s ((s.clearTimeout p.timer).closeOuter p.controller) :=
        fun s p => SameRaw.closeOuter (s.clearTimeout p.timer) p.controller
      have hfold := SameRaw.foldl hone s.pending.values { s with closed := true }
      exact fun c => hfold c
    have hbridges : ∀ s : Cell, SameRaw s s.closeBridges := by
      intro s
      have hone : ∀ (s : Cell) (b : Bridge),
          SameRaw s ((s.closeOuter b.controller).closeOuter b.host) :=
        fun s b => (SameRaw.closeOuter s b.controller).trans (.closeOuter _ _)
      exact SameRaw.foldl hone s.bridges s
    have hhosts : ∀ s : Cell, SameRaw s s.closeHosts :=
      fun s => SameRaw.foldl SameRaw.closeOuter s.hosts.values s
    exact (hpendings.trans (hbridges _)).trans (hhosts _)

lemma SameRaw.accept {s : Cell} (h : (s.conn s.accepted).outer.Framed) (monitored : Bool) :
    SameRaw s (s.accept monitored) := by
  unfold Cell.accept
  split
  · exact .refl s
  · have hfresh : (s.conn s.accepted).SameRaw (Conn.fresh monitored) :=
      ⟨h.raw.symm, h.rawHandler.symm, h.rawBuffer.symm, h.rawSent.symm, h.ready.symm⟩
    exact SameRaw.modify s s.accepted (f := fun _ => Conn.fresh monitored) hfresh

end Cell

end Pherry.RelayCore
