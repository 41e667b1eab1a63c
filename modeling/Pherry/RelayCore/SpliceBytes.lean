import Pherry.RelayCore.RawPhase

/-!
# What a splice does with unread bytes

A splice makes both ends raw. When neither reader holds a byte that is all it does; when one does,
what it holds is written to the other end as its first raw bytes.
-/

namespace Pherry.RelayCore

open Lib

/-- The connection behind its splice, when its reader held nothing. -/
def Conn.pipe (k : Conn) (route : RawRoute) : Conn :=
  { k with outer := { k.outer with
      rawHandler := some route
      rawBuffer := []
      rawBufferBytes := 0
      sent := k.outer.sent ++ [.message .dataReady]
      raw := true
      reader := k.outer.reader.drainRemaining.2 } }

/-- A connection a splice makes raw without writing a byte. -/
structure Conn.Drained (k : Conn) : Prop where
  raw : k.outer.raw = false
  rawBuffer : k.outer.rawBuffer = []
  closed : k.outer.closed = false
  reader : k.outer.reader.length = 0

lemma Conn.piped_pipe (k : Conn) (route : RawRoute) : (k.pipe route).outer.Piped route :=
  ⟨rfl, rfl, by simp [Conn.pipe, OuterConnection.ready, Outbound.isDataReady]⟩

lemma Conn.rawSent_pipe (k : Conn) (route : RawRoute) :
    (k.pipe route).outer.rawSent = k.outer.rawSent := by
  simp [Conn.pipe, OuterConnection.rawSent, Outbound.rawBytes]

namespace Cell

variable {o : CellOptions}

/-! ## Piping two drained connections -/

lemma onRaw_of_empty {s : Cell} {c : ConnId} (h : (s.conn c).outer.rawBuffer = [])
    (route : RawRoute) :
    s.onRaw c route = s.modify c fun k => { k with outer := { k.outer with
      rawHandler := some route, rawBuffer := [], rawBufferBytes := 0 } } := by
  rw [onRaw, h]
  rfl

lemma send_of_open {s : Cell} {c : ConnId} (h : (s.conn c).outer.closed = false)
    (m : OuterMessage) :
    s.send c m = s.modify c fun k =>
      { k with outer := { k.outer with sent := k.outer.sent ++ [.message m] } } := by
  simp only [send, modify, h, Bool.false_eq_true, if_false]

lemma toRaw_of_drained {s : Cell} {c : ConnId} (hraw : (s.conn c).outer.raw = false)
    (hreader : (s.conn c).outer.reader.length = 0) :
    s.toRaw c = s.modify c fun k => { k with outer := { k.outer with
      raw := true, reader := k.outer.reader.drainRemaining.2 } } := by
  have hleft : (s.conn c).outer.reader.drainRemaining.1.length = 0 := by
    rw [OuterFrameReader.drainRemaining_fst, ← OuterFrameReader.length_eq_length_bytes]
    exact hreader
  simp only [toRaw, modify, hraw, hleft, Bool.false_eq_true, if_false, Nat.lt_irrefl, gt_iff_lt]

/-- Piping two drained connections makes both raw and writes nothing but `data-ready`. -/
lemma conn_pipe {s : Cell} {b : Bridge} (hne : b.controller ≠ b.host)
    (hcontroller : (s.conn b.controller).Drained) (hhost : (s.conn b.host).Drained) :
    (s.pipe b).conn b.controller
        = (s.conn b.controller).pipe ⟨b.ticket, .controllerToHost, b.host⟩ ∧
      (s.pipe b).conn b.host = (s.conn b.host).pipe ⟨b.ticket, .hostToController, b.controller⟩ ∧
        ∀ c, c ≠ b.controller → c ≠ b.host → (s.pipe b).conn c = s.conn c := by
  have hne' : b.host ≠ b.controller := hne.symm
  simp only [pipe]
  rw [onRaw_of_empty hcontroller.rawBuffer]
  rw [onRaw_of_empty (c := b.host) (by rw [modify_conn_ne _ hne']; exact hhost.rawBuffer)]
  rw [send_of_open (c := b.controller) (by simp [hne, hcontroller.closed])]
  rw [send_of_open (c := b.host) (by simp [hne', hhost.closed])]
  rw [toRaw_of_drained (c := b.controller) (by simp [hne, hcontroller.raw])
    (by simp [hne, hcontroller.reader])]
  rw [toRaw_of_drained (c := b.host) (by simp [hne', hhost.raw]) (by simp [hne', hhost.reader])]
  refine ⟨?_, ?_, fun c hc hc' => ?_⟩
  · simp [hne, Conn.pipe]
  · simp [hne', Conn.pipe]
  · simp [hc, hc']

lemma outer_link (s : Cell) (b : Bridge) (c : ConnId) :
    ((s.link b).conn c).outer = (s.conn c).outer := by
  have hset : ∀ (s : Cell) (c' : ConnId),
      ((s.modify c' fun k => { k with bridge := some b }).conn c).outer = (s.conn c).outer := by
    intro s c'
    by_cases h : c = c'
    · rw [h, modify_conn_self]
    · rw [modify_conn_ne s h]
  rw [link, hset, hset]

/-- The bytes a splice moves: none, when both ends are drained. -/
structure Splices (s s' : Cell) (b : Bridge) : Prop where
  controller : (s'.conn b.controller).outer.Piped ⟨b.ticket, .controllerToHost, b.host⟩
  host : (s'.conn b.host).outer.Piped ⟨b.ticket, .hostToController, b.controller⟩
  rawSent : ∀ c, (s'.conn c).outer.rawSent = (s.conn c).outer.rawSent
  others : ∀ c, c ≠ b.controller → c ≠ b.host → (s.conn c).SameRaw (s'.conn c)
  bridges : s'.bridges = s.bridges ++ [b]

lemma splices_splice {s : Cell} {controller host : ConnId} (hne : controller ≠ host)
    (hcontroller : (s.conn controller).Drained) (hhost : (s.conn host).Drained) (t : Ticket) :
    Splices s (s.splice controller host t) ⟨t, controller, host⟩ := by
  have hlink : ∀ c, (s.conn c).Drained →
      ((s.link ⟨t, controller, host⟩).conn c).Drained := by
    intro c hc
    have houter := outer_link s ⟨t, controller, host⟩ c
    constructor
    · rw [houter]; exact hc.raw
    · rw [houter]; exact hc.rawBuffer
    · rw [houter]; exact hc.closed
    · rw [houter]; exact hc.reader
  obtain ⟨hc, hh, hrest⟩ := conn_pipe (s := s.link ⟨t, controller, host⟩)
    (b := ⟨t, controller, host⟩) hne (hlink controller hcontroller) (hlink host hhost)
  refine ⟨?_, ?_, fun c => ?_, fun c hnc hnh => ?_, bridges_splice s controller host t⟩
  · rw [splice, hc]
    exact Conn.piped_pipe _ _
  · rw [splice, hh]
    exact Conn.piped_pipe _ _
  · rw [splice, ← outer_link s ⟨t, controller, host⟩ c]
    by_cases hcc : c = controller
    · rw [hcc, hc, Conn.rawSent_pipe]
    · by_cases hch : c = host
      · rw [hch, hh, Conn.rawSent_pipe]
      · rw [hrest c hcc hch]
  · rw [splice, hrest c hnc hnh]
    exact .of_outer (outer_link s _ c)

/-! ## One message -/

/-- The raw phase of no connection changed, and no bridge was added. -/
structure Muted (s s' : Cell) : Prop where
  raw : SameRaw s s'
  bridges : ∀ b ∈ s'.bridges, b ∈ s.bridges

lemma Muted.refl (s : Cell) : Muted s s := ⟨.refl s, fun _ h => h⟩

lemma Muted.trans {s s' s'' : Cell} (h : Muted s s') (h' : Muted s' s'') : Muted s s'' :=
  ⟨h.raw.trans h'.raw, fun b hb => h.bridges b (h'.bridges b hb)⟩

lemma Muted.refuse (s : Cell) (c : ConnId) (code : RelayCloseCode) : Muted s (s.refuse c code) :=
  ⟨.refuse s c code, (Shrinks.refuse s c code).bridges⟩

lemma Muted.setReader (s : Cell) (c : ConnId) (reader : OuterFrameReader) :
    Muted s (s.setReader c reader) :=
  ⟨.setReader s c reader, (Quiet.setReader s c reader).shrinks.bridges⟩

lemma Muted.mild (s : Cell) (c : ConnId) {f : Conn → Conn} (hf : Mild f) :
    Muted s (s.modify c f) := ⟨.mild s c hf, fun _ hb => hb⟩

lemma Muted.onProof (s : Cell) (c : ConnId) (m : OuterMessage) :
    Muted s (settled (s.onProof o c m)) := by
  refine ⟨?_, bridges_onProof s c m⟩
  have hdrop : SameRaw s (s.dropChallenge c) := .mild s c fun _ => ⟨rfl, rfl⟩
  unfold Cell.onProof
  split
  · split
    · simp only
      split
      · exact hdrop.trans (.refuse _ c _)
      · split
        · exact hdrop.trans ((SameRaw.register _ c _ _).trans (.send _ c rfl))
        · exact hdrop.trans (.register _ c _ _)
    · exact .refuse s c _
  · exact hdrop.trans (.refuse _ c _)

lemma Muted.beginControllerBridge (s : Cell) (c : ConnId) (t : Ticket) :
    Muted s (s.beginControllerBridge c t) := by
  unfold Cell.beginControllerBridge
  split
  · exact .refuse s c _
  · exact .mild s c fun _ => ⟨rfl, rfl⟩

/-- The message is a dial the cell verifies: `p` is the pending bridge it consumes. -/
structure Verified (o : CellOptions) (s : Cell) (c : ConnId) (m : OuterMessage) (t : Ticket)
    (p : PendingBridge) : Prop where
  unclassified : (s.conn c).role = .unclassified
  dial : ∃ mac, m = .dataAuth .host t mac ∧ s.dialVerifies o p t mac = true
  pending : s.pending.get t = some p

/-- The state a verified dial of `c` is spliced in. -/
def dialed (s : Cell) (c : ConnId) (p : PendingBridge) (t : Ticket) : Cell :=
  (s.modify c fun k => { k with role := .hostData }).consume c p t

lemma dispatch_raw (s : Cell) (c : ConnId) (m : OuterMessage) :
    Muted s (settled (s.dispatch o c m)) ∨ ∃ t p, Verified o s c m t p ∧
      s.dispatch o c m = .ok ((s.dialed c p t).splice p.controller c t) := by
  unfold dispatch
  split
  · next hrole =>
    simp only [settled]
    cases m with
    | dataAuth role t mac =>
      cases role with
      | controller =>
        left
        rw [classify_controller]
        exact (Muted.mild s c (f := fun k => { k with role := .controllerData })
          fun _ => ⟨rfl, rfl⟩).trans (.beginControllerBridge _ c t)
      | host =>
        rw [classify_dial]
        rcases completeHostDial_cases (o := o) (s.modify c fun k => { k with role := .hostData })
          c t mac with ⟨code, h⟩ | ⟨p, hp, hverifies, h⟩
        · left
          rw [h]
          exact (Muted.mild s c (f := fun k => { k with role := .hostData })
            fun _ => ⟨rfl, rfl⟩).trans (.refuse _ c code)
        · right
          have hsame := dialVerifies_congr o s
            (s.modify c fun k => { k with role := .hostData }) rfl (fun c' => by
              by_cases he : c' = c
              · exact .inl (by rw [he, modify_conn_self])
              · exact .inl (by rw [modify_conn_ne s he])) p t mac
          rw [hsame] at hverifies
          exact ⟨t, p, ⟨hrole, ⟨mac, rfl, hverifies⟩, hp⟩, by rw [h]; rfl⟩
    | hostHello h =>
      exact .inl (.mild s c (f := fun k =>
        { k with role := .controlPending, awaiting := some (.hostStaticPublicKey h) })
        fun _ => ⟨rfl, rfl⟩)
    | hostChallenge _ _ _ => exact .inl (.refuse s c _)
    | hostProof _ => exact .inl (.refuse s c _)
    | hostRegistered _ => exact .inl (.refuse s c _)
    | connOpen _ _ => exact .inl (.refuse s c _)
    | dataReady => exact .inl (.refuse s c _)
    | drain => exact .inl (.refuse s c _)
    | close _ _ => exact .inl (.refuse s c _)
  · exact .inl (.onProof s c m)
  · left
    split
    · exact ⟨.detach s c, (Shrinks.detach s c).bridges⟩
    · exact .refuse s c _
  · exact .inl (.refuse s c _)
  · exact .inl (.refuse s c _)

end Cell

end Pherry.RelayCore
