import Pherry.RelayCore.Cell

/-!
# What the operations of a cell leave alone

`Quiet` is a change of what was read and written only; `Shrinks` also lets entries disappear and
connections close. All but three operations shrink: `register` adds a host, `openPending` a
pending bridge, `splice` a bridge.
-/

namespace Pherry.RelayCore

open Lib

/-- A message that tells a host to dial. -/
def Outbound.isConnOpen : Outbound → Bool
  | .message (.connOpen _ _) => true
  | _ => false

/-- `k'` is `k` up to what was read from and written to its duplex. -/
structure Conn.Same (k k' : Conn) : Prop where
  closed : k'.outer.closed = k.outer.closed
  role : k'.role = k.role
  hostId : k'.hostId = k.hostId
  hostStaticPub : k'.hostStaticPub = k.hostStaticPub
  challenge : k'.challenge = k.challenge
  dataKey : k'.dataKey = k.dataKey
  ticket : k'.ticket = k.ticket
  bridge : k'.bridge = k.bridge
  monitored : k'.monitored = k.monitored
  awaiting : k'.awaiting = k.awaiting

lemma Conn.Same.refl (k : Conn) : k.Same k := by
  constructor <;> rfl

lemma Conn.Same.trans {k k' k'' : Conn} (h : k.Same k') (h' : k'.Same k'') : k.Same k'' where
  closed := h'.closed.trans h.closed
  role := h'.role.trans h.role
  hostId := h'.hostId.trans h.hostId
  hostStaticPub := h'.hostStaticPub.trans h.hostStaticPub
  challenge := h'.challenge.trans h.challenge
  dataKey := h'.dataKey.trans h.dataKey
  ticket := h'.ticket.trans h.ticket
  bridge := h'.bridge.trans h.bridge
  monitored := h'.monitored.trans h.monitored
  awaiting := h'.awaiting.trans h.awaiting

/-- A role is taken once: a classified connection stays classified, a data connection keeps its
role, and a controller that presented a ticket the ticket. -/
structure Conn.Ages (k k' : Conn) : Prop where
  classified : k.role ≠ .unclassified → k'.role ≠ .unclassified
  host : k.role = .hostData → k'.role = .hostData
  controller : k.role = .controllerData → k'.role = .controllerData
  ticket : k.role = .controllerData → k.ticket.isSome = true → k'.ticket = k.ticket

lemma Conn.Ages.of_eq {k k' : Conn} (hrole : k'.role = k.role) (hticket : k'.ticket = k.ticket) :
    k.Ages k' :=
  ⟨fun h => by rw [hrole]; exact h, hrole.trans, hrole.trans, fun _ _ => hticket⟩

lemma Conn.Ages.trans {k k' k'' : Conn} (h : k.Ages k') (h' : k'.Ages k'') : k.Ages k'' where
  classified hk := h'.classified (h.classified hk)
  host hk := h'.host (h.host hk)
  controller hk := h'.controller (h.controller hk)
  ticket hk hsome := by
    have hmid := h.ticket hk hsome
    rw [h'.ticket (h.controller hk) (by rw [hmid]; exact hsome), hmid]

lemma Conn.Ages.of_unclassified {k k' : Conn} (h : k.role = .unclassified) : k.Ages k' := by
  refine ⟨fun hk => absurd h hk, fun hk => ?_, fun hk => ?_, fun hk => ?_⟩ <;>
  · rw [h] at hk
    cases hk

namespace Cell

/-- The tables of two states agree: everything but the connections and the blindness tap. -/
structure SameTables (s s' : Cell) : Prop where
  hosts : s'.hosts = s.hosts
  pending : s'.pending = s.pending
  bridges : s'.bridges = s.bridges
  usedTickets : s'.usedTickets = s.usedTickets
  draining : s'.draining = s.draining
  closed : s'.closed = s.closed
  accepted : s'.accepted = s.accepted
  timers : s'.timers = s.timers
  nextTimer : s'.nextTimer = s.nextTimer

/-- The `conn-open` messages written to `c`, oldest first. -/
def signals (s : Cell) (c : ConnId) : List Outbound :=
  (s.conn c).outer.sent.filter Outbound.isConnOpen

/-- Only what was read and written changed, and no host was told to dial. -/
structure Quiet (s s' : Cell) : Prop where
  tables : SameTables s s'
  conn : ∀ c, (s.conn c).Same (s'.conn c)
  signals : ∀ c, s'.signals c = s.signals c

/-- No entry was added and no host was told to dial. -/
structure Shrinks (s s' : Cell) : Prop where
  hosts : ∀ h c, s'.hosts.get h = some c → s.hosts.get h = some c
  pending : ∀ t p, s'.pending.get t = some p → s.pending.get t = some p
  bridges : ∀ b ∈ s'.bridges, b ∈ s.bridges
  usedTickets : s'.usedTickets = s.usedTickets
  draining : s'.draining = s.draining
  accepted : s'.accepted = s.accepted
  halted : s.closed = true → s'.closed = true
  signals : ∀ c, s'.signals c = s.signals c
  closed : ∀ c, (s.conn c).outer.closed = true → (s'.conn c).outer.closed = true
  ages : ∀ c, (s.conn c).Ages (s'.conn c)

/-- No pending bridge was added and no host was told to dial. -/
structure Calm (s s' : Cell) : Prop where
  pending : ∀ t p, s'.pending.get t = some p → s.pending.get t = some p
  usedTickets : s'.usedTickets = s.usedTickets
  draining : s'.draining = s.draining
  accepted : s'.accepted = s.accepted
  halted : s.closed = true → s'.closed = true
  signals : ∀ c, s'.signals c = s.signals c
  closed : ∀ c, (s.conn c).outer.closed = true → (s'.conn c).outer.closed = true
  ages : ∀ c, (s.conn c).Ages (s'.conn c)

/-! ## The relations compose -/

lemma SameTables.refl (s : Cell) : SameTables s s := by
  constructor <;> rfl

lemma SameTables.trans {s s' s'' : Cell} (h : SameTables s s') (h' : SameTables s' s'') :
    SameTables s s'' where
  hosts := h'.hosts.trans h.hosts
  pending := h'.pending.trans h.pending
  bridges := h'.bridges.trans h.bridges
  usedTickets := h'.usedTickets.trans h.usedTickets
  draining := h'.draining.trans h.draining
  closed := h'.closed.trans h.closed
  accepted := h'.accepted.trans h.accepted
  timers := h'.timers.trans h.timers
  nextTimer := h'.nextTimer.trans h.nextTimer

lemma Quiet.refl (s : Cell) : Quiet s s :=
  ⟨.refl s, fun c => .refl (s.conn c), fun _ => rfl⟩

lemma Quiet.trans {s s' s'' : Cell} (h : Quiet s s') (h' : Quiet s' s'') : Quiet s s'' :=
  ⟨h.tables.trans h'.tables, fun c => (h.conn c).trans (h'.conn c),
    fun c => (h'.signals c).trans (h.signals c)⟩

lemma Shrinks.refl (s : Cell) : Shrinks s s :=
  ⟨fun _ _ h => h, fun _ _ h => h, fun _ h => h, rfl, rfl, rfl, fun h => h, fun _ => rfl,
    fun _ h => h, fun _ => .of_eq rfl rfl⟩

lemma Shrinks.trans {s s' s'' : Cell} (h : Shrinks s s') (h' : Shrinks s' s'') :
    Shrinks s s'' where
  hosts i c hc := h.hosts i c (h'.hosts i c hc)
  pending t p hp := h.pending t p (h'.pending t p hp)
  bridges b hb := h.bridges b (h'.bridges b hb)
  usedTickets := h'.usedTickets.trans h.usedTickets
  draining := h'.draining.trans h.draining
  accepted := h'.accepted.trans h.accepted
  halted hc := h'.halted (h.halted hc)
  signals c := (h'.signals c).trans (h.signals c)
  closed c hc := h'.closed c (h.closed c hc)
  ages c := (h.ages c).trans (h'.ages c)

lemma Calm.refl (s : Cell) : Calm s s :=
  ⟨fun _ _ h => h, rfl, rfl, rfl, fun h => h, fun _ => rfl, fun _ h => h, fun _ => .of_eq rfl rfl⟩

lemma Calm.trans {s s' s'' : Cell} (h : Calm s s') (h' : Calm s' s'') : Calm s s'' where
  pending t p hp := h.pending t p (h'.pending t p hp)
  usedTickets := h'.usedTickets.trans h.usedTickets
  draining := h'.draining.trans h.draining
  accepted := h'.accepted.trans h.accepted
  halted hc := h'.halted (h.halted hc)
  signals c := (h'.signals c).trans (h.signals c)
  closed c hc := h'.closed c (h.closed c hc)
  ages c := (h.ages c).trans (h'.ages c)

lemma Shrinks.calm {s s' : Cell} (h : Shrinks s s') : Calm s s' :=
  ⟨h.pending, h.usedTickets, h.draining, h.accepted, h.halted, h.signals, h.closed,
    h.ages⟩

lemma Quiet.shrinks {s s' : Cell} (h : Quiet s s') : Shrinks s s' where
  hosts i c hc := by rw [h.tables.hosts] at hc; exact hc
  pending t p hp := by rw [h.tables.pending] at hp; exact hp
  bridges b hb := by rw [h.tables.bridges] at hb; exact hb
  usedTickets := h.tables.usedTickets
  draining := h.tables.draining
  accepted := h.tables.accepted
  halted hc := h.tables.closed.trans hc
  signals := h.signals
  closed c hc := by rw [(h.conn c).closed]; exact hc
  ages c := .of_eq (h.conn c).role (h.conn c).ticket

lemma Quiet.foldl {α : Type*} {f : Cell → α → Cell} (hf : ∀ s a, Quiet s (f s a)) (l : List α)
    (s : Cell) : Quiet s (l.foldl f s) := by
  induction l generalizing s with
  | nil => exact .refl s
  | cons a l ih => exact (hf s a).trans (ih (f s a))

lemma Shrinks.foldl {α : Type*} {f : Cell → α → Cell} (hf : ∀ s a, Shrinks s (f s a))
    (l : List α) (s : Cell) : Shrinks s (l.foldl f s) := by
  induction l generalizing s with
  | nil => exact .refl s
  | cons a l ih => exact (hf s a).trans (ih (f s a))

/-! ## Changing one connection -/

@[simp] lemma modify_conn_self (s : Cell) (c : ConnId) (f : Conn → Conn) :
    (s.modify c f).conn c = f (s.conn c) := Function.update_self c _ s.conn

@[simp] lemma modify_conn_ne (s : Cell) {c c' : ConnId} (h : c' ≠ c) (f : Conn → Conn) :
    (s.modify c f).conn c' = s.conn c' := Function.update_of_ne h _ s.conn

lemma SameTables.modify (s : Cell) (c : ConnId) (f : Conn → Conn) :
    SameTables s (s.modify c f) := by
  constructor <;> rfl

lemma same_modify (s : Cell) (c : ConnId) {f : Conn → Conn}
    (hf : (s.conn c).Same (f (s.conn c))) (c' : ConnId) :
    (s.conn c').Same ((s.modify c f).conn c') := by
  by_cases h : c' = c
  · rw [h, modify_conn_self]; exact hf
  · rw [modify_conn_ne s h]; exact .refl _

lemma signals_modify (s : Cell) (c : ConnId) {f : Conn → Conn}
    (hf : (f (s.conn c)).outer.sent.filter Outbound.isConnOpen = s.signals c) (c' : ConnId) :
    (s.modify c f).signals c' = s.signals c' := by
  by_cases h : c' = c
  · rw [h, signals, modify_conn_self]; exact hf
  · rw [signals, modify_conn_ne s h]; rfl

lemma Quiet.modify (s : Cell) (c : ConnId) {f : Conn → Conn}
    (hf : (s.conn c).Same (f (s.conn c)))
    (hsent : (f (s.conn c)).outer.sent.filter Outbound.isConnOpen = s.signals c) :
    Quiet s (s.modify c f) :=
  ⟨.modify s c f, same_modify s c hf, signals_modify s c hsent⟩

lemma Shrinks.modify (s : Cell) (c : ConnId) {f : Conn → Conn}
    (hsent : (f (s.conn c)).outer.sent = (s.conn c).outer.sent)
    (hclosed : (s.conn c).outer.closed = true → (f (s.conn c)).outer.closed = true)
    (hages : (s.conn c).Ages (f (s.conn c))) : Shrinks s (s.modify c f) := by
  refine ⟨fun _ _ h => h, fun _ _ h => h, fun _ h => h, rfl, rfl, rfl, fun h => h, ?_, ?_, ?_⟩
  · exact signals_modify s c (by rw [hsent]; rfl)
  · intro c' hc'
    by_cases h : c' = c
    · rw [h] at hc' ⊢
      rw [modify_conn_self]
      exact hclosed hc'
    · rw [modify_conn_ne s h]; exact hc'
  · intro c'
    by_cases h : c' = c
    · rw [h, modify_conn_self]; exact hages
    · rw [modify_conn_ne s h]; exact .of_eq rfl rfl

lemma SameTables.send (s : Cell) (c : ConnId) (m : OuterMessage) :
    SameTables s (s.send c m) := .modify s c _

lemma same_send (s : Cell) (c : ConnId) (m : OuterMessage) (c' : ConnId) :
    (s.conn c').Same ((s.send c m).conn c') := by
  refine same_modify s c ?_ c'
  split
  · exact .refl _
  · constructor <;> rfl

lemma Quiet.send (s : Cell) (c : ConnId) {m : OuterMessage}
    (hm : Outbound.isConnOpen (.message m) = false) : Quiet s (s.send c m) := by
  refine ⟨.send s c m, same_send s c m, signals_modify s c ?_⟩
  split
  · rfl
  · simp [List.filter_append, hm, Cell.signals]

lemma Quiet.sendRaw (s : Cell) (c : ConnId) (bytes : Bytes) : Quiet s (s.sendRaw c bytes) := by
  refine Quiet.modify s c ?_ ?_
  · split
    · exact .refl _
    · constructor <;> rfl
  · split
    · rfl
    · simp [List.filter_append, Outbound.isConnOpen, Cell.signals]

lemma Quiet.forward (s : Cell) (route : RawRoute) (bytes : Bytes) :
    Quiet s (s.forward route bytes) := by
  have htap : Quiet s (s.tap route bytes) := by
    refine ⟨?_, fun c => .refl _, fun _ => rfl⟩
    constructor <;> rfl
  exact htap.trans (.sendRaw _ route.target bytes)

lemma Quiet.onRaw (s : Cell) (c : ConnId) (route : RawRoute) :
    Quiet s (s.onRaw c route) := by
  have hset : (s.conn c).Same ((fun k : Conn => { k with outer := { k.outer with
      rawHandler := some route, rawBuffer := [], rawBufferBytes := 0 } }) (s.conn c)) := by
    constructor <;> rfl
  exact (Quiet.modify s c hset rfl).trans (.foldl (fun s bytes => .forward s route bytes) _ _)

lemma Quiet.buffer (s : Cell) (c : ConnId) (chunk : Bytes) : Quiet s (s.buffer c chunk) := by
  refine Quiet.modify s c ?_ rfl
  constructor <;> rfl

/-- The state in which a message of `c` is dispatched: its frame is off the reader. -/
def setReader (s : Cell) (c : ConnId) (reader : OuterFrameReader) : Cell :=
  s.modify c fun k => { k with outer := { k.outer with reader } }

lemma Quiet.setReader (s : Cell) (c : ConnId) (reader : OuterFrameReader) :
    Quiet s (s.setReader c reader) := by
  refine Quiet.modify s c ?_ rfl
  constructor <;> rfl

/-! ## Raw bytes of a connection that has a handler -/

lemma rawHandler_modify (s : Cell) (c c' : ConnId) {f : Conn → Conn}
    (hf : ∀ k, (f k).outer.rawHandler = k.outer.rawHandler) :
    ((s.modify c f).conn c').outer.rawHandler = (s.conn c').outer.rawHandler := by
  by_cases h : c' = c
  · rw [h, modify_conn_self, hf]
  · rw [modify_conn_ne s h]

@[simp] lemma rawHandler_send (s : Cell) (c c' : ConnId) (m : OuterMessage) :
    ((s.send c m).conn c').outer.rawHandler = (s.conn c').outer.rawHandler := by
  refine rawHandler_modify s c c' fun k => ?_
  split <;> rfl

lemma rawHandler_sendRaw (s : Cell) (c c' : ConnId) (bytes : Bytes) :
    ((s.sendRaw c bytes).conn c').outer.rawHandler = (s.conn c').outer.rawHandler := by
  refine rawHandler_modify s c c' fun k => ?_
  split <;> rfl

@[simp] lemma rawHandler_forward (s : Cell) (route : RawRoute) (bytes : Bytes) (c : ConnId) :
    ((s.forward route bytes).conn c).outer.rawHandler = (s.conn c).outer.rawHandler :=
  rawHandler_sendRaw (s.tap route bytes) route.target c bytes

lemma rawHandler_foldl_forward (route : RawRoute) (l : List Bytes) (s : Cell) (c : ConnId) :
    ((l.foldl (fun s bytes => s.forward route bytes) s).conn c).outer.rawHandler
      = (s.conn c).outer.rawHandler := by
  induction l generalizing s with
  | nil => rfl
  | cons bytes l ih => rw [List.foldl_cons, ih, rawHandler_forward]

lemma rawHandler_onRaw (s : Cell) (c c' : ConnId) (route : RawRoute) :
    ((s.onRaw c route).conn c').outer.rawHandler
      = if c' = c then some route else (s.conn c').outer.rawHandler := by
  rw [onRaw, rawHandler_foldl_forward]
  by_cases h : c' = c
  · rw [h, modify_conn_self, if_pos rfl]
  · rw [modify_conn_ne s h, if_neg h]

lemma Quiet.deliverRaw {s : Cell} {c : ConnId} {route : RawRoute}
    (h : (s.conn c).outer.rawHandler = some route) (bytes : Bytes) :
    Quiet s (s.deliverRaw c bytes) := by
  rw [Cell.deliverRaw, h]
  exact .forward s route bytes

lemma Quiet.toRaw {s : Cell} {c : ConnId} {route : RawRoute}
    (h : (s.conn c).outer.rawHandler = some route) : Quiet s (s.toRaw c) := by
  unfold Cell.toRaw
  split
  · exact .refl s
  · have hset : Quiet s (s.modify c fun k => { k with outer := { k.outer with
        raw := true, reader := (s.conn c).outer.reader.drainRemaining.2 } }) := by
      refine Quiet.modify s c ?_ rfl
      constructor <;> rfl
    simp only
    split
    · refine hset.trans (Quiet.deliverRaw (?_ : _ = some route) _)
      rw [modify_conn_self]
      exact h
    · exact hset

lemma rawHandler_toRaw_of_some {s : Cell} {c : ConnId} {route : RawRoute}
    (h : (s.conn c).outer.rawHandler = some route) (c' : ConnId) :
    ((s.toRaw c).conn c').outer.rawHandler = (s.conn c').outer.rawHandler := by
  unfold toRaw
  split
  · rfl
  · have hkeep : ∀ c', ((s.modify c fun k => { k with outer := { k.outer with
        raw := true, reader := (s.conn c).outer.reader.drainRemaining.2 } }).conn c').outer.rawHandler
          = (s.conn c').outer.rawHandler := fun c' => rawHandler_modify s c c' fun _ => rfl
    simp only
    split
    · rw [deliverRaw, hkeep c, h]
      exact (rawHandler_forward _ route _ c').trans (hkeep c')
    · exact hkeep c'

lemma raw_forward (s : Cell) (route : RawRoute) (bytes : Bytes) (c : ConnId) :
    ((s.forward route bytes).conn c).outer.raw = (s.conn c).outer.raw := by
  show (((s.tap route bytes).sendRaw route.target bytes).conn c).outer.raw = _
  unfold sendRaw
  by_cases h : c = route.target
  · rw [h, modify_conn_self]
    split <;> rfl
  · rw [modify_conn_ne _ h]
    rfl

lemma raw_toRaw {s : Cell} {c : ConnId} {route : RawRoute}
    (h : (s.conn c).outer.rawHandler = some route) : ((s.toRaw c).conn c).outer.raw = true := by
  unfold toRaw
  split
  · next hraw => exact hraw
  · have hset : ((s.modify c fun k => { k with outer := { k.outer with
        raw := true, reader := (s.conn c).outer.reader.drainRemaining.2 } }).conn c).outer.raw
          = true := by
      rw [modify_conn_self]
    have hhandler : ((s.modify c fun k => { k with outer := { k.outer with
        raw := true, reader := (s.conn c).outer.reader.drainRemaining.2 } }).conn
          c).outer.rawHandler = some route := by
      rw [modify_conn_self]
      exact h
    simp only
    split
    · rw [deliverRaw, hhandler]
      exact (raw_forward _ route _ c).trans hset
    · exact hset

lemma rawHandler_onRaw_ends (s : Cell) (b : Bridge) :
    ∃ routeC routeH,
      (((s.onRaw b.controller ⟨b.ticket, .controllerToHost, b.host⟩).onRaw b.host
        ⟨b.ticket, .hostToController, b.controller⟩).conn b.controller).outer.rawHandler
          = some routeC ∧
      (((s.onRaw b.controller ⟨b.ticket, .controllerToHost, b.host⟩).onRaw b.host
        ⟨b.ticket, .hostToController, b.controller⟩).conn b.host).outer.rawHandler
          = some routeH := by
  have hsecond := rawHandler_onRaw (s.onRaw b.controller ⟨b.ticket, .controllerToHost, b.host⟩)
    b.host
  have hfirst := rawHandler_onRaw s b.controller b.controller ⟨b.ticket, .controllerToHost, b.host⟩
  by_cases h : b.controller = b.host
  · refine ⟨⟨b.ticket, .hostToController, b.controller⟩, ⟨b.ticket, .hostToController, b.controller⟩,
      ?_, ?_⟩
    · rw [hsecond, if_pos h]
    · rw [hsecond, if_pos rfl]
  · refine ⟨⟨b.ticket, .controllerToHost, b.host⟩, ⟨b.ticket, .hostToController, b.controller⟩,
      ?_, ?_⟩
    · rw [hsecond, if_neg h, hfirst, if_pos rfl]
    · rw [hsecond, if_pos rfl]

lemma Quiet.pipe (s : Cell) (b : Bridge) : Quiet s (s.pipe b) := by
  obtain ⟨routeC, routeH, hC, hH⟩ := rawHandler_onRaw_ends s b
  have h₁ := Quiet.onRaw s b.controller ⟨b.ticket, .controllerToHost, b.host⟩
  have h₂ := Quiet.onRaw (s.onRaw b.controller ⟨b.ticket, .controllerToHost, b.host⟩) b.host
    ⟨b.ticket, .hostToController, b.controller⟩
  have h₃ := (h₁.trans h₂).trans (Quiet.send _ b.controller (m := .dataReady) rfl)
  have h₄ := h₃.trans (Quiet.send _ b.host (m := .dataReady) rfl)
  have hC' := (rawHandler_send _ b.host b.controller .dataReady).trans
    ((rawHandler_send _ b.controller b.controller .dataReady).trans hC)
  have hH' := (rawHandler_toRaw_of_some hC' b.host).trans
    ((rawHandler_send _ b.host b.host .dataReady).trans
      ((rawHandler_send _ b.controller b.host .dataReady).trans hH))
  exact (h₄.trans (.toRaw hC')).trans (.toRaw hH')

lemma raw_pipe (s : Cell) (b : Bridge) : ((s.pipe b).conn b.host).outer.raw = true := by
  obtain ⟨routeC, routeH, hC, hH⟩ := rawHandler_onRaw_ends s b
  have hC' := (rawHandler_send _ b.host b.controller .dataReady).trans
    ((rawHandler_send _ b.controller b.controller .dataReady).trans hC)
  have hH' := (rawHandler_toRaw_of_some hC' b.host).trans
    ((rawHandler_send _ b.host b.host .dataReady).trans
      ((rawHandler_send _ b.controller b.host .dataReady).trans hH))
  exact raw_toRaw hH'

/-! ## Teardown only removes -/

lemma Shrinks.closeOuter (s : Cell) (c : ConnId) : Shrinks s (s.closeOuter c) :=
  Shrinks.modify s c rfl (fun _ => rfl) (.of_eq rfl rfl)

lemma Shrinks.clearTimeout (s : Cell) (handle : TimerHandle) :
    Shrinks s (s.clearTimeout handle) :=
  ⟨fun _ _ h => h, fun _ _ h => h, fun _ h => h, rfl, rfl, rfl, fun h => h, fun _ => rfl,
    fun _ h => h, fun _ => .of_eq rfl rfl⟩

lemma Shrinks.eraseHost (s : Cell) (h : JsString) :
    Shrinks s { s with hosts := s.hosts.erase h } :=
  { Shrinks.refl s with hosts := fun _ _ hc => (InsertionMap.get_erase_eq_some.1 hc).2 }

lemma Shrinks.erasePending (s : Cell) (t : Ticket) :
    Shrinks s { s with pending := s.pending.erase t } :=
  { Shrinks.refl s with pending := fun _ _ hp => (InsertionMap.get_erase_eq_some.1 hp).2 }

lemma Shrinks.dropBridge (s : Cell) (b : Bridge) :
    Shrinks s { s with bridges := s.bridges.filter (· ≠ b) } :=
  { Shrinks.refl s with bridges := fun _ hb => List.mem_of_mem_filter hb }

lemma Shrinks.cleanupHost (s : Cell) (c : ConnId) : Shrinks s (s.cleanupHost c) := by
  unfold Cell.cleanupHost
  split
  · exact .refl s
  · split
    · exact .eraseHost s _
    · exact .refl s

lemma Shrinks.cleanupPending (s : Cell) (c : ConnId) : Shrinks s (s.cleanupPending c) := by
  unfold Cell.cleanupPending
  split
  · exact .refl s
  · split
    · exact .refl s
    · split
      · exact (Shrinks.erasePending s _).trans (.clearTimeout _ _)
      · exact .refl s

lemma Shrinks.cleanupBridge (s : Cell) (c : ConnId) : Shrinks s (s.cleanupBridge c) := by
  unfold Cell.cleanupBridge
  split
  · exact .refl s
  · next bridge _ =>
    split
    · exact (Shrinks.dropBridge s bridge).trans
        ((Shrinks.modify _ _ rfl (fun h => h) (.of_eq rfl rfl)).trans (.closeOuter _ _))
    · exact .refl s

lemma Shrinks.cleanup (s : Cell) (c : ConnId) : Shrinks s (s.cleanup c) :=
  (((Shrinks.cleanupHost s c).trans (.cleanupPending _ c)).trans (.cleanupBridge _ c)).trans
    (Shrinks.modify _ c rfl (fun h => h) (.of_eq rfl rfl))

lemma Shrinks.refuse (s : Cell) (c : ConnId) (code : RelayCloseCode) :
    Shrinks s (s.refuse c code) :=
  ((Quiet.send s c rfl).shrinks.trans (.cleanup _ c)).trans (.closeOuter _ c)

lemma Shrinks.fail (s : Cell) (c : ConnId) : Shrinks s (s.fail c) := .refuse s c .protocolError

lemma Shrinks.detach (s : Cell) (c : ConnId) : Shrinks s (s.detach c) :=
  (Shrinks.cleanup s c).trans (.closeOuter _ c)

lemma Shrinks.dropChallenge (s : Cell) (c : ConnId) : Shrinks s (s.dropChallenge c) :=
  Shrinks.modify s c rfl (fun h => h) (.of_eq rfl rfl)

lemma Shrinks.deliverRaw (s : Cell) (c : ConnId) (bytes : Bytes) :
    Shrinks s (s.deliverRaw c bytes) := by
  unfold Cell.deliverRaw
  split
  · exact (Quiet.forward s _ bytes).shrinks
  · split
    · refine Shrinks.trans ?_ (.closeOuter _ c)
      exact Shrinks.trans (Shrinks.modify s c rfl (fun h => h) (.of_eq rfl rfl)) (.fail _ c)
    · exact Shrinks.modify s c rfl (fun h => h) (.of_eq rfl rfl)

lemma Shrinks.onBridgeTimeout (s : Cell) (t : Ticket) : Shrinks s (s.onBridgeTimeout t) := by
  unfold Cell.onBridgeTimeout
  split
  · exact .refl s
  · exact (Shrinks.erasePending s t).trans (.refuse _ _ _)

lemma Shrinks.closePendings (s : Cell) : Shrinks s s.closePendings := by
  have hfold := Shrinks.foldl (f := fun s p => (s.clearTimeout p.timer).closeOuter p.controller)
    (fun s p => (Shrinks.clearTimeout s p.timer).trans (.closeOuter _ _)) s.pending.values s
  exact { hfold with pending := fun _ _ h => by simp [Cell.closePendings] at h }

lemma Shrinks.closeBridges (s : Cell) : Shrinks s s.closeBridges := by
  have hfold := Shrinks.foldl (f := fun s b => (s.closeOuter b.controller).closeOuter b.host)
    (fun s b => (Shrinks.closeOuter s b.controller).trans (.closeOuter _ _)) s.bridges s
  exact { hfold with bridges := fun _ h => by simp [Cell.closeBridges] at h }

lemma Shrinks.closeHosts (s : Cell) : Shrinks s s.closeHosts := by
  have hfold := Shrinks.foldl Shrinks.closeOuter s.hosts.values s
  exact { hfold with hosts := fun _ _ h => by simp [Cell.closeHosts] at h }

lemma Shrinks.close (s : Cell) : Shrinks s s.close := by
  unfold Cell.close
  split
  · exact .refl s
  · have hflag : Shrinks s { s with closed := true } := { Shrinks.refl s with halted := fun _ => rfl }
    exact ((hflag.trans (.closePendings _)).trans (.closeBridges _)).trans (.closeHosts _)

/-! ## The handlers of a connection add no pending bridge -/

variable (o : CellOptions)

lemma Shrinks.hostKeyReply (s : Cell) (c : ConnId) (hostId : JsString)
    (reply : Except Unit (Option Bytes)) (ephemeralSecret : Bytes) (nonce : Bytes32) :
    Shrinks s (s.hostKeyReply o c hostId reply ephemeralSecret nonce) := by
  unfold Cell.hostKeyReply
  split
  · exact .fail s c
  · split
    · exact .refl s
    · split
      · exact .refuse s c _
      · next staticPub =>
        have hset := Shrinks.modify s c (f := fun k => { k with
            hostId := some hostId
            hostStaticPub := some staticPub
            challenge := some (makeChallenge o.crypto o.cellId ephemeralSecret nonce) })
          rfl (fun h => h) (.of_eq rfl rfl)
        simp only
        split
        · exact hset.trans (Quiet.send _ c rfl).shrinks
        · exact hset.trans (.fail _ c)

lemma Shrinks.supersede (s : Cell) (c : ConnId) (h : JsString) : Shrinks s (s.supersede c h) := by
  unfold Cell.supersede
  split
  · exact .refl s
  · split
    · exact .closeOuter s _
    · exact .refl s

lemma role_supersede (s : Cell) (c c' : ConnId) (h : JsString) :
    ((s.supersede c h).conn c').role = (s.conn c').role := by
  unfold supersede
  split
  · rfl
  · next previous _ =>
    split
    · by_cases he : c' = previous
      · rw [closeOuter, he, modify_conn_self]
      · rw [closeOuter, modify_conn_ne s he]
    · rfl

lemma Calm.register {s : Cell} {c : ConnId} (hrole : (s.conn c).role = .controlPending)
    (h : JsString) (dataKey : Bytes) : Calm s (s.register c h dataKey) := by
  have hages : ((s.supersede c h).conn c).Ages
      { (s.supersede c h).conn c with dataKey := some dataKey, role := .control } := by
    have hpending := (role_supersede s c c h).trans hrole
    refine ⟨fun _ hr => (by cases hr), fun hr => ?_, fun hr => ?_, fun _ _ => rfl⟩ <;>
    · rw [hpending] at hr
      cases hr
  have hset : Calm s ((s.supersede c h).modify c
      fun k => { k with dataKey := some dataKey, role := .control }) :=
    ((Shrinks.supersede s c h).trans (Shrinks.modify _ c rfl (fun h => h) hages)).calm
  exact { hset with }

lemma Calm.link (s : Cell) (b : Bridge) : Calm s (s.link b) := by
  have hadd : Calm s { s with bridges := s.bridges ++ [b] } := { Calm.refl s with }
  have hctl := Shrinks.modify { s with bridges := s.bridges ++ [b] } b.controller
    (f := fun k => { k with bridge := some b }) rfl (fun h => h) (.of_eq rfl rfl)
  exact hadd.trans (hctl.trans (Shrinks.modify _ b.host rfl (fun h => h) (.of_eq rfl rfl))).calm

lemma Calm.completeHostDial {s : Cell} {c : ConnId} (hrole : (s.conn c).role = .hostData)
    (t : Ticket) (mac : Option Bytes32) : Calm s (s.completeHostDial o c t mac) := by
  unfold Cell.completeHostDial
  split
  · exact (Shrinks.refuse s c _).calm
  · next p _ =>
    split
    · have hdrop : Calm s { s.clearTimeout p.timer with pending := s.pending.erase t } :=
        ((Shrinks.erasePending s t).trans (.clearTimeout _ p.timer)).calm
      have hages : (s.conn c).Ages { s.conn c with ticket := some t, hostId := some p.hostId } := by
        refine ⟨fun h => h, fun h => h, fun h => h, fun hr => ?_⟩
        rw [hrole] at hr
        cases hr
      have hset : Calm s ({ s.clearTimeout p.timer with pending := s.pending.erase t }.modify c
          fun k => { k with ticket := some t, hostId := some p.hostId }) :=
        hdrop.trans (Shrinks.modify _ c rfl (fun h => h) hages).calm
      exact (hset.trans (.link _ _)).trans (Quiet.pipe _ _).shrinks.calm
    · exact (Shrinks.refuse s c _).calm

lemma Shrinks.beginControllerBridge (s : Cell) (c : ConnId) (t : Ticket) :
    Shrinks s (s.beginControllerBridge c t) := by
  unfold Cell.beginControllerBridge
  split
  · exact .refuse s c _
  · exact Shrinks.modify s c rfl (fun h => h) (.of_eq rfl rfl)

lemma Calm.classify {s : Cell} {c : ConnId} (hrole : (s.conn c).role = .unclassified)
    (m : OuterMessage) : Calm s (s.classify o c m) := by
  have hset : ∀ f : Conn → Conn, (f (s.conn c)).outer = (s.conn c).outer →
      Shrinks s (s.modify c f) := by
    intro f hf
    refine Shrinks.modify s c (by rw [hf]) (fun h => ?_) (.of_unclassified hrole)
    rw [hf]
    exact h
  unfold Cell.classify
  split
  · exact (hset _ rfl).calm
  · exact ((hset _ rfl).trans (.beginControllerBridge _ c _)).calm
  · exact (hset _ rfl).calm.trans (.completeHostDial o (by rw [modify_conn_self]) _ _)
  · exact (Shrinks.refuse s c _).calm

/-- The state a handler leaves behind, whether it returned or threw. -/
def settled : Except Cell Cell → Cell
  | .ok s => s
  | .error s => s

lemma Calm.onProof {s : Cell} {c : ConnId} (hrole : (s.conn c).role = .controlPending)
    (m : OuterMessage) : Calm s (settled (s.onProof o c m)) := by
  have hdropped : ((s.dropChallenge c).conn c).role = .controlPending := by
    rw [dropChallenge, modify_conn_self]
    exact hrole
  unfold Cell.onProof
  split
  · split
    · simp only
      split
      · exact ((Shrinks.dropChallenge s c).trans (.refuse _ c _)).calm
      · have hreg := fun h dataKey =>
          (Shrinks.dropChallenge s c).calm.trans (Calm.register hdropped h dataKey)
        split
        · exact (hreg _ _).trans (Quiet.send _ c rfl).shrinks.calm
        · exact hreg _ _
    · exact (Shrinks.refuse s c _).calm
  · exact ((Shrinks.dropChallenge s c).trans (.refuse _ c _)).calm

lemma Calm.dispatch (s : Cell) (c : ConnId) (m : OuterMessage) :
    Calm s (settled (s.dispatch o c m)) := by
  unfold Cell.dispatch
  split
  · next hrole => exact .classify o hrole m
  · next hrole => exact .onProof o hrole m
  · split
    · exact (Shrinks.detach s c).calm
    · exact (Shrinks.refuse s c _).calm
  · exact (Shrinks.refuse s c _).calm
  · exact (Shrinks.refuse s c _).calm

/-- One iteration of the frame loop: it ends without an effect, it ends in the error handler, or
it dispatches a message, which ends it by throwing or leaves it with one frame less. -/
lemma receiveLoop_succ (fuel : ℕ) (s : Cell) (c : ConnId) :
    receiveLoop o (fuel + 1) s c = s ∨
    (∃ s₁, (s₁ = s ∨ ∃ reader, s₁ = s.setReader c reader) ∧
      receiveLoop o (fuel + 1) s c = s₁.fail c) ∨
    ∃ payload reader m, (s.conn c).outer.raw = false ∧
      (s.conn c).outer.reader.next = .ok (some (payload, reader)) ∧
      o.decodeOuterMessage payload = some m ∧
      ((∃ s', (s.setReader c reader).dispatch o c m = .error s' ∧
          receiveLoop o (fuel + 1) s c = s'.fail c) ∨
        ∃ s', (s.setReader c reader).dispatch o c m = .ok s' ∧
          receiveLoop o (fuel + 1) s c = receiveLoop o fuel s' c) := by
  by_cases hraw : (s.conn c).outer.raw = true
  · left
    rw [receiveLoop, if_pos hraw]
  · rw [receiveLoop, if_neg hraw]
    cases hnext : (s.conn c).outer.reader.next with
    | error _ => exact .inr (.inl ⟨s, .inl rfl, rfl⟩)
    | ok read =>
      cases read with
      | none => exact .inl rfl
      | some frame =>
        obtain ⟨payload, reader⟩ := frame
        cases hm : o.decodeOuterMessage payload with
        | none =>
          refine .inr (.inl ⟨s.setReader c reader, .inr ⟨reader, rfl⟩, ?_⟩)
          simp only [hm]
          rfl
        | some m =>
          refine .inr (.inr ⟨payload, reader, m, Bool.eq_false_iff.2 hraw, rfl, hm, ?_⟩)
          simp only [hm]
          cases hd : (s.setReader c reader).dispatch o c m with
          | error s' => exact .inl ⟨s', rfl, by rw [setReader] at hd; simp only [hd]⟩
          | ok s' => exact .inr ⟨s', rfl, by rw [setReader] at hd; simp only [hd]⟩

lemma Calm.receiveLoop (fuel : ℕ) (s : Cell) (c : ConnId) :
    Calm s (receiveLoop o fuel s c) := by
  induction fuel generalizing s with
  | zero => exact .refl s
  | succ fuel ih =>
    rcases receiveLoop_succ o fuel s c with h | ⟨s₁, hs₁, h⟩ |
      ⟨payload, reader, m, -, -, -, ⟨s', hd, h⟩ | ⟨s', hd, h⟩⟩
    · rw [h]
      exact .refl s
    · rw [h]
      rcases hs₁ with rfl | ⟨reader, rfl⟩
      · exact (Shrinks.fail _ c).calm
      · exact (Quiet.setReader s c reader).shrinks.calm.trans (Shrinks.fail _ c).calm
    · rw [h]
      have hdispatch := Calm.dispatch o (s.setReader c reader) c m
      rw [hd] at hdispatch
      exact ((Quiet.setReader s c reader).shrinks.calm.trans hdispatch).trans (Shrinks.fail s' c).calm
    · rw [h]
      have hdispatch := Calm.dispatch o (s.setReader c reader) c m
      rw [hd] at hdispatch
      exact ((Quiet.setReader s c reader).shrinks.calm.trans hdispatch).trans (ih s')

lemma Calm.receive (s : Cell) (c : ConnId) (chunk : Bytes) : Calm s (s.receive o c chunk) := by
  unfold Cell.receive
  split
  · exact .refl s
  · split
    · exact (Shrinks.deliverRaw s c chunk).calm
    · exact (Quiet.buffer s c chunk).shrinks.calm.trans (.receiveLoop o _ _ c)

end Cell

end Pherry.RelayCore
