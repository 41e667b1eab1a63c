import Mathlib.Data.List.Perm.Subperm
import Pherry.RelayCore.CellEffects

/-!
# The tables of a cell are consistent

Every entry of a table names open connections that point back at it, and no connection is in two
entries. This holds in every state of every run in which no dial is read behind a refused message:
there the frame loop, which does not look at `closed`, splices a connection it has just closed.
-/

namespace Pherry.RelayCore

open Lib

namespace Cell

/-- The connections the tables name, once for each place they are named in. -/
def occurrences (s : Cell) : List ConnId :=
  s.hosts.values ++ s.pending.values.map PendingBridge.controller
    ++ s.bridges.flatMap fun b => [b.controller, b.host]

/-- The tables and the connections agree. -/
structure Consistent (s : Cell) : Prop where
  hosts : ∀ h c, s.hosts.get h = some c → (s.conn c).outer.closed = false ∧
    (s.conn c).role = .control ∧ (s.conn c).dataKey.isSome = true
  pending : ∀ t p, s.pending.get t = some p →
    (s.conn p.controller).outer.closed = false ∧ (p.timer, t) ∈ s.timers
  bridges : ∀ b ∈ s.bridges, ∀ c, c = b.controller ∨ c = b.host →
    (s.conn c).outer.closed = false ∧ (s.conn c).bridge = some b
  disjoint : s.occurrences.Nodup
  closed : ∀ c, (s.conn c).outer.closed = true → c ∉ s.occurrences

/-- A closed connection is silent. A chunk that arrives on it does nothing, and once the frames of
a chunk have closed it, the frames behind them change nothing but its own record. -/
def ClosedIsSilent (o : CellOptions) (s : Cell) (c : ConnId) (chunk : Bytes) : Prop :=
  ((s.conn c).outer.closed = true → s.receive o c chunk = s) ∧
    ((s.conn c).outer.closed = false → (s.conn c).outer.raw = false →
      ∀ n ≤ ((s.buffer c chunk).conn c).outer.reader.length + 1,
        ((receiveLoop o n (s.buffer c chunk) c).conn c).outer.closed = true →
          Elsewhere c (receiveLoop o n (s.buffer c chunk) c) (s.receive o c chunk))

/-! ## The tables name no connection twice -/

lemma mem_occurrences {s : Cell} {c : ConnId} : c ∈ s.occurrences ↔
    (∃ h, s.hosts.get h = some c) ∨ (∃ t p, s.pending.get t = some p ∧ p.controller = c) ∨
      ∃ b ∈ s.bridges, c = b.controller ∨ c = b.host := by
  simp only [occurrences, List.mem_append, List.mem_map, List.mem_flatMap, or_assoc,
    InsertionMap.mem_values_iff, List.mem_cons, List.not_mem_nil, or_false]
  constructor
  · rintro (h | ⟨p, ⟨t, hp⟩, rfl⟩ | h)
    · exact .inl h
    · exact .inr (.inl ⟨t, p, hp, rfl⟩)
    · exact .inr (.inr h)
  · rintro (h | ⟨t, p, hp, rfl⟩ | h)
    · exact .inl h
    · exact .inr (.inl ⟨p, ⟨t, hp⟩, rfl⟩)
    · exact .inr (.inr h)

variable {strict : Prop}

lemma not_mem_occurrences_of_absent {s : Cell} {c : ConnId} (h : s.Absent c) :
    c ∉ s.occurrences := by
  intro hmem
  rcases mem_occurrences.1 hmem with ⟨i, hi⟩ | ⟨t, p, hp, hc⟩ | ⟨b, hb, hc⟩
  · exact h.hosts i hi
  · exact h.pending t p hp hc
  · rcases hc with hc | hc
    · exact (h.bridges b hb).1 hc.symm
    · exact (h.bridges b hb).2 hc.symm

lemma Inv.absent_of_closed {s : Cell} (hs : Inv True s) {c : ConnId}
    (hclosed : (s.conn c).outer.closed = true) : s.Absent c := by
  refine ⟨fun h hget => ?_, fun t p hp he => ?_, fun b hb => ⟨fun he => ?_, fun he => ?_⟩⟩
  · have hopen := (hs.hosts h c hget).closed
    rw [hclosed] at hopen
    cases hopen
  · have hopen := (hs.pending t p hp).2.1.closed
    rw [he, hclosed] at hopen
    cases hopen
  · have hopen := (hs.controllers b hb).2.2
    rw [he, hclosed] at hopen
    cases hopen
  · have hopen := (hs.dialed b hb).2.2 trivial
    rw [he, hclosed] at hopen
    cases hopen

lemma nodup_map_entries {κ ν β : Type*} {l : List (κ × ν)} (hl : (l.map Prod.fst).Nodup)
    {f : ν → β} (hf : ∀ e ∈ l, ∀ e' ∈ l, f e.2 = f e'.2 → e.1 = e'.1) :
    ((l.map Prod.snd).map f).Nodup := by
  induction l with
  | nil => exact List.nodup_nil
  | cons e l ih =>
    simp only [List.map_cons, List.nodup_cons] at hl ⊢
    refine ⟨?_, ih hl.2 fun a ha b hb => hf a (.tail _ ha) b (.tail _ hb)⟩
    intro hmem
    obtain ⟨v, hv, hfv⟩ := List.mem_map.1 hmem
    obtain ⟨e', he', rfl⟩ := List.mem_map.1 hv
    have hkey := hf e (List.mem_cons_self) e' (.tail _ he') hfv.symm
    exact hl.1 (hkey ▸ List.mem_map_of_mem he')

lemma Inv.nodup_hosts {s : Cell} (hs : Inv strict s) : s.hosts.values.Nodup := by
  have h := nodup_map_entries s.hosts.nodupKeys (f := fun c => c) ?_
  · rw [List.map_id'] at h
    exact h
  · rintro ⟨h, c⟩ he ⟨h', c'⟩ he' (rfl : c = c')
    have hid := (hs.hosts h c (InsertionMap.mem_entries_iff.1 he)).hostId
    rw [(hs.hosts h' c (InsertionMap.mem_entries_iff.1 he')).hostId] at hid
    exact (Option.some.inj hid).symm

lemma Inv.nodup_pending {s : Cell} (hs : Inv strict s) :
    (s.pending.values.map PendingBridge.controller).Nodup := by
  refine nodup_map_entries s.pending.nodupKeys ?_
  rintro ⟨t, p⟩ he ⟨t', p'⟩ he' (hc : p.controller = p'.controller)
  have hticket := (hs.pending t p (InsertionMap.mem_entries_iff.1 he)).2.1.ticket
  rw [hc, (hs.pending t' p' (InsertionMap.mem_entries_iff.1 he')).2.1.ticket] at hticket
  exact (Option.some.inj hticket).symm

lemma Inv.controller_ne_host {s : Cell} (hs : Inv strict s) {b : Bridge} (hb : b ∈ s.bridges) :
    b.controller ≠ b.host := by
  intro he
  have hrole := (hs.controllers b hb).1
  rw [he, (hs.dialed b hb).1] at hrole
  cases hrole

lemma Inv.bridge_of_end {s : Cell} (hs : Inv strict s) {b : Bridge} (hb : b ∈ s.bridges)
    {c : ConnId} (hc : c = b.controller ∨ c = b.host) : (s.conn c).bridge = some b := by
  rcases hc with rfl | rfl
  · exact (hs.controllers b hb).2.1
  · exact (hs.dialed b hb).2.1

lemma Inv.nodup_bridges {s : Cell} (hs : Inv strict s) :
    (s.bridges.flatMap fun b => [b.controller, b.host]).Nodup := by
  rw [List.nodup_flatMap]
  refine ⟨fun b hb => ?_, ?_⟩
  · have hne := hs.controller_ne_host hb
    simp [hne]
  · refine hs.bridgesNodup.pairwise_of_forall_ne ?_
    intro b hb b' hb' hne c hc hc'
    have hbridge := hs.bridge_of_end hb (c := c) (by simpa using hc)
    rw [hs.bridge_of_end hb' (c := c) (by simpa using hc')] at hbridge
    exact hne (Option.some.inj hbridge).symm

lemma Inv.nodup_occurrences {s : Cell} (hs : Inv strict s) : s.occurrences.Nodup := by
  have hend : ∀ c, (∃ b ∈ s.bridges, c = b.controller ∨ c = b.host) →
      ∃ b, (s.conn c).bridge = some b := by
    rintro c ⟨b, hb, hc⟩
    exact ⟨b, hs.bridge_of_end hb hc⟩
  have hwaiting : ∀ c, c ∈ s.pending.values.map PendingBridge.controller →
      (s.conn c).role = .controllerData ∧ (s.conn c).bridge = none := by
    intro c hc
    obtain ⟨p, hp, rfl⟩ := List.mem_map.1 hc
    obtain ⟨t, hp⟩ := InsertionMap.mem_values_iff.1 hp
    exact ⟨(hs.pending t p hp).2.1.role, (hs.pending t p hp).2.1.bridge⟩
  have hcontrol : ∀ c, c ∈ s.hosts.values →
      (s.conn c).role = .control ∧ (s.conn c).bridge = none := by
    intro c hc
    obtain ⟨h, hget⟩ := InsertionMap.mem_values_iff.1 hc
    have hrole := (hs.hosts h c hget).role
    exact ⟨hrole, ((hs.tidy c).hosting (.inr (.inr hrole))).2⟩
  rw [occurrences, List.nodup_append, List.nodup_append]
  refine ⟨⟨hs.nodup_hosts, hs.nodup_pending, ?_⟩, hs.nodup_bridges, ?_⟩
  · rintro c hc _ hc' rfl
    have hrole := (hcontrol c hc).1
    rw [(hwaiting c hc').1] at hrole
    cases hrole
  · rintro c hc _ hc' rfl
    have hnone : (s.conn c).bridge = none := by
      rcases List.mem_append.1 hc with h | h
      · exact (hcontrol c h).2
      · exact (hwaiting c h).2
    obtain ⟨b, hb, hcb⟩ := List.mem_flatMap.1 hc'
    obtain ⟨b', hb'⟩ := hend c ⟨b, hb, by simpa using hcb⟩
    rw [hnone] at hb'
    cases hb'

lemma Inv.consistent {s : Cell} (hs : Inv True s) : s.Consistent where
  hosts h c hget :=
    ⟨(hs.hosts h c hget).closed, (hs.hosts h c hget).role, (hs.hosts h c hget).dataKey⟩
  pending t p hp := ⟨(hs.pending t p hp).2.1.closed, (hs.pending t p hp).2.2⟩
  bridges b hb c hc := by
    refine ⟨?_, hs.bridge_of_end hb hc⟩
    rcases hc with rfl | rfl
    · exact (hs.controllers b hb).2.2
    · exact (hs.dialed b hb).2.2 trivial
  disjoint := hs.nodup_occurrences
  closed c hclosed := not_mem_occurrences_of_absent (hs.absent_of_closed hclosed)

/-! ## Frames of a closed connection -/

variable {o : CellOptions}

/-- A message of a closed connection that is no late dial is handled in its own record. -/
lemma Live.dispatch_closed {s : Cell} {c : ConnId} (hs : Live True s c)
    (hclosed : (s.conn c).outer.closed = true) {m : OuterMessage} {rest : List OuterMessage}
    (hlate : s.lateDial o c (m :: rest) = false) :
    Elsewhere c s (settled (s.dispatch o c m)) := by
  have hinv := hs.inv
  have habsent := hinv.absent_of_closed hclosed
  have hset : ∀ f : Conn → Conn, Elsewhere c s (s.modify c f) := Elsewhere.modify s c
  have hrefuse : ∀ code, Elsewhere c s (s.refuse c code) := habsent.refuse hinv
  unfold Cell.dispatch
  split
  · next hrole =>
    obtain ⟨-, -, hawaiting⟩ := (hinv.tidy c).unclassified hrole
    have hnotBorn : ¬ s.accepted ≤ c := Nat.not_le_of_lt hs.born
    have hdata : ∀ role, role = .controllerData ∨ role = .hostData →
        Inv True (s.modify c fun k => { k with role }) := fun role hdata =>
      hinv.modify_absent habsent (tidy_data hdata hawaiting) (.inl rfl) fun hc => absurd hc hnotBorn
    have hthen : ∀ role, role = .controllerData ∨ role = .hostData → ∀ code,
        Elsewhere c s ((s.modify c fun k => { k with role }).refuse c code) := fun role hr code =>
      (hset _).trans ((habsent.modify c _).refuse (hdata role hr) code)
    show Elsewhere c s (s.classify o c m)
    cases m with
    | hostHello hostId =>
      unfold Cell.classify
      exact hset _
    | dataAuth role t mac =>
      cases role with
      | controller =>
        show Elsewhere c s ((s.modify c _).beginControllerBridge c t)
        unfold beginControllerBridge
        split
        · exact hthen .controllerData (.inl rfl) _
        · exact (hset _).trans (.modify _ c _)
      | host =>
        rw [lateDial_dial o hrole hclosed] at hlate
        have hsame := dialVerifies_congr o s
          (s.modify c fun k => { k with role := .hostData }) rfl fun c' => by
            by_cases he : c' = c
            · exact .inl (by rw [he, modify_conn_self])
            · exact .inl (by rw [modify_conn_ne s he])
        show Elsewhere c s ((s.modify c fun k => { k with role := .hostData }).completeHostDial
          o c t mac)
        unfold completeHostDial
        split
        · exact hthen .hostData (.inr rfl) _
        · next p hp =>
          have hget : s.pending.get t = some p := hp
          have hno : s.dialVerifies o p t mac = false := by
            rw [← dials_of_get o hget]
            exact hlate
          rw [hsame, hno]
          exact hthen .hostData (.inr rfl) _
    | hostChallenge _ _ _ => exact hrefuse _
    | hostProof _ => exact hrefuse _
    | hostRegistered _ => exact hrefuse _
    | connOpen _ _ => exact hrefuse _
    | dataReady => exact hrefuse _
    | drain => exact hrefuse _
    | close _ _ => exact hrefuse _
  · next hrole =>
    have hnone := hs.spent hclosed hrole
    have hdrop : ∀ code, Elsewhere c s ((s.dropChallenge c).refuse c code) := fun code =>
      (hset _).trans ((habsent.modify c _).refuse (hinv.dropChallenge hrole) code)
    unfold Cell.onProof
    split
    · rw [hnone]
      exact hrefuse _
    · exact hdrop _
  · split
    · exact habsent.detach hinv
    · exact hrefuse _
  · exact hrefuse _
  · exact hrefuse _

lemma Ready.receiveLoop_closed {fuel : ℕ} {s : Cell} {c : ConnId}
    (hs : Ready o True fuel s c) (hclosed : (s.conn c).outer.closed = true) :
    Elsewhere c s (Cell.receiveLoop o fuel s c) := by
  induction fuel generalizing s with
  | zero => exact .refl c s
  | succ fuel ih =>
    have habsent := hs.inv.absent_of_closed hclosed
    have hset : ∀ reader, Elsewhere c s (s.setReader c reader) := fun reader => .modify s c _
    rcases receiveLoop_succ o fuel s c with h | ⟨s₁, hs₁, h⟩ |
      ⟨payload, reader, m, -, hnext, hm, hd⟩
    · rw [h]
      exact .refl c s
    · rw [h]
      rcases hs₁ with rfl | ⟨reader, rfl⟩
      · exact habsent.refuse hs.inv _
      · exact (hset reader).trans
          ((habsent.elsewhere (hset reader)).refuse (hs.inv.quiet (.setReader s c reader)) _)
    · have hquiet := Quiet.setReader s c reader
      have hclosed' : ((s.setReader c reader).conn c).outer.closed = true :=
        (hquiet.conn c).closed.trans hclosed
      have hlate := hs.punctual trivial
      rw [messages_setReader fuel hnext hm, ← lateDial_quiet hquiet] at hlate
      have hdispatch := (hs.toLive.quiet hquiet).dispatch_closed hclosed' hlate
      have hstill := (Calm.dispatch o (s.setReader c reader) c m).closed c hclosed'
      have hafter := hs.take hnext hm
      rcases hd with ⟨s', hd, h⟩ | ⟨s', hd, h⟩
      · rw [hd] at hdispatch hafter hstill
        rw [h]
        have hgone := Inv.absent_of_closed hafter hstill
        exact ((hset reader).trans hdispatch).trans (hgone.refuse hafter _)
      · rw [hd] at hdispatch hafter hstill
        rw [h]
        exact ((hset reader).trans hdispatch).trans (ih hafter hstill)

/-- From the frame on that closes the connection, a chunk changes its own record only. -/
lemma Ready.receiveLoop_le {n fuel : ℕ} {s : Cell} {c : ConnId} (hs : Ready o True fuel s c)
    (hn : n ≤ fuel) (hclosed : ((Cell.receiveLoop o n s c).conn c).outer.closed = true) :
    Elsewhere c (Cell.receiveLoop o n s c) (Cell.receiveLoop o fuel s c) := by
  induction n generalizing s fuel with
  | zero => exact hs.receiveLoop_closed hclosed
  | succ n ih =>
    obtain ⟨fuel, rfl⟩ : ∃ k, fuel = k + 1 := ⟨fuel - 1, by omega⟩
    unfold Cell.receiveLoop at hclosed ⊢
    by_cases hraw : (s.conn c).outer.raw = true
    · rw [if_pos hraw, if_pos hraw]
      exact .refl c s
    · rw [if_neg hraw] at hclosed ⊢
      rw [if_neg hraw]
      cases hnext : (s.conn c).outer.reader.next with
      | error _ => exact .refl c _
      | ok read =>
        cases read with
        | none => exact .refl c _
        | some frame =>
          obtain ⟨payload, reader⟩ := frame
          simp only [hnext] at hclosed ⊢
          cases hm : o.decodeOuterMessage payload with
          | none => exact .refl c _
          | some m =>
            have hafter := hs.take hnext hm
            rw [setReader] at hafter
            simp only [hm] at hclosed ⊢
            cases hd : (s.modify c fun k =>
                { k with outer := { k.outer with reader } }).dispatch o c m with
            | error s' => exact .refl c _
            | ok s' =>
              rw [hd] at hafter
              simp only [hd] at hclosed ⊢
              exact ih hafter (by omega) hclosed

lemma Inv.closedIsSilent {s : Cell} (hs : Inv True s) {c : ConnId} (hborn : c < s.accepted)
    {chunk : Bytes} (h : dialsBehindRefusal o s (.receive c chunk) = false) :
    ClosedIsSilent o s c chunk := by
  refine ⟨fun hclosed => by rw [Cell.receive, if_pos hclosed], fun hopen hframed n hn hclosed => ?_⟩
  have hready := hs.ready_buffer hborn hopen hframed chunk fun _ => h
  have hreceive : s.receive o c chunk = Cell.receiveLoop o
      (((s.buffer c chunk).conn c).outer.reader.length + 1) (s.buffer c chunk) c := by
    rw [Cell.receive, hopen, hframed]
    rfl
  rw [hreceive]
  exact hready.receiveLoop_le hn hclosed

end Cell

/-- What a run owes: consistent tables throughout, and silence of every closed connection. -/
structure SoundRun (o : CellOptions) (es : List Event) : Prop where
  consistent : ∀ pre post, es = pre ++ post → ((cellMachine o).run pre).Consistent
  closedForGood : ∀ pre post, es = pre ++ post → ∀ c < ((cellMachine o).run pre).accepted,
    (((cellMachine o).run pre).conn c).outer.closed = true →
      (((cellMachine o).run es).conn c).outer.closed = true ∧
        c ∉ ((cellMachine o).run es).occurrences
  silent : ∀ pre c chunk post, es = pre ++ .receive c chunk :: post →
    c < ((cellMachine o).run pre).accepted →
      Cell.ClosedIsSilent o ((cellMachine o).run pre) c chunk

/-- **A run without late dials is sound.** -/
theorem soundRun_of_no_dialsBehindRefusal (o : CellOptions) (es : List Event)
    (h : (cellMachine o).Meets (fun s e => dialsBehindRefusal o s e = false) es) :
    SoundRun o es where
  consistent := by
    rintro pre post rfl
    have hpre : (cellMachine o).Meets (fun s e => dialsBehindRefusal o s e = false) pre := h.prefix
    exact (inv_run_of_meets o hpre).consistent
  closedForGood := by
    rintro pre post rfl c hborn hclosed
    have hlater : (((cellMachine o).run (pre ++ post)).conn c).outer.closed = true := by
      rw [Machine.run_append]
      exact Cell.closed_runFrom o post hborn hclosed
    exact ⟨hlater, (inv_run_of_meets o h).consistent.closed c hlater⟩
  silent := by
    rintro pre c chunk post rfl hborn
    have hpre : (cellMachine o).Meets (fun s e => dialsBehindRefusal o s e = false) pre := h.prefix
    exact (inv_run_of_meets o hpre).closedIsSilent hborn (h pre (.receive c chunk) post rfl)

/-! ## Open connections pay for the tables -/

namespace Cell

/-- The open connections. -/
def openConns (s : Cell) : List ConnId := (List.range s.accepted).filter fun c => !(s.conn c).outer.closed

/-- The connection each entry of a table lives by. A bridge's is its controller: the host end may be closed. -/
def holders (s : Cell) : List ConnId :=
  s.hosts.values ++ s.pending.values.map PendingBridge.controller ++ s.bridges.map Bridge.controller

lemma Inv.nodup_holders {s : Cell} (hs : Inv strict s) : s.holders.Nodup := by
  have hsub : s.holders.Sublist s.occurrences := by
    apply List.Sublist.append_left
    induction s.bridges with
    | nil => exact List.Sublist.slnil
    | cons b l ih => exact (ih.cons b.host).cons_cons b.controller
  exact hs.nodup_occurrences.sublist hsub

lemma Inv.open_of_holder {s : Cell} (hs : Inv strict s) {c : ConnId} (hc : c ∈ s.holders) :
    (s.conn c).outer.closed = false ∧ (s.conn c).role ≠ .unclassified := by
  simp only [holders, List.mem_append, List.mem_map, InsertionMap.mem_values_iff] at hc
  rcases hc with (⟨h, hget⟩ | ⟨p, ⟨t, hget⟩, rfl⟩) | ⟨b, hb, rfl⟩
  · have hhost := hs.hosts h c hget
    exact ⟨hhost.closed, by rw [hhost.role]; decide⟩
  · have hwaits := (hs.pending t p hget).2.1
    exact ⟨hwaits.closed, by rw [hwaits.role]; decide⟩
  · have hcontroller := hs.controllers b hb
    exact ⟨hcontroller.2.2, by rw [hcontroller.1]; decide⟩

lemma Inv.holders_subset {s : Cell} (hs : Inv strict s) : s.holders ⊆ s.openConns := by
  intro c hc
  have hopen := hs.open_of_holder hc
  have hborn : c < s.accepted := by
    by_contra hge
    exact hopen.2 (hs.unborn c (Nat.le_of_not_lt hge))
  exact List.mem_filter.2 ⟨List.mem_range.2 hborn, by rw [hopen.1]; rfl⟩

end Cell

/-- **Open connections pay for the tables.** In every run, the ones with late dials included, the entries of the
three tables are no more than the open connections, and no entry lives by a connection that has closed. -/
theorem entries_le_open (o : CellOptions) (es : List Event) :
    let s := (cellMachine o).run es
    s.hosts.values.length + s.pending.values.length + s.bridges.length ≤ s.openConns.length ∧
      ∀ pre post, es = pre ++ post → ∀ c < ((cellMachine o).run pre).accepted,
        (((cellMachine o).run pre).conn c).outer.closed = true → c ∉ s.holders := by
  intro s
  have hs : Cell.Inv False s := inv_run o es
  refine ⟨?_, ?_⟩
  · have hle := (List.Nodup.subperm hs.nodup_holders hs.holders_subset).length_le
    simp only [Cell.holders, List.length_append, List.length_map] at hle
    exact hle
  · rintro pre post rfl c hborn hclosed hmem
    have hlater : (s.conn c).outer.closed = true := by
      show (((cellMachine o).run (pre ++ post)).conn c).outer.closed = true
      rw [Machine.run_append]
      exact Cell.closed_runFrom o post hborn hclosed
    rw [(hs.open_of_holder hmem).1] at hlater
    cases hlater

/-! ## A cell with one host and one waiting controller

Its codec knows the five payloads the run sends, and its MAC is 32 zero bytes.
-/

namespace Demo

/-- `tkt_` and 32 zeros. -/
def ticket : Ticket := .repeat 0x30 rfl

def hostHello : Bytes := ascii "\x7b\"t\":\"host-hello\",\"v\":1,\"hostId\":\"h\"\x7d"

def hostProof : Bytes := ascii
  "\x7b\"t\":\"host-proof\",\"macB64\":\"AAAAAAAAAAAAAAAAAAAAAAAAAAAAAAAAAAAAAAAAAAA=\"\x7d"

def controllerAuth : Bytes :=
  ascii "\x7b\"t\":\"data-auth\",\"role\":\"controller\""
    ++ ascii ",\"ticket\":\"tkt_00000000000000000000000000000000\"\x7d"

def hostAuth : Bytes :=
  ascii "\x7b\"t\":\"data-auth\",\"role\":\"host\""
    ++ ascii ",\"ticket\":\"tkt_00000000000000000000000000000000\""
    ++ ascii ",\"macB64\":\"AAAAAAAAAAAAAAAAAAAAAAAAAAAAAAAAAAAAAAAAAAA=\"\x7d"

def dataReady : Bytes := ascii "\x7b\"t\":\"data-ready\"\x7d"

/-- `decodeOuterMessage` on these payloads. -/
def decode (payload : Bytes) : Option OuterMessage :=
  if payload = hostHello then some (.hostHello (js "h"))
  else if payload = hostProof then some (.hostProof (Bytes32.repeat 0))
  else if payload = controllerAuth then some (.dataAuth .controller ticket none)
  else if payload = hostAuth then some (.dataAuth .host ticket (some (Bytes32.repeat 0)))
  else if payload = dataReady then some .dataReady
  else none

def options : CellOptions :=
  { cellId := js "cell"
    crypto :=
      { getPublicKey := fun _ => Bytes32.repeat 9
        getSharedSecret := fun _ _ => some [1]
        hkdf := fun _ _ _ n => List.replicate n 2
        hmac := fun _ _ => List.replicate 32 0
        sha256 := fun _ => List.replicate 32 3 }
    decodeOuterMessage := decode
    encodes := fun _ => true }

/-- Connection 0 registers the host `h`. -/
def registered : List Event :=
  [.accept true, .receive 0 (outerFrame hostHello),
    .hostKeyReply 0 (.ok (some (List.replicate 32 5))) [7] (Bytes32.repeat 8),
    .receive 0 (outerFrame hostProof)]

/-- Connection 1 presents the ticket and waits; connection 2 is accepted. -/
def waiting : List Event :=
  registered ++ [.accept true, .receive 1 (outerFrame controllerAuth),
    .ticketReply 1 (.ok (some ⟨js "h", 10⟩)) 0 (Bytes32.repeat 6), .accept true]

/-- Connection 2 dials. -/
def spliced : List Event := waiting ++ [.receive 2 (outerFrame hostAuth)]

/-- Connection 2 sends a message it may not send, and a dial in the same chunk. -/
def splicedLate : List Event :=
  waiting ++ [.receive 2 (outerFrame dataReady ++ outerFrame hostAuth)]

end Demo

theorem soundRun_spliced : SoundRun Demo.options Demo.spliced := by
  have hchecks : (cellMachine Demo.options).checks
      (fun s e => !dialsBehindRefusal Demo.options s e) Cell.init Demo.spliced = true := by
    decide +kernel
  refine soundRun_of_no_dialsBehindRefusal Demo.options Demo.spliced ?_
  exact ((cellMachine Demo.options).meets_of_checks hchecks).mono _ fun s e h => by simpa using h

/-- The connection whose first message was refused is spliced while it is closed. -/
theorem not_soundRun_splicedLate : ¬ SoundRun Demo.options Demo.splicedLate := by
  intro h
  have hconsistent := h.consistent Demo.splicedLate [] (List.append_nil _).symm
  obtain ⟨b, hb, hclosed⟩ : ∃ b ∈ ((cellMachine Demo.options).run Demo.splicedLate).bridges,
      (((cellMachine Demo.options).run Demo.splicedLate).conn b.host).outer.closed = true := by
    decide +kernel
  have hopen := (hconsistent.bridges b hb b.host (.inr rfl)).1
  rw [hclosed] at hopen
  cases hopen

end Pherry.RelayCore
