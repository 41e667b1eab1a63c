import Pherry.Ios.Typing

/-!
# The order of keystrokes

What the host writes is what was typed, in order, when each chunk waits for the one before it to be sealed.
-/

namespace Pherry.Ios

open Lib Channel Protocol Host

section Order

/-! ## What a request comes to -/

variable {crypto : Crypto} {aead : Aead} {l : OpenSession} {channel : SecureChannel} {sealer : RecordSealer}
  {opener : Opener}

/-- The frame of a request. -/
def requestFrame (l : OpenSession) (id : Uuid) (request : TerminalRequest) : ChannelFrame :=
  ⟨.control, l.encodeRequest (request.rpc l.ref id)⟩

lemma dispatch_input (hcodec : RequestCodec l) (hcapability : sessionInput ∈ l.connection.negotiated)
    (hregistered : (l.connection.registry l.ref).isSome = true) (id : Uuid) (data : Bytes) :
    l.connection.dispatch l.options.parseParams ((TerminalRequest.input data).rpc l.ref id) =
      [.session l.ref (.write (base64 data)), .send (.success id.1 ackResult false)] := by
  obtain ⟨session, hsession⟩ := Option.isSome_iff_exists.1 hregistered
  have hmethod : methodOf ((TerminalRequest.input data).rpc l.ref id).method = some .input :=
    methodOf_name .input
  have hparams : l.options.parseParams .input ((TerminalRequest.input data).rpc l.ref id).params =
      .ok (l.ref, base64 data) := hcodec.params data
  rw [Connection.dispatch, hmethod]
  dsimp only
  rw [hparams]
  show l.connection.gated id.1 .input (l.connection.handleInput id.1 l.ref (base64 data)) = _
  rw [Connection.gated, show requiredCapability .input = some sessionInput from rfl]
  dsimp only
  rw [if_pos hcapability, Connection.handleInput, hsession]

lemma write_not_mem_dispatch_resize (id : Uuid) (cols rows : ℕ) (ref : SessionRef) (dataB64 : JsString) :
    Todo.session ref (.write dataB64) ∉
      l.connection.dispatch l.options.parseParams ((TerminalRequest.resize cols rows).rpc l.ref id) := by
  have hmethod : methodOf ((TerminalRequest.resize cols rows).rpc l.ref id).method = some .resize :=
    methodOf_name .resize
  rw [Connection.dispatch, hmethod]
  dsimp only
  split
  · simp
  · next params _ =>
    show _ ∉ l.connection.gated id.1 .resize (l.connection.handleResize id.1 params.1 params.2)
    rw [Connection.gated, show requiredCapability .resize = some sessionInput from rfl]
    dsimp only
    split
    · rw [Connection.handleResize]
      split <;> simp
    · simp

lemma ptyWrites_requestFrame (hcodec : RequestCodec l) (hcapability : sessionInput ∈ l.connection.negotiated)
    (hregistered : (l.connection.registry l.ref).isSome = true) (id : Uuid) (request : TerminalRequest) :
    l.ptyWrites (requestFrame l id request) = request.chunk.toList := by
  cases request with
  | input data =>
    rw [OpenSession.ptyWrites, requestFrame]
    dsimp only
    rw [hcodec.input]
    dsimp only
    rw [dispatch_input hcodec hcapability hregistered]
    simp [TerminalRequest.chunk, bufferFromBase64_base64]
  | resize cols rows =>
    rw [OpenSession.ptyWrites, requestFrame]
    dsimp only
    split
    · rfl
    · next request hrequest =>
      rw [hcodec.resize id cols rows request hrequest]
      refine List.filterMap_eq_nil_iff.2 fun todo htodo => ?_
      split
      · exact absurd htodo (write_not_mem_dispatch_resize id cols rows _ _)
      · rfl

/-! ## The phone's channel -/

lemma closed_of_shutdown (c : SecureChannel) (error : Option ChannelError) :
    (c.shutdown error).1.closed = true := by
  unfold SecureChannel.shutdown
  split
  · next hclosed => exact hclosed
  · rfl

lemma flags_drainLoop (n : ℕ) (c : SecureChannel) :
    (c.drainLoop aead n).1.closed = c.closed ∧ (c.drainLoop aead n).1.isOpen = c.isOpen := by
  induction n generalizing c with
  | zero => exact ⟨rfl, rfl⟩
  | succ n ih =>
    unfold SecureChannel.drainLoop
    split
    · exact ⟨rfl, rfl⟩
    dsimp only
    split
    · exact ⟨rfl, rfl⟩
    split
    · exact ⟨rfl, rfl⟩
    split
    · exact ⟨rfl, rfl⟩
    split
    · exact ⟨rfl, rfl⟩
    split
    · exact ⟨rfl, rfl⟩
    · exact ih _

lemma flags_endIngest (aead : Aead) (c : SecureChannel) :
    (c.endIngest aead).1.closed = true ∨
      (c.endIngest aead).1.closed = c.closed ∧ (c.endIngest aead).1.isOpen = c.isOpen := by
  unfold SecureChannel.endIngest
  split
  · exact Or.inr ⟨rfl, rfl⟩
  dsimp only
  split
  · exact Or.inr (flags_drainLoop _ c)
  · exact Or.inl (closed_of_shutdown _ _)

/-- What a step of the link keeps: its sealer, and every write but those a broken transport loses. -/
structure LinkStep (link link' : Outgoing) : Prop where
  sealer : link'.channel.sealer = link.channel.sealer
  closed : link.channel.closed = true → link'.channel.closed = true
  opened : link.channel.closed = true ∨ link.channel.isOpen = true →
    link'.channel.closed = true ∨ link'.channel.isOpen = true
  writes : ∀ w ∈ link'.wire ++ link'.pending, w ∈ link.wire ++ link.pending
  whole : link'.broken = false → link.broken = false ∧
    (link'.wire ++ link'.pending).length = (link.wire ++ link.pending).length

lemma LinkStep.refl (link : Outgoing) : LinkStep link link :=
  ⟨rfl, id, id, fun _ => id, fun h => ⟨h, rfl⟩⟩

lemma LinkStep.shutdown {link link' : Outgoing} (h : LinkStep link link') (error : Option ChannelError)
    (pumping : Bool) : LinkStep link { link' with channel := (link'.channel.shutdown error).1, pumping } :=
  ⟨(sameKeys_shutdown _ _).sealer.trans h.sealer, fun _ => closed_of_shutdown _ _,
    fun _ => Or.inl (closed_of_shutdown _ _), h.writes, h.whole⟩

lemma LinkStep.endIngest {link link' : Outgoing} (h : LinkStep link link') (aead : Aead) (pumping : Bool) :
    LinkStep link { link' with channel := (link'.channel.endIngest aead).1, pumping } := by
  refine ⟨(sameKeys_endIngest aead _).sealer.trans h.sealer, ?_, ?_, h.writes, h.whole⟩
  · intro hclosed
    rcases flags_endIngest aead link'.channel with hshut | ⟨hsame, -⟩
    · exact hshut
    · exact hsame.trans (h.closed hclosed)
  · intro hopened
    rcases flags_endIngest aead link'.channel with hshut | ⟨hclosed, hopen⟩
    · exact Or.inl hshut
    · rw [hclosed, hopen]
      exact h.opened hopened

lemma linkStep_take {link : Outgoing} {i : ℕ} {w : Write} (hw : link.pending[i]? = some w) :
    LinkStep link { link with pending := link.pending.eraseIdx i, wire := link.wire ++ [w] } := by
  obtain ⟨hi, rfl⟩ := List.getElem?_eq_some_iff.1 hw
  refine ⟨rfl, id, id, ?_, fun h => ⟨h, ?_⟩⟩
  · intro v hv
    simp only [List.append_assoc, List.mem_append, List.mem_singleton] at hv ⊢
    rcases hv with hv | rfl | hv
    · exact Or.inl hv
    · exact Or.inr (List.getElem_mem hi)
    · exact Or.inr (List.mem_of_mem_eraseIdx hv)
  · simp only [List.length_append, List.length_singleton, List.length_eraseIdx_of_lt hi]
    omega

lemma linkStep_accept (link : Outgoing) (i : ℕ) : LinkStep link (link.accept aead i) := by
  unfold Outgoing.accept
  split
  · exact .refl link
  · next w hw =>
    split
    · exact .refl link
    dsimp only
    split
    · exact (linkStep_take hw).endIngest aead false
    · exact linkStep_take hw

lemma linkStep_lose (link : Outgoing) (i : ℕ) :
    LinkStep link { link with pending := link.pending.eraseIdx i, broken := true } := by
  refine ⟨rfl, id, id, ?_, fun h => by cases h⟩
  intro v hv
  simp only [List.mem_append] at hv ⊢
  exact hv.imp id List.mem_of_mem_eraseIdx

lemma linkStep_refuse (link : Outgoing) (i : ℕ) : LinkStep link (link.refuse i) := by
  unfold Outgoing.refuse
  split
  · exact .refl link
  · dsimp only
    split
    · exact (linkStep_lose link i).shutdown _ link.pumping
    · exact (linkStep_lose link i).shutdown _ false
    · exact linkStep_lose link i

lemma linkStep_receive {link : Outgoing}
    (hopened : link.channel.closed = true ∨ link.channel.isOpen = true) (chunk : Bytes) :
    LinkStep link (link.receive crypto aead chunk) := by
  unfold Outgoing.receive
  split
  · exact .refl link
  · next hrunning =>
    rw [Bool.or_eq_true, not_or] at hrunning
    have hopen := hopened.resolve_left hrunning.2
    have hbegin : link.channel.beginIngest crypto chunk =
        ({ link.channel with inboundBuffer := link.channel.inboundBuffer ++ chunk }, [], none) := by
      rw [SecureChannel.beginIngest]
      exact if_pos (by rw [hopen, Bool.true_or])
    rw [hbegin]
    have hbuffered : LinkStep link
        { link with channel := { link.channel with inboundBuffer := link.channel.inboundBuffer ++ chunk } } :=
      ⟨rfl, id, id, fun _ => id, fun h => ⟨h, rfl⟩⟩
    exact hbuffered.endIngest aead link.pumping

/-! ## What is on its way -/

/-- The write of a frame, the so manieth that `sealer` seals. -/
def writeOf (aead : Aead) (sealer : RecordSealer) (n : ℕ) (frame : ChannelFrame) : Write :=
  let record := aead.encrypt sealer.key (nonceFor sealer.noncePrefix (sealer.counter + n)) (encodeFrame frame)
  .record (sealer.counter + n) (uint32BE record.length ++ record)

/-- Where the frames are that the phone has sealed since it went live: `n` of them the host has read. What was
typed is what they hold and then what waits to be sealed, as long as the channel is not closed. -/
structure Carried (aead : Aead) (l : OpenSession) (sealer : RecordSealer) (s : Typing)
    (frames : List ChannelFrame) (n : ℕ) : Prop where
  opened : s.link.channel.closed = true ∨ s.link.channel.isOpen = true
  controllerClosed : s.controllerClosed = true → s.link.channel.closed = true
  keys : ∃ now, s.link.channel.sealer = some now ∧ now.key = sealer.key ∧
    now.noncePrefix = sealer.noncePrefix ∧ now.counter = sealer.counter + frames.length
  few : frames ≠ [] → sealer.counter + frames.length ≤ maxSafeInteger + 1
  writes : ∀ w ∈ s.link.wire ++ s.link.pending, ∃ k frame, frames[k]? = some frame ∧ w = writeOf aead sealer k frame
  whole : s.link.broken = false → (s.link.wire ++ s.link.pending).length = frames.length
  read : n ≤ frames.length
  written : s.written = (frames.take n).flatMap l.ptyWrites
  host : s.hostUp = true → s.reads = n ∧ s.opener.key = sealer.key ∧ s.opener.noncePrefix = sealer.noncePrefix ∧
    s.opener.counter = sealer.counter + n
  typed : ∃ rest, s.typed = frames.flatMap l.ptyWrites ++ rest ∧
    (s.link.channel.closed = false → rest = chunks s.carriers)
  alone : (chunks s.carriers).length ≤ 1
  spawned : ∀ k ∈ s.carriers, ∀ payload, k.stage = .spawned payload →
    ∃ id, payload = l.encodeRequest (k.request.rpc l.ref id)
  fits : ∀ k ∈ s.carriers, ∀ data, k.request = .input data → ∀ id,
    1 + (l.encodeRequest ((TerminalRequest.input data).rpc l.ref id)).length + recordTagBytes ≤ 4 * 1024 * 1024

variable {s : Typing} {frames : List ChannelFrame} {n : ℕ}

lemma Carried.of_link (h : Carried aead l sealer s frames n) {link : Outgoing} (hlink : LinkStep s.link link) :
    Carried aead l sealer { s with link } frames n := by
  refine ⟨hlink.opened h.opened, fun hclosed => hlink.closed (h.controllerClosed hclosed), ?_, h.few, ?_, ?_, h.read,
    h.written, h.host, ?_, h.alone, h.spawned, h.fits⟩
  · rw [hlink.sealer]
    exact h.keys
  · exact fun w hw => h.writes w (hlink.writes w hw)
  · intro hworks
    obtain ⟨hworks', hlength⟩ := hlink.whole hworks
    exact hlength.trans (h.whole hworks')
  · obtain ⟨rest, htyped, hrest⟩ := h.typed
    refine ⟨rest, htyped, fun hopen => hrest ?_⟩
    by_contra hclosed
    rw [hlink.closed (Bool.not_eq_false _ ▸ hclosed)] at hopen
    cases hopen

lemma chunks_cons (k : Carrier) (carriers : List Carrier) :
    chunks (k :: carriers) = k.request.chunk.toList ++ chunks carriers := by
  rw [chunks, List.filterMap_cons]
  cases k.request.chunk <;> rfl

lemma chunks_take {carriers : List Carrier} {i : ℕ} {k : Carrier} (hk : carriers[i]? = some k)
    (halone : (chunks carriers).length ≤ 1) : chunks (k :: carriers.eraseIdx i) = chunks carriers :=
  filterMap_take hk halone

lemma chunks_set {carriers : List Carrier} {i : ℕ} {request : TerminalRequest} {stage stage' : TaskStage}
    (hi : carriers[i]? = some ⟨request, stage⟩) : chunks (carriers.set i ⟨request, stage'⟩) = chunks carriers := by
  obtain ⟨hlt, hget⟩ := List.getElem?_eq_some_iff.1 hi
  have hmap : (carriers.set i ⟨request, stage'⟩).map Carrier.request = carriers.map Carrier.request := by
    rw [List.map_set]
    refine List.ext_getElem (by simp) fun j hj hj' => ?_
    by_cases hij : i = j
    · subst hij
      simp [hget]
    · simp [List.getElem_set_ne hij]
  have hchunks : ∀ cs : List Carrier, chunks cs = (cs.map Carrier.request).filterMap TerminalRequest.chunk := by
    intro cs
    rw [List.filterMap_map]
    rfl
  rw [hchunks, hchunks, hmap]

lemma Carried.set (h : Carried aead l sealer s frames n) {i : ℕ} {request : TerminalRequest}
    {stage stage' : TaskStage} (hi : s.carriers[i]? = some ⟨request, stage⟩)
    (hspawned : ∀ payload, stage' = .spawned payload → ∃ id, payload = l.encodeRequest (request.rpc l.ref id)) :
    Carried aead l sealer { s with carriers := s.carriers.set i ⟨request, stage'⟩ } frames n := by
  have hold : (⟨request, stage⟩ : Carrier) ∈ s.carriers := List.mem_of_getElem? hi
  refine ⟨h.opened, h.controllerClosed, h.keys, h.few, h.writes, h.whole, h.read, h.written, h.host, ?_, ?_, ?_, ?_⟩
  · dsimp only
    rw [chunks_set hi]
    exact h.typed
  · dsimp only
    rw [chunks_set hi]
    exact h.alone
  · intro k hk payload hstage
    rcases List.mem_or_eq_of_mem_set hk with hk | rfl
    · exact h.spawned k hk payload hstage
    · exact hspawned payload hstage
  · intro k hk data hrequest
    rcases List.mem_or_eq_of_mem_set hk with hk | rfl
    · exact h.fits k hk data hrequest
    · exact h.fits _ hold data hrequest

/-- A task that ends takes its chunk with it. It ends early only where the channel is closed, or without a
chunk. -/
lemma Carried.erase (h : Carried aead l sealer s frames n) {i : ℕ} {k : Carrier} (hi : s.carriers[i]? = some k)
    (hend : s.link.channel.closed = true ∨ k.request.chunk = none) :
    Carried aead l sealer { s with carriers := s.carriers.eraseIdx i } frames n := by
  have htake := chunks_take hi h.alone
  refine ⟨h.opened, h.controllerClosed, h.keys, h.few, h.writes, h.whole, h.read, h.written, h.host, ?_, ?_, ?_, ?_⟩
  · obtain ⟨rest, htyped, hrest⟩ := h.typed
    refine ⟨rest, htyped, fun hopen => (hrest hopen).trans ?_⟩
    rcases hend with hclosed | hnone
    · exact absurd (hclosed.symm.trans hopen) (by simp)
    · rw [chunks_cons, hnone] at htake
      exact htake.symm
  · have halone := h.alone
    rw [← htake, chunks_cons, List.length_append] at halone
    exact (Nat.le_add_left _ _).trans halone
  · exact fun k hk => h.spawned k (List.mem_of_mem_eraseIdx hk)
  · exact fun k hk => h.fits k (List.mem_of_mem_eraseIdx hk)

/-! ## Sealing and reading -/

lemma send_of_seals {link : Outgoing} {frame : ChannelFrame} {now : RecordSealer}
    (hseals : Seals link.channel frame) (hnow : link.channel.sealer = some now) :
    link.send aead frame =
      { link with
        channel := { link.channel with sealer := some (now.seal aead (FrameCodec.encode frame)).2 }
        pending := link.pending ++ [.record now.counter
          (uint32BE (now.seal aead (FrameCodec.encode frame)).1.length ++
            (now.seal aead (FrameCodec.encode frame)).1)] } := by
  obtain ⟨hclosed, hopen, -, hfits⟩ := hseals
  have hseal : link.channel.sealFrame aead frame =
      .ok ({ link.channel with sealer := some (now.seal aead (FrameCodec.encode frame)).2 },
        uint32BE (now.seal aead (FrameCodec.encode frame)).1.length ++
          (now.seal aead (FrameCodec.encode frame)).1) := by
    rw [SecureChannel.sealFrame, if_neg (by rw [hclosed]; exact Bool.false_ne_true)]
    split
    · next hsealer =>
      rw [hnow] at hsealer
      cases hsealer
      exact if_neg (Nat.not_lt_of_le hfits)
    · next hguard => exact absurd hnow (hguard now hopen)
  rw [Outgoing.send, hnow, hseal]

lemma send_of_not_seals {link : Outgoing} {frame : ChannelFrame} (hseals : ¬ Seals link.channel frame) :
    link.send aead frame = link := by
  unfold Outgoing.send
  split
  · next hseal => exact absurd (seals_of_sealFrame hseal) hseals
  · rfl

lemma Carried.send (hcodec : RequestCodec l) (hcapability : sessionInput ∈ l.connection.negotiated)
    (hregistered : (l.connection.registry l.ref).isSome = true) (h : Carried aead l sealer s frames n) {i : ℕ}
    {request : TerminalRequest} {payload : Bytes} (hi : s.carriers[i]? = some ⟨request, .spawned payload⟩)
    (hfew : ∀ now, s.link.channel.sealer = some now → now.counter ≤ maxSafeInteger) :
    ∃ frames', Carried aead l sealer
      { s with
        carriers := s.carriers.eraseIdx i
        link := s.link.send aead ⟨.control, payload⟩ } frames' n := by
  have hmem : (⟨request, .spawned payload⟩ : Carrier) ∈ s.carriers := List.mem_of_getElem? hi
  obtain ⟨id, hid⟩ := h.spawned _ hmem payload rfl
  dsimp only at hid
  subst hid
  obtain ⟨now, hnow, hkey, hprefix, hcounter⟩ := h.keys
  by_cases hseals : Seals s.link.channel ⟨.control, l.encodeRequest (request.rpc l.ref id)⟩
  · have hlast := hfew now hnow
    have hwrite : Write.record now.counter
        (uint32BE (now.seal aead (FrameCodec.encode (requestFrame l id request))).1.length ++
          (now.seal aead (FrameCodec.encode (requestFrame l id request))).1) =
        writeOf aead sealer frames.length (requestFrame l id request) := by
      rw [RecordSealer.seal, nonce_eq, encode_eq, hkey, hprefix, hcounter]
      rfl
    refine ⟨frames ++ [requestFrame l id request], ?_⟩
    rw [send_of_seals hseals hnow]
    have htake := chunks_take hi h.alone
    rw [chunks_cons] at htake
    refine ⟨h.opened, h.controllerClosed, ⟨_, rfl, hkey, hprefix, ?_⟩, ?_, ?_, ?_, ?_, ?_, h.host, ?_, ?_, ?_, ?_⟩
    · show (now.counter + 1) % 2 ^ 64 = _
      rw [List.length_append, List.length_singleton, hcounter]
      unfold maxSafeInteger at hlast
      omega
    · intro _
      rw [List.length_append, List.length_singleton]
      omega
    · intro w hw
      dsimp only at hw
      rw [← List.append_assoc, List.mem_append, List.mem_singleton] at hw
      rcases hw with hw | rfl
      · obtain ⟨k, frame, hframe, hw⟩ := h.writes w hw
        exact ⟨k, frame, (List.getElem?_append_left (List.getElem?_eq_some_iff.1 hframe).1).trans hframe, hw⟩
      · exact ⟨frames.length, _, List.getElem?_concat_length, hwrite⟩
    · intro hworks
      dsimp only
      rw [← List.append_assoc, List.length_append, h.whole hworks, List.length_append]
      rfl
    · rw [List.length_append]
      exact h.read.trans (Nat.le_add_right _ _)
    · rw [List.take_append_of_le_length h.read]
      exact h.written
    · -- the chunk goes from the tasks to the frames
      obtain ⟨rest, htyped, hrest⟩ := h.typed
      have hchunk := ptyWrites_requestFrame hcodec hcapability hregistered id request
      refine ⟨chunks (s.carriers.eraseIdx i), ?_, fun _ => rfl⟩
      rw [List.flatMap_append, List.flatMap_singleton, hchunk, List.append_assoc]
      dsimp only
      rw [htyped, hrest hseals.1, ← htake]
    · have halone := h.alone
      rw [← htake, List.length_append] at halone
      exact (Nat.le_add_left _ _).trans halone
    · exact fun k hk => h.spawned k (List.mem_of_mem_eraseIdx hk)
    · exact fun k hk => h.fits k (List.mem_of_mem_eraseIdx hk)
  · refine ⟨frames, ?_⟩
    rw [send_of_not_seals hseals]
    refine h.erase hi ?_
    rcases h.opened with hclosed | hopen
    · exact Or.inl hclosed
    · -- an input fits, so that only a closed channel refuses it
      by_cases hclosed : s.link.channel.closed = true
      · exact Or.inl hclosed
      · cases request with
        | input data =>
          exact absurd ⟨Bool.eq_false_iff.2 hclosed, hopen, by rw [hnow]; rfl, h.fits _ hmem data rfl id⟩ hseals
        | resize cols rows => exact Or.inr rfl

lemma Carried.hangUp (h : Carried aead l sealer s frames n) {reads : ℕ} {opener : Opener} :
    Carried aead l sealer { s with reads, opener, hostUp := false } frames n :=
  ⟨h.opened, h.controllerClosed, h.keys, h.few, h.writes, h.whole, h.read, h.written, fun hup => (nomatch hup),
    h.typed, h.alone, h.spawned, h.fits⟩

lemma Carried.reads (hauthentic : Authentic aead) (hlength : sealer.noncePrefix.length = noncePrefixBytes)
    (h : Carried aead l sealer s frames n) : ∃ n', Carried aead l sealer (s.read aead l) frames n' := by
  unfold Typing.read
  split
  · exact ⟨n, h⟩
  · next w hw =>
    split
    · next hup =>
      obtain ⟨hreads, hkey, hprefix, hcounter⟩ := h.host hup
      obtain ⟨k, frame, hframe, rfl⟩ := h.writes w (List.mem_append_left _ (List.mem_of_getElem? hw))
      have hk := (List.getElem?_eq_some_iff.1 hframe).1
      have hfew := h.few (List.length_pos_iff.1 (Nat.zero_lt_of_lt hk))
      have hrecord : (Typing.bytesOf (writeOf aead sealer k frame)).drop 4 = aead.encrypt sealer.key
          (nonceFor sealer.noncePrefix (sealer.counter + k)) (encodeFrame frame) := by
        rw [writeOf, Typing.bytesOf]
        exact List.drop_left' (length_uint32BE _)
      dsimp only
      rw [hrecord]
      split
      · exact ⟨n, h.hangUp⟩
      · next frameBytes opener' hopen =>
        obtain ⟨hdecrypt, hkey', hprefix', hcounter'⟩ := Opener.open_eq_ok hopen
        rw [Opener.nonce, hkey, hprefix, hcounter] at hdecrypt
        have hread := h.read
        unfold maxSafeInteger at hfew
        obtain ⟨hsame, hbytes⟩ := hauthentic _ _ _ _ _ _ hlength (by omega) (by omega) hdecrypt
        have hnk : n = k := by omega
        subst hnk
        rw [hbytes, decodeFrame_encodeFrame]
        dsimp only
        refine ⟨n + 1, h.opened, h.controllerClosed, h.keys, h.few, h.writes, h.whole, hk, ?_, fun _ => ?_, h.typed,
          h.alone, h.spawned, h.fits⟩
        · rw [List.take_add_one, hframe, List.flatMap_append, h.written]
          simp
        · refine ⟨congrArg (· + 1) hreads, hkey'.trans hkey, hprefix'.trans hprefix, ?_⟩
          dsimp only
          rw [hcounter', hcounter, increment, if_pos (by unfold maxSafeInteger; omega), Nat.add_assoc]
    · exact ⟨n, h⟩

/-! ## Every schedule -/

lemma chunks_append (carriers carriers' : List Carrier) :
    chunks (carriers ++ carriers') = chunks carriers ++ chunks carriers' := List.filterMap_append

lemma Carried.start (h : Carried aead l sealer s frames n) {request : TerminalRequest} {data : List Bytes}
    (hchunks : chunks (s.carriers ++ [⟨request, .started⟩]) = chunks s.carriers ++ data)
    (halone : (chunks s.carriers ++ data).length ≤ 1)
    (hfits : ∀ bytes, request = .input bytes → ∀ id,
      1 + (l.encodeRequest ((TerminalRequest.input bytes).rpc l.ref id)).length + recordTagBytes ≤ 4 * 1024 * 1024) :
    Carried aead l sealer ({ s with typed := s.typed ++ data }.start request) frames n := by
  refine ⟨h.opened, h.controllerClosed, h.keys, h.few, h.writes, h.whole, h.read, h.written, h.host, ?_, ?_, ?_, ?_⟩
  · obtain ⟨rest, htyped, hrest⟩ := h.typed
    refine ⟨rest ++ data, ?_, fun hopen => ?_⟩
    · rw [← List.append_assoc, ← htyped]
      rfl
    · rw [hrest hopen]
      exact hchunks.symm
  · exact (congrArg List.length hchunks).le.trans halone
  · intro k hk payload hstage
    rcases List.mem_append.1 hk with hk | hk
    · exact h.spawned k hk payload hstage
    · rw [List.mem_singleton.1 hk] at hstage
      cases hstage
  · intro k hk bytes hrequest
    rcases List.mem_append.1 hk with hk | hk
    · exact h.fits k hk bytes hrequest
    · rw [List.mem_singleton.1 hk] at hrequest
      exact hfits bytes hrequest

lemma Carried.input (h : Carried aead l sealer s frames n) {data : Bytes} (hone : oneAtATime l s (.input data)) :
    Carried aead l sealer ({ s with typed := s.typed ++ [data] }.start (.input data)) frames n := by
  obtain ⟨halone, hfits⟩ := hone
  refine h.start (chunks_append _ _) ?_ fun bytes hbytes => ?_
  · rw [halone]
    exact Nat.le_refl 1
  · cases hbytes
    exact hfits

lemma Carried.resize (h : Carried aead l sealer s frames n) (cols rows : ℕ) :
    Carried aead l sealer (s.start (.resize cols rows)) frames n := by
  have hstart : Carried aead l sealer ({ s with typed := s.typed ++ [] }.start (.resize cols rows)) frames n :=
    h.start (chunks_append _ _) (by rw [List.append_nil]; exact h.alone) fun _ hbytes => by cases hbytes
  rw [List.append_nil] at hstart
  exact hstart

lemma Carried.run (hcodec : RequestCodec l) (hcapability : sessionInput ∈ l.connection.negotiated)
    (hregistered : (l.connection.registry l.ref).isSome = true) (h : Carried aead l sealer s frames n) {i : ℕ}
    {id : Uuid} (hone : oneAtATime l s (.run i id)) :
    ∃ frames', Carried aead l sealer (s.run aead l i id) frames' n := by
  unfold Typing.run
  split
  · exact ⟨frames, h⟩
  · next request hi => exact ⟨frames, h.set hi fun _ hstage => (nomatch hstage)⟩
  · next request hi =>
    split
    · exact ⟨frames, h.set hi fun _ hstage => (nomatch hstage)⟩
    split
    · next hclosed => exact ⟨frames, h.erase hi (Or.inl hclosed)⟩
    · exact ⟨frames, h⟩
  · next request hi =>
    split
    · next hclosed => exact ⟨frames, h.erase hi (Or.inl (h.controllerClosed hclosed))⟩
    · refine ⟨frames, h.set hi fun payload hstage => ?_⟩
      cases hstage
      exact ⟨id, rfl⟩
  · next request payload hi => exact h.send hcodec hcapability hregistered hi hone

lemma Carried.step (hcodec : RequestCodec l) (hauthentic : Authentic aead)
    (hlive : GoneLive l channel sealer opener) (h : Carried aead l sealer s frames n) {e : TypingEvent}
    (hone : oneAtATime l s e) : ∃ frames' n', Carried aead l sealer (s.step crypto aead l e) frames' n' := by
  cases e with
  | input data => exact ⟨frames, n, h.input hone⟩
  | resize cols rows => exact ⟨frames, n, h.resize cols rows⟩
  | run i id =>
    obtain ⟨frames', h'⟩ := h.run hcodec hlive.capability hlive.registered hone
    exact ⟨frames', n, h'⟩
  | teardown =>
    rw [Typing.step]
    split
    · next hclosed =>
      exact ⟨frames, n, h.opened, fun _ => hclosed, h.keys, h.few, h.writes, h.whole, h.read, h.written, h.host,
        h.typed, h.alone, h.spawned, h.fits⟩
    · exact ⟨frames, n, h⟩
  | receive chunk => exact ⟨frames, n, h.of_link (linkStep_receive h.opened chunk)⟩
  | close => exact ⟨frames, n, h.of_link ((LinkStep.refl _).shutdown none s.link.pumping)⟩
  | accept i => exact ⟨frames, n, h.of_link (linkStep_accept _ i)⟩
  | refuse i => exact ⟨frames, n, h.of_link (linkStep_refuse _ i)⟩
  | read =>
    obtain ⟨n', h'⟩ := h.reads hauthentic hlive.prefixLength
    exact ⟨frames, n', h'⟩
  | hangUp => exact ⟨frames, n, h.hangUp⟩

/-- What is written is a beginning of what was typed, and all of it once nothing is on its way. -/
lemma Carried.inTypingOrder (h : Carried aead l sealer s frames n) : InTypingOrder s := by
  obtain ⟨rest, htyped, hrest⟩ := h.typed
  constructor
  · rw [htyped, h.written]
    refine ( List.IsPrefix.trans ?_ (List.prefix_append _ rest))
    conv_rhs => rw [← List.take_append_drop n frames, List.flatMap_append]
    exact List.prefix_append _ _
  · rintro ⟨hopen, hworks, hup⟩ ⟨hchunks, hpending, hreads⟩
    -- every frame that was sealed is on the wire, and the host has read that
    have hwhole := h.whole hworks
    rw [hpending, List.append_nil, ← hreads, (h.host hup).1] at hwhole
    rw [htyped, hrest hopen, hchunks, h.written, hwhole, List.take_length, List.append_nil]

end Order

/-! ## An example -/

namespace Keys

/-- The bytes of a text of one-byte characters. -/
def toBytes (s : JsString) : Bytes := s.map fun u => UInt8.ofNat u.toNat

/-- The characters of such bytes. -/
def toUnits (bytes : Bytes) : JsString := bytes.map fun b => UInt16.ofNat b.toNat

lemma toUnits_toBytes {s : JsString} (h : ∀ u ∈ s, u < 0x80) : toUnits (toBytes s) = s := by
  induction s with
  | nil => rfl
  | cons u s ih =>
    have hu : u.toNat < 0x80 := h u List.mem_cons_self
    have hunit : UInt16.ofNat (UInt8.ofNat u.toNat).toNat = u := by
      rw [← UInt16.toNat_inj, UInt16.toNat_ofNat', UInt8.toNat_ofNat']
      omega
    rw [toBytes, List.map_cons, toUnits, List.map_cons, hunit]
    exact congrArg (u :: ·) (ih fun v hv => h v (List.mem_cons_of_mem u hv))

lemma base64Digit_lt (n : ℕ) : base64Digit n < 0x80 := by
  rw [UInt16.lt_iff_toNat_lt, base64Digit, UInt16.toNat_ofNat']
  show _ < 128
  split
  · omega
  split
  · omega
  split
  · omega
  split <;> omega

lemma base64_lt (bytes : Bytes) : ∀ u ∈ base64 bytes, u < 0x80 := by
  fun_induction base64 bytes with
  | case1 => exact fun u hu => absurd hu List.not_mem_nil
  | case2 a => simp [base64Digit_lt]
  | case3 a b => simp [base64Digit_lt]
  | case4 a b c rest ih => simpa [base64Digit_lt] using ih

/-- The session. -/
def ref : SessionRef := ⟨js "sref_" ++ List.replicate 32 0x30, matchesId_zeros⟩

/-- An input as JSON: what is before its identifier. -/
def head : Bytes := ascii "\x7b\x22id\x22:\x22"

/-- What is between the identifier and the data. -/
def middle : Bytes :=
  ascii "\x22,\x22method\x22:\x22session.input\x22,\x22params\x22:\x7b\x22sessionRef\x22:\x22" ++
    toBytes ref.1 ++ ascii "\x22,\x22dataB64\x22:\x22"

/-- What is behind the data. -/
def tail : Bytes := ascii "\x22\x7d\x7d"

/-- The JSON of an input. -/
def inputText (id dataB64 : JsString) : Bytes := head ++ (toBytes id ++ (middle ++ (toBytes dataB64 ++ tail)))

/-- The encoder of the phone, for inputs. -/
def encodeRequest (request : RpcRequest) : Bytes :=
  match request.params with
  | some (.obj [_, (_, .str dataB64)]) => inputText request.id dataB64
  | _ => []

/-- The host's parser, for inputs of the session. -/
def parseRequest (payload : Bytes) : Option RpcRequest :=
  let rest := payload.drop 43
  if rest.take middle.length = middle then
    let text := rest.drop middle.length
    some
      { id := toUnits ((payload.drop 7).take 36)
        method := js "session.input"
        params := some (inputParams ref (bufferFromBase64 (toUnits (text.take (text.length - tail.length))))) }
  else none

/-- A host that serves inputs. -/
def options : ServeOptions where
  gate :=
    { parseHello := fun _ => none
      capabilities := [sessionInput]
      verifyDevice := false }
  parseRequest
  parseParams
    | .input, some (.obj [_, (_, .str dataB64)]) => .ok (ref, dataB64)
    | .approve, _ => .ok ()
    | _, _ => .error .null
  custody := false
  listSessions := false
  launch := false

/-- Its connection with the phone. -/
def session : OpenSession where
  options := options
  connection :=
    { negotiated := [sessionInput]
      subscriptions := [ref]
      registry := fun _ => some ⟨1, 0⟩
      custody := false
      listSessions := false
      launch := false }
  ref := ref
  encodeRequest := encodeRequest

lemma parseRequest_inputText (id : Uuid) (data : Bytes) :
    parseRequest (inputText id.1 (base64 data)) = some ((TerminalRequest.input data).rpc ref id) := by
  have hid : (toBytes id.1).length = 36 := (List.length_map ..).trans id.2.1
  have hhead : (inputText id.1 (base64 data)).drop 7 =
      toBytes id.1 ++ (middle ++ (toBytes (base64 data) ++ tail)) := List.drop_left' rfl
  have hrest : (inputText id.1 (base64 data)).drop 43 = middle ++ (toBytes (base64 data) ++ tail) := by
    rw [show 43 = 7 + 36 from rfl, ← List.drop_drop, hhead]
    exact List.drop_left' hid
  have htext : (toBytes (base64 data) ++ tail).take ((toBytes (base64 data) ++ tail).length - tail.length) =
      toBytes (base64 data) := by
    rw [List.length_append, Nat.add_sub_cancel]
    exact List.take_left' rfl
  rw [parseRequest, hrest]
  dsimp only
  rw [if_pos (List.take_left' rfl), List.drop_left' rfl, htext, hhead, List.take_left' hid,
    toUnits_toBytes id.2.2, toUnits_toBytes (base64_lt data), bufferFromBase64_base64]
  rfl

lemma requestCodec : RequestCodec session where
  input id data := parseRequest_inputText id data
  resize id cols rows request hrequest := by
    have hnone : parseRequest [] = none := by decide
    rw [show session.options.parseRequest _ = parseRequest [] from rfl, hnone] at hrequest
    cases hrequest
  params data := rfl

lemma authentic : Authentic Demo.aead := by
  intro key noncePrefix m n plaintext opened hlength hm hn hopened
  have hsealed : (plaintext ++ Demo.authTag key (nonceFor noncePrefix m)).length - tagBytes = plaintext.length := by
    rw [List.length_append, Demo.length_authTag, Nat.add_sub_cancel]
  simp only [Demo.aead, hsealed] at hopened
  split at hopened
  · cases hopened
  split at hopened
  · next htag =>
    rw [List.drop_left' rfl] at htag
    rw [List.take_left' rfl] at hopened
    refine ⟨?_, (Option.some.inj hopened).symm⟩
    -- the first eight bytes of a tag are those of the counter
    have hcounter : ∀ c, (Demo.authTag key (nonceFor noncePrefix c)).take 8 =
        uint32BE (c / 2 ^ 32) ++ uint32BE c := by
      intro c
      rw [Demo.authTag, List.take_take, nonceFor, List.drop_left' hlength, List.append_assoc]
      exact List.take_left' rfl
    have hsame : uint32BE (n / 2 ^ 32) ++ uint32BE n = uint32BE (m / 2 ^ 32) ++ uint32BE m := by
      rw [← hcounter, ← hcounter, htag]
    exact (nonceFor_inj hn hm (congrArg (noncePrefix ++ ·) hsame)).2
  · cases hopened

/-- The phone's sealer, which has sealed five records. -/
def sealer : RecordSealer := ⟨[1], List.replicate 16 2, 5⟩

/-- The phone's channel. -/
def channel : SecureChannel where
  role := .initiator []
  context := none
  handshake := none
  inboundBuffer := []
  sealer := some sealer
  opener := some ⟨[3], List.replicate 16 4, 7, none⟩
  isOpen := true
  closed := false
  started := true
  isAuthenticated := true

/-- The host's opener. -/
def opener : Opener := ⟨[1], List.replicate 16 2, 5, none⟩

lemma goneLive : GoneLive session channel sealer opener :=
  ⟨rfl, rfl, rfl, rfl, rfl, rfl, rfl, List.mem_singleton_self _, rfl⟩

/-- An identifier. -/
def uuid : Uuid :=
  ⟨List.replicate 36 0x30, List.length_replicate, fun u hu => List.eq_of_mem_replicate hu ▸ (by decide)⟩

/-- The task at a place runs to its end. -/
def runs (i : ℕ) : List TypingEvent := List.replicate 4 (.run i uuid)

/-- Two keys, the second struck when the first has been sealed. -/
def inTurn : List TypingEvent :=
  [.input [0x61]] ++ runs 0 ++ [.input [0x62], .accept 0, .read] ++ runs 0 ++ [.accept 0, .read]

/-- Two keys, and the task of the second runs first. -/
def overtaking : List TypingEvent := [.input [0x61], .input [0x62]] ++ runs 1 ++ [.accept 0, .read]

/-- A check of the condition that does for short chunks. -/
def inTurnCheck (s : Typing) : TypingEvent → Bool
  | .input data => decide (chunks s.carriers = []) && decide (data.length ≤ 1)
  | .run _ _ => s.link.channel.sealer.all fun now => decide (now.counter ≤ maxSafeInteger)
  | _ => true

lemma oneAtATime_of_check (s : Typing) (e : TypingEvent) (h : inTurnCheck s e = true) : oneAtATime session s e := by
  cases e with
  | input data =>
    rw [inTurnCheck, Bool.and_eq_true, decide_eq_true_eq, decide_eq_true_eq] at h
    refine ⟨h.1, fun id => ?_⟩
    have hid : (toBytes id.1).length = 36 := (List.length_map ..).trans id.2.1
    have hdata : (toBytes (base64 data)).length ≤ 4 := by
      rw [toBytes, List.length_map]
      match data, h.2 with
      | [], _ => exact Nat.zero_le _
      | [a], _ => exact le_rfl
    have hmiddle : middle.length ≤ 200 := by decide
    have htext : (encodeRequest ((TerminalRequest.input data).rpc ref id)).length ≤ 7 + (36 + (200 + (4 + 3))) := by
      show (head ++ (toBytes id.1 ++ (middle ++ (toBytes (base64 data) ++ tail)))).length ≤ _
      rw [List.length_append, List.length_append, List.length_append, List.length_append, hid,
        show head.length = 7 from rfl, show tail.length = 3 from rfl]
      omega
    show 1 + (encodeRequest ((TerminalRequest.input data).rpc ref id)).length + 16 ≤ 4 * 1024 * 1024
    omega
  | run i id =>
    intro now hnow
    rw [inTurnCheck, hnow] at h
    exact of_decide_eq_true h
  | resize cols rows => trivial
  | teardown => trivial
  | receive chunk => trivial
  | close => trivial
  | accept i => trivial
  | refuse i => trivial
  | read => trivial
  | hangUp => trivial

end Keys

end Pherry.Ios
