import Pherry.Cli.KnownHosts

/-!
# Pinning the key of a remote host

`attach --host`, from the first ticket to the channel that it opens, one step for each of its awaits,
while other processes may write the known-hosts file at any time. `pinLaw_of_orderly` says which keys
it pins and when it refuses.
-/

namespace Pherry.Cli

open Lib Protocol

/-! ## The attach -/

/-- A ticket of the control plane, with the host key that comes along; what is no string is `none`. -/
structure Minted where
  ticket : JsString
  cellUrl : Option JsString
  hostPublicKeyB64 : Option JsString

/-- Why an attach goes no further. -/
inductive AttachError
  | requestFailed
  | noRelay
  | badKnownHosts (error : JsString)
  | keyMismatch
  | notInteractive
  | declined
  | badKey
  | failed

/-- Where an attach has got to: what it awaits, or how it has ended. -/
inductive AttachPhase
  | minting
  | lookingUp (minted : Minted)
  | asking (minted : Minted)
  | trusting (key : Bytes) (entry : KnownHost)
  | persisting (key : Bytes) (next : FileContent)
  | minting2 (key : Bytes)
  | dialing (key : Bytes) (ticket : JsString)
  | opened (key : Bytes) (ticket : JsString)
  | refused (error : AttachError)

/-- What an attach is given: the host, the path of the file, the order of `localeCompare`, and
whether a human can be asked. -/
structure AttachOptions where
  host : { s : JsString // s ≠ [] }
  path : JsString
  collation : Collation
  interactive : Bool

/-- An attach and the known-hosts file. Besides, the keys that it was offered, the one that it found
stored, and the one that the human confirmed. -/
structure Attach where
  file : FileContent
  phase : AttachPhase
  offers : List (Option JsString)
  found : Option Bytes
  confirmed : Option Bytes

/-- A response, a step of the attach, an answer of the human, or a write of another process. -/
inductive AttachEvent
  | minted (response : Option Minted)
  | lookedUp
  | answered (line : Option JsString) (now : Timestamp)
  | read
  | persisted
  | dialed
  | failed
  | wrote (content : FileContent)

/-- A capital letter made small. -/
def lowerUnit (u : UInt16) : UInt16 := if 0x41 ≤ u ∧ u ≤ 0x5A then u + 0x20 else u

/-- `confirm`: only an explicit yes is one; a closed input is a no. -/
def confirm : Option JsString → Bool
  | none => false
  | some line =>
    let normalized := (trim line).map lowerUnit
    normalized = js "y" ∨ normalized = js "yes"

/-- `knownHostEntry`, as it is written on first use. -/
def firstUseEntry (hostId : JsString) (key : Bytes) (now : Timestamp) : KnownHost :=
  ⟨hostId, base64 key, js "trusted on first use", now.1⟩

namespace Attach

/-- The attach goes no further. -/
def refuse (s : Attach) (error : AttachError) : Attach := { s with phase := .refused error }

/-- A ticket has come, with the key that it offers. -/
def offered (s : Attach) (minted : Minted) : Attach :=
  { s with offers := s.offers ++ [minted.hostPublicKeyB64] }

/-- `resolveRemotePin`, behind the lookup. -/
def resolve (o : AttachOptions) (s : Attach) (minted : Minted) : Attach :=
  match lookupKnownHost o.host.1 o.path s.file with
  | .error error => s.refuse (.badKnownHosts error)
  | .ok (some known) =>
    if some known.staticPublicKeyB64 ≠ minted.hostPublicKeyB64 then s.refuse .keyMismatch
    else
      match decodeKey known.staticPublicKeyB64 with
      | none => s.refuse .badKey
      | some key => { s with phase := .dialing key minted.ticket, found := some key }
  | .ok none => if o.interactive then { s with phase := .asking minted } else s.refuse .notInteractive

/-- `resolveRemotePin`, behind the question. -/
def decide (o : AttachOptions) (s : Attach) (minted : Minted) (line : Option JsString)
    (now : Timestamp) : Attach :=
  if confirm line then
    match minted.hostPublicKeyB64.bind decodeKey with
    | none => s.refuse .badKey
    | some key =>
      { s with phase := .trusting key (firstUseEntry o.host.1 key now), confirmed := some key }
  else s.refuse .declined

/-- The next step; an event that the attach does not await is none of its own. -/
def react (o : AttachOptions) (s : Attach) : AttachEvent → Attach
  | .wrote content => { s with file := content }
  | .minted response =>
    match s.phase, response with
    | .minting, none => s.refuse .requestFailed
    | .minting, some minted =>
      match minted.cellUrl with
      | none => (s.offered minted).refuse .noRelay
      | some _ => { s.offered minted with phase := .lookingUp minted }
    | .minting2 _, none => s.refuse .requestFailed
    | .minting2 key, some minted =>
      match minted.cellUrl with
      | none => (s.offered minted).refuse .noRelay
      | some _ => { s.offered minted with phase := .dialing key minted.ticket }
    | _, _ => s
  | .lookedUp =>
    match s.phase with
    | .lookingUp minted => s.resolve o minted
    | _ => s
  | .answered line now =>
    match s.phase with
    | .asking minted => s.decide o minted line now
    | _ => s
  | .read =>
    match s.phase with
    | .trusting key entry =>
      match writeKnownHost o.collation o.path entry s.file with
      | .error error => s.refuse (.badKnownHosts error)
      | .ok next => { s with phase := .persisting key next }
    | _ => s
  | .persisted =>
    match s.phase with
    | .persisting key next => { s with file := next, phase := .minting2 key }
    | _ => s
  | .dialed =>
    match s.phase with
    | .dialing key ticket => { s with phase := .opened key ticket }
    | _ => s
  | .failed =>
    match s.phase with
    | .opened _ _ | .refused _ => s
    | _ => s.refuse .failed

end Attach

/-- An attach on a machine with this known-hosts file. -/
def attachMachine (o : AttachOptions) (file : FileContent) : Machine Attach AttachEvent :=
  ⟨⟨file, .minting, [], none, none⟩, Attach.react o⟩

/-! ## What it promises -/

variable (o : AttachOptions) (file : FileContent) (es : List AttachEvent)

/-- The key of a channel was found stored or confirmed; when the channel opens, every key that was
offered is the one that is stored, if one is; a lookup that finds another key than the one offered
refuses; and of the steps of the attach only one behind a yes writes the file, and stores the
confirmed key. -/
structure PinLaw : Prop where
  pinned : ∀ key ticket, ((attachMachine o file).run es).phase = .opened key ticket →
    ((attachMachine o file).run es).found = some key ∨
      ((attachMachine o file).run es).confirmed = some key
  agrees : ∀ pre e post, es = pre ++ e :: post → ∀ key ticket key' ticket',
    ((attachMachine o file).run pre).phase = .dialing key ticket →
    ((attachMachine o file).run (pre ++ [e])).phase = .opened key' ticket' →
    ∀ stored, storedKey o.host.1 o.path ((attachMachine o file).run pre).file = some stored →
      ∀ offer ∈ ((attachMachine o file).run pre).offers, offer = some stored
  refuses : ∀ pre post minted stored, es = pre ++ .lookedUp :: post →
    ((attachMachine o file).run pre).phase = .lookingUp minted →
    storedKey o.host.1 o.path ((attachMachine o file).run pre).file = some stored →
    minted.hostPublicKeyB64 ≠ some stored →
    ((attachMachine o file).run (pre ++ [.lookedUp])).phase = .refused .keyMismatch
  keeps : ∀ pre e post, es = pre ++ e :: post → (∀ content, e ≠ .wrote content) →
    ((attachMachine o file).run (pre ++ [e])).file = ((attachMachine o file).run pre).file ∨
      ∃ key, ((attachMachine o file).run pre).confirmed = some key ∧
        storedKey o.host.1 o.path ((attachMachine o file).run (pre ++ [e])).file = some (base64 key) ∧
        ∀ error, ((attachMachine o file).run (pre ++ [e])).phase ≠ .refused error

/-- The attach has looked the host up and has not opened its channel. -/
def Attach.isPinning (s : Attach) : Bool :=
  match s.phase with
  | .asking _ | .trusting _ _ | .persisting _ _ | .minting2 _ | .dialing _ _ => true
  | _ => false

/-- While the attach is pinning no other process stores a key for the host that was not offered, and
the ticket behind a question offers the key that was confirmed. -/
def isOrderly (s : Attach) : AttachEvent → Prop
  | .wrote content => s.isPinning = true → ∀ stored, storedKey o.host.1 o.path content = some stored →
      ∀ offer ∈ s.offers, offer = some stored
  | .minted (some minted) => ∀ key, s.phase = .minting2 key → minted.hostPublicKeyB64 = some (base64 key)
  | _ => True

/-! ## Every run -/

/-- What holds of an attach in its phase. -/
def Attach.Pinning (o : AttachOptions) (s : Attach) : Prop :=
  (s.isPinning = true → ∀ stored, storedKey o.host.1 o.path s.file = some stored →
    ∀ offer ∈ s.offers, offer = some stored) ∧
  match s.phase with
  | .minting => s.offers = []
  | .lookingUp minted => s.offers = [minted.hostPublicKeyB64]
  | .asking minted => s.offers = [minted.hostPublicKeyB64]
  | .trusting key entry => s.offers = [some (base64 key)] ∧ s.confirmed = some key ∧
      entry.WellFormed ∧ entry.hostId = o.host.1 ∧ entry.staticPublicKeyB64 = base64 key
  | .persisting key next => s.offers = [some (base64 key)] ∧ s.confirmed = some key ∧
      storedKey o.host.1 o.path next = some (base64 key)
  | .minting2 key => s.offers = [some (base64 key)] ∧ s.confirmed = some key
  | .dialing key _ => s.found = some key ∨ s.confirmed = some key
  | .opened key _ => s.found = some key ∨ s.confirmed = some key
  | .refused _ => True

variable {o} {file} {es} {s : Attach}

lemma firstUse_ne_nil : js "trusted on first use" ≠ [] := by decide

lemma base64_ne_nil_of_decodeKey {text : JsString} {key : Bytes} (h : decodeKey text = some key) :
    base64 key ≠ [] := by
  rw [base64_of_decodeKey h]
  rintro rfl
  cases h

lemma storedKey_eq_some {hostId path stored : JsString} {content : FileContent} :
    storedKey hostId path content = some stored ↔
      ∃ known, lookupKnownHost hostId path content = .ok (some known) ∧
        known.staticPublicKeyB64 = stored := by
  rw [storedKey]
  constructor
  · intro h
    split at h
    · next known hlookup => exact ⟨known, hlookup, Option.some.inj h⟩
    · cases h
  · rintro ⟨known, hlookup, rfl⟩
    rw [hlookup]

namespace Attach

lemma pinning_refuse (error : AttachError) : Pinning o (s.refuse error) :=
  ⟨fun hpinning => (by cases hpinning), trivial⟩

/-- Behind the lookup: the key that is stored is the one that was offered, or none is. -/
lemma pinning_resolve {minted : Minted} (h : s.offers = [minted.hostPublicKeyB64]) :
    Pinning o (s.resolve o minted) := by
  rw [resolve]
  split
  · exact pinning_refuse _
  · next known hlookup =>
    split
    · exact pinning_refuse _
    · next hsame =>
      split
      · exact pinning_refuse _
      · next key hkey =>
        refine ⟨fun _ stored hstored offer hoffer => ?_, Or.inl rfl⟩
        have hstored' : storedKey o.host.1 o.path s.file = some stored := hstored
        obtain ⟨known', hlookup', rfl⟩ := storedKey_eq_some.1 hstored'
        rw [hlookup] at hlookup'
        cases hlookup'
        have hoffer' : offer ∈ s.offers := hoffer
        rw [h, List.mem_singleton] at hoffer'
        rw [hoffer', not_not.1 hsame]
  · next hlookup =>
    split
    · refine ⟨fun _ stored hstored => ?_, h⟩
      have hstored' : storedKey o.host.1 o.path s.file = some stored := hstored
      obtain ⟨known, hlookup', -⟩ := storedKey_eq_some.1 hstored'
      rw [hlookup] at hlookup'
      cases hlookup'
    · exact pinning_refuse _

lemma pinning_decide {minted : Minted} {line : Option JsString} {now : Timestamp}
    (h : s.offers = [minted.hostPublicKeyB64])
    (hstored : ∀ stored, storedKey o.host.1 o.path s.file = some stored →
      ∀ offer ∈ s.offers, offer = some stored) : Pinning o (s.decide o minted line now) := by
  rw [decide]
  split
  · split
    · exact pinning_refuse _
    · next key hkey =>
      obtain ⟨text, htext, hdecode⟩ := Option.bind_eq_some_iff.1 hkey
      have hoffers : s.offers = [some (base64 key)] := by
        rw [h, htext, base64_of_decodeKey hdecode]
      refine ⟨fun _ => hstored, hoffers, rfl, ?_, rfl, rfl⟩
      exact ⟨o.host.2, base64_ne_nil_of_decodeKey hdecode, firstUse_ne_nil, now.2⟩
  · exact pinning_refuse _

lemma pinning_react {e : AttachEvent} (hc : isOrderly o s e) (h : Pinning o s) :
    Pinning o (s.react o e) := by
  obtain ⟨hagrees, hphase⟩ := h
  cases e with
  | wrote content =>
    refine ⟨fun hpinning => hc hpinning, ?_⟩
    exact hphase
  | minted response =>
    unfold react
    dsimp only
    split
    · exact pinning_refuse _
    · next minted hminting =>
      rw [hminting] at hphase
      split
      · exact pinning_refuse _
      · refine ⟨fun hpinning => (by cases hpinning), ?_⟩
        show s.offers ++ [minted.hostPublicKeyB64] = [minted.hostPublicKeyB64]
        rw [hphase, List.nil_append]
    · exact pinning_refuse _
    · next key minted hminting =>
      have hpinning : s.isPinning = true := by rw [isPinning, hminting]
      have hkey := hc key hminting
      rw [hminting] at hphase
      split
      · exact pinning_refuse _
      · refine ⟨fun _ stored hstored offer hoffer => ?_, Or.inr hphase.2⟩
        have hold := hagrees hpinning stored hstored
        rcases List.mem_append.1 hoffer with hoffer | hoffer
        · exact hold offer hoffer
        · -- the new offer is the confirmed key again
          rw [List.mem_singleton.1 hoffer, hkey]
          exact hold _ (by rw [hphase.1]; exact List.mem_singleton_self _)
    · exact ⟨hagrees, hphase⟩
  | lookedUp =>
    unfold react
    dsimp only
    split
    · next minted hlooking =>
      rw [hlooking] at hphase
      exact pinning_resolve hphase
    · exact ⟨hagrees, hphase⟩
  | answered line now =>
    unfold react
    dsimp only
    split
    · next minted hasking =>
      have hpinning : s.isPinning = true := by rw [isPinning, hasking]
      rw [hasking] at hphase
      exact pinning_decide hphase (hagrees hpinning)
    · exact ⟨hagrees, hphase⟩
  | read =>
    unfold react
    dsimp only
    split
    · next key entry htrusting =>
      have hpinning : s.isPinning = true := by rw [isPinning, htrusting]
      rw [htrusting] at hphase
      obtain ⟨hoffers, hconfirmed, hformed, hhost, hentry⟩ := hphase
      split
      · exact pinning_refuse _
      · next next hwrite =>
        have hstored := storedKey_writeKnownHost hformed hwrite
        rw [hhost, hentry] at hstored
        exact ⟨fun _ => hagrees hpinning, hoffers, hconfirmed, hstored⟩
    · exact ⟨hagrees, hphase⟩
  | persisted =>
    unfold react
    dsimp only
    split
    · next key next hpersisting =>
      rw [hpersisting] at hphase
      obtain ⟨hoffers, hconfirmed, hstored⟩ := hphase
      refine ⟨fun _ stored hnext offer hoffer => ?_, hoffers, hconfirmed⟩
      have hnext' : storedKey o.host.1 o.path next = some stored := hnext
      have hoffer' : offer ∈ s.offers := hoffer
      rw [hstored] at hnext'
      rw [hoffers, List.mem_singleton] at hoffer'
      rw [hoffer', hnext']
    · exact ⟨hagrees, hphase⟩
  | dialed =>
    unfold react
    dsimp only
    split
    · next key ticket hdialing =>
      rw [hdialing] at hphase
      exact ⟨fun hpinning => (by cases hpinning), hphase⟩
    · exact ⟨hagrees, hphase⟩
  | failed =>
    unfold react
    dsimp only
    split
    · exact ⟨hagrees, hphase⟩
    · exact ⟨hagrees, hphase⟩
    · exact pinning_refuse _

lemma file_react {e : AttachEvent} (he : ∀ content, e ≠ .wrote content) :
    (s.react o e).file = s.file ∨
      ∃ key next, e = .persisted ∧ s.phase = .persisting key next ∧
        s.react o e = { s with file := next, phase := .minting2 key } := by
  cases e with
  | wrote content => exact absurd rfl (he content)
  | minted response =>
    unfold react
    dsimp only
    split
    · exact Or.inl rfl
    · split <;> exact Or.inl rfl
    · exact Or.inl rfl
    · split <;> exact Or.inl rfl
    · exact Or.inl rfl
  | lookedUp =>
    unfold react
    dsimp only
    split
    · rw [resolve]
      split
      · exact Or.inl rfl
      · split
        · exact Or.inl rfl
        · split <;> exact Or.inl rfl
      · split <;> exact Or.inl rfl
    · exact Or.inl rfl
  | answered line now =>
    unfold react
    dsimp only
    split
    · rw [decide]
      split
      · split <;> exact Or.inl rfl
      · exact Or.inl rfl
    · exact Or.inl rfl
  | read =>
    unfold react
    dsimp only
    split
    · split <;> exact Or.inl rfl
    · exact Or.inl rfl
  | persisted =>
    by_cases hphase : ∃ key next, s.phase = .persisting key next
    · obtain ⟨key, next, hphase⟩ := hphase
      refine Or.inr ⟨key, next, rfl, hphase, ?_⟩
      simp only [react, hphase]
    · unfold react
      dsimp only
      split
      · next key next hpersisting => exact absurd ⟨key, next, hpersisting⟩ hphase
      · exact Or.inl rfl
  | dialed =>
    unfold react
    dsimp only
    split <;> exact Or.inl rfl
  | failed =>
    unfold react
    dsimp only
    split <;> exact Or.inl rfl

end Attach

lemma pinning_run (hes : (attachMachine o file).Meets (isOrderly o) es) :
    Attach.Pinning o ((attachMachine o file).run es) := by
  refine (attachMachine o file).invariant_of_meets (p := Attach.Pinning o) ?_ ?_ hes
  · exact ⟨fun hpinning => (by cases hpinning), rfl⟩
  · intro s e hc h
    exact Attach.pinning_react hc h

/-- **Pinning.** While no other process stores a key for the host that was not offered, and the ticket
behind a question offers the confirmed key again, an attach keeps to the stored and the confirmed
keys. -/
theorem pinLaw_of_orderly (o : AttachOptions) (file : FileContent) (es : List AttachEvent)
    (hes : (attachMachine o file).Meets (isOrderly o) es) : PinLaw o file es := by
  constructor
  · intro key ticket hopened
    have h := (pinning_run hes).2
    rw [hopened] at h
    exact h
  · rintro pre e post rfl key ticket key' ticket' hdialing - stored hstored
    have h := (pinning_run hes.prefix).1
    exact h (by rw [Attach.isPinning, hdialing]) stored hstored
  · rintro pre post minted stored rfl hlooking hstored hne
    obtain ⟨known, hlookup, rfl⟩ := storedKey_eq_some.1 hstored
    rw [Machine.run_snoc]
    show (Attach.react o _ _).phase = _
    simp only [Attach.react, hlooking, Attach.resolve, hlookup]
    rw [if_pos (fun heq => hne heq.symm)]
    rfl
  · rintro pre e post rfl he
    have h := (pinning_run hes.prefix).2
    rw [Machine.run_snoc]
    rcases Attach.file_react (o := o) (s := (attachMachine o file).run pre) he with
      hsame | ⟨key, next, rfl, hpersisting, hreact⟩
    · exact Or.inl hsame
    · rw [hpersisting] at h
      obtain ⟨-, hconfirmed, hstored⟩ := h
      refine Or.inr ⟨key, hconfirmed, ?_, fun error herror => ?_⟩
      · show storedKey o.host.1 o.path (Attach.react o _ _).file = _
        rw [hreact]
        exact hstored
      · have hphase : (Attach.react o ((attachMachine o file).run pre) .persisted).phase =
            .refused error := herror
        rw [hreact] at hphase
        cases hphase

/-! ## First use -/

/-- An attach from a terminal. -/
def interactive : AttachOptions :=
  { host := ⟨js "host_1", by decide⟩, path := [], collation := codeUnitOrder, interactive := true }

/-- A ticket with the key of these bytes. -/
def mintedWith (key : Bytes) : Minted :=
  { ticket := js "rt_1", cellUrl := some (js "wss://cell"), hostPublicKeyB64 := some (base64 key) }

/-- A host that is attached to for the first time, up to the second ticket. -/
def firstUse : List AttachEvent :=
  [.minted (some (mintedWith (List.replicate 32 1))), .lookedUp,
    .answered (some (js "y")) ⟨js "2026-01-01T00:00:00.000Z", by decide⟩, .read, .persisted]

lemma meets_firstUse :
    (attachMachine interactive .missing).Meets (isOrderly interactive) firstUse := by
  show (attachMachine interactive .missing).Meets (isOrderly interactive)
    ([] ++ [_] ++ [_] ++ [_] ++ [_] ++ [_])
  simp only [Machine.meets_snoc]
  refine ⟨⟨⟨⟨⟨Machine.meets_nil _ _, ?_⟩, trivial⟩, trivial⟩, trivial⟩, trivial⟩
  intro key hminting
  cases hminting

lemma offers_firstUse : ((attachMachine interactive .missing).run firstUse).offers =
    [some (base64 (List.replicate 32 1))] := by
  decide +kernel

/-- A first use whose second ticket offers the confirmed key again. -/
theorem pinLaw_firstUse : PinLaw interactive .missing
    (firstUse ++ [.minted (some (mintedWith (List.replicate 32 1)))] ++ [.dialed]) := by
  refine pinLaw_of_orderly _ _ _ ?_
  rw [Machine.meets_snoc, Machine.meets_snoc]
  refine ⟨⟨meets_firstUse, fun key hminting => ?_⟩, trivial⟩
  have hphase := (pinning_run meets_firstUse).2
  rw [hminting] at hphase
  have hoffers := offers_firstUse.symm.trans hphase.1
  exact List.singleton_inj.1 hoffers

/-- The channel is about to open. -/
def Attach.isDialing (s : Attach) : Bool :=
  match s.phase with
  | .dialing _ _ => true
  | _ => false

/-- A first use whose second ticket offers another key than the confirmed one. -/
theorem not_pinLaw_secondTicket : ¬ ∀ o file es, PinLaw o file es := by
  intro hall
  have hdialing : ((attachMachine interactive .missing).run
      (firstUse ++ [.minted (some (mintedWith (List.replicate 32 2)))])).isDialing = true := by
    decide +kernel
  have hstored : storedKey interactive.host.1 interactive.path ((attachMachine interactive .missing).run
      (firstUse ++ [.minted (some (mintedWith (List.replicate 32 2)))])).file =
      some (base64 (List.replicate 32 1)) := by
    decide +kernel
  have hoffers : some (base64 (List.replicate 32 2)) ∈ ((attachMachine interactive .missing).run
      (firstUse ++ [.minted (some (mintedWith (List.replicate 32 2)))])).offers := by
    decide +kernel
  rw [Attach.isDialing] at hdialing
  split at hdialing
  · next key ticket hphase =>
    have hopened : ((attachMachine interactive .missing).run
        (firstUse ++ [.minted (some (mintedWith (List.replicate 32 2)))] ++ [.dialed])).phase =
        .opened key ticket := by
      rw [Machine.run_snoc]
      show (Attach.react interactive _ .dialed).phase = _
      simp only [Attach.react, hphase]
    have hsame := (hall interactive .missing _).agrees _ .dialed [] rfl key ticket key ticket hphase
      hopened _ hstored _ hoffers
    exact absurd hsame (by decide +kernel)
  · cases hdialing

end Pherry.Cli
