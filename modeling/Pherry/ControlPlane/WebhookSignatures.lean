import Pherry.ControlPlane.Webhooks
import Pherry.Protocol.DeviceAuth
import Pherry.Protocol.JsonScan
import Pherry.Protocol.Number
import Pherry.TextFile

/-!
# Signatures of webhook deliveries

The signed content joins the id, the timestamp and the raw body with dots, and the raw body may hold dots of its
own. What keeps the split is JSON: behind a dot of an accepted text no object can be read.
-/

namespace Pherry.ControlPlane

open Lib Protocol

/-! ## `verifyClerkWebhook` -/

/-- `WEBHOOK_TOLERANCE_MS`. -/
def webhookToleranceMs : ℤ := 5 * 60 * 1000

/-- The headers of a delivery that are looked up. -/
structure SvixHeaders where
  id : Option JsString
  timestamp : Option JsString
  signature : Option JsString

/-- A text decoded from UTF-8, which has no lone surrogate. -/
abbrev DecodedText := { text : JsString // isWellFormed text = true }

/-- What the clock may show: a time value of a `Date`, in whole milliseconds. -/
abbrev TimeValue := { ms : ℤ // |ms| ≤ 8640000000000000 }

/-- `constantTimeStringEqual`; `timingSafeEqual` compares the bytes. -/
def constantTimeStringEqual (a b : JsString) : Bool :=
  if (utf8 a).length ≠ (utf8 b).length then false else decide (utf8 a = utf8 b)

/-- `Math.abs(now() - tsSeconds * 1000) > WEBHOOK_TOLERANCE_MS` is false. An overflow is above the tolerance. -/
def withinTolerance (now : TimeValue) (tsSeconds : ℚ) : Bool :=
  match toDouble (tsSeconds * 1000) with
  | none => false
  | some stamped =>
    match toDouble (now.1 - stamped) with
    | none => false
    | some skew => decide (|skew| ≤ (webhookToleranceMs : ℚ))

/-- The key of a secret. -/
def signingKey (secret : JsString) : Bytes :=
  bufferFromBase64 (if startsWith secret (js "whsec_") then secret.drop 6 else secret)

/-- The signed content. -/
def signedContent (id timestamp rawBody : JsString) : JsString :=
  id ++ 0x2E :: (timestamp ++ 0x2E :: rawBody)

/-- Whether an entry of the signature header carries the expected signature. -/
def entryMatches (expected part : JsString) : Bool :=
  match part.splitOn 0x2C with
  | version :: sig :: _ => version == js "v1" && constantTimeStringEqual sig expected
  | _ => false

variable (hmac : Bytes → Bytes → Bytes)

/-- `verifyClerkWebhook`. -/
def verifyClerkWebhook (headers : SvixHeaders) (rawBody secret : JsString) (now : TimeValue) : Bool :=
  match headers.id, headers.timestamp, headers.signature with
  | some id, some timestamp, some signatureHeader =>
    if secret = [] then false
    else
      match jsNumber timestamp with
      | none => false
      | some tsSeconds =>
        if !withinTolerance now tsSeconds then false
        else
          let key := signingKey secret
          if key.length = 0 then false
          else
            let expected := base64 (hmac key (utf8 (signedContent id timestamp rawBody)))
            (signatureHeader.splitOn 0x20).any (entryMatches expected)
  | _, _, _ => false

variable (numberText : JsString → JsString)

/-- The event `POST /v1/webhooks/clerk` hands to `handleEvent`, with `JSON.parse` behind the verification. -/
def handledEvent (headers : SvixHeaders) (rawBody : DecodedText) (secret : Option JsString)
    (now : TimeValue) : Option (JsString × Json) :=
  secret.bind fun secret =>
    if verifyClerkWebhook hmac headers rawBody.1 secret now then
      (parseJson numberText rawBody.1).bind clerkEvent
    else none

/-! ## What the identity provider signed -/

/-- A delivery the identity provider signed. -/
structure SignedDelivery where
  id : JsString
  timestamp : JsString
  body : JsString
  /-- The second of the timestamp. -/
  seconds : ℕ
  id_formed : isWellFormed id = true
  id_dot : 0x2E ∉ id
  timestamp_decimal : natural timestamp = some seconds
  body_formed : isWellFormed body = true
  body_object : ∃ fields, parseJson numberText body = some (.obj fields)

variable {numberText}

/-- The bytes a delivery was signed by. -/
def SignedDelivery.message (d : SignedDelivery numberText) : Bytes := utf8 (signedContent d.id d.timestamp d.body)

/-- The signatures that a header lists. -/
def listedSignatures (signatureHeader : JsString) : List JsString :=
  (signatureHeader.splitOn 0x20).filterMap fun part => (part.splitOn 0x2C)[1]?

/-- No listed signature reads as the one of a message that was not signed. -/
def Unforged (signed : Set (SignedDelivery numberText)) (secret signatureHeader : JsString) : Prop :=
  ∀ sig ∈ listedSignatures signatureHeader, ∀ message : Bytes,
    utf8 sig = utf8 (base64 (hmac (signingKey secret) message)) → ∃ d ∈ signed, message = d.message

/-! ## The clock -/

lemma near_of_withinTolerance {now : TimeValue} {n : ℕ} {tsSeconds : ℚ} (hts : toDouble n = some tsSeconds)
    (h : withinTolerance now tsSeconds = true) : |now.1 - 1000 * (n : ℤ)| ≤ webhookToleranceMs := by
  obtain ⟨now, hnow⟩ := now
  rw [abs_le] at hnow
  unfold withinTolerance at h
  split at h
  · cases h
  · next stamped hstamped =>
    split at h
    · cases h
    · next skew hskew =>
      rw [decide_eq_true_eq] at h
      have htolerance : (webhookToleranceMs : ℚ) = 300000 := by norm_num [webhookToleranceMs]
      rw [htolerance] at h
      rcases Nat.lt_or_ge 9007199254740 n with hlarge | hsmall
      · -- above every clock
        exfalso
        have hseconds : (9007199254741 : ℚ) ≤ tsSeconds := by
          have hexact := toDouble_intCast (n := 9007199254741) (by norm_num)
          push_cast at hexact
          exact toDouble_mono (by exact_mod_cast hlarge) hexact hts
        have hproduct : (2 ^ 53 : ℚ) ≤ stamped := by
          have hexact := toDouble_intCast (n := 2 ^ 53) (by norm_num)
          push_cast at hexact
          exact toDouble_mono (by linarith) hexact hstamped
        have hskewed : skew ≤ -367199254740992 := by
          have hexact := toDouble_intCast (n := -367199254740992) (by norm_num)
          push_cast at hexact
          have hclock : (now : ℚ) ≤ 8640000000000000 := by exact_mod_cast hnow.2
          exact toDouble_mono (by linarith) hskew hexact
        rw [abs_le] at h
        linarith
      · have hseconds : tsSeconds = n := by
          have hexact := toDouble_intCast (n := n) (by rw [abs_of_nonneg (by omega)]; omega)
          push_cast at hexact
          exact Option.some_inj.1 (hts.symm.trans hexact)
        have hproduct : stamped = ((1000 * n : ℤ) : ℚ) := by
          have hexact := toDouble_intCast (n := 1000 * n) (by rw [abs_of_nonneg (by omega)]; omega)
          rw [hseconds] at hstamped
          push_cast at hexact hstamped ⊢
          rw [mul_comm, hexact, Option.some_inj] at hstamped
          exact hstamped.symm
        have hexact : skew = ((now - 1000 * n : ℤ) : ℚ) := by
          rw [hproduct, ← Int.cast_sub] at hskew
          exact eq_of_toDouble_abs_lt hskew (by linarith)
        rw [hexact] at h
        show |now - 1000 * (n : ℤ)| ≤ 300000
        exact_mod_cast h

/-! ## The content -/

lemma utf8_append_dot (s t : JsString) : utf8 (s ++ 0x2E :: t) = utf8 s ++ 0x2E :: utf8 t := by
  have hfirst : ∀ v ∈ (0x2E :: t).head?, isLowSurrogate v = false := by
    intro v hv
    rw [List.head?_cons, Option.mem_some_iff] at hv
    rw [← hv]
    decide
  have hdot : utf8Unit 0x2E = [0x2E] := by decide
  rw [utf8_append s hfirst, utf8_cons (by decide), hdot]
  rfl

lemma isWellFormed_append_dot (s t : JsString) :
    isWellFormed (s ++ 0x2E :: t) = (isWellFormed s && isWellFormed t) := by
  have hfirst : ∀ v ∈ (0x2E :: t).head?, isLowSurrogate v = false := by
    intro v hv
    rw [List.head?_cons, Option.mem_some_iff] at hv
    rw [← hv]
    decide
  have hdot : isLowSurrogate 0x2E = false := by decide
  rw [isWellFormed_append s hfirst, isWellFormed_cons (by decide), hdot, Bool.not_false, Bool.true_and]

lemma signedContent_of_utf8 {id timestamp body id' timestamp' body' : JsString}
    (hbody : isWellFormed body = true) (hid' : isWellFormed id' = true)
    (htimestamp' : isWellFormed timestamp' = true) (hbody' : isWellFormed body' = true)
    (h : utf8 (signedContent id timestamp body) = utf8 (signedContent id' timestamp' body')) :
    signedContent (toWellFormed id) (toWellFormed timestamp) body = signedContent id' timestamp' body' := by
  apply utf8_inj
  · simp [signedContent, isWellFormed_append_dot, isWellFormed_toWellFormed, hbody]
  · simp [signedContent, isWellFormed_append_dot, hid', htimestamp', hbody']
  · simpa [signedContent, utf8_append_dot, utf8_toWellFormed] using h

/-- Two splits at a dot, the right one at the first dot: they are the same, or the left one is further on. -/
lemma split_at_dot {s t s' t' : JsString} (hs' : 0x2E ∉ s') (h : s ++ 0x2E :: t = s' ++ 0x2E :: t') :
    s = s' ∧ t = t' ∨ ∃ more, s = s' ++ 0x2E :: more ∧ t' = more ++ 0x2E :: t := by
  rcases List.append_eq_append_iff.1 h with ⟨more, rfl, hmore⟩ | ⟨more, rfl, hmore⟩
  · cases more with
    | nil => exact .inl ⟨(List.append_nil s).symm, (List.cons.inj hmore).2⟩
    | cons u more =>
      rw [List.cons_append, List.cons.injEq] at hmore
      rw [← hmore.1] at hs'
      exact absurd (List.mem_append_right s List.mem_cons_self) hs'
  · cases more with
    | nil => exact .inl ⟨List.append_nil s', (List.cons.inj hmore).2.symm⟩
    | cons u more =>
      rw [List.cons_append, List.cons.injEq] at hmore
      rw [← hmore.1]
      exact .inr ⟨more, rfl, hmore.2⟩

lemma isWellFormed_natural {text : JsString} {n : ℕ} (h : natural text = some n) : isWellFormed text = true :=
  (stands_digits (natural_eq_some h).2).1

lemma not_dot_of_natural {timestamp : JsString} {n : ℕ} (h : natural timestamp = some n) :
    0x2E ∉ timestamp := by
  intro hmem
  have hdigit := List.all_eq_true.1 (natural_eq_some h).2 _ hmem
  revert hdigit
  decide

lemma SignedDelivery.split (d : SignedDelivery numberText) {id timestamp body : JsString}
    {fields : List (JsString × Json)} (hbody : parseJson numberText body = some (.obj fields))
    (h : signedContent id timestamp body = signedContent d.id d.timestamp d.body) :
    id = d.id ∧ timestamp = d.timestamp ∧ body = d.body := by
  obtain ⟨signedFields, hsigned⟩ := d.body_object
  -- the submitted body cannot begin inside the signed one
  have hinside : ∀ front, d.body ≠ front ++ 0x2E :: body := by
    intro front heq
    rw [heq] at hsigned
    exact not_object_behind_dot hsigned fields hbody
  have htimestamp := not_dot_of_natural d.timestamp_decimal
  rcases split_at_dot d.id_dot h with ⟨hid, hrest⟩ | ⟨more, -, hrest⟩
  · rcases split_at_dot htimestamp hrest with ⟨hstamp, heq⟩ | ⟨more, -, heq⟩
    · exact ⟨hid, hstamp, heq⟩
    · exact absurd heq (hinside more)
  · rcases split_at_dot htimestamp hrest.symm with ⟨-, heq⟩ | ⟨front, -, heq⟩
    · exact absurd heq.symm (hinside timestamp)
    · rw [← List.cons_append, ← List.append_assoc] at heq
      exact absurd heq (hinside (front ++ 0x2E :: timestamp))

/-! ## Only signed events are handled -/

lemma listed_of_entryMatches {expected signatureHeader part : JsString} (hpart : part ∈ signatureHeader.splitOn 0x20)
    (h : entryMatches expected part = true) : ∃ sig ∈ listedSignatures signatureHeader, utf8 sig = utf8 expected := by
  unfold entryMatches at h
  split at h
  · next version sig more hsplit =>
    rw [Bool.and_eq_true] at h
    have hequal := h.2
    unfold constantTimeStringEqual at hequal
    split at hequal
    · cases hequal
    · refine ⟨sig, List.mem_filterMap.2 ⟨part, hpart, ?_⟩, of_decide_eq_true hequal⟩
      rw [hsplit]
      rfl
  · cases h

lemma verified {headers : SvixHeaders} {rawBody secret : JsString} {now : TimeValue}
    (h : verifyClerkWebhook hmac headers rawBody secret now = true) :
    ∃ id timestamp signatureHeader tsSeconds, headers = ⟨some id, some timestamp, some signatureHeader⟩ ∧
      jsNumber timestamp = some tsSeconds ∧ withinTolerance now tsSeconds = true ∧
      ∃ sig ∈ listedSignatures signatureHeader,
        utf8 sig = utf8 (base64 (hmac (signingKey secret) (utf8 (signedContent id timestamp rawBody)))) := by
  obtain ⟨id, timestamp, signatureHeader⟩ := headers
  unfold verifyClerkWebhook at h
  split at h
  · next id timestamp signatureHeader hid hstamp hheader =>
    cases hid
    cases hstamp
    cases hheader
    split at h
    · cases h
    · split at h
      · cases h
      · next tsSeconds hnumber =>
        split at h
        · cases h
        · next hnear =>
          dsimp only at h
          split at h
          · cases h
          · obtain ⟨part, hpart, hmatch⟩ := List.any_eq_true.1 h
            rw [Bool.not_eq_true, Bool.not_eq_false'] at hnear
            exact ⟨_, _, _, tsSeconds, rfl, hnumber, hnear, listed_of_entryMatches hpart hmatch⟩
  · cases h

lemma object_of_clerkEvent {body : Json} {event : JsString × Json} (h : clerkEvent body = some event) :
    ∃ fields, body = .obj fields := by
  cases body with
  | obj fields => exact ⟨fields, rfl⟩
  | _ => cases h

/-- What is handled was signed as it is, and near the clock. -/
theorem handled_was_signed (signed : Set (SignedDelivery numberText)) (headers : SvixHeaders)
    (rawBody : DecodedText) (secret : Option JsString) (now : TimeValue)
    (hideal : ∀ s ∈ secret, ∀ header ∈ headers.signature, Unforged hmac signed s header)
    {event : JsString × Json} (h : handledEvent hmac numberText headers rawBody secret now = some event) :
    ∃ d ∈ signed, rawBody.1 = d.body ∧ headers.timestamp = some d.timestamp ∧
      headers.id.map toWellFormed = some d.id ∧ |now.1 - 1000 * (d.seconds : ℤ)| ≤ webhookToleranceMs := by
  obtain ⟨secret, rfl, hevent⟩ := Option.bind_eq_some_iff.1 h
  split at hevent
  · next haccepted =>
    obtain ⟨body, hparsed, hclerk⟩ := Option.bind_eq_some_iff.1 hevent
    obtain ⟨fields, rfl⟩ := object_of_clerkEvent hclerk
    obtain ⟨id, timestamp, signatureHeader, tsSeconds, rfl, hnumber, hnear, sig, hsig, hequal⟩ :=
      verified hmac haccepted
    obtain ⟨d, hd, hmessage⟩ := hideal secret rfl signatureHeader rfl sig hsig _ hequal
    have hstampFormed : isWellFormed d.timestamp = true :=
      isWellFormed_natural d.timestamp_decimal
    have hcontent := signedContent_of_utf8 rawBody.2 d.id_formed hstampFormed d.body_formed hmessage
    obtain ⟨hid, hstamp, hbody⟩ := d.split hparsed hcontent
    -- digits hide no lone surrogate
    have htimestamp : timestamp = d.timestamp := by
      rw [← hstamp, eq_of_toWellFormed]
      rw [hstamp]
      intro hmem
      have hdigit := List.all_eq_true.1 (natural_eq_some d.timestamp_decimal).2 _ hmem
      revert hdigit
      decide
    rw [htimestamp, jsNumber_natural d.timestamp_decimal] at hnumber
    refine ⟨d, hd, hbody, by rw [htimestamp], ?_, near_of_withinTolerance hnumber hnear⟩
    rw [Option.map_some, hid]
  · cases hevent

lemma withinTolerance_of {now : TimeValue} {tsSeconds stamped skew : ℚ}
    (hstamped : toDouble (tsSeconds * 1000) = some stamped) (hskew : toDouble (now.1 - stamped) = some skew)
    (h : |skew| ≤ (webhookToleranceMs : ℚ)) : withinTolerance now tsSeconds = true := by
  simp [withinTolerance, hstamped, hskew, h]

lemma accepted {id timestamp signatureHeader rawBody secret : JsString} {now : TimeValue} {tsSeconds : ℚ}
    (hsecret : secret ≠ []) (hkey : (signingKey secret).length ≠ 0) (hnumber : jsNumber timestamp = some tsSeconds)
    (hnear : withinTolerance now tsSeconds = true)
    (hentry : (signatureHeader.splitOn 0x20).any
      (entryMatches (base64 (hmac (signingKey secret) (utf8 (signedContent id timestamp rawBody))))) = true) :
    verifyClerkWebhook hmac ⟨some id, some timestamp, some signatureHeader⟩ rawBody secret now = true := by
  simp [verifyClerkWebhook, hsecret, hkey, hnumber, hnear, hentry]

/-- The event of `epochDelivery`. -/
def epochEvent : Json := .obj [(js "type", .str []), (js "data", .obj [])]

lemma epochEvent_canonical : epochEvent.canonical id := by
  simp [epochEvent, Json.canonical, canonicalFields]
  decide

/-- A delivery at second zero. -/
def epochDelivery : SignedDelivery id where
  id := []
  timestamp := [0x30]
  body := stringify epochEvent
  seconds := 0
  id_formed := rfl
  id_dot := List.not_mem_nil
  timestamp_decimal := rfl
  body_formed := (stands_stringify epochEvent epochEvent_canonical).1
  body_object := ⟨_, parseJson_stringify epochEvent_canonical⟩

/-- The signature of `epochDelivery` under three zero bytes, as bytes. -/
def epochMac : Bytes :=
  [89, 215, 180, 184, 150, 255, 96, 228, 149, 199, 103, 16, 27, 246, 41, 109, 32, 8, 197, 108, 100, 15, 216, 24,
    243, 0, 178, 143, 25, 12, 198, 141]

theorem handled_was_signed_epoch :
    ∃ d ∈ ({epochDelivery} : Set (SignedDelivery id)), epochDelivery.body = d.body ∧
      some epochDelivery.timestamp = some d.timestamp ∧ (some ([] : JsString)).map toWellFormed = some d.id ∧
      |(0 : ℤ) - 1000 * (d.seconds : ℤ)| ≤ webhookToleranceMs := by
  let hmac : Bytes → Bytes → Bytes := fun _ message => if message = epochDelivery.message then epochMac else []
  let header : JsString := js "v1," ++ base64 epochMac
  have hlisted : listedSignatures header = [base64 epochMac] := by decide
  have hentry : (header.splitOn 0x20).any (entryMatches (base64 epochMac)) = true := by decide
  have hzero : toDouble 0 = some 0 := toDouble_intCast (n := 0) (by norm_num)
  have hnumber : jsNumber epochDelivery.timestamp = some 0 := by
    rw [jsNumber_natural epochDelivery.timestamp_decimal]
    exact hzero
  have hnear : withinTolerance ⟨0, by norm_num⟩ 0 = true := by
    have hskew : toDouble (((0 : ℤ) : ℚ) - 0) = some 0 := by rw [Int.cast_zero, sub_zero, hzero]
    apply withinTolerance_of (by rw [zero_mul, hzero]) hskew
    rw [abs_zero]
    norm_num [webhookToleranceMs]
  have hmac_epoch : ∀ key, hmac key (utf8 (signedContent [] epochDelivery.timestamp epochDelivery.body)) = epochMac :=
    fun _ => if_pos rfl
  have haccepted : verifyClerkWebhook hmac ⟨some [], some epochDelivery.timestamp, some header⟩ epochDelivery.body
      (js "AAAA") ⟨0, by norm_num⟩ = true := by
    apply accepted hmac (by decide) (by decide) hnumber hnear
    rw [hmac_epoch (signingKey (js "AAAA"))]
    exact hentry
  have hideal : ∀ s ∈ some (js "AAAA"), ∀ signatureHeader ∈ some header,
      Unforged hmac ({epochDelivery} : Set (SignedDelivery id)) s signatureHeader := by
    rintro s - signatureHeader hsome sig hsig message hequal
    cases hsome
    refine ⟨epochDelivery, rfl, ?_⟩
    by_contra hother
    rw [hlisted, List.mem_singleton] at hsig
    rw [hsig, show hmac (signingKey s) message = [] from if_neg hother] at hequal
    revert hequal
    decide
  have hevent : handledEvent hmac id ⟨some [], some epochDelivery.timestamp, some header⟩
      ⟨epochDelivery.body, epochDelivery.body_formed⟩ (some (js "AAAA")) ⟨0, by norm_num⟩ =
        some ([], .obj []) := by
    have hparsed : parseJson id epochDelivery.body = some epochEvent := parseJson_stringify epochEvent_canonical
    have hclerk : clerkEvent epochEvent = some ([], .obj []) := by rfl
    rw [handledEvent, Option.bind_some, if_pos haccepted, hparsed, Option.bind_some, hclerk]
  exact handled_was_signed hmac {epochDelivery} _ _ _ _ hideal hevent

end Pherry.ControlPlane
