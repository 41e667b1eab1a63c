import Pherry.Cli.IdentityKey

/-!
# One identity

The identity of a home directory is set once: there is none, one call is about to make it, or it is
settled. The calls of a run keep to it where no two of them find that there is none at once, and where
no crash cuts a write short.
-/

namespace Pherry.Cli

open Lib Protocol

/-! ## The text of a key -/

lemma not_isSpace_base64Digit (n : ℕ) : isSpace (base64Digit n) = false := by
  have hdigit : ∀ m < 64, isSpace (base64Digit m) = false := by decide
  by_cases h : n < 64
  · exact hdigit n h
  · have hlast : base64Digit n = base64Digit 63 := by
      simp only [base64Digit]
      rw [if_neg (by omega), if_neg (by omega), if_neg (by omega), if_neg (by omega)]
      rfl
    rw [hlast]
    exact hdigit 63 (by omega)

lemma not_isSpace_base64 (bytes : Bytes) : ∀ u ∈ base64 bytes, isSpace u = false := by
  have hpad : isSpace 0x3D = false := by decide
  fun_induction base64 bytes with
  | case1 => exact fun u hu => absurd hu List.not_mem_nil
  | case2 a => simp [not_isSpace_base64Digit, hpad]
  | case3 a b => simp [not_isSpace_base64Digit, hpad]
  | case4 a b c rest ih => simpa [not_isSpace_base64Digit] using ih

lemma trim_base64 (bytes : Bytes) : trim (base64 bytes) = base64 bytes :=
  trim_of_not_isSpace (not_isSpace_base64 bytes)

lemma overwrite_of_same {file : Option JsString} {text : JsString}
    (h : file = none ∨ file = some [] ∨ file = some text) : overwrite file text = some text := by
  unfold overwrite
  rcases h with rfl | rfl | rfl <;> simp

/-! ## The invariant -/

namespace LoadStage

/-- Nothing of a call is left. -/
def isIdle : LoadStage → Bool
  | begun => true
  | ended _ => true
  | _ => false

/-- The call found no secret, and has yet to open the file. -/
def isCreating : LoadStage → Bool
  | creating _ => true
  | _ => false

/-- The call has opened the secret file. -/
def isStoring : LoadStage → Bool
  | storing _ => true
  | _ => false

/-- The call has opened the public file. -/
def isRenewing : LoadStage → Bool
  | renewing _ => true
  | _ => false

/-- The call has this key, which is stored. -/
def Carries (key : KeyPair) (stage : LoadStage) : Prop :=
  stage = publishing key ∨ stage = renewing key ∨ stage = returned key

end LoadStage

namespace KeyKind

variable {kind : KeyKind}

/-- The identity of a home directory: there is none and at most one call is about to make it; that
call has opened the file; or it is settled. -/
inductive SetOnce (kind : KeyKind) (s : KeyHome) : Prop
  | unset (hsecret : s.shared.secretFile = none) (hpublic : s.shared.publicFile = none)
      (hstages : ∀ c ∈ s.calls, c.isIdle = true ∨
        ∃ drawn : kind.Secret, c = .creating (kind.pairOf drawn.1))
      (honly : ∀ i j : ℕ, ∀ c d : LoadStage, s.calls[i]? = some c → s.calls[j]? = some d →
        c.isCreating = true → d.isCreating = true → i = j)
  | claimed (i : ℕ) (drawn : kind.Secret) (hsecret : s.shared.secretFile = some [])
      (hpublic : s.shared.publicFile = none)
      (hclaims : s.calls[i]? = some (.storing (kind.pairOf drawn.1)))
      (hothers : ∀ j : ℕ, ∀ c : LoadStage, j ≠ i → s.calls[j]? = some c → c.isIdle = true)
  | settled (drawn : kind.Secret) (hsecret : s.shared.secretFile = some (base64 drawn.1))
      (hstages : ∀ c ∈ s.calls, c.isIdle = true ∨ c.Carries (kind.pairOf drawn.1))
      (hpublic : s.shared.publicFile = none ∨ s.shared.publicFile = some [] ∨
        s.shared.publicFile = some (base64 (kind.publicKeyOf drawn.1)))
      (hpublished : kind.published = true → .returned (kind.pairOf drawn.1) ∈ s.calls →
        s.shared.publicFile = some (base64 (kind.publicKeyOf drawn.1)) ∨
          .renewing (kind.pairOf drawn.1) ∈ s.calls)

/-- No call finds that there is no secret while another is about to make one, no crash cuts a write
short, and the public key is not read while a call writes it. -/
def heeds (kind : KeyKind) (s : KeyHome) : KeyHomeEvent kind → Bool
  | .read _ _ => s.shared.secretFile.isSome || s.calls.all fun c => !c.isCreating
  | .crash i n => s.calls[i]?.all fun
      | .storing key => decide ((base64 key.secretKey).length ≤ n)
      | .renewing key => decide ((base64 key.publicKey).length ≤ n)
      | _ => true
  | .pin => s.calls.all fun c => !c.isRenewing
  | _ => true

lemma setOnce_init : SetOnce kind (keyHomeMachine kind).init := by
  refine .unset rfl rfl (fun c hc => absurd hc List.not_mem_nil) fun i j c d hc _ _ _ => ?_
  rw [keyHomeMachine, List.getElem?_nil] at hc
  cases hc

lemma decode_stored (drawn : kind.Secret) : kind.decode (trim (base64 drawn.1)) = .ok drawn.1 := by
  rw [trim_base64, kind.decode_eq_ok]
  exact ⟨rfl, drawn.2⟩

lemma decode_opened (kind : KeyKind) : ∃ message, kind.decode (trim []) = .error message := by
  cases h : kind.decode (trim []) with
  | error message => exact ⟨message, rfl⟩
  | ok key =>
    obtain ⟨htext, hlength, -⟩ := (kind.decode_eq_ok _ _).1 h
    cases key with
    | nil => cases hlength
    | cons a rest =>
      have hsome : base64 (a :: rest) ≠ [] := by
        unfold base64
        split <;> simp_all
      exact absurd htext hsome

lemma carries_settled (kind : KeyKind) (key : KeyPair) : (kind.settled key).Carries key := by
  unfold KeyKind.settled
  split
  · exact .inl rfl
  · exact .inr (.inr rfl)

lemma settled_ne_returned (h : kind.published = true) (key key' : KeyPair) :
    kind.settled key ≠ .returned key' := by
  unfold KeyKind.settled
  rw [if_pos h]
  exact fun heq => LoadStage.noConfusion heq

lemma SetOnce.begin {s : KeyHome} (h : SetOnce kind s) : SetOnce kind (s.start .begun) := by
  have hindex : ∀ (i : ℕ) (c : LoadStage), (s.start .begun).calls[i]? = some c →
      s.calls[i]? = some c ∨ c = .begun := by
    intro i c hc
    exact (getElem?_snoc hc).imp_right And.right
  have hkept : ∀ c ∈ s.calls, c ∈ (s.start .begun).calls := fun c hc => List.mem_append_left _ hc
  have hmem : ∀ {c : LoadStage}, c ∈ (s.start .begun).calls → c ≠ .begun → c ∈ s.calls := by
    intro c hc hne
    rcases List.mem_append.1 hc with hold | hnew
    · exact hold
    · exact absurd (List.mem_singleton.1 hnew) hne
  cases h with
  | unset hsecret hpublic hstages honly =>
    refine .unset hsecret hpublic (Concurrent.forall_start hstages (.inl rfl)) ?_
    intro i j c d hc hd hcc hdc
    rcases hindex i c hc with hc | rfl
    · rcases hindex j d hd with hd | rfl
      · exact honly i j c d hc hd hcc hdc
      · cases hdc
    · cases hcc
  | claimed i drawn hsecret hpublic hclaims hothers =>
    refine .claimed i drawn hsecret hpublic ?_ fun j c hj hc => ?_
    · rw [Concurrent.start, List.getElem?_append_left (List.getElem?_eq_some_iff.1 hclaims).1]
      exact hclaims
    · rcases hindex j c hc with hc | rfl
      · exact hothers j c hj hc
      · rfl
  | settled drawn hsecret hstages hpublic hpublished =>
    refine .settled drawn hsecret (Concurrent.forall_start hstages (.inl rfl)) hpublic ?_
    intro hp hreturned
    rcases hpublished hp (hmem hreturned fun heq => LoadStage.noConfusion heq) with hsame | hrenewing
    · exact .inl hsame
    · exact .inr (hkept _ hrenewing)

section Steps

variable {s : KeyHome} {i : ℕ} {c : LoadStage}

lemma SetOnce.ended (h : SetOnce kind s) (hc : s.calls[i]? = some c) (hstoring : c.isStoring = false)
    (hrenewing : c.isRenewing = false) (thrown : Option JsString) :
    SetOnce kind ⟨s.shared, s.calls.set i (.ended thrown)⟩ := by
  cases h with
  | unset hsecret hpublic hstages honly =>
    refine .unset hsecret hpublic (Concurrent.forall_set hstages (.inl rfl)) ?_
    intro j k d d' hd hd' hcd hcd'
    rcases getElem?_set_cases hd with ⟨-, rfl⟩ | ⟨-, hd⟩
    · cases hcd
    · rcases getElem?_set_cases hd' with ⟨-, rfl⟩ | ⟨-, hd'⟩
      · cases hcd'
      · exact honly j k d d' hd hd' hcd hcd'
  | claimed k drawn hsecret hpublic hclaims hothers =>
    have hne : i ≠ k := by
      rintro rfl
      rw [hc] at hclaims
      cases hclaims
      cases hstoring
    refine .claimed k drawn hsecret hpublic ?_ fun j d hj hd => ?_
    · exact (List.getElem?_set_ne hne).trans hclaims
    · rcases getElem?_set_cases hd with ⟨-, rfl⟩ | ⟨-, hd⟩
      · rfl
      · exact hothers j d hj hd
  | settled drawn hsecret hstages hpublic hpublished =>
    refine .settled drawn hsecret (Concurrent.forall_set hstages (.inl rfl)) hpublic ?_
    intro hp hreturned
    have hbefore : LoadStage.returned (kind.pairOf drawn.1) ∈ s.calls := by
      rcases List.mem_or_eq_of_mem_set hreturned with hold | heq
      · exact hold
      · cases heq
    rcases hpublished hp hbefore with hsame | hmem
    · exact .inl hsame
    · refine .inr (Concurrent.mem_set_of_ne hc hmem ?_)
      rintro rfl
      cases hrenewing

lemma SetOnce.read (h : SetOnce kind s) (hc : s.calls[i]? = some .begun) (drawn : kind.Secret)
    (hheeds : kind.heeds s (.read i drawn) = true) :
    SetOnce kind ⟨(kind.read drawn s.shared .begun).1,
      s.calls.set i (kind.read drawn s.shared .begun).2⟩ := by
  have hends : ∀ {existing message}, s.shared.secretFile = some existing →
      kind.decode (trim existing) = .error message →
      SetOnce kind ⟨(kind.read drawn s.shared .begun).1,
        s.calls.set i (kind.read drawn s.shared .begun).2⟩ := by
    intro existing message hsecret hdecode
    have hread : kind.read drawn s.shared .begun = (s.shared, .ended (some message)) := by
      rw [KeyKind.read, hsecret]
      dsimp only
      rw [hdecode]
    rw [hread]
    exact h.ended hc rfl rfl _
  cases h with
  | unset hsecret hpublic hstages honly =>
    -- no other call is about to make one
    have hread : kind.read drawn s.shared .begun = (s.shared, .creating (kind.pairOf drawn.1)) := by
      rw [KeyKind.read, hsecret]
    have hnone : ∀ (j : ℕ) (d : LoadStage), s.calls[j]? = some d → d.isCreating = false := by
      intro j d hd
      rw [heeds, hsecret, Option.isSome_none, Bool.false_or, List.all_eq_true] at hheeds
      simpa using hheeds d (List.mem_of_getElem? hd)
    rw [hread]
    refine .unset hsecret hpublic (Concurrent.forall_set hstages (.inr ⟨drawn, rfl⟩)) ?_
    intro j k d d' hd hd' hcd hcd'
    rcases getElem?_set_cases hd with ⟨hj, -⟩ | ⟨-, hd⟩
    · rcases getElem?_set_cases hd' with ⟨hk, -⟩ | ⟨-, hd'⟩
      · exact hj.trans hk.symm
      · rw [hnone k d' hd'] at hcd'
        cases hcd'
    · rw [hnone j d hd] at hcd
      cases hcd
  | claimed k drawn' hsecret hpublic hclaims hothers =>
    obtain ⟨message, hdecode⟩ := decode_opened kind
    exact hends hsecret hdecode
  | settled stored hsecret hstages hpublic hpublished =>
    have hread : kind.read drawn s.shared .begun = (s.shared, kind.settled (kind.pairOf stored.1)) := by
      rw [KeyKind.read, hsecret]
      dsimp only
      rw [decode_stored]
    rw [hread]
    refine .settled stored hsecret
      (Concurrent.forall_set hstages (.inr (carries_settled kind _))) hpublic fun hp hreturned => ?_
    have hbefore : LoadStage.returned (kind.pairOf stored.1) ∈ s.calls := by
      rcases List.mem_or_eq_of_mem_set hreturned with hold | heq
      · exact hold
      · exact absurd heq.symm (settled_ne_returned hp _ _)
    rcases hpublished hp hbefore with hsame | hmem
    · exact .inl hsame
    · exact .inr (Concurrent.mem_set_of_ne hc hmem fun heq => LoadStage.noConfusion heq)

lemma SetOnce.openSecret (h : SetOnce kind s) {key : KeyPair} (hc : s.calls[i]? = some (.creating key)) :
    SetOnce kind ⟨{ s.shared with secretFile := some [] }, s.calls.set i (.storing key)⟩ := by
  have hmem := List.mem_of_getElem? hc
  cases h with
  | unset hsecret hpublic hstages honly =>
    obtain hidle | ⟨drawn, hkey⟩ := hstages _ hmem
    · cases hidle
    · cases hkey
      refine .claimed i drawn rfl hpublic ?_ fun j d hj hd => ?_
      · exact List.getElem?_set_self (List.getElem?_eq_some_iff.1 hc).1
      · rcases getElem?_set_cases hd with ⟨hji, -⟩ | ⟨-, hd⟩
        · exact absurd hji hj
        · rcases hstages d (List.mem_of_getElem? hd) with hidle | ⟨other, rfl⟩
          · exact hidle
          · exact absurd (honly j i _ _ hd hc rfl rfl) hj
  | claimed k drawn hsecret hpublic hclaims hothers =>
    by_cases hik : i = k
    · subst hik
      rw [hc] at hclaims
      cases hclaims
    · cases hothers i _ hik hc
  | settled drawn hsecret hstages hpublic hpublished =>
    rcases hstages _ hmem with hidle | hcarries | hcarries | hcarries
    · cases hidle
    · cases hcarries
    · cases hcarries
    · cases hcarries

lemma SetOnce.carried (h : SetOnce kind s) (hmem : c ∈ s.calls) (hidle : c.isIdle = false)
    (hcreating : c.isCreating = false) (hstoring : c.isStoring = false) :
    ∃ drawn : kind.Secret, c.Carries (kind.pairOf drawn.1) ∧
      s.shared.secretFile = some (base64 drawn.1) ∧
      (∀ d ∈ s.calls, d.isIdle = true ∨ d.Carries (kind.pairOf drawn.1)) ∧
      (s.shared.publicFile = none ∨ s.shared.publicFile = some [] ∨
        s.shared.publicFile = some (base64 (kind.publicKeyOf drawn.1))) ∧
      (kind.published = true → .returned (kind.pairOf drawn.1) ∈ s.calls →
        s.shared.publicFile = some (base64 (kind.publicKeyOf drawn.1)) ∨
          .renewing (kind.pairOf drawn.1) ∈ s.calls) := by
  cases h with
  | unset hsecret hpublic hstages honly =>
    rcases hstages c hmem with hnow | ⟨drawn, rfl⟩
    · rw [hidle] at hnow
      cases hnow
    · cases hcreating
  | claimed k drawn hsecret hpublic hclaims hothers =>
    obtain ⟨j, hj⟩ := List.mem_iff_getElem?.1 hmem
    by_cases hjk : j = k
    · subst hjk
      rw [hclaims] at hj
      cases hj
      cases hstoring
    · rw [hothers j c hjk hj] at hidle
      cases hidle
  | settled drawn hsecret hstages hpublic hpublished =>
    rcases hstages c hmem with hnow | hcarries
    · rw [hidle] at hnow
      cases hnow
    · exact ⟨drawn, hcarries, hsecret, hstages, hpublic, hpublished⟩

lemma SetOnce.writeSecret (h : SetOnce kind s) {key : KeyPair} (hc : s.calls[i]? = some (.storing key))
    {next : LoadStage} (hnext : next.isIdle = true ∨ next = kind.settled key) :
    SetOnce kind ⟨{ s.shared with secretFile := overwrite s.shared.secretFile (base64 key.secretKey) },
      s.calls.set i next⟩ := by
  have hmem := List.mem_of_getElem? hc
  cases h with
  | unset hsecret hpublic hstages honly =>
    obtain hidle | ⟨drawn, hkey⟩ := hstages _ hmem
    · cases hidle
    · cases hkey
  | claimed k drawn hsecret hpublic hclaims hothers =>
    by_cases hik : i = k
    · subst hik
      rw [hc] at hclaims
      cases hclaims
      refine .settled drawn ?_ ?_ (.inl hpublic) fun hp hreturned => ?_
      · exact overwrite_of_same (.inr (.inl hsecret))
      · intro d hd
        obtain ⟨j, hj⟩ := List.mem_iff_getElem?.1 hd
        rcases getElem?_set_cases hj with ⟨-, rfl⟩ | ⟨hji, hj⟩
        · rcases hnext with hidle | rfl
          · exact .inl hidle
          · exact .inr (carries_settled kind _)
        · exact .inl (hothers j d hji hj)
      · -- nobody has returned
        obtain ⟨j, hj⟩ := List.mem_iff_getElem?.1 hreturned
        rcases getElem?_set_cases hj with ⟨-, heq⟩ | ⟨hji, hj⟩
        · rcases hnext with hidle | rfl
          · rw [← heq] at hidle
            cases hidle
          · exact absurd heq.symm (settled_ne_returned hp _ _)
        · cases hothers j _ hji hj
    · cases hothers i _ hik hc
  | settled drawn hsecret hstages hpublic hpublished =>
    rcases hstages _ hmem with hidle | hcarries | hcarries | hcarries
    · cases hidle
    · cases hcarries
    · cases hcarries
    · cases hcarries

lemma SetOnce.openPublic (h : SetOnce kind s) {key : KeyPair}
    (hc : s.calls[i]? = some (.publishing key)) :
    SetOnce kind ⟨{ s.shared with publicFile := some [] }, s.calls.set i (.renewing key)⟩ := by
  obtain ⟨drawn, hcarries, hsecret, hstages, -, -⟩ :=
    h.carried (List.mem_of_getElem? hc) rfl rfl rfl
  obtain rfl : key = kind.pairOf drawn.1 := by
    rcases hcarries with heq | heq | heq <;> cases heq
    rfl
  exact .settled drawn hsecret (Concurrent.forall_set hstages (.inr (.inr (.inl rfl)))) (.inr (.inl rfl))
    fun _ _ => .inr (Concurrent.mem_set_self hc)

lemma SetOnce.writePublic (h : SetOnce kind s) {key : KeyPair}
    (hc : s.calls[i]? = some (.renewing key)) {next : LoadStage}
    (hnext : next.isIdle = true ∨ next = .returned key) :
    SetOnce kind ⟨{ s.shared with publicFile := overwrite s.shared.publicFile (base64 key.publicKey) },
      s.calls.set i next⟩ := by
  obtain ⟨drawn, hcarries, hsecret, hstages, hpublic, -⟩ :=
    h.carried (List.mem_of_getElem? hc) rfl rfl rfl
  obtain rfl : key = kind.pairOf drawn.1 := by
    rcases hcarries with heq | heq | heq <;> cases heq
    rfl
  have hwritten : overwrite s.shared.publicFile (base64 (kind.publicKeyOf drawn.1)) =
      some (base64 (kind.publicKeyOf drawn.1)) := overwrite_of_same hpublic
  refine .settled drawn hsecret (Concurrent.forall_set hstages ?_) (.inr (.inr hwritten))
    fun _ _ => .inl hwritten
  rcases hnext with hidle | rfl
  · exact .inl hidle
  · exact .inr (.inr (.inr rfl))

lemma SetOnce.step (h : SetOnce kind s) (e : KeyHomeEvent kind) (hheeds : kind.heeds s e = true) :
    SetOnce kind (kind.step s e) := by
  have hsame : ∀ {i : ℕ} {c : LoadStage}, s.calls[i]? = some c →
      SetOnce kind ⟨s.shared, s.calls.set i c⟩ := by
    intro i c hc
    obtain ⟨hi, rfl⟩ := List.getElem?_eq_some_iff.1 hc
    rw [List.set_getElem_self]
    exact h
  cases e with
  | begin => exact h.begin
  | pin => exact h
  | read i drawn =>
    refine Concurrent.advance_induction (p := SetOnce kind) h fun c hc => ?_
    cases c with
    | begun => exact h.read hc drawn hheeds
    | _ => exact hsame hc
  | openFile i =>
    refine Concurrent.advance_induction (p := SetOnce kind) h fun c hc => ?_
    cases c with
    | creating key => exact h.openSecret hc
    | publishing key => exact h.openPublic hc
    | _ => exact hsame hc
  | writeFile i =>
    refine Concurrent.advance_induction (p := SetOnce kind) h fun c hc => ?_
    cases c with
    | storing key => exact h.writeSecret hc (.inr rfl)
    | renewing key => exact h.writePublic hc (.inr rfl)
    | _ => exact hsame hc
  | crash i n =>
    refine Concurrent.advance_induction (p := SetOnce kind) h fun c hc => ?_
    -- a crash behind the whole write leaves what the write leaves
    rw [heeds, hc, Option.all_some] at hheeds
    cases c with
    | storing key =>
      rw [KeyKind.crash, List.take_of_length_le (of_decide_eq_true hheeds)]
      exact h.writeSecret hc (.inl rfl)
    | renewing key =>
      rw [KeyKind.crash, List.take_of_length_le (of_decide_eq_true hheeds)]
      exact h.writePublic hc (.inl rfl)
    | returned key => exact hsame hc
    | ended thrown => exact hsame hc
    | _ => exact h.ended hc rfl rfl none

end Steps

lemma setOnce_run {es : List (KeyHomeEvent kind)}
    (h : (keyHomeMachine kind).Meets (fun s e => kind.heeds s e = true) es) :
    SetOnce kind ((keyHomeMachine kind).run es) :=
  (keyHomeMachine kind).invariant_of_meets setOnce_init (fun _ e hheeds hs => hs.step e hheeds) h

lemma SetOnce.returned {s : KeyHome} (h : SetOnce kind s) {key : KeyPair}
    (hmem : .returned key ∈ s.calls) :
    ∃ drawn : kind.Secret, key = kind.pairOf drawn.1 ∧ kind.load s.shared = some key ∧
      (kind.published = true → s.shared.publicFile = some (base64 key.publicKey) ∨
        .renewing key ∈ s.calls) := by
  obtain ⟨drawn, hcarries, hsecret, -, -, hpublished⟩ := h.carried hmem rfl rfl rfl
  obtain rfl : key = kind.pairOf drawn.1 := by
    rcases hcarries with heq | heq | heq <;> cases heq
    rfl
  refine ⟨drawn, rfl, ?_, fun hp => hpublished hp hmem⟩
  rw [load, hsecret]
  dsimp only
  rw [decode_stored]

end KeyKind

/-! ## The runs -/

/-- The calls of a run that returned have one key pair, which every later load gives; `host.pub` holds
its public half whenever it is read; and a secret that no call is writing is not refused. -/
structure CreatedOnce (kind : KeyKind) (path : JsString) (es : List (KeyHomeEvent kind)) : Prop where
  agree : ∀ key key', .returned key ∈ ((keyHomeMachine kind).run es).calls →
    .returned key' ∈ ((keyHomeMachine kind).run es).calls → key = key'
  loads : ∀ key, .returned key ∈ ((keyHomeMachine kind).run es).calls →
    kind.load ((keyHomeMachine kind).run es).shared = some key
  pinned : kind.published = true → ∀ before after, es = before ++ .pin :: after →
    ∀ key, .returned key ∈ ((keyHomeMachine kind).run before).calls →
      readHostPublicKey path ((keyHomeMachine kind).run before).shared = .ok key.publicKey
  usable : ((keyHomeMachine kind).run es).shared.secretFile ≠ none →
    (∀ c ∈ ((keyHomeMachine kind).run es).calls, c.isStoring = false) →
    (kind.load ((keyHomeMachine kind).run es).shared).isSome = true

lemma KeyKind.createdOnce (kind : KeyKind) (path : JsString) {es : List (KeyHomeEvent kind)}
    (h : (keyHomeMachine kind).Meets (fun s e => kind.heeds s e = true) es) :
    CreatedOnce kind path es := by
  have hset := setOnce_run h
  refine ⟨fun key key' hkey hkey' => ?_, fun key hkey => ?_, fun hp before after hes key hkey => ?_,
    fun hsome hstoring => ?_⟩
  · obtain ⟨_, _, hload, -⟩ := hset.returned hkey
    obtain ⟨_, _, hload', -⟩ := hset.returned hkey'
    rw [hload] at hload'
    exact Option.some.inj hload'
  · obtain ⟨_, _, hload, -⟩ := hset.returned hkey
    exact hload
  · have hbefore : (keyHomeMachine kind).Meets (fun s e => kind.heeds s e = true) before := by
      rw [hes] at h
      apply Machine.Meets.prefix _ h
    have hpin : (((keyHomeMachine kind).run before).calls.all fun c => !c.isRenewing) = true :=
      h before .pin after hes
    obtain ⟨drawn, rfl, -, hpublished⟩ := (setOnce_run hbefore).returned hkey
    rcases hpublished hp with hfile | hrenewing
    · rw [readHostPublicKey, hfile]
      show decodeChannelKey (trim (base64 (kind.publicKeyOf drawn.1))) = _
      rw [trim_base64, decodeChannelKey_eq_ok]
      exact ⟨rfl, kind.length_publicKeyOf hp _⟩
    · rw [List.all_eq_true] at hpin
      cases hpin _ hrenewing
  · cases hset with
    | unset hsecret hpublic hstages honly => exact absurd hsecret hsome
    | claimed i drawn hsecret hpublic hclaims hothers => cases hstoring _ (List.mem_of_getElem? hclaims)
    | settled drawn hsecret hstages hpublic hpublished =>
      rw [load, hsecret]
      dsimp only
      rw [decode_stored]
      rfl

/-- **The identity keys are created once**, by `loadOrCreateHostKey` and `loadOrCreateDeviceKey`: in
every run where no call finds that there is no key while another is about to make one, no crash cuts a
write short, and `host.pub` is not read while a call writes it. -/
theorem createdOnce_of_heeds (crypto : Crypto) (p256 : P256) (publicPath devicePath : JsString) :
    (∀ es, (loadOrCreateHostKey crypto).Meets (fun s e => (hostKey crypto).heeds s e = true) es →
      CreatedOnce (hostKey crypto) publicPath es) ∧
    ∀ es, (loadOrCreateDeviceKey p256 devicePath).Meets
        (fun s e => (deviceKey p256 devicePath).heeds s e = true) es →
      CreatedOnce (deviceKey p256 devicePath) publicPath es :=
  ⟨fun _ h => (hostKey crypto).createdOnce publicPath h,
    fun _ h => (deviceKey p256 devicePath).createdOnce publicPath h⟩

namespace FirstUse

/-- The public keys of two secrets. -/
def publicKeys : List (Bytes × Bytes32) :=
  [(List.replicate 32 1, ⟨[164, 224, 146, 146, 182, 81, 194, 120, 185, 119, 44, 86, 159, 95, 169, 187, 19, 217, 6, 180,
    106, 182, 140, 157, 249, 220, 43, 68, 9, 248, 162, 9], rfl⟩),
    (List.replicate 32 2, ⟨[206, 141, 58, 209, 204, 182, 51, 236, 123, 112, 193, 120, 20, 165, 199, 110, 205, 2, 150,
    133, 5, 13, 52, 71, 69, 186, 5, 135, 14, 88, 125, 89], rfl⟩)]

/-- X25519 at these secrets. -/
def crypto : Crypto where
  getPublicKey secretKey := (publicKeys.lookup secretKey).getD (.repeat 0)
  getSharedSecret _ _ := none
  hkdf _ _ _ n := List.replicate n 0
  hmac _ _ := []
  sha256 _ := []

/-- P-256 at the first of them. -/
def p256 : P256 where
  isValidSecretKey secretKey := secretKey = List.replicate 32 1
  getPublicKey secretKey := if secretKey = List.replicate 32 1 then
    [4, 111, 240, 59, 148, 146, 65, 206, 29, 173, 212, 53, 25, 230, 150, 14, 10, 133, 180, 26,
    105, 160, 92, 50, 129, 3, 170, 43, 206, 21, 148, 202, 22, 60, 79, 117, 58, 85, 191, 1, 220,
    83, 246, 192, 176, 199, 238, 231, 139, 64, 198, 255, 125, 37, 169, 110, 34, 130, 185, 137,
    206, 247, 28, 20, 74] else []

/-- A secret of `host.key`. -/
def drawn (b : UInt8) : (hostKey crypto).Secret := ⟨List.replicate 32 b, List.length_replicate, rfl⟩

/-- One call creates the key, `host.pub` is read, and another call loads it. -/
def inTurn {kind : KeyKind} (key : kind.Secret) : List (KeyHomeEvent kind) :=
  [.begin, .read 0 key, .openFile 0, .writeFile 0, .openFile 0, .writeFile 0, .pin, .begin,
    .read 1 key, .openFile 1, .writeFile 1]

/-- Two calls find that there is no key, and each makes its own. -/
def atOnce : List (KeyHomeEvent (hostKey crypto)) :=
  [.begin, .begin, .read 0 (drawn 1), .read 1 (drawn 2), .openFile 0, .writeFile 0, .openFile 0,
    .writeFile 0, .openFile 1, .writeFile 1, .openFile 1, .writeFile 1]

end FirstUse

/-- A key that is created and then loaded. -/
theorem createdOnce_inTurn :
    CreatedOnce (hostKey FirstUse.crypto) (js "/root/.pherry/host.pub")
        (FirstUse.inTurn (FirstUse.drawn 1)) ∧
      CreatedOnce (deviceKey FirstUse.p256 (js "/root/.pherry/device.key"))
        (js "/root/.pherry/host.pub") (FirstUse.inTurn ⟨List.replicate 32 1, rfl, by decide⟩) :=
  ⟨(createdOnce_of_heeds FirstUse.crypto FirstUse.p256 (js "/root/.pherry/host.pub")
      (js "/root/.pherry/device.key")).1 _ (Machine.meets_of_checks _ (by decide +kernel)),
    (createdOnce_of_heeds FirstUse.crypto FirstUse.p256 (js "/root/.pherry/host.pub")
      (js "/root/.pherry/device.key")).2 _ (Machine.meets_of_checks _ (by decide +kernel))⟩

/-- Two processes that start together on first use return different keys. -/
theorem not_createdOnce_atOnce :
    ¬ CreatedOnce (hostKey FirstUse.crypto) (js "/root/.pherry/host.pub") FirstUse.atOnce := by
  intro h
  have hsame := h.agree ((hostKey FirstUse.crypto).pairOf (List.replicate 32 1))
    ((hostKey FirstUse.crypto).pairOf (List.replicate 32 2)) (by decide +kernel) (by decide +kernel)
  exact absurd (congrArg KeyPair.secretKey hsame) (by decide)

end Pherry.Cli
