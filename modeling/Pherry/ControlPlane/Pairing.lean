import Pherry.ControlPlane.Registry

/-!
# One device for a pair token

A pair token is redeemed once, and is stamped with the device of that redemption. Until the stamp a
poll finds a token that is redeemed by no device.
-/

namespace Pherry.ControlPlane

open Lib Protocol RelayCore

variable {env : RegistryEnv} {draw : Draw} {r : Registry}

/-! ## What leaves pair tokens and devices alone -/

/-- Two registries have the same pair tokens and devices. -/
def SamePairs (r r' : Registry) : Prop := r'.pairTokens = r.pairTokens ∧ r'.devices = r.devices

lemma samePairs_registerHost (args : RegisterArgs) (stage : RegisterStage) :
    SamePairs r (registerHost env draw args r stage).1 := by
  cases stage with
  | check =>
    rw [registerHost]
    split
    · exact ⟨rfl, rfl⟩
    · split <;> exact ⟨rfl, rfl⟩
  | insert =>
    rw [registerHost]
    split <;> exact ⟨rfl, rfl⟩
  | refused => exact ⟨rfl, rfl⟩
  | failed => exact ⟨rfl, rfl⟩
  | registered host hostKey => exact ⟨rfl, rfl⟩

lemma samePairs_revokeHost (args : RevokeArgs) (stage : RevokeStage) :
    SamePairs r (revokeHost draw args r stage).1 := by
  cases stage with
  | check =>
    rw [revokeHost]
    split <;> exact ⟨rfl, rfl⟩
  | update host => exact ⟨rfl, rfl⟩
  | refused => exact ⟨rfl, rfl⟩
  | ok => exact ⟨rfl, rfl⟩

lemma samePairs_issueTicket (args : IssueArgs) (stage : IssueStage) :
    SamePairs r (issueTicket env draw args r stage).1 := by
  cases stage with
  | check =>
    rw [issueTicket]
    split <;> exact ⟨rfl, rfl⟩
  | mint host expiresAt attempt => exact ⟨rfl, rfl⟩
  | refused => exact ⟨rfl, rfl⟩
  | failed => exact ⟨rfl, rfl⟩
  | issued host result => exact ⟨rfl, rfl⟩

lemma samePairs_consumeTicket (args : ResolveArgs) (stage : ResolveStage) :
    SamePairs r (consumeTicket env draw args r stage).1 := by
  cases stage with
  | take => exact ⟨rfl, rfl⟩
  | load record =>
    rw [consumeTicket]
    split <;> exact ⟨rfl, rfl⟩
  | resolved record consumed =>
    rw [consumeTicket]
    split <;> exact ⟨rfl, rfl⟩
  | refused => exact ⟨rfl, rfl⟩
  | bridged record consumed => exact ⟨rfl, rfl⟩
  | turnedAway record code => exact ⟨rfl, rfl⟩

variable (env draw r) in
lemma step_pairs (c : RegistryCall) :
    SamePairs r (c.step env draw r).1 ∨ (∃ args stage, c = .pair args stage) ∨
      ∃ args stage, c = .redeem args stage := by
  cases c with
  | register args stage => exact Or.inl (samePairs_registerHost args stage)
  | revoke args stage => exact Or.inl (samePairs_revokeHost args stage)
  | authenticate header stage => exact Or.inl ⟨rfl, rfl⟩
  | pair args stage => exact Or.inr (Or.inl ⟨args, stage, rfl⟩)
  | redeem args stage => exact Or.inr (Or.inr ⟨args, stage, rfl⟩)
  | status args stage => exact Or.inl ⟨rfl, rfl⟩
  | enroll args stage => exact Or.inl ⟨rfl, rfl⟩
  | issue args stage => exact Or.inl (samePairs_issueTicket args stage)
  | resolve args stage => exact Or.inl (samePairs_consumeTicket args stage)

/-! ## The row of a token -/

lemma id_mem_pairTokenColumns : PairTokenRow.id ∈ pairTokenColumns := List.mem_cons_self

lemma tokenHash_mem_pairTokenColumns : PairTokenRow.tokenHash ∈ pairTokenColumns :=
  List.mem_cons_of_mem _ List.mem_cons_self

lemma id_mem_deviceColumns : DeviceRow.id ∈ deviceColumns := List.mem_cons_self

/-- The row of the pair token with this hash. -/
def Registry.token (r : Registry) (hash : JsString) : Option PairTokenRow :=
  r.pairTokens.get PairTokenRow.tokenHash hash

lemma token_eq_some {hash : JsString} {row : PairTokenRow} :
    r.token hash = some row ↔ row ∈ r.pairTokens.rows ∧ row.tokenHash = hash :=
  Table.get_eq_some tokenHash_mem_pairTokenColumns

lemma SamePairs.token {r' : Registry} (h : SamePairs r r') (hash : JsString) :
    r'.token hash = r.token hash := by
  rw [Registry.token, Registry.token, h.1]

variable (env draw r) in
/-- A pair token that is minted is neither redeemed nor stamped, and takes no row's place. -/
lemma token_mintPairToken (args : PairArgs) (stage : PairStage) (hash : JsString) :
    (mintPairToken env draw args r stage).1.token hash = r.token hash ∨
      r.token hash = none ∧ ∃ row, (mintPairToken env draw args r stage).1.token hash = some row ∧
        row.redeemedAt = none ∧ row.redeemedDeviceId = none := by
  cases stage with
  | check =>
    rw [mintPairToken]
    split <;> exact Or.inl rfl
  | insert host now =>
    rw [mintPairToken]
    split
    · exact Or.inl rfl
    · next pairTokens hinsert =>
      have hget : ({ r with pairTokens } : Registry).token hash = _ := Table.get_insert hinsert
      rw [← Registry.token] at hget
      rw [hget]
      cases hrow : r.token hash with
      | some row => exact Or.inl rfl
      | none =>
        dsimp only [Option.none_or]
        split
        · exact Or.inr ⟨rfl, _, rfl, rfl, rfl⟩
        · exact Or.inl rfl
  | refused => exact Or.inl rfl
  | failed => exact Or.inl rfl
  | minted host pairToken expiresAt => exact Or.inl rfl

lemma find_claimable {now : ℕ} {pairToken : JsString} {token : PairTokenRow}
    (hfind : r.pairTokens.rows.find? (claimable env now pairToken) = some token) :
    token.tokenHash = env.sha256Hex pairToken ∧ token.redeemedAt = none ∧
      r.token token.tokenHash = some token := by
  have hmem := List.mem_of_find?_eq_some hfind
  have hclaimable := List.find?_some hfind
  rw [claimable, Bool.and_eq_true, Bool.and_eq_true, decide_eq_true_eq, Option.isNone_iff_eq_none] at hclaimable
  exact ⟨hclaimable.1.1, hclaimable.1.2, token_eq_some.2 ⟨hmem, rfl⟩⟩

/-- The registry with a token claimed. -/
def Registry.claim (env : RegistryEnv) (now : ℕ) (pairToken : JsString) (r : Registry) : Registry :=
  let pairTokens := r.pairTokens.update (claimable env now pairToken) (PairTokenRow.claim now)
    (pairTokenColumns_claim now)
  { r with pairTokens }

/-- The registry with a token stamped. -/
def Registry.stamp (id deviceId : JsString) (r : Registry) : Registry :=
  let pairTokens := r.pairTokens.update (fun row => row.id = id) (PairTokenRow.stamp deviceId)
    (pairTokenColumns_stamp deviceId)
  { r with pairTokens }

lemma token_claim {now : ℕ} {pairToken : JsString} {token : PairTokenRow}
    (hfind : r.pairTokens.rows.find? (claimable env now pairToken) = some token) :
    (r.claim env now pairToken).token token.tokenHash = some (token.claim now) := by
  obtain ⟨-, -, hrow⟩ := find_claimable hfind
  rw [Registry.token, Registry.claim, Table.get_update _ tokenHash_mem_pairTokenColumns, ← Registry.token, hrow,
    Option.map_some, if_pos (List.find?_some hfind)]

variable (r) in
lemma token_claim_ne (now : ℕ) {pairToken hash : JsString} (hne : hash ≠ env.sha256Hex pairToken) :
    (r.claim env now pairToken).token hash = r.token hash := by
  rw [Registry.token, Registry.claim, Table.get_update _ tokenHash_mem_pairTokenColumns, ← Registry.token]
  cases hrow : r.token hash with
  | none => rfl
  | some row =>
    have hhash := (token_eq_some.1 hrow).2
    have hother : claimable env now pairToken row = false := by
      rw [claimable, decide_eq_false (by rw [hhash]; exact hne)]
      rfl
    rw [Option.map_some, hother]
    rfl

/-- The row of a token that a redemption has claimed. -/
def TokenKnown (token : PairTokenRow) (r : Registry) : Prop :=
  ∃ row, r.pairTokens.get PairTokenRow.id token.id = some row ∧ row.tokenHash = token.tokenHash

lemma TokenKnown.row {token : PairTokenRow} (h : TokenKnown token r) :
    ∃ row, r.token token.tokenHash = some row ∧ row.id = token.id := by
  obtain ⟨row, hget, hhash⟩ := h
  obtain ⟨hmem, hid⟩ := (Table.get_eq_some id_mem_pairTokenColumns).1 hget
  exact ⟨row, token_eq_some.2 ⟨hmem, hhash⟩, hid⟩

lemma token_stamp {token row : PairTokenRow} (hknown : TokenKnown token r) (deviceId : JsString)
    (hrow : r.token token.tokenHash = some row) :
    (r.stamp token.id deviceId).token token.tokenHash = some (row.stamp deviceId) := by
  obtain ⟨row', hsame, hid⟩ := hknown.row
  rw [hrow, Option.some_inj] at hsame
  subst hsame
  rw [Registry.token, Registry.stamp, Table.get_update _ tokenHash_mem_pairTokenColumns,
    ← Registry.token, hrow, Option.map_some, if_pos (decide_eq_true hid)]

lemma token_stamp_ne {token : PairTokenRow} {hash : JsString} (hknown : TokenKnown token r)
    (deviceId : JsString) (hne : hash ≠ token.tokenHash) :
    (r.stamp token.id deviceId).token hash = r.token hash := by
  rw [Registry.token, Registry.stamp, Table.get_update _ tokenHash_mem_pairTokenColumns, ← Registry.token]
  cases hrow : r.token hash with
  | none => rfl
  | some row =>
    obtain ⟨row', hget, hhash⟩ := hknown
    obtain ⟨hmem, hother⟩ := token_eq_some.1 hrow
    -- ids are unique: a row with the id of the token has its hash
    have hid : row.id ≠ token.id := by
      intro hid
      rw [(Table.get_eq_some id_mem_pairTokenColumns).2 ⟨hmem, hid⟩, Option.some_inj] at hget
      rw [hget, hhash] at hother
      exact hne hother.symm
    rw [Option.map_some, decide_eq_false hid]
    rfl

/-! ## Room for redemptions -/

/-- The token a redemption has claimed. -/
def RedeemStage.claimed : RedeemStage → Option PairTokenRow
  | .insert token => some token
  | .stamp token _ _ => some token
  | .load token _ _ => some token
  | .failed token => some token
  | .redeemed token _ _ => some token
  | _ => none

/-- Redemptions that have claimed the token. -/
def boundAs (hash : JsString) : RegistryCall → ℕ
  | .redeem _ stage => if stage.claimed.any (fun token => token.tokenHash = hash) then 1 else 0
  | _ => 0

/-- Redemptions that have claimed the token and may still stamp it. -/
def unstampedAs (hash : JsString) : RegistryCall → ℕ
  | .redeem _ (.insert token) => if token.tokenHash = hash then 1 else 0
  | .redeem _ (.stamp token _ _) => if token.tokenHash = hash then 1 else 0
  | _ => 0

/-- How many redemptions have claimed a token with this row. -/
def boundRoom : Option PairTokenRow → ℕ
  | none => 0
  | some row => if row.redeemedAt.isSome then 1 else 0

/-- How many redemptions may still stamp a token with this row. -/
def stampRoom : Option PairTokenRow → ℕ
  | none => 0
  | some row => if row.redeemedAt.isSome && row.redeemedDeviceId.isNone then 1 else 0

lemma boundRoom_le (t : Option PairTokenRow) : boundRoom t ≤ 1 := by
  cases t with
  | none => exact Nat.zero_le _
  | some row =>
    rw [boundRoom]
    split <;> omega

lemma stampRoom_le (t : Option PairTokenRow) : stampRoom t ≤ 1 := by
  cases t with
  | none => exact Nat.zero_le _
  | some row =>
    rw [stampRoom]
    split <;> omega

/-- A token that is not redeemed is not stamped. -/
def Fresh (r : Registry) : Prop :=
  ∀ hash row, r.token hash = some row → row.redeemedAt = none → row.redeemedDeviceId = none

/-- What a redemption knows of its token and its device. -/
def RegistryCall.known (r : Registry) : RegistryCall → Prop
  | .redeem _ (.insert token) => TokenKnown token r
  | .redeem args (.stamp token device _) =>
    TokenKnown token r ∧ r.devices.get DeviceRow.id device.id = some device ∧
      device.devicePublicKey = args.devicePublicKeyB64
  | _ => True

/-- A step claims or stamps a token no more than its row allows. -/
structure Fits (hash : JsString) (r r' : Registry) (c c' : RegistryCall) : Prop where
  bound : boundAs hash c' + boundRoom (r.token hash) ≤ boundAs hash c + boundRoom (r'.token hash)
  unstamped : unstampedAs hash c' + stampRoom (r.token hash) ≤
    unstampedAs hash c + stampRoom (r'.token hash)

lemma Fits.of_same {hash : JsString} {r r' : Registry} {c c' : RegistryCall}
    (hsame : r'.token hash = r.token hash) (hbound : boundAs hash c' ≤ boundAs hash c)
    (hunstamped : unstampedAs hash c' ≤ unstampedAs hash c) : Fits hash r r' c c' := by
  refine ⟨?_, ?_⟩
  · rw [hsame]
    exact Nat.add_le_add_right hbound _
  · rw [hsame]
    exact Nat.add_le_add_right hunstamped _

lemma fits_pair (args : PairArgs) (stage : PairStage) (hash : JsString) :
    Fits hash r (mintPairToken env draw args r stage).1 (.pair args stage)
      (.pair args (mintPairToken env draw args r stage).2) := by
  rcases token_mintPairToken env draw r args stage hash with
    hsame | ⟨hnone, row, hrow, hredeemed, -⟩
  · exact Fits.of_same hsame (Nat.le_refl _) (Nat.le_refl _)
  · refine ⟨?_, ?_⟩ <;> rw [hnone, hrow] <;> exact Nat.zero_le _

lemma fits_claim (hfresh : Fresh r) (args : RedeemArgs) (hash : JsString) :
    Fits hash r ((RegistryCall.redeem args .claim).step env draw r).1 (.redeem args .claim)
      ((RegistryCall.redeem args .claim).step env draw r).2 := by
  rw [RegistryCall.step, redeemPairToken]
  cases hfind : r.pairTokens.rows.find? (claimable env args.now args.pairToken) with
  | none => exact Fits.of_same rfl (Nat.le_refl _) (Nat.le_refl _)
  | some token =>
    obtain ⟨hhash, hredeemed, hrow⟩ := find_claimable hfind
    by_cases hsame : hash = token.tokenHash
    · subst hsame
      have hclaimed := token_claim hfind
      have hunstamped := hfresh _ _ hrow hredeemed
      rw [Registry.claim] at hclaimed
      refine ⟨?_, ?_⟩
      · rw [hrow, hclaimed, boundRoom, boundRoom, hredeemed]
        simp [boundAs, RedeemStage.claimed, PairTokenRow.claim]
      · rw [hrow, hclaimed, stampRoom, stampRoom, hredeemed]
        simp [unstampedAs, PairTokenRow.claim, hunstamped]
    · -- a token with another hash
      rw [hhash] at hsame
      have hkept := token_claim_ne r args.now hsame
      rw [← hhash] at hsame
      refine Fits.of_same hkept ?_ ?_
      · simp [boundAs, RedeemStage.claimed, PairTokenRow.claim, Ne.symm hsame]
      · simp [unstampedAs, PairTokenRow.claim, Ne.symm hsame]

lemma fits_redeem (hfresh : Fresh r) {args : RedeemArgs} {stage : RedeemStage}
    (hknown : (RegistryCall.redeem args stage).known r) (hash : JsString) :
    Fits hash r ((RegistryCall.redeem args stage).step env draw r).1 (.redeem args stage)
      ((RegistryCall.redeem args stage).step env draw r).2 := by
  cases stage with
  | claim => exact fits_claim hfresh args hash
  | insert token =>
    rw [RegistryCall.step, redeemPairToken]
    dsimp only
    split
    · exact Fits.of_same rfl (Nat.le_refl _) (Nat.zero_le _)
    · exact Fits.of_same rfl (Nat.le_refl _) (Nat.le_refl _)
  | stamp token device deviceToken =>
    obtain ⟨htoken, -⟩ := hknown
    by_cases hsame : hash = token.tokenHash
    · subst hsame
      obtain ⟨row, hrow, -⟩ := htoken.row
      have hstamped := token_stamp htoken device.id hrow
      refine ⟨?_, ?_⟩
      · show boundAs token.tokenHash (.redeem args (.load token device deviceToken)) +
          boundRoom (r.token token.tokenHash) ≤ _ +
            boundRoom ((r.stamp token.id device.id).token token.tokenHash)
        rw [hrow, hstamped]
        exact Nat.le_refl _
      · have hone : unstampedAs token.tokenHash (.redeem args (.stamp token device deviceToken)) = 1 :=
          if_pos rfl
        have hzero : unstampedAs token.tokenHash (.redeem args (.load token device deviceToken)) = 0 :=
          rfl
        have hle := stampRoom_le (r.token token.tokenHash)
        show unstampedAs token.tokenHash (.redeem args (.load token device deviceToken)) +
          stampRoom (r.token token.tokenHash) ≤ _
        omega
    · exact Fits.of_same (token_stamp_ne htoken device.id hsame) (Nat.le_refl _) (Nat.zero_le _)
  | load token device deviceToken =>
    rw [RegistryCall.step, redeemPairToken]
    split <;> exact Fits.of_same rfl (Nat.le_refl _) (Nat.le_refl _)
  | refused => exact Fits.of_same rfl (Nat.le_refl _) (Nat.le_refl _)
  | failed token => exact Fits.of_same rfl (Nat.le_refl _) (Nat.le_refl _)
  | redeemed token device result => exact Fits.of_same rfl (Nat.le_refl _) (Nat.le_refl _)

variable (env draw) in
lemma fits_step (hfresh : Fresh r) {c : RegistryCall} (hknown : c.known r) (hash : JsString) :
    Fits hash r (c.step env draw r).1 c (c.step env draw r).2 := by
  cases c with
  | register args stage =>
    exact Fits.of_same ((samePairs_registerHost args stage).token hash) (Nat.le_refl _) (Nat.le_refl _)
  | revoke args stage =>
    exact Fits.of_same ((samePairs_revokeHost args stage).token hash) (Nat.le_refl _) (Nat.le_refl _)
  | authenticate header stage => exact Fits.of_same rfl (Nat.le_refl _) (Nat.le_refl _)
  | pair args stage => exact fits_pair args stage hash
  | redeem args stage => exact fits_redeem hfresh hknown hash
  | status args stage => exact Fits.of_same rfl (Nat.le_refl _) (Nat.le_refl _)
  | enroll args stage => exact Fits.of_same rfl (Nat.le_refl _) (Nat.le_refl _)
  | issue args stage =>
    exact Fits.of_same ((samePairs_issueTicket args stage).token hash) (Nat.le_refl _) (Nat.le_refl _)
  | resolve args stage =>
    exact Fits.of_same ((samePairs_consumeTicket args stage).token hash) (Nat.le_refl _) (Nat.le_refl _)

/-! ## What stays known -/

/-- A row stays under its id, with its hash, and redeemed if it was. -/
structure Stays (row row' : PairTokenRow) : Prop where
  tokenHash : row'.tokenHash = row.tokenHash
  redeemed : row.redeemedAt.isSome = true → row'.redeemedAt.isSome = true

lemma Stays.refl (row : PairTokenRow) : Stays row row := ⟨rfl, id⟩

variable (env draw) in
lemma stays_step (c : RegistryCall) {column : PairTokenRow → JsString}
    (hcolumn : column ∈ pairTokenColumns) {k : JsString} {row : PairTokenRow}
    (hget : r.pairTokens.get column k = some row) :
    ∃ row', (c.step env draw r).1.pairTokens.get column k = some row' ∧ Stays row row' := by
  rcases step_pairs env draw r c with ⟨hsame, -⟩ | ⟨args, stage, rfl⟩ | ⟨args, stage, rfl⟩
  · rw [hsame]
    exact ⟨row, hget, Stays.refl row⟩
  · cases stage with
    | insert host now =>
      rw [RegistryCall.step, mintPairToken]
      dsimp only
      split
      · exact ⟨row, hget, Stays.refl row⟩
      · next pairTokens hinsert =>
        refine ⟨row, ?_, Stays.refl row⟩
        rw [Table.get_insert hinsert, hget]
        rfl
    | check =>
      rw [RegistryCall.step, mintPairToken]
      split <;> exact ⟨row, hget, Stays.refl row⟩
    | refused => exact ⟨row, hget, Stays.refl row⟩
    | failed => exact ⟨row, hget, Stays.refl row⟩
    | minted host pairToken expiresAt => exact ⟨row, hget, Stays.refl row⟩
  · cases stage with
    | claim =>
      rw [RegistryCall.step, redeemPairToken]
      split
      · exact ⟨row, hget, Stays.refl row⟩
      · dsimp only
        rw [Table.get_update _ hcolumn, hget, Option.map_some]
        split
        · exact ⟨_, rfl, rfl, fun _ => rfl⟩
        · exact ⟨row, rfl, Stays.refl row⟩
    | insert token =>
      rw [RegistryCall.step, redeemPairToken]
      dsimp only
      split <;> exact ⟨row, hget, Stays.refl row⟩
    | stamp token device deviceToken =>
      rw [RegistryCall.step, redeemPairToken]
      dsimp only
      rw [Table.get_update _ hcolumn, hget, Option.map_some]
      split
      · exact ⟨_, rfl, rfl, id⟩
      · exact ⟨row, rfl, Stays.refl row⟩
    | load token device deviceToken =>
      rw [RegistryCall.step, redeemPairToken]
      split <;> exact ⟨row, hget, Stays.refl row⟩
    | refused => exact ⟨row, hget, Stays.refl row⟩
    | failed token => exact ⟨row, hget, Stays.refl row⟩
    | redeemed token device result => exact ⟨row, hget, Stays.refl row⟩

lemma device_step (c : RegistryCall) {id : JsString} {device : DeviceRow}
    (hget : r.devices.get DeviceRow.id id = some device) :
    (c.step env draw r).1.devices.get DeviceRow.id id = some device := by
  rcases step_pairs env draw r c with ⟨-, hsame⟩ | ⟨args, stage, rfl⟩ | ⟨args, stage, rfl⟩
  · rw [hsame]
    exact hget
  · cases stage with
    | insert host now =>
      rw [RegistryCall.step, mintPairToken]
      dsimp only
      split <;> exact hget
    | check =>
      rw [RegistryCall.step, mintPairToken]
      split <;> exact hget
    | refused => exact hget
    | failed => exact hget
    | minted host pairToken expiresAt => exact hget
  · cases stage with
    | claim =>
      rw [RegistryCall.step, redeemPairToken]
      split <;> exact hget
    | insert token =>
      rw [RegistryCall.step, redeemPairToken]
      dsimp only
      split
      · exact hget
      · next devices hinsert =>
        rw [Table.get_insert hinsert, hget]
        rfl
    | stamp token device deviceToken => exact hget
    | load token device deviceToken =>
      rw [RegistryCall.step, redeemPairToken]
      split <;> exact hget
    | refused => exact hget
    | failed token => exact hget
    | redeemed token device result => exact hget

lemma TokenKnown.step {token : PairTokenRow} (h : TokenKnown token r) (c : RegistryCall) :
    TokenKnown token (c.step env draw r).1 := by
  obtain ⟨row, hget, hhash⟩ := h
  obtain ⟨row', hget', hstays⟩ := stays_step env draw c id_mem_pairTokenColumns hget
  exact ⟨row', hget', hstays.tokenHash.trans hhash⟩

lemma known_other {c : RegistryCall} (h : c.known r) (d : RegistryCall) :
    c.known (d.step env draw r).1 := by
  cases c with
  | redeem args stage =>
    cases stage with
    | insert token => exact h.step d
    | stamp token device deviceToken => exact ⟨h.1.step d, device_step d h.2.1, h.2.2⟩
    | _ => trivial
  | _ => trivial

lemma known_next {c : RegistryCall} (h : c.known r) :
    (c.step env draw r).2.known (c.step env draw r).1 := by
  cases c with
  | redeem args stage =>
    cases stage with
    | claim =>
      rw [RegistryCall.step, redeemPairToken]
      cases hfind : r.pairTokens.rows.find? (claimable env args.now args.pairToken) with
      | none => trivial
      | some token =>
        have hmem := List.mem_of_find?_eq_some hfind
        refine ⟨token.claim args.now, ?_, rfl⟩
        have hget := (Table.get_eq_some id_mem_pairTokenColumns).2 ⟨hmem, rfl⟩
        dsimp only
        rw [Table.get_update _ id_mem_pairTokenColumns]
        show (r.pairTokens.get PairTokenRow.id token.id).map _ = _
        rw [hget, Option.map_some, if_pos (List.find?_some hfind)]
    | insert token =>
      rw [RegistryCall.step, redeemPairToken]
      dsimp only
      split
      · trivial
      · next devices hinsert =>
        refine ⟨h, ?_, rfl⟩
        have hnone := Table.get_of_insert id_mem_deviceColumns hinsert
        rw [Table.get_insert hinsert, hnone, Option.none_or, if_pos rfl]
    | load token device deviceToken =>
      rw [RegistryCall.step, redeemPairToken]
      split <;> trivial
    | _ => trivial
  | _ => trivial

/-- Where a row behind a step comes from. -/
inductive TokenStep (hash : JsString) (r : Registry) (c : RegistryCall) (row : PairTokenRow) : Prop
  | same (h : r.token hash = some row)
  | minted (h : r.token hash = none) (hredeemed : row.redeemedAt = none)
      (hstamped : row.redeemedDeviceId = none)
  | claimed (args : RedeemArgs) (old : PairTokenRow) (hc : c = .redeem args .claim)
      (hold : r.token hash = some old) (hredeemed : old.redeemedAt = none)
      (hrow : row = old.claim args.now)
  | stamped (args : RedeemArgs) (token : PairTokenRow) (device : DeviceRow) (deviceToken : JsString)
      (old : PairTokenRow) (hc : c = .redeem args (.stamp token device deviceToken))
      (htoken : token.tokenHash = hash) (hold : r.token hash = some old)
      (hrow : row = old.stamp device.id)

lemma tokenStep_redeem {args : RedeemArgs} {stage : RedeemStage}
    (hknown : (RegistryCall.redeem args stage).known r) {hash : JsString} {row : PairTokenRow}
    (hrow : ((RegistryCall.redeem args stage).step env draw r).1.token hash = some row) :
    TokenStep hash r (.redeem args stage) row := by
  cases stage with
  | claim =>
    rw [RegistryCall.step, redeemPairToken] at hrow
    cases hfind : r.pairTokens.rows.find? (claimable env args.now args.pairToken) with
    | none =>
      rw [hfind] at hrow
      exact .same hrow
    | some token =>
      rw [hfind] at hrow
      obtain ⟨hhash, hredeemed, hold⟩ := find_claimable hfind
      have hrow : (r.claim env args.now args.pairToken).token hash = some row := hrow
      by_cases hsame : hash = token.tokenHash
      · subst hsame
        rw [token_claim hfind, Option.some_inj] at hrow
        exact .claimed args token rfl hold hredeemed hrow.symm
      · rw [hhash] at hsame
        rw [token_claim_ne r args.now hsame] at hrow
        exact .same hrow
  | insert token =>
    rw [RegistryCall.step, redeemPairToken] at hrow
    dsimp only at hrow
    split at hrow <;> exact .same hrow
  | stamp token device deviceToken =>
    have hrow : (r.stamp token.id device.id).token hash = some row := hrow
    by_cases hsame : hash = token.tokenHash
    · subst hsame
      obtain ⟨old, hold, -⟩ := hknown.1.row
      rw [token_stamp hknown.1 device.id hold, Option.some_inj] at hrow
      exact .stamped args token device deviceToken old rfl rfl hold hrow.symm
    · rw [token_stamp_ne hknown.1 device.id hsame] at hrow
      exact .same hrow
  | load token device deviceToken =>
    rw [RegistryCall.step, redeemPairToken] at hrow
    split at hrow <;> exact .same hrow
  | refused => exact .same hrow
  | failed token => exact .same hrow
  | redeemed token device result => exact .same hrow

lemma token_step {c : RegistryCall} (hknown : c.known r) {hash : JsString} {row : PairTokenRow}
    (hrow : (c.step env draw r).1.token hash = some row) : TokenStep hash r c row := by
  rcases step_pairs env draw r c with hsame | ⟨args, stage, rfl⟩ | ⟨args, stage, rfl⟩
  · rw [hsame.token] at hrow
    exact .same hrow
  · rcases token_mintPairToken env draw r args stage hash with
      hsame | ⟨hnone, minted, hminted, hredeemed, hstamped⟩
    · exact .same (hsame.symm.trans hrow)
    · have heq := hminted.symm.trans hrow
      rw [Option.some_inj] at heq
      subst heq
      exact .minted hnone hredeemed hstamped
  · exact tokenStep_redeem hknown hrow

lemma Fresh.step (h : Fresh r) {c : RegistryCall} (hknown : c.known r)
    (hroom : ∀ hash, unstampedAs hash c ≤ stampRoom (r.token hash)) : Fresh (c.step env draw r).1 := by
  intro hash row hrow hredeemed
  cases token_step hknown hrow with
  | same hsame => exact h hash row hsame hredeemed
  | minted _ _ hstamped => exact hstamped
  | claimed args old hc hold hopen hclaimed =>
    rw [hclaimed] at hredeemed
    cases hredeemed
  | stamped args token device deviceToken old hc htoken hold hstamped =>
    -- the one that stamps has claimed the token before
    subst hc htoken
    have hone : unstampedAs token.tokenHash (.redeem args (.stamp token device deviceToken)) = 1 :=
      if_pos rfl
    have hroom := hroom token.tokenHash
    have hnone : old.redeemedAt = none := by
      rw [hstamped] at hredeemed
      exact hredeemed
    rw [hone, hold, stampRoom, hnone] at hroom
    cases hroom

end Pherry.ControlPlane
