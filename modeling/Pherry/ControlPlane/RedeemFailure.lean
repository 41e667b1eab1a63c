import Pherry.ControlPlane.Audit

/-!
# A redemption that fails

A pair token is claimed in the first statement of its redemption; what fails behind it is not taken back. A
redemption is atomic exactly when nothing fails behind its claim.
-/

namespace Pherry.ControlPlane

open Lib

variable {env : RegistryEnv} {args : RedeemArgs} {db db₀ : AuditedRegistry}

/-! ## What a redemption is to be -/

/-- A pair token that can still be redeemed. -/
def Redeemable (env : RegistryEnv) (args : RedeemArgs) (r : Registry) : Prop :=
  (r.pairTokens.rows.find? (claimable env args.now args.pairToken)).isSome = true

/-- The row of the pair token is redeemed. -/
def Claimed (env : RegistryEnv) (args : RedeemArgs) (r : Registry) : Prop :=
  ∃ row, r.token (env.sha256Hex args.pairToken) = some row ∧ row.redeemedAt.isSome = true

/-- The row of the pair token is redeemed by this device. -/
def Stamped (env : RegistryEnv) (args : RedeemArgs) (r : Registry) (device : DeviceRow) : Prop :=
  ∃ row, r.token (env.sha256Hex args.pairToken) = some row ∧ row.redeemedAt.isSome = true ∧
    row.redeemedDeviceId = some device.id

/-- The row of a device, with the hash of its token. -/
def Enrolled (env : RegistryEnv) (r : Registry) (device : DeviceRow) (deviceToken : JsString) : Prop :=
  r.devices.get DeviceRow.id device.id = some device ∧ device.deviceTokenHash = env.sha256Hex deviceToken

/-- The pairing of a device is in the log. -/
def Logged (db : AuditedRegistry) (token : PairTokenRow) (device : DeviceRow) : Prop :=
  ∃ row ∈ db.audit.rows, row.kind = .devicePaired ∧ row.hostId = some token.hostId ∧
    row.deviceId = some device.id

/-- A redemption is atomic. If it returns, the token is redeemed by its device, whose row exists, and the pairing
is logged. If it throws, the token can be redeemed as before, no device was added, and no poll has found the
token redeemed. -/
def RedeemAtomic (env : RegistryEnv) (args : RedeemArgs) (db : AuditedRegistry) (es : List Statement) : Prop :=
  let m := redemptionMachine env args db
  match (m.run es).stage with
  | .returned token device _ result =>
    Stamped env args (m.run es).db.registry device ∧
    Enrolled env (m.run es).db.registry device result.deviceToken ∧ Logged (m.run es).db token device
  | .thrown =>
    (m.run es).db.registry.devices = db.registry.devices ∧
    (Redeemable env args db.registry →
      Redeemable env args (m.run es).db.registry ∧
      ∀ pre post, es = pre ++ post → ∀ now device,
        pollStatus env now args.pairToken (m.run pre).db.registry ≠ some (.redeemed device))
  | _ => True

/-- A statement behind the claim does not fail: neither by itself, nor because an id is taken, nor because a row
is missing. -/
def smooth (env : RegistryEnv) (args : RedeemArgs) (s : Redemption) (st : Statement) : Prop :=
  match s.stage with
  | .insert token => st.fails = false ∧ s.db.registry.devices.insert (newDevice env st.draw args token) ≠ none
  | .stamp .. => st.fails = false
  | .audit token device _ => st.fails = false ∧ s.db.audit.insert (devicePaired st.draw args token device) ≠ none
  | .host token .. => st.fails = false ∧ s.db.registry.hosts.get HostRecord.id token.hostId ≠ none
  | .user token .. => st.fails = false ∧ s.db.users.get UserRow.id token.userId ≠ none
  | .signIn .. => st.fails = false
  | _ => True

/-! ## The token -/

lemma Claimed.not_redeemable {r : Registry} (h : Claimed env args r) : ¬ Redeemable env args r := by
  obtain ⟨row, hrow, hredeemed⟩ := h
  intro hsome
  obtain ⟨token, htoken⟩ := Option.isSome_iff_exists.1 hsome
  obtain ⟨hhash, hnone, hget⟩ := find_claimable htoken
  rw [hhash, hrow, Option.some_inj] at hget
  rw [hget, hnone] at hredeemed
  simp at hredeemed

lemma Redeemable.pollStatus_ne {r : Registry} (h : Redeemable env args r) (now : ℕ)
    (device : Option PairedDevice) : pollStatus env now args.pairToken r ≠ some (.redeemed device) := by
  obtain ⟨token, htoken⟩ := Option.isSome_iff_exists.1 h
  obtain ⟨hhash, hnone, hget⟩ := find_claimable htoken
  rw [hhash, Registry.token] at hget
  have hstatus : pairTokenStatus env now args.pairToken r .token =
      .done (some (if token.expiresAt ≤ now then .expired else .pending)) := by
    simp [pairTokenStatus, hget, hnone]
  rw [pollStatus, hstatus]
  simp only [pairTokenStatus]
  split <;> simp

lemma claimed_claim {token : PairTokenRow} {r : Registry}
    (hfind : r.pairTokens.rows.find? (claimable env args.now args.pairToken) = some token) :
    Claimed env args (r.claim env args.now args.pairToken) := by
  obtain ⟨hhash, -, -⟩ := find_claimable hfind
  have hclaimed := token_claim hfind
  rw [hhash] at hclaimed
  exact ⟨_, hclaimed, rfl⟩

lemma tokenKnown_claim {token : PairTokenRow} {r : Registry}
    (hfind : r.pairTokens.rows.find? (claimable env args.now args.pairToken) = some token) :
    TokenKnown (token.claim args.now) (r.claim env args.now args.pairToken) := by
  obtain ⟨hhash, -, hget⟩ := find_claimable hfind
  have hid : r.pairTokens.get PairTokenRow.id token.id = some token :=
    (Table.get_eq_some id_mem_pairTokenColumns).2 ⟨(token_eq_some.1 hget).1, rfl⟩
  have hclaim := Table.get_update (t := r.pairTokens) (p := claimable env args.now args.pairToken) (k := token.id)
    (pairTokenColumns_claim args.now) id_mem_pairTokenColumns
  rw [hid, Option.map_some, if_pos (List.find?_some hfind)] at hclaim
  exact ⟨token.claim args.now, hclaim, rfl⟩

/-! ## How far a redemption has got -/

/-- What a redemption has done behind its claim, by its stage. -/
def Done (env : RegistryEnv) (args : RedeemArgs) (db : AuditedRegistry) : AuditedRedeemStage → Prop
  | .claim => False
  | .refused => False
  | .insert token => TokenKnown token db.registry ∧ token.tokenHash = env.sha256Hex args.pairToken
  | .stamp token device deviceToken =>
    TokenKnown token db.registry ∧ token.tokenHash = env.sha256Hex args.pairToken ∧
      Enrolled env db.registry device deviceToken
  | .audit _ device deviceToken =>
    Stamped env args db.registry device ∧ Enrolled env db.registry device deviceToken
  | .host token device deviceToken =>
    Stamped env args db.registry device ∧ Enrolled env db.registry device deviceToken ∧ Logged db token device
  | .user token device deviceToken _ =>
    Stamped env args db.registry device ∧ Enrolled env db.registry device deviceToken ∧ Logged db token device
  | .signIn token device deviceToken _ _ =>
    Stamped env args db.registry device ∧ Enrolled env db.registry device deviceToken ∧ Logged db token device
  | .returned token device _ result =>
    Stamped env args db.registry device ∧ Enrolled env db.registry device result.deviceToken ∧
      Logged db token device
  | .thrown => True

/-- A redemption has not got past its claim, and the database is as it was. -/
def NotBegun (db₀ : AuditedRegistry) (s : Redemption) : Prop :=
  s.db = db₀ ∧ (s.stage = .claim ∨ s.stage = .refused ∨ s.stage = .thrown)

/-- A redemption has got past its claim. -/
structure Begun (env : RegistryEnv) (args : RedeemArgs) (db₀ : AuditedRegistry) (s : Redemption) : Prop where
  redeemable : Redeemable env args db₀.registry
  claimed : Claimed env args s.db.registry
  done : Done env args s.db s.stage

/-- A redemption that is begun and throws. -/
def Lost (env : RegistryEnv) (args : RedeemArgs) (db₀ : AuditedRegistry) (s : Redemption) : Prop :=
  Begun env args db₀ s ∧ s.stage = .thrown

lemma notBegun_init (env : RegistryEnv) (args : RedeemArgs) (db₀ : AuditedRegistry) :
    NotBegun db₀ (redemptionMachine env args db₀).init :=
  ⟨rfl, Or.inl rfl⟩

lemma Begun.not_notBegun {s : Redemption} (h : Begun env args db₀ s) : ¬ NotBegun db₀ s := by
  rintro ⟨hdb, -⟩
  have hclaimed := h.claimed
  rw [hdb] at hclaimed
  exact hclaimed.not_redeemable h.redeemable

variable (env args) in
lemma NotBegun.step {s : Redemption} (h : NotBegun db₀ s) (st : Statement) :
    NotBegun db₀ ((redemptionMachine env args db₀).step s st) ∨
      Begun env args db₀ ((redemptionMachine env args db₀).step s st) ∧
        ((redemptionMachine env args db₀).step s st).stage ≠ .thrown := by
  obtain ⟨db, stage⟩ := s
  obtain ⟨hdb, hstage⟩ := h
  simp only at hdb hstage
  subst hdb
  rcases hstage with rfl | rfl | rfl
  · simp only [redemptionMachine, AuditedRegistry.redeemPairToken, Statement.run]
    cases hfails : st.fails with
    | true => exact Or.inl ⟨rfl, Or.inr (Or.inr rfl)⟩
    | false =>
      cases hfind : db.registry.pairTokens.rows.find? (claimable env args.now args.pairToken) with
      | none => exact Or.inl ⟨rfl, Or.inr (Or.inl rfl)⟩
      | some token =>
        right
        refine ⟨⟨?_, claimed_claim hfind, tokenKnown_claim hfind, (find_claimable hfind).1⟩, by simp⟩
        rw [Redeemable, hfind]
        rfl
  · exact Or.inl ⟨rfl, Or.inr (Or.inl rfl)⟩
  · exact Or.inl ⟨rfl, Or.inr (Or.inr rfl)⟩

/-! ## Behind the claim -/

lemma Claimed.stamp {r : Registry} (h : Claimed env args r) (id deviceId : JsString) :
    Claimed env args (r.stamp id deviceId) := by
  obtain ⟨row, hrow, hredeemed⟩ := h
  rw [Claimed, Registry.token, Registry.stamp, Table.get_update _ tokenHash_mem_pairTokenColumns,
    ← Registry.token, hrow, Option.map_some]
  split
  · exact ⟨_, rfl, hredeemed⟩
  · exact ⟨_, rfl, hredeemed⟩

lemma stamped_stamp {r : Registry} {token : PairTokenRow} {device : DeviceRow} (hclaimed : Claimed env args r)
    (hknown : TokenKnown token r) (hhash : token.tokenHash = env.sha256Hex args.pairToken) :
    Stamped env args (r.stamp token.id device.id) device := by
  obtain ⟨row, hrow, hredeemed⟩ := hclaimed
  rw [← hhash] at hrow
  have hstamped := token_stamp hknown device.id hrow
  rw [hhash] at hstamped
  exact ⟨_, hstamped, hredeemed, rfl⟩

lemma enrolled_insert {r : Registry} {draw : Draw} {token : PairTokenRow} {devices : Table deviceColumns}
    (hinsert : r.devices.insert (newDevice env draw args token) = some devices) :
    Enrolled env { r with devices } (newDevice env draw args token) (mintSecret (js "dt") draw.secret) := by
  refine ⟨?_, rfl⟩
  show devices.get DeviceRow.id _ = _
  rw [Table.get_insert hinsert, Table.get_of_insert id_mem_deviceColumns hinsert]
  simp

lemma logged_append {db db' : AuditedRegistry} {draw : Draw} {token : PairTokenRow} {device : DeviceRow}
    (h : appendAuditEvent (devicePaired draw args token device) db = some db') :
    Logged db' token device ∧ db'.registry = db.registry := by
  refine ⟨?_, registry_appendAuditEvent h⟩
  unfold appendAuditEvent at h
  split at h
  · simp at h
  · rename_i audit hinsert
    obtain rfl := Option.some.inj h
    refine ⟨devicePaired draw args token device, ?_, rfl, rfl, rfl⟩
    rw [Table.rows_insert hinsert]
    simp

/-- Behind its claim a redemption goes on where nothing fails, and throws where something does. -/
lemma Begun.step {s : Redemption} (h : Begun env args db₀ s) (hstage : s.stage ≠ .thrown) (st : Statement) :
    Begun env args db₀ ((redemptionMachine env args db₀).step s st) ∧
      (smooth env args s st ↔ ((redemptionMachine env args db₀).step s st).stage ≠ .thrown) := by
  obtain ⟨db, stage⟩ := s
  obtain ⟨hredeemable, hclaimed, hdone⟩ := h
  simp only at hstage hclaimed hdone
  simp only [redemptionMachine, smooth]
  cases stage with
  | claim => exact absurd hdone id
  | refused => exact absurd hdone id
  | thrown => exact absurd rfl hstage
  | returned token device signInToken result =>
    exact ⟨⟨hredeemable, hclaimed, hdone⟩, by simp [AuditedRegistry.redeemPairToken]⟩
  | insert token =>
    obtain ⟨hknown, hhash⟩ := hdone
    simp only [AuditedRegistry.redeemPairToken, Statement.run]
    cases hfails : st.fails with
    | true => exact ⟨⟨hredeemable, hclaimed, trivial⟩, by simp⟩
    | false =>
      cases hinsert : db.registry.devices.insert (newDevice env st.draw args token) with
      | none => exact ⟨⟨hredeemable, hclaimed, trivial⟩, by simp⟩
      | some devices => exact ⟨⟨hredeemable, hclaimed, hknown, hhash, enrolled_insert hinsert⟩, by simp⟩
  | stamp token device deviceToken =>
    obtain ⟨hknown, hhash, henrolled⟩ := hdone
    simp only [AuditedRegistry.redeemPairToken, Statement.run]
    cases hfails : st.fails with
    | true => exact ⟨⟨hredeemable, hclaimed, trivial⟩, by simp⟩
    | false =>
      exact ⟨⟨hredeemable, hclaimed.stamp _ _, stamped_stamp hclaimed hknown hhash, henrolled⟩, by simp⟩
  | audit token device deviceToken =>
    obtain ⟨hstamped, henrolled⟩ := hdone
    simp only [AuditedRegistry.redeemPairToken, Statement.run]
    cases hfails : st.fails with
    | true => exact ⟨⟨hredeemable, hclaimed, trivial⟩, by simp⟩
    | false =>
      cases happend : appendAuditEvent (devicePaired st.draw args token device) db with
      | none =>
        refine ⟨⟨hredeemable, hclaimed, trivial⟩, ?_⟩
        unfold appendAuditEvent at happend
        split at happend
        · rename_i hinsert
          simp [hinsert]
        · simp at happend
      | some db' =>
        obtain ⟨hlogged, hregistry⟩ := logged_append happend
        rw [← hregistry] at hclaimed hstamped henrolled
        refine ⟨⟨hredeemable, hclaimed, hstamped, henrolled, hlogged⟩, ?_⟩
        · unfold appendAuditEvent at happend
          split at happend
          · simp at happend
          · rename_i hinsert
            simp [hinsert]
  | host token device deviceToken =>
    simp only [AuditedRegistry.redeemPairToken, Statement.run]
    cases hfails : st.fails with
    | true => exact ⟨⟨hredeemable, hclaimed, trivial⟩, by simp⟩
    | false =>
      cases hhost : db.registry.hosts.get HostRecord.id token.hostId with
      | none => exact ⟨⟨hredeemable, hclaimed, trivial⟩, by simp⟩
      | some host => exact ⟨⟨hredeemable, hclaimed, hdone⟩, by simp⟩
  | user token device deviceToken host =>
    simp only [AuditedRegistry.redeemPairToken, Statement.run]
    cases hfails : st.fails with
    | true => exact ⟨⟨hredeemable, hclaimed, trivial⟩, by simp⟩
    | false =>
      cases huser : db.users.get UserRow.id token.userId with
      | none => exact ⟨⟨hredeemable, hclaimed, trivial⟩, by simp⟩
      | some user => exact ⟨⟨hredeemable, hclaimed, hdone⟩, by simp⟩
  | signIn token device deviceToken host user =>
    simp only [AuditedRegistry.redeemPairToken, Statement.run]
    cases hfails : st.fails with
    | true => exact ⟨⟨hredeemable, hclaimed, trivial⟩, by simp⟩
    | false => exact ⟨⟨hredeemable, hclaimed, hdone⟩, by simp⟩

/-! ## Every redemption -/

lemma Lost.step {s : Redemption} (h : Lost env args db₀ s) (st : Statement) :
    Lost env args db₀ ((redemptionMachine env args db₀).step s st) := by
  obtain ⟨db, stage⟩ := s
  obtain ⟨hbegun, hstage⟩ := h
  simp only at hstage
  subst hstage
  exact ⟨hbegun, rfl⟩

variable (env args db₀) in
/-- A redemption has not begun, or is begun; and it is lost exactly if something has failed behind its claim. -/
lemma begun_or_notBegun (es : List Statement) :
    (NotBegun db₀ ((redemptionMachine env args db₀).run es) ∨
      Begun env args db₀ ((redemptionMachine env args db₀).run es)) ∧
    ((redemptionMachine env args db₀).Meets (smooth env args) es ↔
      ¬ Lost env args db₀ ((redemptionMachine env args db₀).run es)) := by
  induction es using List.reverseRecOn with
  | nil =>
    refine ⟨Or.inl (notBegun_init env args db₀), iff_of_true (Machine.meets_nil _ _) ?_⟩
    exact fun hlost => hlost.1.not_notBegun (notBegun_init env args db₀)
  | append_singleton es st ih =>
    obtain ⟨hstate, hmeets⟩ := ih
    rw [Machine.run_snoc, Machine.meets_snoc, hmeets]
    generalize (redemptionMachine env args db₀).run es = s at hstate
    rcases hstate with hnot | hbegun
    · -- before the claim every statement is smooth
      have hlost : ¬ Lost env args db₀ s := fun hlost => hlost.1.not_notBegun hnot
      have hsmooth : smooth env args s st := by
        obtain ⟨-, hclaim | hrefused | hthrown⟩ := hnot
        · simp [smooth, hclaim]
        · simp [smooth, hrefused]
        · simp [smooth, hthrown]
      rcases hnot.step env args st with hnot' | ⟨hbegun', hstage⟩
      · exact ⟨Or.inl hnot', iff_of_true ⟨hlost, hsmooth⟩ fun hlost' => hlost'.1.not_notBegun hnot'⟩
      · exact ⟨Or.inr hbegun', iff_of_true ⟨hlost, hsmooth⟩ fun hlost' => hstage hlost'.2⟩
    · by_cases hstage : s.stage = .thrown
      · have hlost : Lost env args db₀ s := ⟨hbegun, hstage⟩
        have hlost' := hlost.step st
        exact ⟨Or.inr hlost'.1, iff_of_false (fun h => h.1 hlost) (fun h => h hlost')⟩
      · obtain ⟨hbegun', hsmooth⟩ := hbegun.step hstage st
        refine ⟨Or.inr hbegun', ?_⟩
        rw [hsmooth]
        constructor
        · rintro ⟨-, hgoes⟩ hlost'
          exact hgoes hlost'.2
        · intro hlost'
          exact ⟨fun hlost => hstage hlost.2, fun hthrown => hlost' ⟨hbegun', hthrown⟩⟩

lemma Begun.later {pre post : List Statement} (h : Begun env args db₀ ((redemptionMachine env args db₀).run pre)) :
    Begun env args db₀ ((redemptionMachine env args db₀).run (pre ++ post)) := by
  induction post using List.reverseRecOn with
  | nil => rwa [List.append_nil]
  | append_singleton post st ih =>
    rw [← List.append_assoc, Machine.run_snoc]
    by_cases hstage : ((redemptionMachine env args db₀).run (pre ++ post)).stage = .thrown
    · exact (Lost.step ⟨ih, hstage⟩ st).1
    · exact (ih.step hstage st).1

lemma redeemAtomic_iff_not_lost (es : List Statement) :
    RedeemAtomic env args db es ↔ ¬ Lost env args db ((redemptionMachine env args db).run es) := by
  obtain ⟨hstate, -⟩ := begun_or_notBegun env args db es
  unfold RedeemAtomic
  dsimp only
  constructor
  · rintro hatomic ⟨hbegun, hstage⟩
    rw [hstage] at hatomic
    exact hbegun.claimed.not_redeemable (hatomic.2 hbegun.redeemable).1
  · intro hlost
    split
    · rename_i token device signInToken result hreturned
      rcases hstate with ⟨-, hstage⟩ | hbegun
      · simp [hreturned] at hstage
      · have hdone := hbegun.done
        rw [hreturned] at hdone
        exact hdone
    · rename_i hthrown
      have hnot : NotBegun db ((redemptionMachine env args db).run es) := by
        rcases hstate with hnot | hbegun
        · exact hnot
        · exact absurd ⟨hbegun, hthrown⟩ hlost
      rw [hnot.1]
      refine ⟨rfl, fun hredeemable => ⟨hredeemable, ?_⟩⟩
      rintro pre post rfl now device
      -- no stretch of the run has got past the claim
      have hpre : NotBegun db ((redemptionMachine env args db).run pre) := by
        rcases (begun_or_notBegun env args db pre).1 with hnot' | hbegun
        · exact hnot'
        · exact absurd hnot hbegun.later.not_notBegun
      rw [hpre.1]
      exact hredeemable.pollStatus_ne now device
    · trivial

/-- A redemption is atomic exactly when no statement behind its claim fails. -/
theorem redeemAtomic_iff (env : RegistryEnv) (args : RedeemArgs) (db : AuditedRegistry) (es : List Statement) :
    RedeemAtomic env args db es ↔ (redemptionMachine env args db).Meets (smooth env args) es := by
  rw [redeemAtomic_iff_not_lost, (begun_or_notBegun env args db es).2]

/-- A database with a host and a pair token. -/
def pairedDatabase : AuditedRegistry where
  registry := ((registryMachine plainRegistryEnv 0).run pairedHost).shared
  users := .empty
  audit := .empty

/-- The redemption of the pair token, whose audit row cannot be written. -/
def unlogged : List Statement :=
  [.ok "" "", .ok "dev_1" "03", .ok "" "", { Statement.ok "" "" with fails := true }]

/-- The redemption throws, and the token is spent. -/
theorem not_redeemAtomic_unlogged :
    ¬ RedeemAtomic plainRegistryEnv ⟨2000, js "pt_02", none, none⟩ pairedDatabase unlogged := by
  intro h
  have hthrown : ((redemptionMachine plainRegistryEnv ⟨2000, js "pt_02", none, none⟩ pairedDatabase).run
      unlogged).stage = .thrown := by decide
  unfold RedeemAtomic at h
  dsimp only at h
  rw [hthrown] at h
  have hbefore : Redeemable plainRegistryEnv ⟨2000, js "pt_02", none, none⟩ pairedDatabase.registry := by
    unfold Redeemable
    decide
  have hafter := (h.2 hbefore).1
  unfold Redeemable at hafter
  revert hafter
  decide

end Pherry.ControlPlane
