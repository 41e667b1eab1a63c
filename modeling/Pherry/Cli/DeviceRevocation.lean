import Pherry.Cli.DeviceVerification

/-!
# Enrollment and revocation by several processes

Any number of processes enroll and revoke devices on one keyring file, the reads and the writes of
each in any order with those of the others. `keyringLaw_of_orderly` is what the keyring promises in
the runs whose writes find the file as their process read it.
-/

namespace Pherry.Cli

open Lib Protocol
open Host (DeviceAuthClaim)

/-! ## The processes -/

/-- What a process does to the keyring. -/
inductive KeyringOp
  | enroll (entry : AuthorizedDevice)
  | revoke (deviceKeyId : JsString) (now : Timestamp)

/-- The device that an operation is about. -/
def KeyringOp.id : KeyringOp → JsString
  | enroll entry => entry.deviceKeyId
  | revoke deviceKeyId _ => deviceKeyId

/-- What an operation makes of the file it reads. -/
def keyringPlan (env : DeviceCrypto) (c : Collation) (path : JsString) :
    KeyringOp → FileContent → Plan FileContent
  | .enroll entry, file =>
    match writeAuthorizedDevice env c path entry file with
    | .error _ => .fails
    | .ok next => .writes next
  | .revoke deviceKeyId now, file =>
    match revokeAuthorizedDevice path deviceKeyId now.1 file with
    | .error _ => .fails
    | .ok none => .leaves
    | .ok (some next) => .writes next

/-- Processes that enroll and revoke devices on one file. -/
def keyringMachine (env : DeviceCrypto) (c : Collation) (path : JsString) (file : FileContent) :
    Machine (ReadModifyWrite.State FileContent KeyringOp) (ReadModifyWrite.Event KeyringOp) :=
  ReadModifyWrite.machine (keyringPlan env c path) file

/-- The entries of an id, of a keyring that parses. -/
def entriesAt (path id : JsString) (file : FileContent) : Option (List AuthorizedDevice) :=
  match readAuthorizedDevices path file with
  | .error _ => none
  | .ok devices => some (entriesOf AuthorizedDevice.deviceKeyId id devices)

/-- A keyring that parses has every id once. -/
def UniqueIds (path : JsString) (file : FileContent) : Prop :=
  ∀ devices, readAuthorizedDevices path file = .ok devices →
    UniqueKeys AuthorizedDevice.deviceKeyId devices

/-- Behind a revocation that has returned no claim of its device is let in, unless an enrollment of
the device that began later has completed; ids stay unique; a step changes no entries but those of
the device that it writes. -/
structure KeyringLaw (env : DeviceCrypto) (c : Collation) (path : JsString) (file : FileContent)
    (es : List (ReadModifyWrite.Event KeyringOp)) : Prop where
  sticks : ∀ k id now began,
    ((keyringMachine env c path file).run es).shared.log[k]? = some ⟨.revoke id now, began⟩ →
    (∀ d ∈ ((keyringMachine env c path file).run es).shared.log, ∀ entry, d.op = .enroll entry →
      entry.deviceKeyId = id → d.began ≤ k) →
    ∀ hostId (claim : DeviceAuthClaim), claim.deviceKeyId = id →
      buildVerifyDevice env path hostId ((keyringMachine env c path file).run es).shared.content
        claim = .ok false
  unique : UniqueIds path file →
    UniqueIds path ((keyringMachine env c path file).run es).shared.content
  others : ∀ pre e post, es = pre ++ e :: post → ∀ id,
    (∀ i call, e = .write i → ((keyringMachine env c path file).run pre).calls[i]? = some call →
      call.op.id ≠ id) →
    entriesAt path id ((keyringMachine env c path file).run (pre ++ [e])).shared.content =
      entriesAt path id ((keyringMachine env c path file).run pre).shared.content

/-- What a write must meet besides: an enrolled device has no empty text, and no revocation of it has
returned since the enrollment began. -/
def NotOvertaken (cell : ReadModifyWrite.Cell FileContent KeyringOp)
    (d : ReadModifyWrite.Done KeyringOp) : Prop :=
  ∀ entry, d.op = .enroll entry → entry.WellFormed ∧
    ∀ earlier ∈ cell.log.drop d.began, ∀ now, earlier.op ≠ .revoke entry.deviceKeyId now

/-! ## What a write leaves -/

variable {env : DeviceCrypto} {c : Collation} {path : JsString} {file : FileContent}

lemma keyringPlan_writes {op : KeyringOp} {next : FileContent}
    (hok : ∀ entry, op = .enroll entry → entry.WellFormed)
    (h : keyringPlan env c path op file = .writes next) :
    ∃ devices devices', readAuthorizedDevices path file = .ok devices ∧
      readAuthorizedDevices path next = .ok devices' ∧
      (∀ id, id ≠ op.id → entriesOf AuthorizedDevice.deviceKeyId id devices' =
        entriesOf AuthorizedDevice.deviceKeyId id devices) ∧
      (∀ deviceKeyId now, op = .revoke deviceKeyId now →
        ∃ d, (entriesOf AuthorizedDevice.deviceKeyId deviceKeyId devices').head? = some d ∧
          d.revokedAt = some now.1) ∧
      (UniqueKeys AuthorizedDevice.deviceKeyId devices →
        UniqueKeys AuthorizedDevice.deviceKeyId devices') := by
  cases op with
  | enroll entry =>
    rw [keyringPlan, writeAuthorizedDevice] at h
    split at h
    · cases h
    next written hwritten =>
    cases h
    split at hwritten
    · cases hread : readAuthorizedDevices path file with
      | error e =>
        rw [hread] at hwritten
        cases hwritten
      | ok devices =>
        rw [hread] at hwritten
        cases hwritten
        have hformed : ∀ d ∈ replaceEntry c AuthorizedDevice.deviceKeyId entry devices,
            d.WellFormed := by
          intro d hd
          rcases (mem_replaceEntry c _).1 hd with ⟨hd, -⟩ | rfl
          · exact devicesFile_lawful.ok_of_read hread d hd
          · exact hok d rfl
        refine ⟨devices, _, rfl, devicesFile_lawful.read_written path hformed, fun id hne => ?_,
          fun deviceKeyId now hop => ?_, uniqueKeys_replaceEntry c _⟩
        · rw [entriesOf_replaceEntry]
          exact if_neg hne
        · cases hop
    · cases hwritten
  | revoke deviceKeyId now =>
    rw [keyringPlan, revokeAuthorizedDevice] at h
    cases hread : readAuthorizedDevices path file with
    | error e =>
      rw [hread] at h
      cases h
    | ok devices =>
      rw [hread] at h
      cases hrevoke : revokeFirst deviceKeyId now.1 devices with
      | none =>
        simp only [bind, Except.bind, pure, Except.pure, hrevoke, Option.map_none] at h
        cases h
      | some revoked =>
        simp only [bind, Except.bind, pure, Except.pure, hrevoke, Option.map_some] at h
        cases h
        obtain ⟨hkeys, hothers, hhead, hformed⟩ := revokeFirst_spec hrevoke
        refine ⟨devices, revoked, rfl, devicesFile_lawful.read_written path
          (hformed now.2 (devicesFile_lawful.ok_of_read hread)), hothers, ?_, fun hunique => ?_⟩
        · intro id now' hop
          cases hop
          exact hhead
        · rw [UniqueKeys, hkeys]
          exact hunique

lemma keyringPlan_leaves {op : KeyringOp} (h : keyringPlan env c path op file = .leaves) :
    ∃ deviceKeyId now devices, op = .revoke deviceKeyId now ∧
      readAuthorizedDevices path file = .ok devices ∧
      entriesOf AuthorizedDevice.deviceKeyId deviceKeyId devices = [] := by
  cases op with
  | enroll entry =>
    rw [keyringPlan] at h
    split at h
    · cases h
    · cases h
  | revoke deviceKeyId now =>
    rw [keyringPlan, revokeAuthorizedDevice] at h
    cases hread : readAuthorizedDevices path file with
    | error e =>
      rw [hread] at h
      cases h
    | ok devices =>
      rw [hread] at h
      cases hrevoke : revokeFirst deviceKeyId now.1 devices with
      | none => exact ⟨deviceKeyId, now, devices, rfl, rfl, revokeFirst_eq_none hrevoke⟩
      | some revoked =>
        simp only [bind, Except.bind, pure, Except.pure, hrevoke, Option.map_some] at h
        cases h

/-! ## Revoked devices -/

/-- The first entry of an id, if there is one, is revoked. -/
def Barred (path id : JsString) (file : FileContent) : Prop :=
  ∀ devices d, readAuthorizedDevices path file = .ok devices →
    (entriesOf AuthorizedDevice.deviceKeyId id devices).head? = some d → d.revokedAt ≠ none

lemma buildVerifyDevice_of_barred {claim : DeviceAuthClaim}
    (h : Barred path claim.deviceKeyId file) (hostId : JsString) :
    buildVerifyDevice env path hostId file claim = .ok false := by
  rw [buildVerifyDevice, lookupAuthorizedDevice]
  cases hread : readAuthorizedDevices path file with
  | error e => rfl
  | ok devices =>
    cases hfind : devices.find? fun device => device.deviceKeyId = claim.deviceKeyId with
    | none =>
      simp only [bind, Except.bind, pure, Except.pure, hfind]
    | some device =>
      have hhead : (entriesOf AuthorizedDevice.deviceKeyId claim.deviceKeyId devices).head? =
          some device := by
        rw [entriesOf, List.head?_filter]
        exact hfind
      simp only [bind, Except.bind, pure, Except.pure, hfind, if_pos (h devices device hread hhead)]

lemma Barred.of_entries {id : JsString} {next : FileContent}
    {devices devices' : List AuthorizedDevice} (h : Barred path id file)
    (hread : readAuthorizedDevices path file = .ok devices)
    (hread' : readAuthorizedDevices path next = .ok devices')
    (hsame : entriesOf AuthorizedDevice.deviceKeyId id devices' =
      entriesOf AuthorizedDevice.deviceKeyId id devices) : Barred path id next := by
  intro found d hfound hhead
  rw [hread'] at hfound
  cases hfound
  rw [hsame] at hhead
  exact h devices d hread hhead

/-- A revoked device is barred unless an enrollment of it that began later has completed. -/
def RevokedBarred (path : JsString) (cell : ReadModifyWrite.Cell FileContent KeyringOp) : Prop :=
  ∀ k id now began, cell.log[k]? = some ⟨.revoke id now, began⟩ →
    (∀ d ∈ cell.log, ∀ entry, d.op = .enroll entry → entry.deviceKeyId = id → d.began ≤ k) →
    Barred path id cell.content

lemma revokedBarred_leaves {cell : ReadModifyWrite.Cell FileContent KeyringOp}
    {d : ReadModifyWrite.Done KeyringOp} (h : RevokedBarred path cell)
    (hplan : keyringPlan env c path d.op cell.content = .leaves) :
    RevokedBarred path ⟨cell.content, cell.log ++ [d]⟩ := by
  intro k id now began hk hlater
  rcases getElem?_snoc hk with hold | ⟨-, rfl⟩
  · exact h k id now began hold fun d' hd' => hlater d' (List.mem_append_left _ hd')
  · obtain ⟨deviceKeyId, now', devices, hop, hread, hnone⟩ := keyringPlan_leaves hplan
    cases hop
    intro found d' hfound hhead
    rw [hread] at hfound
    cases hfound
    rw [hnone] at hhead
    cases hhead

lemma revokedBarred_writes {cell : ReadModifyWrite.Cell FileContent KeyringOp}
    {d : ReadModifyWrite.Done KeyringOp} {next : FileContent} (h : RevokedBarred path cell)
    (hcond : NotOvertaken cell d)
    (hplan : keyringPlan env c path d.op cell.content = .writes next) :
    RevokedBarred path ⟨next, cell.log ++ [d]⟩ := by
  obtain ⟨devices, devices', hread, hread', hothers, hrevoked, -⟩ :=
    keyringPlan_writes (fun entry hop => (hcond entry hop).1) hplan
  intro k id now began hk hlater
  by_cases hid : id = d.op.id
  · -- the operation is a revocation: an enrollment would have been overtaken by this one
    cases hop : d.op with
    | revoke deviceKeyId now' =>
      obtain ⟨first, hfirst, hat⟩ := hrevoked deviceKeyId now' hop
      have hdevice : id = deviceKeyId := by
        rw [hid, hop]
        rfl
      intro found other hfound hhead
      rw [hread'] at hfound
      cases hfound
      rw [hdevice, hfirst] at hhead
      cases hhead
      rw [hat]
      exact Option.some_ne_none _
    | enroll entry =>
      exfalso
      have hdevice : id = entry.deviceKeyId := by
        rw [hid, hop]
        rfl
      subst hdevice
      have hbegan := hlater d (by simp) entry hop rfl
      rcases getElem?_snoc hk with hold | ⟨-, heq⟩
      · have hmem : (⟨.revoke entry.deviceKeyId now, began⟩ : ReadModifyWrite.Done KeyringOp) ∈
            cell.log.drop d.began := by
          refine List.mem_of_getElem? (i := k - d.began) ?_
          rw [List.getElem?_drop, Nat.add_sub_cancel' hbegan]
          exact hold
        exact (hcond entry hop).2 _ hmem now rfl
      · rw [← heq] at hop
        cases hop
  · rcases getElem?_snoc hk with hold | ⟨-, rfl⟩
    · exact (h k id now began hold fun d' hd' => hlater d' (List.mem_append_left _ hd')).of_entries
        hread hread' (hothers id hid)
    · exact absurd rfl hid

/-- **Enrollment and revocation.** Where every write finds the file as its process read it, enrolls a
device without an empty text, and is overtaken by no revocation of that device, revocation sticks,
ids stay unique and no other device's entry changes. -/
theorem keyringLaw_of_orderly (env : DeviceCrypto) (c : Collation) (path : JsString)
    (file : FileContent) (es : List (ReadModifyWrite.Event KeyringOp))
    (hes : (keyringMachine env c path file).Meets (ReadModifyWrite.Fresh NotOvertaken) es) :
    KeyringLaw env c path file es := by
  constructor
  · intro k id now began hk hlater hostId claim hclaim
    have hbarred : RevokedBarred path ((keyringMachine env c path file).run es).shared := by
      refine ReadModifyWrite.invariant ?_ ?_ ?_ hes
      · intro k id now began hk
        cases hk
      · intro cell d hcell hplan
        exact revokedBarred_leaves hcell hplan
      · intro cell d next hcell hcond hplan
        exact revokedBarred_writes hcell hcond hplan
    subst hclaim
    exact buildVerifyDevice_of_barred (hbarred k _ now began hk hlater) hostId
  · intro hunique
    refine ReadModifyWrite.invariant (p := fun cell => UniqueIds path cell.content)
      hunique (fun cell d hcell _ => hcell) ?_ hes
    intro cell d next hcell hcond hplan
    obtain ⟨devices, devices', hread, hread', -, -, hkeys⟩ :=
      keyringPlan_writes (fun entry hop => (hcond entry hop).1) hplan
    intro found hfound
    rw [hread'] at hfound
    cases hfound
    exact hkeys (hcell devices hread)
  · intro pre e post hsplit id hother
    rcases ReadModifyWrite.step_cases (hes pre e post hsplit) with
      hsame | ⟨d, -, hlogged⟩ | ⟨i, call, next, rfl, hcall, hcond, hplan, hwritten⟩
    · exact congrArg (fun cell => entriesAt path id cell.content) hsame
    · exact congrArg (fun cell => entriesAt path id cell.content) hlogged
    · obtain ⟨devices, devices', hread, hread', hothers, -, -⟩ :=
        keyringPlan_writes (fun entry hop => (hcond entry hop).1) hplan
      have hentries := hothers id fun heq => hother i call rfl hcall heq.symm
      rw [show ((keyringMachine env c path file).run (pre ++ [.write i])).shared = _ from hwritten]
      rw [entriesAt, entriesAt, hread']
      simp only
      rw [show readAuthorizedDevices path ((keyringMachine env c path file).run pre).shared.content =
        .ok devices from hread]
      simp only [hentries]

/-! ## Two devices -/

/-- A phone. -/
def phone : AuthorizedDevice := oneDevice (js "8f2a91c34d7e0b55") (List.replicate 65 4)

/-- Another phone. -/
def otherPhone : AuthorizedDevice := oneDevice (js "0123456789abcdef") (List.replicate 65 5)

lemma wellFormed_phone : phone.WellFormed ∧ otherPhone.WellFormed :=
  ⟨wellFormed_oneDevice (by decide) (by decide), wellFormed_oneDevice (by decide) (by decide)⟩

lemma otherPhone_ne : otherPhone.deviceKeyId ≠ phone.deviceKeyId := by decide

lemma find_phone : [otherPhone, phone].find? (fun d => d.deviceKeyId = js "8f2a91c34d7e0b55") =
    some (oneDevice (js "8f2a91c34d7e0b55") (List.replicate 65 4)) := by decide +kernel

lemma keyringPlan_enroll {env : DeviceCrypto} {file : FileContent}
    {devices : List AuthorizedDevice} {deviceKeyId : JsString} {publicKey : Bytes}
    (hkey : publicKey.length = devicePublicKeyBytes) (hvalid : env.isValidPublicKey publicKey = true)
    (hread : readAuthorizedDevices path file = .ok devices) :
    keyringPlan env c path (.enroll (oneDevice deviceKeyId publicKey)) file =
      .writes (devicesFile.written (replaceEntry c AuthorizedDevice.deviceKeyId
        (oneDevice deviceKeyId publicKey) devices)) := by
  have henrollable : isEnrollable env (oneDevice deviceKeyId publicKey).publicKeyB64 = true := by
    rw [isEnrollable, oneDevice, bufferFromBase64_base64, hkey, hvalid]
    simp
  rw [keyringPlan, writeAuthorizedDevice, if_pos henrollable, hread]
  rfl

lemma keyringPlan_revoke {env : DeviceCrypto} {file : FileContent} {deviceKeyId : JsString}
    {now : Timestamp} {devices revoked : List AuthorizedDevice}
    (hread : readAuthorizedDevices path file = .ok devices)
    (hrevoke : revokeFirst deviceKeyId now.1 devices = some revoked) :
    keyringPlan env c path (.revoke deviceKeyId now) file =
      .writes (devicesFile.written revoked) := by
  rw [keyringPlan, revokeAuthorizedDevice, hread]
  simp only [bind, Except.bind, pure, Except.pure, hrevoke, Option.map_some]

/-- A time. -/
def noon : Timestamp := ⟨js "2026-01-01T12:00:00.000Z", by decide⟩

/-- The keyring of the phone. -/
def phoneFile : FileContent := devicesFile.written [phone]

lemma read_phoneFile : readAuthorizedDevices [] phoneFile = .ok [phone] :=
  devicesFile_lawful.read_written [] (by simpa using wellFormed_phone.1)

/-- The phone once it is revoked. -/
def revokedPhone : AuthorizedDevice := { phone with revokedAt := some noon.1 }

lemma revokeFirst_phone :
    revokeFirst phone.deviceKeyId noon.1 [phone] = some [revokedPhone] := by
  rw [revokeFirst, if_pos rfl]
  rfl

/-- A phone that is enrolled on a machine without a keyring, and revoked. -/
theorem keyringLaw_revoked : KeyringLaw (signedOnce (js "host_1")) codeUnitOrder [] .missing
    ([] ++ [.begin (.enroll phone)] ++ [.read 0] ++ [.write 0] ++
      [.begin (.revoke phone.deviceKeyId noon)] ++ [.read 1] ++ [.write 1]) := by
  have henroll : keyringPlan (signedOnce (js "host_1")) codeUnitOrder [] (.enroll phone) .missing =
      .writes phoneFile := by
    have hsorted : replaceEntry codeUnitOrder AuthorizedDevice.deviceKeyId phone [] = [phone] := by
      decide +kernel
    rw [phoneFile, ← hsorted]
    exact keyringPlan_enroll rfl rfl rfl
  have hrevoke : keyringPlan (signedOnce (js "host_1")) codeUnitOrder []
      (.revoke phone.deviceKeyId noon) phoneFile = .writes (devicesFile.written [revokedPhone]) :=
    keyringPlan_revoke read_phoneFile revokeFirst_phone
  obtain ⟨hshared, hcalls, hfresh⟩ :=
    ReadModifyWrite.run_alone NotOvertaken [] (.enroll phone) (n := 0) henroll rfl
  have hrevoke' : keyringPlan (signedOnce (js "host_1")) codeUnitOrder []
      (.revoke phone.deviceKeyId noon)
      ((ReadModifyWrite.machine (keyringPlan (signedOnce (js "host_1")) codeUnitOrder []) .missing).run
        ([] ++ [.begin (.enroll phone)] ++ [.read 0] ++ [.write 0])).shared.content =
      .writes (devicesFile.written [revokedPhone]) := by
    rw [hshared]
    exact hrevoke
  obtain ⟨-, -, hfresh'⟩ := ReadModifyWrite.run_alone NotOvertaken _ _ hrevoke' (n := 1) (by
    rw [hcalls]
    rfl)
  refine keyringLaw_of_orderly _ _ _ _ _ (hfresh' (hfresh (Machine.meets_nil _ _) ?_) ?_)
  · intro entry hop
    cases hop
    exact ⟨wellFormed_phone.1, by simp⟩
  · intro entry hop
    cases hop

/-- A phone is revoked while the process that enrolls another has read the file, and is let in again
behind the write of that process. -/
theorem not_keyringLaw_lostUpdate : ¬ ∀ env c path file es, KeyringLaw env c path file es := by
  intro hall
  have henroll : keyringPlan (signedOnce (js "host_1")) codeUnitOrder [] (.enroll otherPhone)
      phoneFile = .writes (devicesFile.written [otherPhone, phone]) := by
    have hsorted : replaceEntry codeUnitOrder AuthorizedDevice.deviceKeyId otherPhone [phone] =
        [otherPhone, phone] := by decide +kernel
    rw [← hsorted]
    exact keyringPlan_enroll rfl rfl read_phoneFile
  have hrevoke : keyringPlan (signedOnce (js "host_1")) codeUnitOrder []
      (.revoke phone.deviceKeyId noon) phoneFile = .writes (devicesFile.written [revokedPhone]) :=
    keyringPlan_revoke read_phoneFile revokeFirst_phone
  have hread : (ReadModifyWrite.machine (keyringPlan (signedOnce (js "host_1")) codeUnitOrder [])
      phoneFile).run [.begin (.enroll otherPhone), .read 0] =
      ⟨⟨phoneFile, []⟩, [⟨.enroll otherPhone, 0,
        .holding phoneFile (devicesFile.written [otherPhone, phone])⟩]⟩ := by
    show (⟨⟨phoneFile, []⟩, [⟨.enroll otherPhone, 0, .begun⟩]⟩ :
      ReadModifyWrite.State FileContent KeyringOp).advance 0 _ = _
    rw [Concurrent.advance_of_some rfl, ReadModifyWrite.read]
    simp only [henroll]
    rfl
  have hrevoke' : keyringPlan (signedOnce (js "host_1")) codeUnitOrder []
      (.revoke phone.deviceKeyId noon)
      ((ReadModifyWrite.machine (keyringPlan (signedOnce (js "host_1")) codeUnitOrder []) phoneFile).run
        [.begin (.enroll otherPhone), .read 0]).shared.content =
      .writes (devicesFile.written [revokedPhone]) := by
    rw [hread]
    exact hrevoke
  obtain ⟨hshared, hcalls, -⟩ := ReadModifyWrite.run_alone NotOvertaken _ _ hrevoke' (n := 1) (by
    rw [hread]
    rfl)
  have hrun : ((keyringMachine (signedOnce (js "host_1")) codeUnitOrder [] phoneFile).run
      ([.begin (.enroll otherPhone), .read 0] ++ [.begin (.revoke phone.deviceKeyId noon)] ++
        [.read 1] ++ [.write 1] ++ [.write 0])).shared =
      ⟨devicesFile.written [otherPhone, phone],
        [⟨.revoke phone.deviceKeyId noon, 0⟩, ⟨.enroll otherPhone, 0⟩]⟩ := by
    rw [hread] at hshared hcalls
    have hwriter : ((ReadModifyWrite.machine (keyringPlan (signedOnce (js "host_1")) codeUnitOrder [])
        phoneFile).run ([.begin (.enroll otherPhone), .read 0] ++
          [.begin (.revoke phone.deviceKeyId noon)] ++ [.read 1] ++ [.write 1])).calls[0]? =
        some ⟨.enroll otherPhone, 0,
          .holding phoneFile (devicesFile.written [otherPhone, phone])⟩ := by
      rw [hcalls]
      rfl
    rw [Machine.run_snoc]
    refine (congrArg Concurrent.shared
      (Concurrent.advance_of_some hwriter ReadModifyWrite.write)).trans ?_
    show (ReadModifyWrite.write (Concurrent.shared ((ReadModifyWrite.machine _ _).run _)) _).1 = _
    rw [hshared]
    rfl
  have hlaw := (hall (signedOnce (js "host_1")) codeUnitOrder [] phoneFile _).sticks 0 phone.deviceKeyId
    noon 0 (by rw [hrun]; rfl) (by
      rw [hrun]
      intro d hd entry hop hid
      rcases List.mem_cons.1 hd with rfl | hd
      · cases hop
      · rw [List.mem_singleton.1 hd] at hop
        cases hop
        exact absurd hid otherPhone_ne) (js "host_1")
    ⟨js "8f2a91c34d7e0b55", base64 (List.replicate 64 1), (Bytes32.repeat 7).1⟩ rfl
  rw [hrun] at hlaw
  have hboth' : readAuthorizedDevices [] (devicesFile.written [otherPhone, phone]) =
      .ok [otherPhone, phone] :=
    devicesFile_lawful.read_written [] (by simpa using wellFormed_phone.symm)
  have hgenuine : Genuine (signedOnce (js "host_1")) [] (js "host_1")
      (devicesFile.written [otherPhone, phone])
      ⟨js "8f2a91c34d7e0b55", base64 (List.replicate 64 1), (Bytes32.repeat 7).1⟩ :=
    genuine_of_signed hboth' find_phone rfl rfl (congrArg Except.ok (decide_eq_true rfl))
  have hboth := hlaw.symm.trans (buildVerifyDevice_iff.2 hgenuine)
  cases hboth

end Pherry.Cli
