import Pherry.Protocol.Schema

/-!
# The webhook of the identity provider

The deliveries of `POST /v1/webhooks/clerk` behind their signature, and the `users` and `orgs` tables
they keep. A table is read by its unique column: a user by the id at the provider, whose own row id
nothing here reads, an organization by its id.
-/

namespace Pherry.ControlPlane

open Protocol

/-! ## Deliveries -/

/-- `z.string().min(1)`. -/
def nonEmptyString : Option Json → Option JsString
  | some (.str s) => if s.length ≥ 1 then some s else none
  | _ => none

/-- `z.string().optional()`. -/
def optionalString : Option Json → Option (Option JsString)
  | none => some none
  | some (.str s) => some (some s)
  | _ => none

/-- `UserEventData`. -/
def userEventData (data : Json) : Option JsString := nonEmptyString (data.get (js "id"))

/-- `OrgEventData`. -/
def orgEventData (data : Json) : Option (JsString × Option JsString) := do
  let id ← nonEmptyString (data.get (js "id"))
  let name ← optionalString (data.get (js "name"))
  return (id, name)

/-- `MembershipEventData`: the organization, and the user. -/
def membershipEventData (data : Json) : Option ((JsString × Option JsString) × JsString) := do
  let organization ← data.get (js "organization")
  let org ← orgEventData organization
  let user ← data.get (js "public_user_data")
  let userId ← nonEmptyString (user.get (js "user_id"))
  return (org, userId)

/-- `ClerkEvent`. -/
def clerkEvent (body : Json) : Option (JsString × Json) :=
  match body.get (js "type"), body.get (js "data") with
  | some (.str type), some (.obj fields) => some (type, .obj fields)
  | _, _ => none

/-- What a delivery is about. -/
inductive Sync
  | user (clerkUserId : JsString)
  | organization (id : JsString) (name : Option JsString)
  | membership (orgId : JsString) (orgName : Option JsString) (clerkUserId : JsString)
  | removal (orgId clerkUserId : JsString)
  | ignored
deriving DecidableEq

/-- The dispatch of `handleEvent`; what its schema does not accept is ignored. -/
def syncOf (body : Json) : Sync :=
  match clerkEvent body with
  | none => .ignored
  | some (type, data) =>
    if type = js "user.created" ∨ type = js "user.updated" then
      match userEventData data with
      | none => .ignored
      | some id => .user id
    else if type = js "organization.created" then
      match orgEventData data with
      | none => .ignored
      | some (id, name) => .organization id name
    else if type = js "organizationMembership.created" then
      match membershipEventData data with
      | none => .ignored
      | some ((id, name), userId) => .membership id name userId
    else if type = js "organizationMembership.deleted" then
      match membershipEventData data with
      | none => .ignored
      | some ((id, _), userId) => .removal id userId
    else .ignored

/-! ## The tables -/

/-- `users`, with the primary organization of each, and `orgs`, with the name of each. -/
structure Tenancy where
  users : JsString → Option (Option JsString)
  orgs : JsString → Option JsString

namespace Tenancy

/-- No row is there yet. -/
def empty : Tenancy := ⟨fun _ => none, fun _ => none⟩

/-- Insert or update an organization. -/
def upsertOrg (t : Tenancy) (id name : JsString) : Tenancy :=
  { t with orgs := Function.update t.orgs id (some name) }

/-- Insert an organization unless it is there. -/
def ensureOrg (t : Tenancy) (id name : JsString) : Tenancy :=
  { t with orgs := Function.update t.orgs id ((t.orgs id).or (some name)) }

/-- Insert a user unless it is there. -/
def upsertUser (t : Tenancy) (clerkUserId : JsString) : Tenancy :=
  { t with users := Function.update t.users clerkUserId ((t.users clerkUserId).or (some none)) }

/-- Set the primary organization of a user that has none. -/
def adopt (t : Tenancy) (clerkUserId orgId : JsString) : Tenancy :=
  { t with
    users := Function.update t.users clerkUserId
      ((t.users clerkUserId).map fun primary => primary.or (some orgId)) }

/-- Clear the primary organization of a user where it is this one. -/
def offboard (t : Tenancy) (clerkUserId orgId : JsString) : Tenancy :=
  { t with
    users := Function.update t.users clerkUserId
      ((t.users clerkUserId).map fun primary => if primary = some orgId then none else primary) }

/-- `handleEvent`. -/
def handle (t : Tenancy) : Sync → Tenancy
  | .user clerkUserId => t.upsertUser clerkUserId
  | .organization id name => t.upsertOrg id (name.getD id)
  | .membership orgId orgName clerkUserId =>
    (t.ensureOrg orgId (orgName.getD orgId)).adopt clerkUserId orgId
  | .removal orgId clerkUserId => t.offboard clerkUserId orgId
  | .ignored => t

end Tenancy

/-- The tables behind some deliveries, in this order. -/
def deliverAll (bodies : List Json) : Tenancy :=
  bodies.foldl (fun t body => t.handle (syncOf body)) .empty

/-! ## One consistent state -/

/-- The organization that a delivery names, with its name. -/
def Sync.named : Sync → Option (JsString × JsString)
  | .organization id name => some (id, name.getD id)
  | .membership orgId orgName _ => some (orgId, orgName.getD orgId)
  | _ => none

/-- The membership that a delivery reports. -/
def Sync.member : Sync → Option (JsString × JsString)
  | .membership orgId _ clerkUserId => some (clerkUserId, orgId)
  | _ => none

/-- Deliveries of one state: nothing is removed, and an organization has one name. -/
structure Consistent (bodies : List Json) : Prop where
  kept : ∀ body ∈ bodies, ∀ orgId clerkUserId, syncOf body ≠ .removal orgId clerkUserId
  names : ∀ body ∈ bodies, ∀ body' ∈ bodies, ∀ id name name',
    (syncOf body).named = some (id, name) → (syncOf body').named = some (id, name') → name = name'

/-- A membership is only delivered behind its user. -/
def UsersFirst (bodies : List Json) : Prop :=
  ∀ pre body post, bodies = pre ++ body :: post → ∀ clerkUserId orgId,
    (syncOf body).member = some (clerkUserId, orgId) →
    ∃ earlier ∈ pre, syncOf earlier = .user clerkUserId

/-- The organization of the first membership of a user that is delivered. -/
def firstMembership (clerkUserId : JsString) (bodies : List Json) : Option JsString :=
  (bodies.filterMap fun body =>
    match (syncOf body).member with
    | some (user, orgId) => if user = clerkUserId then some orgId else none
    | none => none).head?

/-! ## The organizations -/

lemma deliverAll_snoc (bodies : List Json) (body : Json) :
    deliverAll (bodies ++ [body]) = (deliverAll bodies).handle (syncOf body) := by
  rw [deliverAll, List.foldl_append]
  rfl

namespace Tenancy

variable {t : Tenancy} {id : JsString}

lemma orgs_handle_of_unnamed {d : Sync} (h : ∀ name, d.named ≠ some (id, name)) :
    (t.handle d).orgs id = t.orgs id := by
  cases d with
  | user clerkUserId => rfl
  | organization org name =>
    have hne : id ≠ org := by
      rintro rfl
      exact h _ rfl
    exact Function.update_of_ne hne _ _
  | membership org name clerkUserId =>
    have hne : id ≠ org := by
      rintro rfl
      exact h _ rfl
    exact Function.update_of_ne hne _ _
  | removal org clerkUserId => rfl
  | ignored => rfl

/-- An organization that a delivery names is there behind it, under a name it had or this one. -/
lemma orgs_handle_of_named {d : Sync} {name : JsString} (h : d.named = some (id, name)) :
    (t.handle d).orgs id = some name ∨ (t.orgs id).isSome = true ∧ (t.handle d).orgs id = t.orgs id := by
  cases d with
  | user clerkUserId => cases h
  | organization org orgName =>
    cases h
    exact Or.inl (Function.update_self _ _ _)
  | membership org orgName clerkUserId =>
    cases h
    have horgs : (t.handle (.membership id orgName clerkUserId)).orgs id =
        (t.orgs id).or (some (orgName.getD id)) := Function.update_self _ _ _
    rw [horgs]
    cases t.orgs id with
    | none => exact Or.inl rfl
    | some old => exact Or.inr ⟨rfl, rfl⟩
  | removal org clerkUserId => cases h
  | ignored => cases h

end Tenancy

/-- An organization has a row exactly when a delivery names it, and the row has a name that one of
them gives. -/
lemma orgs_deliverAll (bodies : List Json) (id : JsString) :
    (∀ name, (deliverAll bodies).orgs id = some name →
      ∃ body ∈ bodies, (syncOf body).named = some (id, name)) ∧
    ((deliverAll bodies).orgs id = none →
      ∀ body ∈ bodies, ∀ name, (syncOf body).named ≠ some (id, name)) := by
  induction bodies using List.reverseRecOn with
  | nil =>
    refine ⟨fun _ hname => ?_, fun _ body hbody => ?_⟩
    · cases hname
    · cases hbody
  | append_singleton bodies body ih =>
    rw [deliverAll_snoc]
    have hold : ∀ name, (deliverAll bodies).orgs id = some name →
        ∃ b ∈ bodies ++ [body], (syncOf b).named = some (id, name) := by
      intro name hname
      obtain ⟨b, hb, hnamed⟩ := ih.1 name hname
      exact ⟨b, List.mem_append_left _ hb, hnamed⟩
    by_cases hnamed : ∃ name, (syncOf body).named = some (id, name)
    · obtain ⟨name, hname⟩ := hnamed
      rcases Tenancy.orgs_handle_of_named (t := deliverAll bodies) hname with hnew | ⟨hsome, hsame⟩
      · rw [hnew]
        refine ⟨fun other hother => ?_, fun hnone => by cases hnone⟩
        cases hother
        exact ⟨body, by simp, hname⟩
      · rw [hsame]
        refine ⟨hold, fun hnone => ?_⟩
        rw [hnone] at hsome
        cases hsome
    · rw [Tenancy.orgs_handle_of_unnamed fun name hname => hnamed ⟨name, hname⟩]
      refine ⟨hold, fun hnone b hb name hname => ?_⟩
      rcases List.mem_append.1 hb with hb | hb
      · exact ih.2 hnone b hb name hname
      · rw [List.mem_singleton.1 hb] at hname
        exact hnamed ⟨name, hname⟩

/-- The organizations do not depend on the order of deliveries of one state, nor on repetitions. -/
lemma orgs_eq {bodies bodies' : List Json} (hstate : Consistent bodies)
    (hsame : ∀ body, body ∈ bodies ↔ body ∈ bodies') :
    (deliverAll bodies).orgs = (deliverAll bodies').orgs := by
  funext id
  obtain ⟨hsome, hnone⟩ := orgs_deliverAll bodies id
  obtain ⟨hsome', hnone'⟩ := orgs_deliverAll bodies' id
  cases horg : (deliverAll bodies).orgs id with
  | none =>
    cases horg' : (deliverAll bodies').orgs id with
    | none => rfl
    | some name =>
      obtain ⟨body, hbody, hnamed⟩ := hsome' name horg'
      exact absurd hnamed (hnone horg body ((hsame body).2 hbody) name)
  | some name =>
    obtain ⟨body, hbody, hnamed⟩ := hsome name horg
    cases horg' : (deliverAll bodies').orgs id with
    | none => exact absurd hnamed (hnone' horg' body ((hsame body).1 hbody) name)
    | some name' =>
      obtain ⟨body', hbody', hnamed'⟩ := hsome' name' horg'
      rw [hstate.names body hbody body' ((hsame body').2 hbody') id name name' hnamed hnamed']

/-! ## The users -/

lemma usersFirst_snoc {bodies : List Json} {body : Json} :
    UsersFirst (bodies ++ [body]) ↔ UsersFirst bodies ∧ ∀ clerkUserId orgId,
      (syncOf body).member = some (clerkUserId, orgId) →
      ∃ earlier ∈ bodies, syncOf earlier = .user clerkUserId :=
  Lib.forall_place_snoc

lemma firstMembership_snoc (clerkUserId : JsString) (bodies : List Json) (body : Json) :
    firstMembership clerkUserId (bodies ++ [body]) =
      (firstMembership clerkUserId bodies).or
        (match (syncOf body).member with
          | some (user, orgId) => if user = clerkUserId then some orgId else none
          | none => none) := by
  rw [firstMembership, List.filterMap_append, List.head?_append]
  congr 1
  rw [List.filterMap_cons]
  split
  · next hnone => rw [hnone]; rfl
  · next hsome => rw [hsome]; rfl

lemma users_upsertUser (t : Tenancy) (clerkUserId user : JsString) :
    (t.upsertUser clerkUserId).users user =
      if user = clerkUserId then (t.users user).or (some none) else t.users user := by
  by_cases huser : user = clerkUserId
  · subst huser
    rw [if_pos rfl]
    exact Function.update_self _ _ _
  · rw [if_neg huser]
    exact Function.update_of_ne huser _ _

lemma users_adopt (t : Tenancy) (clerkUserId orgId user : JsString) :
    (t.adopt clerkUserId orgId).users user =
      if user = clerkUserId then (t.users user).map fun primary => primary.or (some orgId)
      else t.users user := by
  by_cases huser : user = clerkUserId
  · subst huser
    rw [if_pos rfl]
    exact Function.update_self _ _ _
  · rw [if_neg huser]
    exact Function.update_of_ne huser _ _

/-- A user is delivered. -/
def isDelivered (clerkUserId : JsString) (bodies : List Json) : Bool :=
  bodies.any fun body => syncOf body = .user clerkUserId

lemma isDelivered_snoc (clerkUserId : JsString) (bodies : List Json) (body : Json) :
    isDelivered clerkUserId (bodies ++ [body]) =
      (isDelivered clerkUserId bodies || decide (syncOf body = .user clerkUserId)) := by
  rw [isDelivered, List.any_append, List.any_cons, List.any_nil, Bool.or_false]
  rfl

lemma firstMembership_of_not_delivered {clerkUserId : JsString} {bodies : List Json}
    (h : UsersFirst bodies) (hnot : isDelivered clerkUserId bodies = false) :
    firstMembership clerkUserId bodies = none := by
  by_contra hsome
  obtain ⟨orgId, horg⟩ := Option.ne_none_iff_exists'.1 hsome
  obtain ⟨body, hbody, hmember⟩ := List.mem_filterMap.1 (List.mem_of_head? horg)
  split at hmember
  · next user org hpair =>
    split at hmember
    · next huser =>
      subst huser
      obtain ⟨pre, post, rfl⟩ := List.append_of_mem hbody
      obtain ⟨earlier, hearlier, hsync⟩ := h pre body post rfl user org hpair
      have hdelivered : isDelivered user (pre ++ body :: post) = true :=
        List.any_eq_true.2 ⟨earlier, List.mem_append_left _ hearlier, decide_eq_true hsync⟩
      rw [hnot] at hdelivered
      cases hdelivered
    · cases hmember
  · cases hmember

/-- With its users first, a user has a row exactly when it is delivered, with the organization of its
first membership. -/
lemma users_deliverAll {bodies : List Json} (h : UsersFirst bodies)
    (hkept : ∀ body ∈ bodies, ∀ orgId clerkUserId, syncOf body ≠ .removal orgId clerkUserId)
    (clerkUserId : JsString) :
    (deliverAll bodies).users clerkUserId =
      if isDelivered clerkUserId bodies then some (firstMembership clerkUserId bodies) else none := by
  induction bodies using List.reverseRecOn with
  | nil => rfl
  | append_singleton bodies body ih =>
    obtain ⟨hfirst, hbody⟩ := usersFirst_snoc.1 h
    have hbefore := ih hfirst fun b hb => hkept b (List.mem_append_left _ hb)
    rw [deliverAll_snoc, firstMembership_snoc, isDelivered_snoc]
    cases hsync : syncOf body with
    | user user =>
      have huser : ((deliverAll bodies).handle (.user user)).users clerkUserId =
          if clerkUserId = user then ((deliverAll bodies).users clerkUserId).or (some none)
          else (deliverAll bodies).users clerkUserId := users_upsertUser _ _ _
      rw [huser, hbefore]
      simp only [Sync.member, Option.or_none]
      by_cases hsame : clerkUserId = user
      · subst hsame
        cases hdelivered : isDelivered clerkUserId bodies with
        | true => simp
        | false => simp [firstMembership_of_not_delivered hfirst hdelivered]
      · have hne : ¬ (Sync.user user = .user clerkUserId) := fun heq => hsame (by cases heq; rfl)
        simp [hsame, hne]
    | membership orgId orgName user =>
      have huser : ((deliverAll bodies).handle (.membership orgId orgName user)).users clerkUserId =
          if clerkUserId = user then
            ((deliverAll bodies).users clerkUserId).map fun primary => primary.or (some orgId)
          else (deliverAll bodies).users clerkUserId := users_adopt _ _ _ _
      rw [huser, hbefore]
      simp only [Sync.member]
      by_cases hsame : clerkUserId = user
      · subst hsame
        -- its own delivery stands before the membership
        obtain ⟨earlier, hearlier, huserEarlier⟩ := hbody clerkUserId orgId (by rw [hsync]; rfl)
        have hdelivered : isDelivered clerkUserId bodies = true :=
          List.any_eq_true.2 ⟨earlier, hearlier, decide_eq_true huserEarlier⟩
        simp [hdelivered]
      · have hne : ¬ user = clerkUserId := fun heq => hsame heq.symm
        simp [hsame, hne]
    | organization id name =>
      have huser : ((deliverAll bodies).handle (.organization id name)).users clerkUserId =
          (deliverAll bodies).users clerkUserId := rfl
      rw [huser, hbefore]
      simp only [Sync.member, Option.or_none]
      simp
    | removal orgId user => exact absurd hsync (hkept body (by simp) orgId user)
    | ignored =>
      have huser : ((deliverAll bodies).handle .ignored).users clerkUserId =
          (deliverAll bodies).users clerkUserId := rfl
      rw [huser, hbefore]
      simp only [Sync.member, Option.or_none]
      simp

lemma isDelivered_eq {bodies bodies' : List Json} (hsame : ∀ body, body ∈ bodies ↔ body ∈ bodies')
    (clerkUserId : JsString) : isDelivered clerkUserId bodies = isDelivered clerkUserId bodies' := by
  rw [Bool.eq_iff_iff, isDelivered, isDelivered, List.any_eq_true, List.any_eq_true]
  simp only [hsame]

/-- Two orders and repetitions of the deliveries of one state leave the same organizations, and the
same users where each delivers its users first and the same membership of each user first. -/
theorem deliveries_commute {bodies bodies' : List Json} (hstate : Consistent bodies)
    (hsame : ∀ body, body ∈ bodies ↔ body ∈ bodies') :
    (deliverAll bodies).orgs = (deliverAll bodies').orgs ∧
      (UsersFirst bodies → UsersFirst bodies' →
        (∀ clerkUserId, firstMembership clerkUserId bodies = firstMembership clerkUserId bodies') →
        (deliverAll bodies).users = (deliverAll bodies').users) := by
  refine ⟨orgs_eq hstate hsame, fun hfirst hfirst' hmember => ?_⟩
  funext clerkUserId
  have hkept' : ∀ body ∈ bodies', ∀ orgId user, syncOf body ≠ .removal orgId user :=
    fun body hbody => hstate.kept body ((hsame body).2 hbody)
  rw [users_deliverAll hfirst hstate.kept, users_deliverAll hfirst' hkept', hmember, isDelivered_eq hsame]

/-- `user.created`. -/
def userCreated (id : String) : Json :=
  .obj [(js "type", .str (js "user.created")), (js "data", .obj [(js "id", .str (js id))])]

/-- `organizationMembership.created`. -/
def membershipCreated (orgId orgName userId : String) : Json :=
  .obj [(js "type", .str (js "organizationMembership.created")),
    (js "data", .obj [
      (js "organization", .obj [(js "id", .str (js orgId)), (js "name", .str (js orgName))]),
      (js "public_user_data", .obj [(js "user_id", .str (js userId))])])]

lemma syncOf_userCreated : syncOf (userCreated "ann") = .user (js "ann") := by decide +kernel

lemma syncOf_membershipCreated : syncOf (membershipCreated "org_1" "One" "ann") =
    .membership (js "org_1") (some (js "One")) (js "ann") := by
  decide +kernel

lemma syncOf_membershipCreated_second : syncOf (membershipCreated "org_2" "Two" "ann") =
    .membership (js "org_2") (some (js "Two")) (js "ann") := by
  decide +kernel

lemma consistent_of_subset {bodies : List Json} (h : ∀ body ∈ bodies,
    body = userCreated "ann" ∨ body = membershipCreated "org_1" "One" "ann" ∨
      body = membershipCreated "org_2" "Two" "ann") : Consistent bodies := by
  have hsync : ∀ body ∈ bodies, syncOf body = .user (js "ann") ∨
      syncOf body = .membership (js "org_1") (some (js "One")) (js "ann") ∨
      syncOf body = .membership (js "org_2") (some (js "Two")) (js "ann") := by
    intro body hbody
    rcases h body hbody with rfl | rfl | rfl
    · exact Or.inl syncOf_userCreated
    · exact Or.inr (Or.inl syncOf_membershipCreated)
    · exact Or.inr (Or.inr syncOf_membershipCreated_second)
  have hother : js "org_1" ≠ js "org_2" := by decide +kernel
  constructor
  · intro body hbody orgId clerkUserId hremoval
    rcases hsync body hbody with h | h | h
    all_goals
      rw [h] at hremoval
      cases hremoval
  · intro body hbody body' hbody' id name name' hnamed hnamed'
    rcases hsync body hbody with h | h | h <;> rcases hsync body' hbody' with h' | h' | h' <;>
      rw [h] at hnamed <;> rw [h'] at hnamed' <;>
      simp only [Sync.named, Option.some.injEq, Prod.mk.injEq, Option.getD_some, reduceCtorEq]
        at hnamed hnamed'
    · rw [← hnamed.2, ← hnamed'.2]
    · exact absurd (hnamed.1.trans hnamed'.1.symm) hother
    · exact absurd (hnamed'.1.trans hnamed.1.symm) hother
    · rw [← hnamed.2, ← hnamed'.2]

lemma usersFirst_user_membership :
    UsersFirst ([] ++ [userCreated "ann"] ++ [membershipCreated "org_1" "One" "ann"]) := by
  refine usersFirst_snoc.2 ⟨usersFirst_snoc.2 ⟨?_, ?_⟩, ?_⟩
  · intro pre body post hnil
    cases pre <;> cases hnil
  · intro user orgId hmember
    rw [syncOf_userCreated] at hmember
    cases hmember
  · intro user orgId hmember
    rw [syncOf_membershipCreated] at hmember
    cases hmember
    exact ⟨userCreated "ann", by simp, syncOf_userCreated⟩

/-- A user that is delivered again behind its membership. -/
theorem deliveries_commute_repeated :
    (deliverAll [userCreated "ann", membershipCreated "org_1" "One" "ann"]).users =
      (deliverAll [userCreated "ann", membershipCreated "org_1" "One" "ann",
        userCreated "ann"]).users := by
  have hstate : Consistent [userCreated "ann", membershipCreated "org_1" "One" "ann"] :=
    consistent_of_subset (by simp)
  have hfirst' : UsersFirst ([] ++ [userCreated "ann"] ++ [membershipCreated "org_1" "One" "ann"] ++
      [userCreated "ann"]) := by
    refine usersFirst_snoc.2 ⟨usersFirst_user_membership, ?_⟩
    intro user orgId hmember
    rw [syncOf_userCreated] at hmember
    cases hmember
  refine (deliveries_commute hstate ?_).2 usersFirst_user_membership hfirst' ?_
  · intro body
    simp only [List.mem_cons, List.not_mem_nil, or_false]
    tauto
  · intro clerkUserId
    simp only [firstMembership, List.filterMap_cons, List.filterMap_nil, syncOf_userCreated,
      syncOf_membershipCreated, Sync.member]

/-- A user with two memberships. -/
def twoMemberships : List Json :=
  [userCreated "ann", membershipCreated "org_1" "One" "ann", membershipCreated "org_2" "Two" "ann"]

/-- The memberships the other way round. -/
def twoMembershipsSwapped : List Json :=
  [userCreated "ann", membershipCreated "org_2" "Two" "ann", membershipCreated "org_1" "One" "ann"]

/-- The first membership that is delivered becomes the primary organization. -/
theorem not_commute_twoMemberships : ¬ ∀ bodies bodies' : List Json, Consistent bodies →
    (∀ body, body ∈ bodies ↔ body ∈ bodies') → deliverAll bodies = deliverAll bodies' := by
  intro hcommute
  have hstate : Consistent twoMemberships := consistent_of_subset (by simp [twoMemberships])
  have hsame : ∀ body, body ∈ twoMemberships ↔ body ∈ twoMembershipsSwapped := by
    intro body
    simp only [twoMemberships, twoMembershipsSwapped, List.mem_cons, List.not_mem_nil, or_false]
    tauto
  have husers := congrArg (fun t : Tenancy => t.users (js "ann")) (hcommute _ _ hstate hsame)
  exact absurd husers (by decide +kernel)

end Pherry.ControlPlane
