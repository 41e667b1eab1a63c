import Pherry.Js
import Pherry.Lib.Concurrent
import Pherry.Lib.KeyStore
import Pherry.Lib.Machine

/-!
# The rate limiter

`checkRateLimit` on the store it shares, one command of the store at a time. A window of a key is a
stretch of a run through which the key stays live.
-/

namespace Pherry.ControlPlane

open Lib

/-- The arguments of `checkRateLimit`. -/
structure RateLimitArgs where
  name : JsString
  key : JsString
  limit : ℕ
  windowMs : ℕ

/-- `redisKey`. -/
def RateLimitArgs.redisKey (args : RateLimitArgs) : JsString :=
  js "rl:" ++ args.name ++ js ":" ++ args.key

/-- Where a call of `checkRateLimit` has got to. -/
inductive RateLimitStage
  | seed
  | incr
  | answered (allowed : Bool)

/-- The counters. -/
abbrev RateLimitStore := KeyStore JsString ℕ

/-- The count of a key; a key that is not there counts nothing. -/
def countOf (redis : RateLimitStore) (k : JsString) : ℕ := (redis.get k).getD 0

/-- The next command of `checkRateLimit`. -/
def checkRateLimit (args : RateLimitArgs) (redis : RateLimitStore) :
    RateLimitStage → RateLimitStore × RateLimitStage
  | .seed => ((redis.setNx args.redisKey 0 (some args.windowMs)).1, .incr)
  | .incr =>
    (redis.modify args.redisKey fun value => value.getD 0 + 1,
      .answered (countOf redis args.redisKey + 1 ≤ args.limit))
  | stage => (redis, stage)

/-- A call with its arguments. -/
abbrev RateLimitCall := RateLimitArgs × RateLimitStage

/-- The next command of a call. -/
def RateLimitCall.step (redis : RateLimitStore) (call : RateLimitCall) :
    RateLimitStore × RateLimitCall :=
  let r := checkRateLimit call.1 redis call.2
  (r.1, call.1, r.2)

/-- The store and the calls on it. -/
abbrev RateLimits := Concurrent RateLimitStore RateLimitCall

/-- What happens: time passes, a request is hit, or a call gets a command done. -/
inductive RateLimitEvent
  | advance (ms : ℕ)
  | hit (args : RateLimitArgs)
  | step (call : ℕ)

namespace RateLimits

/-- One event. -/
def react (s : RateLimits) : RateLimitEvent → RateLimits
  | .advance ms => { s with shared := s.shared.advance ms }
  | .hit args => s.start (args, .seed)
  | .step call => Concurrent.advance s call RateLimitCall.step

/-- The call that is to increment its counter next, if it is this one's turn. -/
def incrementing (s : RateLimits) : RateLimitEvent → Option RateLimitArgs
  | .step call =>
    match s.calls[call]? with
    | some (args, .incr) => some args
    | _ => none
  | _ => none

/-- The hit that an event allows. -/
def allowing (s : RateLimits) (e : RateLimitEvent) : List RateLimitArgs :=
  (s.incrementing e).toList.filter fun args => countOf s.shared args.redisKey + 1 ≤ args.limit

/-- The counter is still there when it is incremented. -/
def Seeded (s : RateLimits) (e : RateLimitEvent) : Prop :=
  ∀ args, s.incrementing e = some args → (s.shared.live args.redisKey).isSome = true

end RateLimits

/-- The limiter on an empty store. -/
def rateLimitMachine (now : ℕ) : Machine RateLimits RateLimitEvent where
  init := ⟨KeyStore.empty now, []⟩
  step := RateLimits.react

/-- A key stays live through a stretch of a run. -/
def IsWindow (now : ℕ) (k : JsString) (pre window : List RateLimitEvent) : Prop :=
  (rateLimitMachine now).Through (fun s => (s.shared.live k).isSome = true) pre window

/-- The hits on a key that a stretch of a run allows under a limit. -/
def allowedIn (now : ℕ) (k : JsString) (limit : ℕ) (pre window : List RateLimitEvent) :
    List RateLimitArgs :=
  ((rateLimitMachine now).outputsFrom RateLimits.allowing ((rateLimitMachine now).run pre)
    window).filter fun args => args.redisKey = k ∧ args.limit ≤ limit

/-- No counter lives for ever, and a window allows at most its limit. -/
structure RateLimitLaw (now : ℕ) (es : List RateLimitEvent) : Prop where
  mortal : ∀ pre, pre <+: es → ∀ k entry,
    ((rateLimitMachine now).run pre).shared.entries k = some entry → entry.expiresAt.isSome = true
  bounded : ∀ pre window post, es = pre ++ window ++ post → ∀ k, IsWindow now k pre window →
    ∀ limit, (allowedIn now k limit pre window).length ≤ limit

/-! ## Counting -/

section Counting

variable {redis : RateLimitStore} {k j : JsString}

lemma countOf_of_absent (h : redis.live k = none) : countOf redis k = 0 := by
  rw [countOf, KeyStore.get, h]
  rfl

lemma countOf_of_live {entry : Entry ℕ} (h : redis.live k = some entry) :
    countOf redis k = entry.value := by
  rw [countOf, KeyStore.get, h]
  rfl

lemma countOf_congr {redis' : RateLimitStore} (h : redis'.live j = redis.live j) :
    countOf redis' j = countOf redis j := by
  rw [countOf, countOf, KeyStore.get, KeyStore.get, h]

lemma countOf_setNx (pxMs : Option ℕ) : countOf (redis.setNx k 0 pxMs).1 j = countOf redis j := by
  by_cases hj : j = k
  · subst hj
    cases hlive : redis.live j with
    | some entry => rw [KeyStore.setNx_of_live hlive]
    | none =>
      rw [KeyStore.setNx_of_absent hlive, countOf_of_absent hlive]
      cases hset : (redis.set j 0 pxMs).live j with
      | none => exact countOf_of_absent hset
      | some entry =>
        rw [countOf_of_live hset]
        have hentry := (KeyStore.live_eq_some.1 hset).1
        rw [KeyStore.set, KeyStore.entries_put_self] at hentry
        rw [← Option.some.inj hentry]
  · exact countOf_congr (KeyStore.live_setNx_ne hj 0 pxMs)

lemma countOf_modify : countOf (redis.modify k fun value => value.getD 0 + 1) j =
    countOf redis j + if k = j then 1 else 0 := by
  by_cases hj : k = j
  · subst hj
    rw [if_pos rfl]
    cases hlive : redis.live k with
    | none =>
      rw [KeyStore.modify, hlive, countOf_of_absent hlive]
      -- the entry that `INCR` creates has no expiry
      exact countOf_of_live (KeyStore.live_put_of_live rfl)
    | some entry =>
      rw [KeyStore.modify_of_live hlive, countOf_of_live hlive]
      have hstill : redis.isLive entry = true := (KeyStore.live_eq_some.1 hlive).2
      have hput : redis.isLive { entry with value := entry.value + 1 } = true := hstill
      exact countOf_of_live (KeyStore.live_put_of_live hput)
  · rw [if_neg hj, Nat.add_zero]
    exact countOf_congr (KeyStore.live_modify_ne (Ne.symm hj) _)

end Counting

namespace RateLimits

variable {s : RateLimits} {k : JsString}

/-- The hits that an event counts on a key. -/
def hits (s : RateLimits) (k : JsString) (e : RateLimitEvent) : ℕ :=
  if (s.incrementing e).any fun args => args.redisKey = k then 1 else 0

lemma countOf_react {e : RateLimitEvent} (hlive : ((s.react e).shared.live k).isSome = true) :
    countOf (s.react e).shared k = countOf s.shared k + s.hits k e := by
  cases e with
  | advance ms =>
    obtain ⟨entry, hentry⟩ := Option.isSome_iff_exists.1 hlive
    rw [countOf_of_live hentry, countOf_of_live (KeyStore.live_of_advance hentry)]
    rfl
  | hit args => rfl
  | step i =>
    cases hcall : s.calls[i]? with
    | none =>
      have hnone : s.hits k (.step i) = 0 := by simp [hits, incrementing, hcall]
      rw [react, Concurrent.advance_of_none hcall, hnone, Nat.add_zero]
    | some call =>
      rw [react, Concurrent.advance_of_some hcall]
      obtain ⟨args, stage⟩ := call
      cases stage with
      | seed =>
        have hnone : s.hits k (.step i) = 0 := by simp [hits, incrementing, hcall]
        rw [hnone, Nat.add_zero]
        exact countOf_setNx (some args.windowMs)
      | incr =>
        have hone : s.hits k (.step i) = if args.redisKey = k then 1 else 0 := by
          simp [hits, incrementing, hcall]
        rw [hone]
        exact countOf_modify
      | answered allowed =>
        have hnone : s.hits k (.step i) = 0 := by simp [hits, incrementing, hcall]
        rw [hnone, Nat.add_zero]
        rfl

lemma length_allowing_le (limit : ℕ) (e : RateLimitEvent) :
    ((s.allowing e).filter fun args => args.redisKey = k ∧ args.limit ≤ limit).length +
      min limit (countOf s.shared k) ≤ min limit (countOf s.shared k + s.hits k e) := by
  rw [allowing, hits]
  cases s.incrementing e with
  | none => simp
  | some args =>
    rw [Option.toList_some, Option.any_some, List.filter_cons, List.filter_nil]
    simp only [decide_eq_true_eq]
    by_cases hallowed : countOf s.shared args.redisKey + 1 ≤ args.limit
    · rw [if_pos hallowed, List.filter_cons, List.filter_nil]
      simp only [decide_eq_true_eq]
      by_cases hcounted : args.redisKey = k ∧ args.limit ≤ limit
      · rw [if_pos hcounted, List.length_singleton, if_pos hcounted.1]
        rw [hcounted.1] at hallowed
        omega
      · rw [if_neg hcounted, List.length_nil]
        omega
    · rw [if_neg hallowed, List.filter_nil, List.length_nil]
      omega

end RateLimits

/-! ## The law -/

variable {now : ℕ} {k : JsString}

lemma allowedIn_snoc (limit : ℕ) (pre window : List RateLimitEvent) (e : RateLimitEvent) :
    (allowedIn now k limit pre (window ++ [e])).length =
      (allowedIn now k limit pre window).length +
        ((((rateLimitMachine now).run (pre ++ window)).allowing e).filter
          fun args => args.redisKey = k ∧ args.limit ≤ limit).length := by
  rw [allowedIn, Machine.outputsFrom_append, List.filter_append, List.length_append, ← Machine.run_append]
  simp only [Machine.outputsFrom, List.append_nil]
  rfl

lemma length_allowedIn_le (limit : ℕ) (pre : List RateLimitEvent) {window : List RateLimitEvent}
    (h : IsWindow now k pre window) :
    (allowedIn now k limit pre window).length +
        min limit (countOf ((rateLimitMachine now).run pre).shared k) ≤
      min limit (countOf ((rateLimitMachine now).run (pre ++ window)).shared k) := by
  induction window using List.reverseRecOn with
  | nil => simp [allowedIn, Machine.outputsFrom]
  | append_singleton window e ih =>
    obtain ⟨hwindow, hlive⟩ := (Machine.through_snoc _).1 h
    have hbefore := ih hwindow
    rw [Machine.run_snoc] at hlive
    have hcount := RateLimits.countOf_react hlive
    have hallowed := RateLimits.length_allowing_le (s := (rateLimitMachine now).run (pre ++ window))
      (k := k) limit e
    rw [← List.append_assoc, Machine.run_snoc, allowedIn_snoc]
    have hstep : (rateLimitMachine now).step ((rateLimitMachine now).run (pre ++ window)) e =
        ((rateLimitMachine now).run (pre ++ window)).react e := rfl
    rw [hstep, hcount]
    omega

/-- Every counter has an expiry. -/
def Mortal (redis : RateLimitStore) : Prop :=
  ∀ k entry, redis.entries k = some entry → entry.expiresAt.isSome = true

lemma Mortal.setNx {redis : RateLimitStore} (h : Mortal redis) (k : JsString) (windowMs : ℕ) :
    Mortal (redis.setNx k 0 (some windowMs)).1 := by
  intro j entry hentry
  rw [KeyStore.setNx] at hentry
  split at hentry
  · exact h j entry hentry
  · rcases KeyStore.entries_put hentry with hold | ⟨-, rfl⟩
    · exact h j entry hold
    · rfl

lemma Mortal.modify {redis : RateLimitStore} (h : Mortal redis) {k : JsString}
    (hlive : (redis.live k).isSome = true) (f : Option ℕ → ℕ) : Mortal (redis.modify k f) := by
  intro j entry hentry
  obtain ⟨old, hold⟩ := Option.isSome_iff_exists.1 hlive
  rw [KeyStore.modify_of_live hold] at hentry
  rcases KeyStore.entries_put hentry with hkept | ⟨-, rfl⟩
  · exact h j entry hkept
  · exact h k old (KeyStore.live_eq_some.1 hold).1

lemma Mortal.react {s : RateLimits} {e : RateLimitEvent} (hseeded : s.Seeded e)
    (h : Mortal s.shared) : Mortal (s.react e).shared := by
  cases e with
  | advance ms => exact h
  | hit args => exact h
  | step i =>
    refine Concurrent.advance_induction (p := fun t : RateLimits => Mortal t.shared) h
      fun call hcall => ?_
    obtain ⟨args, stage⟩ := call
    cases stage with
    | seed => exact h.setNx _ _
    | incr =>
      have hlive := hseeded args (by simp only [RateLimits.incrementing, hcall])
      exact h.modify hlive _
    | answered allowed => exact h

lemma immortal_of_unseeded {s : RateLimits} {e : RateLimitEvent} {args : RateLimitArgs}
    (hincr : s.incrementing e = some args) (hlive : s.shared.live args.redisKey = none) :
    (s.react e).shared.entries args.redisKey = some ⟨1, none⟩ := by
  unfold RateLimits.incrementing at hincr
  split at hincr
  · next i =>
    split at hincr
    · next args' hcall =>
      cases hincr
      rw [RateLimits.react, Concurrent.advance_of_some hcall]
      show (s.shared.modify args.redisKey _).entries args.redisKey = _
      rw [KeyStore.modify, hlive]
      exact KeyStore.entries_put_self _
    · cases hincr
  · cases hincr

/-- A request that pairs with a code. -/
def redeeming : RateLimitArgs := ⟨js "pair", js "203.0.113.7", 10, 60000⟩

/-- The window ends between the two commands of a request. -/
def slowIncrement : List RateLimitEvent := [.hit redeeming, .step 0, .advance 60000, .step 0]

end Pherry.ControlPlane
