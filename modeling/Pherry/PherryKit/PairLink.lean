import Mathlib.Data.List.TakeWhile
import Pherry.Ios.Docking
import Pherry.Percent
import Pherry.Protocol.DeviceAuth

/-!
# The pair link

The link that `mintPairToken` puts into the QR code, and `PairLink.parse` of the phone that scans it: the values are
percent-encoded in the one language and taken from the query in the other.
-/

namespace Pherry.PherryKit

open Ios Protocol

/-! ## The link that is minted -/

/-- A digit of the URL alphabet of base64. -/
def urlDigit (u : UInt16) : UInt16 := if u = 0x2B then 0x2D else if u = 0x2F then 0x5F else u

/-- `toString('base64url')`, which pads nothing. -/
def base64url (bytes : Bytes) : JsString := ((base64 bytes).filter (· ≠ 0x3D)).map urlDigit

/-- `qrUrl` of `mintPairToken`. -/
def qrUrl (token hostId staticPublicKey : JsString) (directorUrl apiPublicUrl : Option JsString) :
    Except Unit JsString := do
  let token ← encodeURIComponent token
  let host ← encodeURIComponent hostId
  let key ← encodeURIComponent (base64url (bufferFromBase64 staticPublicKey))
  let director ← encodeURIComponent (directorUrl.getD [])
  let api ← encodeURIComponent (apiPublicUrl.getD [])
  return js "pherry://pair?token=" ++ token ++ js "&host=" ++ host ++ js "&key=" ++ key ++ js "&director=" ++
    director ++ js "&api=" ++ api

/-! ## The parts of a URL -/

/-- What stands before the first of some units. -/
def before (stops : List UInt16) (text : JsString) : JsString := text.takeWhile fun u => decide (u ∉ stops)

/-- What stands behind the first of a unit, if it occurs. -/
def behindFirst (u : UInt16) (text : JsString) : Option JsString :=
  match text.dropWhile fun v => v ≠ u with
  | [] => none
  | _ :: rest => some rest

/-- `scheme`: what stands before a colon that comes before any other delimiter. -/
def urlScheme (url : JsString) : Option JsString :=
  let front := before [0x3A, 0x2F, 0x3F, 0x23] url
  if front ≠ [] ∧ (url.drop front.length).head? = some 0x3A then some front else none

/-- `host`: the authority without the user and the port. -/
def urlHost (url : JsString) : Option JsString :=
  match urlScheme url with
  | none => none
  | some scheme =>
    let hierarchy := url.drop (scheme.length + 1)
    if hierarchy.take 2 = [0x2F, 0x2F] then
      let authority := before [0x2F, 0x3F, 0x23] (hierarchy.drop 2)
      some (before [0x3A] ((behindFirst 0x40 authority).getD authority))
    else none

/-- `query`: what stands between the first question mark and the fragment. -/
def urlQuery (url : JsString) : Option JsString := behindFirst 0x3F (before [0x23] url)

/-- An item of a query, at its first equals sign. -/
def queryItem (item : JsString) : String × Option String :=
  ((removingPercentEncoding (before [0x3D] item)).getD "",
    (behindFirst 0x3D item).bind removingPercentEncoding)

/-- `queryItems`, none where the query is missing or empty. -/
def queryItems (url : JsString) : List (String × Option String) :=
  match urlQuery url with
  | none => []
  | some [] => []
  | some query => (query.splitOn 0x26).map queryItem

/-! ## The link that is read -/

/-- A digit of the standard alphabet of base64. -/
def isStandardDigit (u : UInt16) : Bool :=
  (0x41 ≤ u && u ≤ 0x5A) || (0x61 ≤ u && u ≤ 0x7A) || (0x30 ≤ u && u ≤ 0x39) || u == 0x2B || u == 0x2F

/-- `Data(base64Encoded:)`: whole groups of four, at most two of them padding. -/
def dataFromBase64 (text : JsString) : Option Bytes :=
  let digits := before [0x3D] text
  let padding := text.drop digits.length
  if text.length % 4 = 0 ∧ digits.all isStandardDigit = true ∧ padding.all (· == 0x3D) = true ∧ padding.length ≤ 2 then
    some (bufferFromBase64 digits)
  else none

/-- A digit back in the standard alphabet. -/
def standardDigit (u : UInt16) : UInt16 := if u = 0x2D then 0x2B else if u = 0x5F then 0x2F else u

/-- `Data(base64URLEncoded:)`. -/
def dataFromBase64url (text : JsString) : Option Bytes :=
  let s := text.map standardDigit
  let remainder := s.length % 4
  dataFromBase64 (if remainder > 0 then s ++ List.replicate (4 - remainder) 0x3D else s)

variable {URL : Type}

/-- The value of the first item of a name. -/
def itemValue (items : List (String × Option String)) (name : String) : Option String :=
  (items.find? fun item => item.1 = name).bind Prod.snd

/-- A text that is not empty. -/
def nonEmpty (text : String) : Option String := if text = "" then none else some text

/-- `PairLink.parse`, of the text of a URL. -/
def parsePairLink (foundation : Foundation URL) (url : JsString) : Option (PairLink URL) :=
  if urlScheme url = some (js "pherry") ∧ urlHost url = some (js "pair") then do
    let items := queryItems url
    let pairToken ← (itemValue items "token").bind nonEmpty
    let hostId ← (itemValue items "host").bind nonEmpty
    let keyText ← itemValue items "key"
    let key ← dataFromBase64url (js keyText)
    if key.length = 32 then
      return {
        pairToken
        hostId
        hostStaticPublicKey := key
        directorUrl := (itemValue items "director").bind nonEmpty
        apiUrl := ((itemValue items "api").bind nonEmpty).bind foundation.url }
    else none
  else none

/-! ## base64 -/

lemma base64_eq (bytes : Bytes) : ∃ digits k, base64 bytes = digits ++ List.replicate k 0x3D ∧
    digits.all isStandardDigit = true ∧ k ≤ 2 ∧ (digits.length + k) % 4 = 0 := by
  have hdigit : ∀ n < 64, isStandardDigit (base64Digit n) = true := by decide
  have hhigh : ∀ a : UInt8, a.toNat / 4 < 64 := fun a => by have := a.toNat_lt; omega
  fun_induction base64 bytes with
  | case1 => exact ⟨[], 0, rfl, rfl, by omega, rfl⟩
  | case2 a =>
    refine ⟨[base64Digit (a.toNat / 4), base64Digit (a.toNat % 4 * 16)], 2, rfl, ?_, by omega, by simp⟩
    simp [hdigit _ (hhigh a), hdigit _ (show a.toNat % 4 * 16 < 64 by omega)]
  | case3 a b =>
    have hb := b.toNat_lt
    refine ⟨[base64Digit (a.toNat / 4), base64Digit (a.toNat % 4 * 16 + b.toNat / 16),
      base64Digit (b.toNat % 16 * 4)], 1, rfl, ?_, by omega, by simp⟩
    simp [hdigit _ (hhigh a), hdigit _ (show a.toNat % 4 * 16 + b.toNat / 16 < 64 by omega),
      hdigit _ (show b.toNat % 16 * 4 < 64 by omega)]
  | case4 a b c rest ih =>
    have hb := b.toNat_lt
    have hc := c.toNat_lt
    obtain ⟨digits, k, hrest, hall, hk, hgroups⟩ := ih
    refine ⟨[base64Digit (a.toNat / 4), base64Digit (a.toNat % 4 * 16 + b.toNat / 16),
      base64Digit (b.toNat % 16 * 4 + c.toNat / 64), base64Digit (c.toNat % 64)] ++ digits, k, ?_, ?_, hk, ?_⟩
    · rw [hrest, List.append_assoc]
    · rw [List.all_append, hall]
      simp [hdigit _ (hhigh a), hdigit _ (show a.toNat % 4 * 16 + b.toNat / 16 < 64 by omega),
        hdigit _ (show b.toNat % 16 * 4 + c.toNat / 64 < 64 by omega), hdigit _ (show c.toNat % 64 < 64 by omega)]
    · rw [List.length_append]
      simp only [List.length_cons, List.length_nil]
      omega

lemma ne_of_isStandardDigit {u : UInt16} (h : isStandardDigit u = true) : u ≠ 0x3D ∧ u ≠ 0x2D ∧ u ≠ 0x5F := by
  refine ⟨?_, ?_, ?_⟩ <;>
  · rintro rfl
    revert h
    decide

lemma takeWhile_append_stop {stop : UInt16} {front back : JsString} (hfront : stop ∉ front) :
    before [stop] (front ++ stop :: back) = front := by
  unfold before
  rw [List.takeWhile_append_of_pos, List.takeWhile_cons_of_neg (by simp), List.append_nil]
  intro u hu
  rw [decide_eq_true_eq, List.mem_singleton]
  rintro rfl
  exact hfront hu

lemma before_eq_self {stops text : JsString} (h : ∀ u ∈ text, u ∉ stops) : before stops text = text :=
  List.takeWhile_eq_self_iff.2 fun u hu => decide_eq_true (h u hu)

lemma dataFromBase64_base64 (bytes : Bytes) : dataFromBase64 (base64 bytes) = some bytes := by
  obtain ⟨digits, k, heq, hall, hk, hgroups⟩ := base64_eq bytes
  have hstop : ∀ u ∈ digits, u ≠ 0x3D := fun u hu => (ne_of_isStandardDigit (List.all_eq_true.1 hall u hu)).1
  have hbefore : before [0x3D] (digits ++ List.replicate k 0x3D) = digits := by
    cases k with
    | zero =>
      rw [List.replicate_zero, List.append_nil]
      exact before_eq_self fun u hu => by simpa using hstop u hu
    | succ k => exact takeWhile_append_stop fun hmem => hstop _ hmem rfl
  have hbytes : bufferFromBase64 digits = bytes := by
    have hread := bufferFromBase64_base64 bytes
    have hpadding : (List.replicate k (0x3D : UInt16)).filterMap base64Value = [] := by
      rw [List.filterMap_eq_nil_iff]
      intro u hu
      rw [List.eq_of_mem_replicate hu]
      decide
    rw [heq, bufferFromBase64, List.filterMap_append, hpadding, List.append_nil] at hread
    exact hread
  rw [heq, dataFromBase64, hbefore, List.drop_left, hbytes, if_pos]
  refine ⟨?_, hall, by simp, ?_⟩
  · rw [List.length_append, List.length_replicate]
    exact hgroups
  · rw [List.length_replicate]
    exact hk

lemma dataFromBase64url_base64url (bytes : Bytes) : dataFromBase64url (base64url bytes) = some bytes := by
  obtain ⟨digits, k, heq, hall, hk, hgroups⟩ := base64_eq bytes
  have hplain : ∀ u ∈ digits, u ≠ 0x3D ∧ u ≠ 0x2D ∧ u ≠ 0x5F :=
    fun u hu => ne_of_isStandardDigit (List.all_eq_true.1 hall u hu)
  have hfilter : (base64 bytes).filter (· ≠ 0x3D) = digits := by
    have hpadding : (List.replicate k (0x3D : UInt16)).filter (· ≠ 0x3D) = [] := by
      rw [List.filter_eq_nil_iff]
      intro u hu
      simp [List.eq_of_mem_replicate hu]
    rw [heq, List.filter_append, hpadding, List.append_nil, List.filter_eq_self]
    exact fun u hu => decide_eq_true (hplain u hu).1
  have hback : (base64url bytes).map standardDigit = digits := by
    rw [base64url, hfilter, List.map_map]
    refine (List.map_congr_left fun u hu => ?_).trans (List.map_id digits)
    have hu := hplain u hu
    show standardDigit (urlDigit u) = u
    unfold urlDigit
    split
    · next hplus => rw [hplus]; rfl
    · split
      · next hslash => rw [hslash]; rfl
      · rw [standardDigit, if_neg hu.2.1, if_neg hu.2.2]
  have hpadded : (if digits.length % 4 > 0 then digits ++ List.replicate (4 - digits.length % 4) 0x3D else digits) =
      base64 bytes := by
    rw [heq]
    split
    · next hpos =>
      have hcount : 4 - digits.length % 4 = k := by omega
      rw [hcount]
    · have hzero : k = 0 := by omega
      rw [hzero, List.replicate_zero, List.append_nil]
  rw [dataFromBase64url, hback, hpadded, dataFromBase64_base64]

lemma isAscii_base64url (bytes : Bytes) : isAscii (base64url bytes) = true := by
  obtain ⟨digits, k, heq, hall, -, -⟩ := base64_eq bytes
  unfold isAscii
  rw [List.all_eq_true]
  intro u hu
  obtain ⟨v, hv, rfl⟩ := List.mem_map.1 hu
  have hmem := (List.mem_filter.1 hv).1
  rw [heq] at hmem
  have hascii : v < 0x80 := by
    rcases List.mem_append.1 hmem with hdigit | hpadding
    · have hstandard := List.all_eq_true.1 hall v hdigit
      simp only [isStandardDigit, Bool.or_eq_true, Bool.and_eq_true, decide_eq_true_eq, beq_iff_eq,
        UInt16.le_iff_toNat_le, ← UInt16.toNat_inj, UInt16.reduceToNat] at hstandard
      rw [UInt16.lt_iff_toNat_lt]
      show v.toNat < 128
      omega
    · rw [List.eq_of_mem_replicate hpadding]
      decide
  unfold urlDigit
  split
  · rfl
  · split
    · rfl
    · exact decide_eq_true hascii

/-! ## The round trip -/

lemma urlScheme_pair (rest : JsString) : urlScheme (js "pherry://pair?" ++ rest) = some (js "pherry") := by rfl

lemma urlHost_pair (rest : JsString) : urlHost (js "pherry://pair?" ++ rest) = some (js "pair") := by rfl

lemma urlQuery_pair {rest : JsString} (h : 0x23 ∉ rest) : urlQuery (js "pherry://pair?" ++ rest) = some rest := by
  rw [urlQuery, before_eq_self]
  · rfl
  · intro u hu
    rw [List.mem_singleton]
    rintro rfl
    rcases List.mem_append.1 hu with hmem | hmem
    · revert hmem
      decide
    · exact h hmem

lemma behindFirst_append {stop : UInt16} {front back : JsString} (hfront : stop ∉ front) :
    behindFirst stop (front ++ stop :: back) = some back := by
  unfold behindFirst
  rw [List.dropWhile_append_of_pos, List.dropWhile_cons_of_neg (by simp)]
  intro u hu
  rw [decide_eq_true_eq]
  rintro rfl
  exact hfront hu

/-- An item as it is written. -/
def item (name value : String) : JsString := js name ++ 0x3D :: escapeBytes (utf8 (js value))

/-- A name that needs no escapes. -/
def isPlain (name : String) : Prop := escapeBytes (utf8 (js name)) = js name

lemma queryItem_item {name : String} (hname : isPlain name) (value : String) :
    queryItem (item name value) = (name, some value) := by
  have hplain : 0x3D ∉ js name := by
    rw [← hname]
    exact not_mem_escapeBytes _ (by decide)
  rw [queryItem, item, takeWhile_append_stop hplain, behindFirst_append hplain, Option.bind_some,
    removingPercentEncoding_escape]
  have hread := removingPercentEncoding_escape name
  rw [hname] at hread
  rw [hread]
  rfl

lemma not_mem_item {name : String} (hname : isPlain name) (value : String) {u : UInt16} (h : u = 0x26 ∨ u = 0x23) :
    u ∉ item name value := by
  have hstop : ∀ bytes, u ∉ escapeBytes bytes := fun bytes =>
    not_mem_escapeBytes bytes (h.elim .inl fun h => .inr (.inr (.inl h)))
  intro hmem
  rcases List.mem_append.1 hmem with hfront | hback
  · rw [← hname] at hfront
    exact hstop _ hfront
  · rcases List.mem_cons.1 hback with rfl | hvalue
    · revert h
      decide
    · exact hstop _ hvalue

lemma not_mem_intercalate {u stop : UInt16} (hu : u ≠ stop) {items : List JsString} (h : ∀ x ∈ items, u ∉ x) :
    u ∉ [stop].intercalate items := by
  induction items with
  | nil => exact List.not_mem_nil
  | cons first rest ih =>
    have hfirst := h first List.mem_cons_self
    have hrest := ih fun x hx => h x (List.mem_cons_of_mem first hx)
    by_cases hempty : rest = []
    · rw [hempty, List.intercalate_singleton]
      exact hfirst
    · rw [List.intercalate_cons_of_ne_nil hempty]
      simp [hfirst, hrest, hu]

lemma queryItems_link {pairs : List (String × String)} (hne : pairs ≠ []) (hplain : ∀ p ∈ pairs, isPlain p.1) :
    queryItems (js "pherry://pair?" ++ [0x26].intercalate (pairs.map fun p => item p.1 p.2)) =
      pairs.map fun p => (p.1, some p.2) := by
  have hfree : ∀ u : UInt16, u = 0x26 ∨ u = 0x23 → ∀ written ∈ pairs.map fun p => item p.1 p.2, u ∉ written := by
    intro u hu written hwritten
    obtain ⟨p, hp, rfl⟩ := List.mem_map.1 hwritten
    exact not_mem_item (hplain p hp) p.2 hu
  have hfragment : 0x23 ∉ [0x26].intercalate (pairs.map fun p => item p.1 p.2) :=
    not_mem_intercalate (by decide) (hfree 0x23 (.inr rfl))
  have hsplit : ([0x26].intercalate (pairs.map fun p => item p.1 p.2)).splitOn 0x26 =
      pairs.map fun p => item p.1 p.2 :=
    List.splitOn_intercalate 0x26 (hfree 0x26 (.inl rfl)) (by simpa using hne)
  have hitems : (pairs.map fun p => item p.1 p.2).map queryItem = pairs.map fun p => (p.1, some p.2) := by
    rw [List.map_map]
    exact List.map_congr_left fun p hp => queryItem_item (hplain p hp) p.2
  unfold queryItems
  rw [urlQuery_pair hfragment]
  cases hquery : [0x26].intercalate (pairs.map fun p => item p.1 p.2) with
  | nil =>
    -- an item has its equals sign at least
    have hempty : [] ∈ pairs.map fun p => item p.1 p.2 := by
      rw [← hsplit, hquery]
      exact List.mem_singleton_self []
    obtain ⟨p, -, hp⟩ := List.mem_map.1 hempty
    exact absurd (List.append_eq_nil_iff.1 hp).2 (List.cons_ne_nil _ _)
  | cons u rest =>
    dsimp only
    rw [← hquery, hsplit, hitems]

lemma qrUrl_eq (token hostId keyText : String) {key : Bytes} (hkey : js keyText = base64url key)
    (directorUrl apiPublicUrl : Option String) :
    qrUrl (js token) (js hostId) (base64 key) (directorUrl.map js) (apiPublicUrl.map js) =
      .ok (js "pherry://pair?" ++ [0x26].intercalate
        ([("token", token), ("host", hostId), ("key", keyText), ("director", directorUrl.getD ""),
          ("api", apiPublicUrl.getD "")].map fun p => item p.1 p.2)) := by
  have hblank : ∀ text : Option String, (text.map js).getD [] = js (text.getD "") := by
    intro text
    cases text <;> rfl
  have hlink : ∀ a b c d e : JsString,
      js "pherry://pair?token=" ++ a ++ js "&host=" ++ b ++ js "&key=" ++ c ++ js "&director=" ++ d ++ js "&api=" ++ e =
        js "pherry://pair?" ++ [0x26].intercalate [js "token" ++ 0x3D :: a, js "host" ++ 0x3D :: b,
          js "key" ++ 0x3D :: c, js "director" ++ 0x3D :: d, js "api" ++ 0x3D :: e] := by
    intro a b c d e
    have hnames : js "pherry://pair?token=" = js "pherry://pair?" ++ (js "token" ++ [0x3D]) ∧
        js "&host=" = 0x26 :: (js "host" ++ [0x3D]) ∧ js "&key=" = 0x26 :: (js "key" ++ [0x3D]) ∧
        js "&director=" = 0x26 :: (js "director" ++ [0x3D]) ∧ js "&api=" = 0x26 :: (js "api" ++ [0x3D]) := by
      decide
    obtain ⟨htoken, hhost, hkey, hdirector, hapi⟩ := hnames
    rw [htoken, hhost, hkey, hdirector, hapi]
    simp [List.intercalate, List.intersperse]
  unfold qrUrl
  rw [bufferFromBase64_base64, ← hkey, hblank, hblank]
  simp only [encodeURIComponent_js]
  exact congrArg Except.ok (hlink _ _ _ _ _)

/-- A minted link is read back on the phone, item by item. -/
theorem pairLink_roundTrip (foundation : Foundation URL) (token hostId : String) (htoken : token ≠ "")
    (hhost : hostId ≠ "") (key : Bytes32) (directorUrl apiPublicUrl : Option String) :
    ∃ link keyText, js keyText = base64url key.1 ∧
      qrUrl (js token) (js hostId) (base64 key.1) (directorUrl.map js) (apiPublicUrl.map js) = .ok link ∧
      queryItems link = [("token", some token), ("host", some hostId), ("key", some keyText),
        ("director", some (directorUrl.getD "")), ("api", some (apiPublicUrl.getD ""))] ∧
      parsePairLink foundation link = some
        { pairToken := token
          hostId
          hostStaticPublicKey := key.1
          directorUrl := directorUrl.bind nonEmpty
          apiUrl := (apiPublicUrl.bind nonEmpty).bind foundation.url } := by
  obtain ⟨keyText, hkey⟩ : ∃ keyText, js keyText = base64url key.1 :=
    exists_js (stands_of_isAscii (isAscii_base64url key.1)).1
  have hplain : ∀ p ∈ [("token", token), ("host", hostId), ("key", keyText), ("director", directorUrl.getD ""),
      ("api", apiPublicUrl.getD "")], isPlain p.1 := by
    have hnames : ∀ name ∈ ["token", "host", "key", "director", "api"],
        escapeBytes (utf8 (js name)) = js name := by decide
    intro p hp
    apply hnames
    exact List.mem_map_of_mem hp
  have hitems := queryItems_link (List.cons_ne_nil _ _) hplain
  refine ⟨_, keyText, hkey, qrUrl_eq token hostId keyText hkey directorUrl apiPublicUrl, hitems, ?_⟩
  -- a blank director and a missing one are written alike
  have hblank : ∀ text : Option String, nonEmpty (text.getD "") = text.bind nonEmpty := by
    intro text
    cases text <;> rfl
  have htokenRead : nonEmpty token = some token := if_neg htoken
  have hhostRead : nonEmpty hostId = some hostId := if_neg hhost
  have hlength : key.1.length = 32 := key.2
  rw [parsePairLink, if_pos ⟨urlScheme_pair _, urlHost_pair _⟩, hitems]
  simp [itemValue, htokenRead, hhostRead, hblank, hkey, dataFromBase64url_base64url, hlength]

/-- A platform that takes every text for a URL. -/
def textFoundation : Foundation String where
  url := some
  absoluteString := id
  scheme _ := none
  host _ := none
  port _ := none
  lowercased := id
  url_absoluteString _ := rfl

theorem pairLink_roundTrip_director : ∃ link keyText, js keyText = base64url (List.replicate 32 (0 : UInt8)) ∧
    qrUrl (js "pt_&key=") (js "host_0") (base64 (List.replicate 32 (0 : UInt8))) (some (js "http://r/?a#b")) none =
      .ok link ∧
    queryItems link = [("token", some "pt_&key="), ("host", some "host_0"), ("key", some keyText),
      ("director", some "http://r/?a#b"), ("api", some "")] ∧
    parsePairLink textFoundation link = some
      { pairToken := "pt_&key="
        hostId := "host_0"
        hostStaticPublicKey := List.replicate 32 (0 : UInt8)
        directorUrl := some "http://r/?a#b"
        apiUrl := none } :=
  pairLink_roundTrip textFoundation "pt_&key=" "host_0" (by decide) (by decide) ⟨List.replicate 32 0, by decide⟩
    (some "http://r/?a#b") none

end Pherry.PherryKit
