import Pherry.Ios.Docking

/-!
# The docked hosts

What the operations of the model do to the hosts and their keys.
-/

namespace Pherry.Ios

variable {URL : Type} {foundation : Foundation URL}

lemma map_modify {α β : Type*} {f : α → α} {g : α → β} (hfg : ∀ a, g (f a) = g a) (l : List α) (i : ℕ) :
    (l.modify i f).map g = l.map g := by
  induction l generalizing i with
  | nil => simp
  | cons a l ih => cases i <;> simp [hfg, ih]

namespace AppModel

/-- The keys that the phone pins, with their hosts. -/
def pins (hosts : List PairedHost) : List (String × Bytes) :=
  hosts.map fun host => (host.id, host.staticPublicKey)

lemma mem_pins {hosts : List PairedHost} {host : PairedHost} (h : host ∈ hosts) :
    (host.id, host.staticPublicKey) ∈ pins hosts :=
  List.mem_map_of_mem h

lemma map_fst_pins (hosts : List PairedHost) : (pins hosts).map Prod.fst = hosts.map (·.id) := by
  rw [pins, List.map_map]
  rfl

lemma pinnedKey_eq (m : AppModel URL) (hostId : String) :
    m.pinnedKey hostId = ((pins m.hosts).find? fun pin => pin.1 == hostId).map Prod.snd := by
  rw [pins, List.find?_map, Option.map_map]
  rfl

lemma pinnedKey_mem {m : AppModel URL} {hostId : String} {key : Bytes} (h : m.pinnedKey hostId = some key) :
    (hostId, key) ∈ pins m.hosts := by
  rw [pinnedKey_eq, Option.map_eq_some_iff] at h
  obtain ⟨⟨id, key⟩, hfind, rfl⟩ := h
  have hid := List.find?_some hfind
  simp only [beq_iff_eq] at hid
  subst hid
  exact List.mem_of_find?_eq_some hfind

lemma pinnedKey_of_mem {m : AppModel URL} (hunique : ((pins m.hosts).map Prod.fst).Nodup) {hostId : String}
    {key : Bytes} (h : (hostId, key) ∈ pins m.hosts) : m.pinnedKey hostId = some key := by
  rw [pinnedKey_eq]
  generalize pins m.hosts = rows at h hunique
  induction rows with
  | nil => simp at h
  | cons pin rest ih =>
    rw [List.map_cons, List.nodup_cons] at hunique
    rw [List.find?_cons]
    rcases List.mem_cons.1 h with rfl | hrest
    · simp
    · have hne : pin.1 ≠ hostId := by
        rintro rfl
        exact hunique.1 (List.mem_map.2 ⟨_, hrest, rfl⟩)
      rw [show (pin.1 == hostId) = false by simpa using hne]
      exact ih hrest hunique.2

/-! ### `upsertHost` -/

lemma upsertHost_cons (first : PairedHost) (hosts : List PairedHost) (host : PairedHost) :
    upsertHost (first :: hosts) host =
      if first.id = host.id then host :: hosts else first :: upsertHost hosts host := by
  rw [upsertHost, List.findIdx?_cons]
  by_cases h : first.id = host.id
  · simp [h]
  · rw [if_neg (by simpa using h), if_neg h, upsertHost]
    cases hosts.findIdx? (·.id == host.id) <;> rfl

lemma mem_upsertHost {hosts : List PairedHost} {host x : PairedHost} (h : x ∈ upsertHost hosts host) :
    x = host ∨ x ∈ hosts := by
  induction hosts with
  | nil => simpa [upsertHost] using h
  | cons first hosts ih =>
    rw [upsertHost_cons] at h
    split at h
    · rcases List.mem_cons.1 h with rfl | hrest
      · exact Or.inl rfl
      · exact Or.inr (List.mem_cons_of_mem _ hrest)
    · rcases List.mem_cons.1 h with rfl | hrest
      · exact Or.inr List.mem_cons_self
      · exact (ih hrest).imp_right (List.mem_cons_of_mem _)

lemma nodup_upsertHost {hosts : List PairedHost} (host : PairedHost) (h : (hosts.map (·.id)).Nodup) :
    ((upsertHost hosts host).map (·.id)).Nodup := by
  induction hosts with
  | nil => simp [upsertHost]
  | cons first hosts ih =>
    rw [List.map_cons, List.nodup_cons] at h
    rw [upsertHost_cons]
    split
    · rename_i hsame
      rw [List.map_cons, List.nodup_cons, ← hsame]
      exact h
    · rename_i hother
      rw [List.map_cons, List.nodup_cons]
      refine ⟨?_, ih h.2⟩
      intro hmem
      obtain ⟨x, hx, hid⟩ := List.mem_map.1 hmem
      rcases mem_upsertHost hx with rfl | hrest
      · exact hother hid.symm
      · exact h.1 (hid ▸ List.mem_map_of_mem (f := (·.id)) hrest)

lemma find?_upsertHost (hosts : List PairedHost) (host : PairedHost) (hostId : String) :
    (upsertHost hosts host).find? (·.id == hostId) =
      if hostId = host.id then some host else hosts.find? (·.id == hostId) := by
  induction hosts with
  | nil =>
    by_cases h : hostId = host.id
    · simp [upsertHost, h]
    · simp [upsertHost, h, Ne.symm h]
  | cons first hosts ih =>
    rw [upsertHost_cons]
    by_cases hsame : first.id = host.id
    · rw [if_pos hsame, List.find?_cons, List.find?_cons, hsame]
      by_cases h : hostId = host.id
      · simp [h]
      · rw [if_neg h, show (host.id == hostId) = false by simpa using Ne.symm h]
    · rw [if_neg hsame, List.find?_cons, ih, List.find?_cons]
      by_cases h : hostId = host.id
      · rw [if_pos h, if_pos h, show (first.id == hostId) = false by simpa [h] using hsame]
      · rw [if_neg h, if_neg h]

/-! ### The operations -/

lemma pins_rename (m : AppModel URL) (hostId trimmed : String) :
    pins (m.rename foundation hostId trimmed).hosts = pins m.hosts := by
  unfold rename
  split
  · rfl
  · rename_i index _
    simp only [persist, pins]
    rw [map_modify]
    intro host
    rfl

lemma pins_unpair (m : AppModel URL) (hostId : String) :
    pins (m.unpair foundation hostId).hosts = (pins m.hosts).filter fun pin => !(pin.1 == hostId) := by
  simp only [unpair, persist, pins, List.filter_map]
  rfl

lemma load_persisted (m : AppModel URL) (h : m.keychain = some (m.persisted foundation)) :
    load foundation m.keychain = m := by
  have hurl : (m.apiUrl.map foundation.absoluteString).bind foundation.url = m.apiUrl := by
    cases m.apiUrl with
    | none => rfl
    | some u => exact foundation.url_absoluteString u
  obtain ⟨deviceToken, apiUrl, signInToken, hosts, keychain⟩ := m
  simp only at h hurl
  simp only [h, load, persisted, hurl]

lemma redeemed_ok {m m' : AppModel URL} {link : PairLink URL} {apiUrl : URL} {allowRepin : Bool}
    {result : PairRedeemResult} (h : m.redeemed foundation link apiUrl allowRepin result = .ok m') :
    (∀ key, m.pinnedKey link.hostId = some key → key = link.hostStaticPublicKey ∨ allowRepin = true) ∧
    (∃ host, host.id = link.hostId ∧ host.staticPublicKey = link.hostStaticPublicKey ∧
      m'.hosts = upsertHost m.hosts host) ∧
    m'.apiUrl = some (m.apiUrl.getD apiUrl) ∧
    m'.deviceToken = some (m.deviceToken.getD result.deviceToken) ∧
    (m'.signInToken = if m.deviceToken.isNone then result.signInToken else m.signInToken) ∧
    m'.keychain = some (m'.persisted foundation) := by
  unfold redeemed at h
  split at h
  · cases h
  rename_i hhost
  rw [not_not] at hhost
  split at h
  · cases h
  rename_i hrepin
  obtain rfl := Except.ok.inj h
  refine ⟨?_, ⟨{
      id := result.hostId
      name := PairedHost.defaultName result.hostId
      staticPublicKey := link.hostStaticPublicKey
      directorUrl := link.directorUrl.orElse fun _ => result.directorUrl }, hhost, rfl, ?_⟩, ?_, ?_, ?_, rfl⟩
  · intro key hkey
    obtain ⟨existing, hfind, rfl⟩ := Option.map_eq_some_iff.1 hkey
    rw [hhost, hfind] at hrepin
    simp only [Option.any_some, Bool.and_eq_true, bne_iff_ne, ne_eq, Bool.not_eq_true', not_and,
      Bool.not_eq_false] at hrepin
    exact or_iff_not_imp_left.2 hrepin
  · obtain ⟨token, api, signInToken, hosts, keychain⟩ := m
    cases api <;> cases token <;> rfl
  · obtain ⟨token, api, signInToken, hosts, keychain⟩ := m
    cases api <;> cases token <;> rfl
  · obtain ⟨token, api, signInToken, hosts, keychain⟩ := m
    cases api <;> cases token <;> rfl
  · obtain ⟨token, api, signInToken, hosts, keychain⟩ := m
    cases api <;> cases token <;> rfl

end AppModel

end Pherry.Ios
