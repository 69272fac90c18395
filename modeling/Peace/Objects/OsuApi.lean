import Mathlib.Data.List.Perm.Basic
import Mathlib.Data.List.Nodup

/-!
# Reloading the osu! api keys (osu_api.rs:15–120)

`OsuApi::reload_clients` brings the client list in line with the configured keys in two
loops. The first collects the indexes of the clients whose key is no longer configured and
then removes them with `Vec::remove`, one after another. The second pushes a new client for
each configured key that no remaining client has.

The indexes are collected before any removal, but each `remove` shifts the clients after it
one place down. So the second index removed is one place past the client it was collected
for, and so on; an index past the end panics. A client is modelled without its
`requester`; `None` is the panic.

- `removeAt_getElem?_of_lt`: a removal loop keeps every client in front of all the indexes.
- `removeAt_shouldRemove`: with at most one index collected, the loop removes exactly the
  clients whose key went.
- **`reload_clients_spec_iff`**: for distinct client keys and distinct configured keys,
  `reload_clients` returns and meets `ReloadSpec` (the keys are the configured ones, each
  once, kept clients keep their counters and dropped clients are gone) exactly when at most
  one client's key was dropped.
-/

namespace Peace

/-- `OsuApiClient` (osu_api.rs:15–23) without its `requester`: the key and the counters,
`AtomicUsize`s that wrap. -/
structure OsuApiClient where
  key : String
  successCount : UInt64
  failedCount : UInt64
  deriving DecidableEq, Repr

/-- `OsuApiClient::new` (osu_api.rs:26–33). -/
def OsuApiClient.new (key : String) : OsuApiClient := ⟨key, 0, 0⟩

/-- `OsuApi` (osu_api.rs:48–57) as far as `reload_clients` reads it. -/
structure OsuApi where
  apiClients : List OsuApiClient
  deriving DecidableEq, Repr

/-- `Vec::remove`: take out the element at `idx`; an index past the end panics (`none`). -/
def vecRemove {α : Type} (v : List α) (idx : Nat) : Option (List α) :=
  if idx < v.length then some (v.eraseIdx idx) else none

namespace OsuApi

/-- `should_remove`, collected by the first loop of `reload_clients` (osu_api.rs:97–102):
the indexes of the clients whose key is not among `newKeys`. -/
def shouldRemove (clients : List OsuApiClient) (newKeys : List String) : List Nat :=
  (clients.enum.filter fun (_, client) => !newKeys.contains client.key).map Prod.fst

/-- The removal loop (osu_api.rs:103–106): each index is removed from the list as the
removals before it left it. -/
def removeAt {α : Type} : List α → List Nat → Option (List α)
  | v, [] => some v
  | v, idx :: idxs => (vecRemove v idx).bind fun v => removeAt v idxs

theorem removeAt_cons {α : Type} (v : List α) (idx : Nat) (idxs : List Nat) :
    removeAt v (idx :: idxs) = (vecRemove v idx).bind fun v => removeAt v idxs := rfl

/-- The adding loop (osu_api.rs:109–119): a new client for each key of `newKeys` that is not
among `oldKeys`, the keys left after the removals. -/
def addClients (oldKeys : List String) (clients : List OsuApiClient) (newKeys : List String) :
    List OsuApiClient :=
  newKeys.foldl (fun clients key =>
    if !oldKeys.contains key then clients ++ [OsuApiClient.new key] else clients) clients

/-- `reload_clients` (osu_api.rs:93–120), with `newKeys` the configured `osu_api_keys`;
`none` is the panic of `Vec::remove`. -/
def reloadClients (api : OsuApi) (newKeys : List String) : Option OsuApi :=
  (removeAt api.apiClients (shouldRemove api.apiClients newKeys)).map fun clients =>
    ⟨addClients (clients.map (·.key)) clients newKeys⟩

/-- What `reload_clients` is for: the keys are exactly `newKeys`, each once; a client whose
key stays is kept, counters included; a client whose key went is removed. -/
structure ReloadSpec (before : List OsuApiClient) (newKeys : List String)
    (after : List OsuApiClient) : Prop where
  keys : (after.map (·.key)).Perm newKeys
  kept : ∀ c ∈ before, c.key ∈ newKeys → c ∈ after
  removed : ∀ c ∈ before, c.key ∉ newKeys → c ∉ after

/-! ## The collected indexes -/

variable {newKeys : List String}

theorem shouldRemove_cons (c : OsuApiClient) (cs : List OsuApiClient) :
    shouldRemove (c :: cs) newKeys = if c.key ∈ newKeys
      then (shouldRemove cs newKeys).map (· + 1)
      else 0 :: (shouldRemove cs newKeys).map (· + 1) := by
  by_cases h : c.key ∈ newKeys <;>
    simp [shouldRemove, List.enum_cons', List.filter_map, Function.comp_def, h]

theorem length_shouldRemove (cs : List OsuApiClient) :
    (shouldRemove cs newKeys).length = (cs.filter fun c => c.key ∉ newKeys).length := by
  induction cs with
  | nil => rfl
  | cons c cs ih => by_cases h : c.key ∈ newKeys <;> simp [shouldRemove_cons, h, ih]

/-- Every collected index is that of a client whose key went. -/
theorem getElem_of_mem_shouldRemove {cs : List OsuApiClient} {i : Nat}
    (h : i ∈ shouldRemove cs newKeys) : ∃ hi : i < cs.length, cs[i].key ∉ newKeys := by
  induction cs generalizing i with
  | nil => simp [shouldRemove] at h
  | cons c cs ih =>
    have hsucc : i ∈ (shouldRemove cs newKeys).map (· + 1) →
        ∃ hi : i < (c :: cs).length, (c :: cs)[i].key ∉ newKeys := fun hm => by
      obtain ⟨j, hj, rfl⟩ := List.mem_map.mp hm
      obtain ⟨hl, hk⟩ := ih hj
      exact ⟨by simpa using hl, by simpa using hk⟩
    rw [shouldRemove_cons] at h
    split at h
    · exact hsucc h
    · rcases List.mem_cons.mp h with rfl | h
      · exact ⟨by simp, by simpa⟩
      · exact hsucc h

/-- The indexes are collected in increasing order. -/
theorem shouldRemove_sorted (cs : List OsuApiClient) :
    (shouldRemove cs newKeys).Pairwise (· < ·) := by
  induction cs with
  | nil => simp [shouldRemove]
  | cons c cs ih =>
    have hmap : ((shouldRemove cs newKeys).map (· + 1)).Pairwise (· < ·) :=
      List.pairwise_map.mpr (ih.imp fun h => by omega)
    rw [shouldRemove_cons]
    split
    · exact hmap
    · exact List.pairwise_cons.mpr ⟨by simp, hmap⟩

/-- With nothing collected, every key stays. -/
theorem filter_of_shouldRemove_eq_nil {cs : List OsuApiClient}
    (h : shouldRemove cs newKeys = []) : cs.filter (fun c => c.key ∈ newKeys) = cs := by
  have h0 := @length_shouldRemove newKeys cs
  rw [h, List.length_nil, eq_comm, List.length_eq_zero, List.filter_eq_nil_iff] at h0
  exact List.filter_eq_self.mpr fun c hc => by simpa using h0 c hc

/-- With one index collected, removing it removes exactly the client whose key went. -/
theorem eraseIdx_of_shouldRemove_eq_single {cs : List OsuApiClient} {i : Nat}
    (h : shouldRemove cs newKeys = [i]) :
    i < cs.length ∧ cs.eraseIdx i = cs.filter (fun c => c.key ∈ newKeys) := by
  induction cs generalizing i with
  | nil => simp [shouldRemove] at h
  | cons c cs ih =>
    rw [shouldRemove_cons] at h
    split at h
    · obtain ⟨j, js, hj, rfl, hjs⟩ := List.map_eq_cons_iff.mp h
      rw [List.map_eq_nil_iff.mp hjs] at hj
      obtain ⟨hl, he⟩ := ih hj
      exact ⟨by simpa using hl, by simp [*]⟩
    · obtain ⟨rfl, hnil⟩ := List.cons_eq_cons.mp h
      exact ⟨by simp, by
        simp [*, filter_of_shouldRemove_eq_nil (List.map_eq_nil_iff.mp hnil)]⟩

/-! ## The two loops -/

/-- A removal loop keeps every element in front of all its indexes. -/
theorem removeAt_getElem?_of_lt {α : Type} {p : Nat} :
    ∀ {v w : List α} {idxs : List Nat}, removeAt v idxs = some w → (∀ i ∈ idxs, p < i) →
      w[p]? = v[p]?
  | _, _, [], h, _ => by cases h; rfl
  | v, w, idx :: idxs, h, hp => by
    rw [removeAt_cons, vecRemove] at h
    split at h
    · rw [removeAt_getElem?_of_lt (by simpa using h) fun i hi => hp i (List.mem_cons_of_mem _ hi),
        List.getElem?_eraseIdx_of_lt _ _ _ (hp idx (List.mem_cons_self _ _))]
    · cases h

/-- With at most one index collected, the removal loop keeps exactly the clients whose key
stays. -/
theorem removeAt_shouldRemove {cs : List OsuApiClient}
    (h : (shouldRemove cs newKeys).length ≤ 1) :
    removeAt cs (shouldRemove cs newKeys) = some (cs.filter fun c => c.key ∈ newKeys) := by
  match hs : shouldRemove cs newKeys, h with
  | [], _ => simp [removeAt, filter_of_shouldRemove_eq_nil hs]
  | [i], _ =>
    obtain ⟨hl, he⟩ := eraseIdx_of_shouldRemove_eq_single hs
    simp [removeAt, vecRemove, hl, he]

theorem addClients_eq (oldKeys : List String) :
    ∀ (clients : List OsuApiClient) (newKeys : List String),
      addClients oldKeys clients newKeys =
        clients ++ (newKeys.filter fun key => key ∉ oldKeys).map OsuApiClient.new
  | _, [] => by simp [addClients]
  | clients, key :: keys => by
    rw [show addClients oldKeys clients (key :: keys) = addClients oldKeys
      (if !oldKeys.contains key then clients ++ [OsuApiClient.new key] else clients) keys
      from rfl, addClients_eq]
    by_cases h : key ∈ oldKeys <;> simp [h]

/-! ## `reload_clients` -/

/-- Distinct keys that are all configured, followed by the configured keys not among them,
are the configured keys. -/
theorem append_filter_perm {ks keys : List String} (hks : ks.Nodup) (hkeys : keys.Nodup)
    (hsub : ∀ a ∈ ks, a ∈ keys) : (ks ++ keys.filter fun a => a ∉ ks).Perm keys := by
  have h : ks.Perm (keys.filter fun a => a ∈ ks) :=
    (List.perm_ext_iff_of_nodup hks (hkeys.filter _)).mpr fun a => by
      simpa using fun ha => hsub a ha
  exact (h.append_right _).trans
    (by simpa using List.filter_append_perm (fun a => decide (a ∈ ks)) keys)

/-- With at most one key dropped, the result meets the specification. -/
theorem reloadSpec_of_le_one {cs : List OsuApiClient} (hk : (cs.map (·.key)).Nodup)
    (hn : newKeys.Nodup) :
    let kept := cs.filter fun c => c.key ∈ newKeys
    ReloadSpec cs newKeys
      (addClients (kept.map (·.key)) kept newKeys) := by
  intro kept
  have hkept : ∀ c ∈ kept, c ∈ cs ∧ c.key ∈ newKeys := fun c hc => by simpa [kept] using hc
  have hmap : (fun c : OsuApiClient => c.key) ∘ OsuApiClient.new = id := rfl
  rw [addClients_eq]
  refine ⟨?_, fun c hc hin => by simp [kept, hc, hin], fun c hc hout hc' => ?_⟩
  · rw [List.map_append, List.map_map, hmap, List.map_id]
    exact append_filter_perm (hk.sublist ((List.filter_sublist cs).map _)) hn fun a ha => by
      obtain ⟨c, hc, rfl⟩ := List.mem_map.mp ha
      exact (hkept c hc).2
  · rcases List.mem_append.mp hc' with h | h
    · exact hout (hkept c h).2
    · obtain ⟨key, hkey, rfl⟩ := List.mem_map.mp h
      exact hout (List.mem_filter.mp hkey).1

/-- With two keys dropped or more, the second client whose key went survives the removal
loop: it is shifted to the index before it, in front of every index left to remove. -/
theorem second_dropped_survives {cs w : List OsuApiClient} {i₀ i₁ : Nat} {rest : List Nat}
    (hs : shouldRemove cs newKeys = i₀ :: i₁ :: rest)
    (hw : removeAt cs (shouldRemove cs newKeys) = some w) :
    ∃ c ∈ cs, c.key ∉ newKeys ∧ c ∈ w := by
  have hsort := @shouldRemove_sorted newKeys cs
  rw [hs] at hsort hw
  obtain ⟨h01, hrest⟩ : i₀ < i₁ ∧ ∀ j ∈ rest, i₁ < j := by
    simp only [List.pairwise_cons, List.mem_cons] at hsort
    exact ⟨hsort.1 i₁ (.inl rfl), hsort.2.1⟩
  obtain ⟨hl, hkey⟩ := getElem_of_mem_shouldRemove (hs ▸ List.mem_cons_of_mem _
    (List.mem_cons_self i₁ rest))
  rw [removeAt_cons, vecRemove] at hw
  split at hw
  · have hkeep := removeAt_getElem?_of_lt (p := i₁ - 1) (by simpa using hw) fun j hj => by
      rcases List.mem_cons.mp hj with rfl | hj
      · omega
      · have := hrest j hj; omega
    rw [List.getElem?_eraseIdx_of_ge _ _ _ (by omega), Nat.sub_add_cancel (by omega),
      List.getElem?_eq_getElem hl] at hkeep
    exact ⟨cs[i₁], List.getElem_mem hl, hkey, List.mem_iff_getElem?.mpr ⟨_, hkeep⟩⟩
  · cases hw

/-- **`reload_clients` is right exactly when at most one key is dropped.** For distinct
client keys and distinct configured keys, `reload_clients` returns and meets `ReloadSpec`
exactly when at most one client's key is no longer configured. With two or more, it either
panics in `Vec::remove` or keeps a client whose key went. -/
theorem reload_clients_spec_iff (api : OsuApi) (newKeys : List String)
    (hk : (api.apiClients.map (·.key)).Nodup) (hn : newKeys.Nodup) :
    (∃ api', reloadClients api newKeys = some api' ∧
        ReloadSpec api.apiClients newKeys api'.apiClients) ↔
      (api.apiClients.filter fun c => c.key ∉ newKeys).length ≤ 1 := by
  rw [← length_shouldRemove]
  constructor
  · rintro ⟨api', hr, hspec⟩
    obtain ⟨w, hw, rfl⟩ := Option.map_eq_some'.mp hr
    match hs : shouldRemove api.apiClients newKeys, hw with
    | [], _ | [_], _ => simp
    | i₀ :: i₁ :: rest, hw =>
      obtain ⟨c, hc, hout, hcw⟩ := second_dropped_survives hs (hs ▸ hw)
      exact absurd (List.mem_append_left _ hcw) (by
        rw [← addClients_eq]; exact hspec.removed c hc hout)
  · intro h
    exact ⟨_, by rw [reloadClients, removeAt_shouldRemove h]; rfl, reloadSpec_of_le_one hk hn⟩

/-- Two clients, `a` and `b`, with their counters. -/
def twoClients : OsuApi := ⟨[⟨"a", 3, 1⟩, ⟨"b", 0, 2⟩]⟩

theorem reload_clients_spec_iff_two_dropped :
    (∃ api', reloadClients twoClients [] = some api' ∧
        ReloadSpec twoClients.apiClients [] api'.apiClients) ↔
      (twoClients.apiClients.filter fun c => c.key ∉ ([] : List String)).length ≤ 1 :=
  reload_clients_spec_iff twoClients [] (by decide) (by decide)

/-- Dropping both keys panics: after removing index 0, index 1 is past the end. -/
example : reloadClients twoClients [] = none := by decide

/-- Dropping `a` and `b` of three keeps `b` and gives `c` fresh counters: index 1 is `c` by
the time it is removed. -/
example : reloadClients ⟨[⟨"a", 3, 1⟩, ⟨"b", 0, 2⟩, ⟨"c", 5, 0⟩]⟩ ["c"] =
    some ⟨[⟨"b", 0, 2⟩, ⟨"c", 0, 0⟩]⟩ := by decide

end OsuApi

end Peace
