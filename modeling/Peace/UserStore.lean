import Peace.Session

/-!
# The session registry (`UserStore`, spec §4.1)

`crate::users` is not in the repository; the registry is modelled from the spec. Four
`HashMap` indexes map a session id, user id, username and unicode username to a handle of
the shared session record (the `Arc` every index holds). The records and their queues
live beside the indexes, by handle, so a push through any index reaches the one queue.

The `Username` index is keyed by the session's `username` as stored. Spec §4.1 calls the
query a safe-form string (`safe_name`, in `Peace.Users.Username`), but the one place src
matches a session against a `Username` target, `session_is_target`
(bancho_state.rs:84–88), compares the stored name as it is; a registry keyed by
`safe_name` would resolve a query to a session that check rejects unless stored names are
already in safe form, where the two keys agree.

- `Index`: one `HashMap`, its keys distinct by construction; `Index.get_eq_some_iff`.
- `UserStore.get`, `values`: lookup by a `UserQuery`, and iteration for broadcasts (over
  the session id index).
- `UserStore.pushPacket`, `drain`, `modify`: the per-handle updates the services make,
  with their frame lemmas.
- `UserStore.create`, `delete`: creation (displacing a session of the same user with a
  logout frame) and deletion from all indexes.
-/

namespace Peace

/-- `UserQuery`: how a request names a user. -/
inductive UserQuery where
  | sessionId (id : String)
  | userId (id : Int)
  | username (name : String)
  | usernameUnicode (name : String)
  deriving DecidableEq, Repr

/-- Modelled from the spec: one `HashMap` index of `UserIndexes`, key → handle. -/
structure Index (κ : Type) [DecidableEq κ] where
  entries : List (κ × Nat)
  nodup : (entries.map Prod.fst).Nodup

namespace Index

variable {κ : Type} [DecidableEq κ]

/-- `HashMap::new()`. -/
def empty : Index κ := ⟨[], List.nodup_nil⟩

/-- `HashMap::get`. -/
def get (i : Index κ) (k : κ) : Option Nat := i.entries.lookup k

/-- `HashMap::remove`. -/
def erase (i : Index κ) (k : κ) : Index κ :=
  ⟨i.entries.filter (·.1 ≠ k), i.nodup.sublist ((List.filter_sublist _).map _)⟩

/-- `HashMap::insert`, replacing an entry with the same key. -/
def insert (i : Index κ) (k : κ) (h : Nat) : Index κ :=
  ⟨(k, h) :: (i.erase k).entries, List.nodup_cons.mpr ⟨by simp [erase], (i.erase k).nodup⟩⟩

/-- `HashMap::values`. -/
def values (i : Index κ) : List Nat := i.entries.map Prod.snd

theorem lookup_eq_some_iff {l : List (κ × Nat)} (hl : (l.map Prod.fst).Nodup) (k : κ)
    (h : Nat) : l.lookup k = some h ↔ (k, h) ∈ l := by
  induction l with
  | nil => simp
  | cons e l ih =>
    obtain ⟨k', h'⟩ := e
    simp only [List.map_cons, List.nodup_cons] at hl
    by_cases hk : k = k'
    · subst hk
      have : (k, h) ∉ l := fun hm => hl.1 (List.mem_map.mpr ⟨_, hm, rfl⟩)
      simp [this, eq_comm]
    · have hb : (k == k') = false := by simpa using hk
      simp [List.lookup_cons, hb, ih hl.2, hk]

/-- With distinct keys, a lookup finds exactly the entries. -/
theorem get_eq_some_iff (i : Index κ) (k : κ) (h : Nat) :
    i.get k = some h ↔ (k, h) ∈ i.entries :=
  lookup_eq_some_iff i.nodup k h

theorem mem_values {i : Index κ} {h : Nat} : h ∈ i.values ↔ ∃ k, i.get k = some h := by
  simp [values, get_eq_some_iff]

@[simp] theorem get_insert_self (i : Index κ) (k : κ) (h : Nat) : (i.insert k h).get k = some h := by
  simp [get, insert]

theorem get_erase_ne (i : Index κ) {k k' : κ} (hk : k' ≠ k) : (i.erase k).get k' = i.get k' := by
  simp only [get, erase]
  induction i.entries with
  | nil => rfl
  | cons e l ih =>
    obtain ⟨k'', h''⟩ := e
    by_cases e₁ : k'' = k
    · subst e₁
      have hb : (k' == k'') = false := by simpa using hk
      rw [List.filter_cons_of_neg (by simp), ih]
      simp [List.lookup_cons, hb]
    · rw [List.filter_cons_of_pos (by simpa using e₁)]
      simp only [List.lookup_cons, ih]

theorem get_insert_ne (i : Index κ) {k k' : κ} (h : Nat) (hk : k' ≠ k) :
    (i.insert k h).get k' = i.get k' := by
  have hb : (k' == k) = false := by simpa using hk
  have := get_erase_ne i hk
  simp only [get, insert] at this ⊢
  simp [List.lookup_cons, hb, this]

end Index

/-- Modelled from the spec: `UserIndexes`, the four indexes of the registry. -/
structure UserIndexes where
  sessionId : Index String := .empty
  userId : Index Int := .empty
  username : Index String := .empty
  usernameUnicode : Index String := .empty

/-- Modelled from the spec: a `UserStore` of sessions with extension `E`. -/
structure UserStore (E : Type) where
  indexes : UserIndexes
  /-- The shared session records, by handle. -/
  heap : Nat → Session E
  /-- Each session's `packets_queue`, by handle. -/
  queues : Nat → List Packet
  /-- The next fresh handle. -/
  next : Nat

namespace UserStore

variable {E : Type}

/-- An empty registry; `d` fills the unused handles. -/
def empty (d : Session E) : UserStore E := ⟨{}, fun _ => d, fun _ => [], 0⟩

/-- `UserStore::get` / `get_inner`: the handle a query resolves to. -/
def get (st : UserStore E) : UserQuery → Option Nat
  | .sessionId k => st.indexes.sessionId.get k
  | .userId k => st.indexes.userId.get k
  | .username k => st.indexes.username.get k
  | .usernameUnicode k => st.indexes.usernameUnicode.get k

/-- `values()`: the registered sessions, in iteration order of the session id index. -/
def values (st : UserStore E) : List Nat := st.indexes.sessionId.values

/-- `session.push_packet(p)` on the session with handle `h`. -/
def pushPacket (st : UserStore E) (h : Nat) (p : Packet) : UserStore E :=
  { st with queues := Function.update st.queues h (Peace.pushPacket (st.queues h) p) }

/-- Replace the queue of `h` (what a drain leaves). -/
def setQueue (st : UserStore E) (h : Nat) (q : List Packet) : UserStore E :=
  { st with queues := Function.update st.queues h q }

/-- `dequeue_all_packets` on the session with handle `h`. -/
def drain (st : UserStore E) (h : Nat) : Bytes × UserStore E :=
  ((dequeueAllPackets (st.queues h)).1, st.setQueue h (dequeueAllPackets (st.queues h)).2)

/-- An atomic store into the record of `h`. -/
def modify (st : UserStore E) (h : Nat) (f : Session E → Session E) : UserStore E :=
  { st with heap := Function.update st.heap h (f (st.heap h)) }

@[simp] theorem pushPacket_indexes (st : UserStore E) (h : Nat) (p : Packet) :
    (st.pushPacket h p).indexes = st.indexes := rfl
@[simp] theorem pushPacket_heap (st : UserStore E) (h : Nat) (p : Packet) :
    (st.pushPacket h p).heap = st.heap := rfl
@[simp] theorem pushPacket_next (st : UserStore E) (h : Nat) (p : Packet) :
    (st.pushPacket h p).next = st.next := rfl
theorem pushPacket_queues (st : UserStore E) (h : Nat) (p : Packet) (h' : Nat) :
    (st.pushPacket h p).queues h' = if h' = h then st.queues h ++ [p] else st.queues h' := by
  by_cases e : h' = h <;> simp [pushPacket, Function.update, e, Peace.pushPacket]

@[simp] theorem setQueue_indexes (st : UserStore E) (h : Nat) (q : List Packet) :
    (st.setQueue h q).indexes = st.indexes := rfl
@[simp] theorem setQueue_heap (st : UserStore E) (h : Nat) (q : List Packet) :
    (st.setQueue h q).heap = st.heap := rfl

@[simp] theorem modify_indexes (st : UserStore E) (h : Nat) (f : Session E → Session E) :
    (st.modify h f).indexes = st.indexes := rfl
@[simp] theorem modify_queues (st : UserStore E) (h : Nat) (f : Session E → Session E) :
    (st.modify h f).queues = st.queues := rfl
@[simp] theorem modify_next (st : UserStore E) (h : Nat) (f : Session E → Session E) :
    (st.modify h f).next = st.next := rfl

theorem modify_heap (st : UserStore E) (h : Nat) (f : Session E → Session E) (j : Nat) :
    (st.modify h f).heap j = if j = h then f (st.heap h) else st.heap j := by
  by_cases e : j = h <;> simp [modify, Function.update, e]

theorem drain_fst (st : UserStore E) (h : Nat) : (st.drain h).1 = framesBytes (st.queues h) := by
  rw [drain, dequeueAllPackets_eq]
@[simp] theorem drain_heap (st : UserStore E) (h : Nat) : (st.drain h).2.heap = st.heap := rfl
@[simp] theorem get_drain (st : UserStore E) (h : Nat) (q : UserQuery) :
    (st.drain h).2.get q = st.get q := by cases q <;> rfl

@[simp] theorem get_pushPacket (st : UserStore E) (h : Nat) (p : Packet) (q : UserQuery) :
    (st.pushPacket h p).get q = st.get q := by cases q <;> rfl
@[simp] theorem get_modify (st : UserStore E) (h : Nat) (f : Session E → Session E)
    (q : UserQuery) : (st.modify h f).get q = st.get q := by cases q <;> rfl
@[simp] theorem values_pushPacket (st : UserStore E) (h : Nat) (p : Packet) :
    (st.pushPacket h p).values = st.values := rfl
@[simp] theorem values_modify (st : UserStore E) (h : Nat) (f : Session E → Session E) :
    (st.modify h f).values = st.values := rfl

/-- Remove the keys of the record `h` from every index. -/
def unlink (st : UserStore E) (h : Nat) : UserStore E :=
  let s := st.heap h
  { st with indexes :=
    { sessionId := st.indexes.sessionId.erase s.id
      userId := st.indexes.userId.erase s.userId
      username := st.indexes.username.erase s.username
      usernameUnicode := match s.usernameUnicode with
        | some u => st.indexes.usernameUnicode.erase u
        | none => st.indexes.usernameUnicode } }

/-- Modelled from the spec: `UserStore::create`. A session of the same user gets a
logout frame and is removed; the new record `s` gets a fresh handle, an empty queue
and all its index keys. Returns the new handle. -/
def create (c : Codec) (st : UserStore E) (s : Session E) : UserStore E × Nat :=
  let st₁ := match st.get (.userId s.userId) with
    | some old => (st.pushPacket old (.data (c.logout s.userId))).unlink old
    | none => st
  let h := st₁.next
  ({ indexes :=
      { sessionId := st₁.indexes.sessionId.insert s.id h
        userId := st₁.indexes.userId.insert s.userId h
        username := st₁.indexes.username.insert s.username h
        usernameUnicode := match s.usernameUnicode with
          | some u => st₁.indexes.usernameUnicode.insert u h
          | none => st₁.indexes.usernameUnicode }
     heap := Function.update st₁.heap h s
     queues := Function.update st₁.queues h []
     next := h + 1 }, h)

/-- Modelled from the spec: `UserStore::delete`, reporting whether a session was removed. -/
def delete (st : UserStore E) (q : UserQuery) : UserStore E × Bool :=
  match st.get q with
  | some h => (st.unlink h, true)
  | none => (st, false)

end UserStore

end Peace
