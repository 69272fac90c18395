import Peace.Packet

/-!
# Service calls and the remote-or-local shell (spec §4.7)

A service method is a function of the in-process state and its request. Its `Outcome`
is a value, an error returned through `?`, or an abort (`todo!`, `unwrap` of an `Err`);
each carries the state the call leaves behind, so a mutation made before an error or a
panic stays visible.

`forward` is the Remote variant of a method: the request goes to a peer, which runs the
Local variant on its own state and answers with a `tonic::Status` on error; the adapter
then maps the status back with the method's own `map_err`.
-/

namespace Peace

/-- How a service call ends, with the state it leaves. -/
inductive Outcome (ε σ α : Type) where
  | ok (a : α) (s : σ)
  | err (e : ε) (s : σ)
  | abort (msg : String) (s : σ)
  deriving DecidableEq, Repr

namespace Outcome

variable {ε σ α : Type}

/-- The state a call leaves. -/
def state : Outcome ε σ α → σ
  | ok _ s | err _ s | abort _ s => s

@[simp] theorem state_ok (a : α) (s : σ) : (ok a s : Outcome ε σ α).state = s := rfl
@[simp] theorem state_err (e : ε) (s : σ) : (err e s : Outcome ε σ α).state = s := rfl
@[simp] theorem state_abort (m : String) (s : σ) : (abort m s : Outcome ε σ α).state = s := rfl

/-- Map the value of a call. -/
def map {β : Type} (f : α → β) : Outcome ε σ α → Outcome ε σ β
  | ok a s => ok (f a) s
  | err e s => err e s
  | abort m s => abort m s

@[simp] theorem map_ok {β : Type} (f : α → β) (a : α) (s : σ) :
    (ok a s : Outcome ε σ α).map f = ok (f a) s := rfl
@[simp] theorem map_err {β : Type} (f : α → β) (e : ε) (s : σ) :
    (err e s : Outcome ε σ α).map f = err e s := rfl
@[simp] theorem map_abort {β : Type} (f : α → β) (m : String) (s : σ) :
    (abort m s : Outcome ε σ α).map f = abort m s := rfl
theorem state_map {β : Type} (f : α → β) (o : Outcome ε σ α) :
    (o.map f).state = o.state := by
  cases o <;> rfl

/-- Whether the call aborted. -/
def isAbort : Outcome ε σ α → Bool
  | abort _ _ => true
  | _ => false

@[simp] theorem isAbort_ok (a : α) (s : σ) : (ok a s : Outcome ε σ α).isAbort = false := rfl
@[simp] theorem isAbort_err (e : ε) (s : σ) : (err e s : Outcome ε σ α).isAbort = false := rfl
@[simp] theorem isAbort_abort (m : String) (s : σ) : (abort m s : Outcome ε σ α).isAbort = true :=
  rfl

end Outcome

/-- `tonic::Code`. -/
inductive Code where
  | ok | cancelled | unknown | invalidArgument | deadlineExceeded | notFound
  | alreadyExists | permissionDenied | resourceExhausted | failedPrecondition | aborted
  | outOfRange | unimplemented | internal | unavailable | dataLoss | unauthenticated
  deriving DecidableEq, Repr

/-- `tonic::Status`. -/
structure Status where
  code : Code
  message : String
  deriving DecidableEq, Repr

/-- The Remote variant of a method: the peer runs `loc` on its state, reporting an
error `e` as `toStatus e`; the adapter maps the status back with `mapErr`. A peer that
aborts is left out: no response reaches the caller. -/
def forward {ε σ α : Type} (toStatus : ε → Status) (mapErr : Status → ε)
    (loc : σ → Outcome ε σ α) (s : σ) : Outcome ε σ α :=
  match loc s with
  | .ok a s' => .ok a s'
  | .err e s' => .err (mapErr (toStatus e)) s'
  | .abort m s' => .abort m s'

section Forward

variable {ε σ α : Type} (toStatus : ε → Status) (mapErr : Status → ε)
  (loc : σ → Outcome ε σ α) (s : σ)

/-- The Remote variant answers `Ok` with exactly the Local variant's response. -/
theorem forward_ok_iff (a : α) (s' : σ) :
    forward toStatus mapErr loc s = .ok a s' ↔ loc s = .ok a s' := by
  unfold forward
  split <;> simp_all

/-- An error of the Local variant reaches the caller as `mapErr (toStatus e)`. -/
theorem forward_err (e : ε) (s' : σ) (h : loc s = .err e s') :
    forward toStatus mapErr loc s = .err (mapErr (toStatus e)) s' := by
  simp [forward, h]

end Forward

end Peace
