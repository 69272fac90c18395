import Peace.BanchoState.Local

/-!
# `BanchoStateServiceRemote` against the Local variant (bancho_state.rs:101–879)

Each Remote method is `client().method(request).await.map_err(..).map(into_inner)`. The
peer runs the Local method on its registry and reports an error by its well-known code,
`SessionNotExists` as `NotFound` (spec §4.7, §6). The adapters differ only in their
`map_err`: `check_user_session_exists` turns `NotFound` back into `SessionNotExists`,
every other method wraps the status as `RpcError`.

So a Remote call answers `Ok` exactly when the Local call does, with the same response
(`callRemote_ok_iff`), and the two agree on a missing session only for
`check_user_session_exists`; elsewhere the caller receives `RpcError(NotFound)`.
-/

namespace Peace

/-- Modelled from the spec: the status the peer's server answers for a Local error
(spec §6: `InvalidArgument`, `NotFound` for `SessionNotExists`, `Internal`). -/
def BanchoStateError.toStatus : BanchoStateError → Status
  | .invalidArgument => ⟨.invalidArgument, "invalid argument"⟩
  | .sessionNotExists => ⟨.notFound, "session not exists"⟩
  | .invalidConnectionInfo => ⟨.internal, "invalid connection info"⟩
  | .rpcError s => s

namespace BanchoStateLocal

variable (c : Codec)

/-- The adapter's `map_err` for each method (bancho_state.rs:325–331 for
`check_user_session_exists`, `BanchoStateError::RpcError` for the others). -/
def Call.mapErr : Call → Status → BanchoStateError
  | .checkUserSessionExists _ _ => fun s =>
    if s.code = .notFound then .sessionNotExists else .rpcError s
  | _ => .rpcError

/-- The Remote variant of a call, against a peer holding the registry `st`. -/
def callRemote (st : BanchoState) (call : Call) :
    Outcome BanchoStateError BanchoState Response :=
  forward BanchoStateError.toStatus call.mapErr (fun st => callLocal c st call) st

/-- Remote and Local answer `Ok` together, with the same response. -/
theorem callRemote_ok_iff (st : BanchoState) (call : Call) (r : Response) (s : BanchoState) :
    callRemote c st call = .ok r s ↔ callLocal c st call = .ok r s :=
  forward_ok_iff _ _ _ st r s

/-- `check_user_session_exists` reports a missing session as the Local variant does. -/
theorem callRemote_check_not_found (st : BanchoState) (now : Nat) (q : UserQuery)
    (s : BanchoState)
    (h : callLocal c st (.checkUserSessionExists now q) = .err .sessionNotExists s) :
    callRemote c st (.checkUserSessionExists now q) = .err .sessionNotExists s := by
  rw [callRemote, forward_err _ _ (fun st => callLocal c st _) st _ s h]
  rfl

/-- Every other method reports a missing session as `RpcError(NotFound)`. -/
theorem callRemote_not_found (st : BanchoState) (call : Call)
    (hc : ∀ now q, call ≠ .checkUserSessionExists now q) (s : BanchoState)
    (h : callLocal c st call = .err .sessionNotExists s) :
    callRemote c st call = .err (.rpcError ⟨.notFound, "session not exists"⟩) s := by
  rw [callRemote, forward_err _ _ (fun st => callLocal c st _) st _ s h]
  cases call <;> first | exact absurd rfl (hc _ _) | rfl

/-- **Remote and Local disagree on a missing session.** `get_user_session` for an
absent user: the Local variant returns `SessionNotExists`, the Remote variant over a
peer holding the same registry returns `RpcError(NotFound)`. -/
theorem remote_get_user_session_not_found :
    callLocal .opcodes oneSession (.getUserSession (.userId 2)) =
        .err .sessionNotExists oneSession ∧
      callRemote .opcodes oneSession (.getUserSession (.userId 2)) =
        .err (.rpcError ⟨.notFound, "session not exists"⟩) oneSession := by
  constructor <;> rfl

end BanchoStateLocal

end Peace
