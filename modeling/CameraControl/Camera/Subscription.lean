import CameraControl.Camera

/-
  Subscribing to changes of features.

  A subscription gives a token, which is live in the session of its camera from before the driver
  is told until the token is given back or the session ends. Tokens are told apart by identity:
  two subscriptions to one feature have two tokens.
-/

namespace CameraControl.Camera

/-- Subscribes to changes of a feature and gives the place of the new token. If the driver refuses,
    the token does not stay live. -/
def subscribe (cam : Camera) (label : String) (f : Feature) (reactions : List Reaction)
    (nested : Option Call) : Action Nat := do
  let token ← fun w =>
    (.ok w.tokens.length,
      w.issue ⟨label, cam.session, cam.handle, f, reactions, nested, false, 0⟩)
  Action.modify fun w => w.modifyLive cam.session (· ++ [token])
  let reply ← Action.tryCall (.feature cam.handle f.key (.subscribe token))
  if reply.status = Status.success then pure token
  else
    Action.modify fun w => w.modifyLive cam.session (·.erase token)
    throw (.device
      (Function.registerFeatureCallback.symbol ++ " for feature \"" ++ f.key ++ "\" failed.")
      reply.status)

/-- Gives a token back. It must have been issued by this camera and still be live; it is not live
    any more afterwards, even if the driver then fails. -/
def unsubscribe (cam : Camera) (token : Nat) : Action Unit := do
  let w ← get
  match w.tokens[token]? with
  | none => pure ()
  | some t =>
    if t.session ≠ cam.session then throw (.protocol (.foreignToken t.feature))
    else if !w.isLive cam.session token then throw (.protocol (.staleToken t.feature))
    else
      Action.modify fun w => w.modifyLive cam.session (·.erase token)
      let _ ← cam.request t.feature (.unsubscribe token) ""

end CameraControl.Camera
