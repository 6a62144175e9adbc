import Sentrits.Found.Bytes
import Sentrits.Store.PairingStore

/-!
# Who may do what

A request carries a bearer token, or none. The authorizer lets through whoever shows the token of an
approved device; what approves devices or configures the host it lets through from the host itself.

* `authenticateBearerToken_authorized_iff`: **a token is let through exactly when** it is the token
  of an approved device.
* `not_authorized_of_unapproved`: without one, nothing is let through but what the host itself may
  do.

Sources: `include/vibe/auth/authorizer.h`, `src/auth/default_authorizer.cpp`.
-/

namespace Sentrits.Auth

open Found Found.Bytes Store

/-- Source: `authorizer.h` `AuthorizationAction`. -/
inductive AuthorizationAction
  | observeSessions
  | controlSession
  | approvePairing
  | configureHost
  | manageHostSetups
  deriving DecidableEq

/-- What the authorizer reads of a request.
Source: `authorizer.h` `RequestContext`. -/
structure RequestContext where
  bearerToken : Bytes
  isLocalRequest : Bool := false
  deriving DecidableEq

/-- Source: `authorizer.h` `AuthResult`. -/
structure AuthResult where
  authenticated : Bool := false
  authorized : Bool := false
  deviceId : Option DeviceId := none
  reason : String := ""
  deriving DecidableEq

/-- The first approved device with the token. -/
def findToken (approved : List PairingRecord) (bearerToken : Bytes) : Option PairingRecord :=
  approved.find? (utf8 ·.bearerToken = bearerToken)

/-- Source: `default_authorizer.cpp` `DefaultAuthorizer::AuthenticateBearerToken`. -/
def authenticateBearerToken (store : PairingStore) (bearerToken : Bytes) : AuthResult :=
  if bearerToken.isEmpty then { reason := "missing bearer token" }
  else
    match findToken store.approved bearerToken with
    | some record =>
        { authenticated := true, authorized := true, deviceId := some record.deviceId }
    | none => { reason := "invalid bearer token" }

/-- What only the host itself may do. -/
def AuthorizationAction.isLocal : AuthorizationAction → Bool
  | .approvePairing | .configureHost => true
  | _ => false

/-- Source: `default_authorizer.cpp` `DefaultAuthorizer::Authorize`. -/
def authorize (store : PairingStore) (context : RequestContext) (action : AuthorizationAction) :
    AuthResult :=
  if action.isLocal then
    if context.isLocalRequest then { authenticated := true, authorized := true }
    else
      let result := authenticateBearerToken store context.bearerToken
      { authenticated := result.authenticated
        deviceId := result.deviceId
        reason := "local request required" }
  else authenticateBearerToken store context.bearerToken

/-- The token of an approved device. -/
def Approved (store : PairingStore) (bearerToken : Bytes) : Prop :=
  ∃ record ∈ store.approved, utf8 record.bearerToken = bearerToken

instance (store : PairingStore) (bearerToken : Bytes) : Decidable (Approved store bearerToken) := by
  unfold Approved
  infer_instance

/-- A token is found exactly when it is a device's. -/
theorem isSome_findToken_iff (store : PairingStore) (bearerToken : Bytes) :
    (findToken store.approved bearerToken).isSome = true ↔ Approved store bearerToken := by
  unfold findToken Approved
  rw [List.find?_isSome]
  simp

/-- **A token is let through exactly when** it is one of an approved device, and not empty. -/
theorem authenticateBearerToken_authorized_iff (store : PairingStore) (bearerToken : Bytes) :
    (authenticateBearerToken store bearerToken).authorized = true ↔
      bearerToken ≠ [] ∧ Approved store bearerToken := by
  unfold authenticateBearerToken
  by_cases hempty : bearerToken = []
  · simp [hempty]
  · rw [if_neg (by simpa using hempty), and_iff_right hempty, ← isSome_findToken_iff]
    rcases findToken store.approved bearerToken with _ | record
    · simp
    · simp

/-- **Without the token of an approved device** nothing is let through but what the host itself may
do. -/
theorem not_authorized_of_unapproved {store : PairingStore} {context : RequestContext}
    (h : ¬ Approved store context.bearerToken) {action : AuthorizationAction}
    (haction : action.isLocal = false) : (authorize store context action).authorized = false := by
  unfold authorize
  rw [if_neg (by simp [haction]), ← Bool.not_eq_true, authenticateBearerToken_authorized_iff]
  exact fun hlet => h hlet.2

end Sentrits.Auth
