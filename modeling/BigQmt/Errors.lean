import BigQmt.Domain
set_option autoImplicit false

/-!
The exceptions of the modelled code. A class is a constructor; it carries the
data its message is built from.
-/

namespace BigQmt

/-- The five checks that raise `InvalidFilledQuantity`. -/
inductive FilledCheck where
  | outside (filled quantity : Int)
  | filledBelowQuantity
  | rejectedWithFill
  | cancelledAtQuantity
  | partialWithoutFill
  deriving DecidableEq, Repr

def FilledCheck.message : FilledCheck → String
  | .outside f q => "filled_quantity " ++ toString f ++ " is outside [0, " ++ toString q ++ "]"
  | .filledBelowQuantity =>
      "FILLED broker status requires filled_quantity equal to order quantity"
  | .rejectedWithFill => "REJECTED broker status cannot coexist with a positive filled quantity"
  | .cancelledAtQuantity =>
      "CANCELLED broker status requires filled_quantity below order quantity"
  | .partialWithoutFill =>
      "PARTIALLY_FILLED broker status requires a positive filled quantity"

inductive LifecycleConflict where
  | terminal (current target : OrderStatus)
  | gainedFill (current effective : Int)
  deriving DecidableEq, Repr

def LifecycleConflict.message : LifecycleConflict → String
  | .terminal c t => "terminal broker fact conflict: " ++ c.value ++ " -> " ++ t.value
  | .gainedFill c e => "terminal broker fact gained fill: " ++ toString c ++ " -> " ++ toString e

inductive PyError where
  | orderNotFound (clientOrderId : String)
  | submitAlreadyStarted (clientOrderId : String)
  | cancelAlreadyStarted (clientOrderId : String)
  | brokerOrderIdMismatch (clientOrderId current reported : String)
  | invalidFilledQuantity (check : FilledCheck)
  | brokerLifecycleConflict (conflict : LifecycleConflict)
  | invalidTransition (current requested : OrderStatus)
  | duplicateClientOrderId (clientOrderId : String)
  | integrityError (table : String)
  | operationalError (message : String)
  | leaderUnavailable (sessionId : String)
  | leaderLost (message : String)
  | notReconciled (message : String)
  | recoveryViolation (message : String)
  | brokerEvidenceConflict (reason : String)
  | commandResultConflict (message : String)
  | durableIdentityConflict (message : String)
  | commandError (message : String)
  | commandConflict (message : String)
  | valueError (message : String)
  | typeError (message : String)
  | assertionError (message : String)
  | runtimeError (message : String)
  | keyError (key : String)
  | osError (message : String)
  | driver (message : String)
  | outcomeUnknown (message : String)
  deriving DecidableEq, Repr

end BigQmt
