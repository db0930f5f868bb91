import TradingGateway.Models
import Mathlib.Data.List.Infix

/-!
# Gateway errors (`crates/core/src/error.rs`)

The error variants with the data their texts show. Boxed sources and JSON details are left out.
-/

namespace Gateway

inductive GatewayError where
  | invalidRequest (message : String) (field : Option String)
  | invalidValue (field message : String) (provided : Option String)
  | validationError (errors : String)
  | unauthorized (reason code : String)
  | orderNotFound (id : String)
  | positionNotFound (id : String)
  | symbolNotFound (symbol : String)
  | ocoGroupNotFound (id : String)
  | orderNotModifiable (orderId reason : String)
  | resetCooldown (message : String)
  | orderRejected (reason : String) (rejectCode : Option String)
  | rateLimited (retryAfterSeconds : Option ℕ)
  | internal (message : String)
  | providerError (message : String) (provider : Option String)
  | shuttingDown
  | providerUnavailable (message : String)
  | unsupportedOperation (operation provider : String)
  deriving DecidableEq, Repr

namespace GatewayError

/-- The text of an error. -/
def display : GatewayError → String
  | invalidRequest message _ => "Invalid request: " ++ message
  | invalidValue field message _ => "Invalid value for " ++ field ++ ": " ++ message
  | validationError errors => "Validation failed: " ++ errors
  | unauthorized reason _ => "Unauthorized: " ++ reason
  | orderNotFound id => "Order not found: " ++ id
  | positionNotFound id => "Position not found: " ++ id
  | symbolNotFound symbol => "Symbol not found: " ++ symbol
  | ocoGroupNotFound id => "OCO group not found: " ++ id
  | orderNotModifiable _ reason => "Order cannot be modified: " ++ reason
  | resetCooldown message => message
  | orderRejected reason _ => "Order rejected: " ++ reason
  | rateLimited _ => "Rate limit exceeded"
  | internal message => "Internal error: " ++ message
  | providerError message _ => "Provider error: " ++ message
  | shuttingDown => "Gateway is shutting down"
  | providerUnavailable message => "Provider unavailable: " ++ message
  | unsupportedOperation operation provider => operation ++ " not supported on " ++ provider

end GatewayError

/-- Lower case, for finding ASCII words in a text. Two characters outside ASCII have ASCII letters
in their lower case; every other one has none, so it is left as it is. -/
def toLowercase (s : String) : List Char :=
  s.toList.flatMap fun c =>
    if c = '\u212a' then ['k']
    else if c = '\u0130' then ['i', '\u0307']
    else [c.toLower]

/-- The text contains the word. -/
def containsWord (text : List Char) (word : String) : Bool := decide (word.toList <:+: text)

end Gateway
