import RequestLog.Base64
import RequestLog.Exchange.Request

/-!
# Basic credentials

The authorization header of the basic scheme holds the scheme's name, a blank, and name and password
with a colon between them, in UTF-8 and Base64.  Whatever else stands there gives no credentials.
-/

namespace RequestLog

/-- The name and password that a request carries. -/
structure Credentials where
  /-- The text before the first colon. -/
  name : String
  /-- The text after the first colon. -/
  password : String
  deriving DecidableEq, Repr

namespace Credentials

/-- The credentials that a decoded text holds. -/
def ofDecoded? (text : String) : Option Credentials :=
  match Text.halves ':' text.toList with
  | (name, some password) => some ⟨String.ofList name, String.ofList password⟩
  | (_, none) => none

/-- The credentials that a header of the basic scheme holds.  Outside ASCII the encoded part is a
fault; every other defect means that there are none. -/
def ofHeader (header : String) : Except Fault (Option Credentials) :=
  match Text.halves ' ' header.toList with
  | (_, none) => .ok none
  | (scheme, some rest) =>
      let encoded := Text.trim rest
      if Text.lower scheme ≠ "basic".toList ∨ encoded = [] then .ok none
      else if encoded.any fun c => 128 ≤ c.toNat then .error .beyondAscii
      else .ok <| do
        let octets ← Base64.decode? encoded
        let text ← octets.text?
        ofDecoded? text

/-- The credentials that a request carries. -/
def ofRequest (request : Request) : Except Fault (Option Credentials) := do
  match ← request.headers.get "authorization" with
  | .str header => ofHeader header
  | other => if other.truthy then .error (.noAttribute other.typeName "partition") else return none

end Credentials

/-- How the name of the user is found in a request; there may be none. -/
abbrev UserReader := Request → Outcome (Option Value)

/-- The name in the basic credentials of a request. -/
def Credentials.userName : UserReader := fun request =>
  match Credentials.ofRequest request with
  | .ok found => .ok (found.map fun credentials => .str credentials.name)
  | .error fault => .error fault

end RequestLog
