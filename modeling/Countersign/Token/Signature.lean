import Countersign.Crypto.Ecdsa
import Countersign.Crypto.Edwards
import Countersign.Crypto.Rsa
import Countersign.Token.Header

/-!
# Signatures of tokens

A signature is checked with the algorithm that the header names and with a key of its family.  A
shared secret signs again, and the two texts are compared; of all other signatures the octets are
checked.

* `Token.holds` — whether octets are a signature by a key;
* `Token.checkSignature` — checks the signature of a token.
-/

namespace Countersign
namespace Token

/-- The point that an elliptic curve key gives on a curve, if its octets fit. -/
def pointOn? (c : Curve) (x y : Bytes) : Option (Nat × Nat) :=
  let octets := x ++ y
  if octets.length = 2 * c.size then
    some (Octets.toNat (octets.take c.size), Octets.toNat (octets.drop c.size))
  else none

def curveOf : SignatureAlgorithm → Curve
  | .es384 => .p384
  | _ => .p256

/-- Whether octets are a signature of a message by a public key. -/
def holds (a : SignatureAlgorithm) (key : VerificationKey) (message signature : Bytes) : Bool :=
  match a, key with
  | .es256, .ellipticCurve x y | .es384, .ellipticCurve x y =>
    match pointOn? (curveOf a) x y with
    | some p => Ecdsa.verify (curveOf a) a.digest p message signature
    | none => false
  | .rs256, .rsa n e | .rs384, .rsa n e | .rs512, .rsa n e =>
    match Rsa.PublicKey.ofOctets? n e with
    | some k => Rsa.verifyPlain a.digest k message signature
    | none => false
  | .ps256, .rsa n e | .ps384, .rsa n e | .ps512, .rsa n e =>
    match Rsa.PublicKey.ofOctets? n e with
    | some k => Rsa.verifySalted a.digest k message signature
    | none => false
  | .edDsa, .edwards point => Edwards.verify point message signature
  | _, _ => false

def checkSignature (a : SignatureAlgorithm) (key : VerificationKey) (message : Bytes)
    (signature : String) : Except TokenError Unit :=
  match key with
  | .shared secret =>
    if a.family = .shared && signature == Base64.encodeUrl (a.digest.authenticate secret message)
    then .ok ()
    else .error .wrongSignature
  | key =>
    match Base64.decodeUrl? signature with
    | none => .error .badBase64
    | some octets => if holds a key message octets then .ok () else .error .wrongSignature

end Token
end Countersign
