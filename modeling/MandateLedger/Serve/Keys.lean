import MandateLedger.Core.Contexts
import MandateLedger.Data.Fallible

namespace MandateLedger.Serve

open MandateLedger.Core MandateLedger.Data

/-- `MIN_KEY_LEN`. -/
def minKeyLen : Nat := 32

/-- The accepted keys, as digests.  There is at least one. -/
structure ApiKeys where
  digests : List Hash32
  some_key : digests ≠ []

/-- `KeyFingerprint`: how the logs name a key. -/
structure KeyFingerprint where
  bytes : List UInt8
deriving DecidableEq

namespace ApiKeys

variable (sha256 : Bytes → Hash32)

/-- The loop of `ApiKeys::new`.  An error names a key's position, never its content. -/
def digestAll : Nat → List String → Except String (List Hash32)
  | _, [] => .ok []
  | index, key :: rest =>
      if key.utf8ByteSize < minKeyLen then
        .error s!"key {index + 1} is shorter than {minKeyLen} characters"
      else do
        let digests ← digestAll (index + 1) rest
        return sha256 (utf8 key) :: digests

/-- `ApiKeys::new`. -/
def new (keys : List String) : Except String ApiKeys := do
  let digests ← digestAll sha256 0 keys
  if empty : digests = [] then throw "no keys" else return ⟨digests, empty⟩

/-- `ApiKeys::check`: every digest is compared, whichever one matches. -/
def check (keys : ApiKeys) (presented : Bytes) : Option KeyFingerprint :=
  let digest := sha256 presented
  let matched := keys.digests.foldl (fun matched known => matched || known == digest) false
  if matched then some ⟨digest.bytes.take 4⟩ else none

end ApiKeys

/-- `u8::to_ascii_lowercase`. -/
def toAsciiLowercase (byte : UInt8) : UInt8 :=
  if 65 ≤ byte.toNat ∧ byte.toNat ≤ 90 then byte + 32 else byte

/-- `u8::is_ascii_whitespace`. -/
def isAsciiWhitespace (byte : UInt8) : Bool :=
  byte ∈ ([0x20, 0x09, 0x0a, 0x0c, 0x0d] : List UInt8)

/-- The bytes of `bearer` and a space. -/
def bearerScheme : Bytes := utf8 "bearer "

/-- `bearer`: the token of a header that has one. -/
def bearer (header : Bytes) : Option Bytes :=
  if header.length < 7 then none
  else if (header.take 7).map toAsciiLowercase = bearerScheme then
    some ((header.drop 7).dropWhile isAsciiWhitespace)
  else none

/-- `require_key`. -/
def requireKey (sha256 : Bytes → Hash32) (keys : ApiKeys) (header : Option Bytes) :
    Option KeyFingerprint := do
  let token ← bearer (← header)
  keys.check sha256 token

end MandateLedger.Serve
