import MandateLedger.Core.Money
import MandateLedger.Data.Table

namespace MandateLedger.X402

open MandateLedger.Core MandateLedger.Data

/-- `AdapterError`, as far as these fields can fail. -/
inductive AdapterError where
  | malformed (what : String)
  | unsupported (what : String)
deriving DecidableEq

def AdapterError.toString : AdapterError → String
  | .malformed what => s!"malformed payload: {what}"
  | .unsupported what => s!"unsupported: {what}"

def digitValue (char : Char) : Option Nat :=
  if '0' ≤ char ∧ char ≤ '9' then some (char.toNat - '0'.toNat)
  else if 'a' ≤ char ∧ char ≤ 'f' then some (char.toNat - 'a'.toNat + 10)
  else if 'A' ≤ char ∧ char ≤ 'F' then some (char.toNat - 'A'.toNat + 10)
  else none

def positional (radix : Nat) (digits : List Nat) : Nat :=
  digits.foldl (fun value digit => value * radix + digit) 0

def stripPlus : List Char → List Char
  | '+' :: rest => rest
  | text => text

/-- Rust's `from_str_radix` for an unsigned type: an optional `+`, then digits. -/
def fromStrRadix (bound radix : Nat) (text : List Char) : Option Nat := do
  if stripPlus text = [] then none
  else
    let digits ← (stripPlus text).mapM fun char => (digitValue char).filter (· < radix)
    let value := positional radix digits
    if value < bound then some value else none

def decodeHex : List Char → Option Bytes
  | [] => some []
  | [_] => none
  | high :: low :: rest => do
      let first ← digitValue high
      let second ← digitValue low
      let bytes ← decodeHex rest
      return UInt8.ofNat (16 * first + second) :: bytes

/-- `hex::decode_to_slice` into `size` bytes. -/
def decodeToSlice (size : Nat) (text : List Char) : Option (FixedBytes size) :=
  match decodeHex text with
  | none => none
  | some bytes => if exact : bytes.length = size then some ⟨bytes, exact⟩ else none

/-- `strip_prefix("0x")`. -/
def strip0x (text : String) : Option (List Char) :=
  match text.toList with
  | '0' :: 'x' :: rest => some rest
  | _ => none

/-- `u128::from_be_bytes` and its like. -/
def fromBigEndian (bytes : Bytes) : Nat := positional 256 (bytes.map UInt8.toNat)

abbrev Address := FixedBytes 20

/-- EIP-55: a letter is upper case exactly when its nibble of the hash is 8 or more. -/
def checksummed (keccak256 : Bytes → Hash32) (hex : List Char) : Bool :=
  let hash := keccak256 (utf8 (String.ofList (hex.map Char.toLower)))
  hex.zipIdx.all fun (char, index) =>
    let byte := hash.bytes.getD (index / 2) 0
    let nibble := if index % 2 = 0 then byte >>> 4 else byte &&& 0x0f
    !char.isAlpha || char.isUpper == decide (8 ≤ nibble)

/-- `Address::parse`. -/
def Address.parse (keccak256 : Bytes → Hash32) (text : String) : Except String Address :=
  match (strip0x text).filter (·.length = 40) with
  | none => .error "not 0x and 40 hex digits"
  | some hex =>
      match decodeToSlice 20 hex with
      | none => .error "not 0x and 40 hex digits"
      | some address =>
          let mixed := hex.any Char.isLower && hex.any Char.isUpper
          if mixed && !checksummed keccak256 hex then
            .error "mixed case, but not its EIP-55 checksum"
          else .ok address

def Address.toString (address : Address) : String := "0x" ++ hexEncode address.bytes

structure ChainId where
  id : UInt64
deriving DecidableEq

def ChainId.toString (chain : ChainId) : String := "eip155:" ++ Nat.repr chain.id.toNat

/-- The decimal number behind `eip155:`, without leading zeros. -/
def ChainId.parseId (id : List Char) : Except AdapterError ChainId :=
  let canonical := !id.isEmpty && id.all Char.isDigit && id.head? != some '0'
  match if canonical then fromStrRadix UInt64.size 10 id else none with
  | none => .error (.unsupported "network is not an eip155 chain id")
  | some value => .ok ⟨UInt64.ofNat value⟩

/-- `account_id`: the x402 merchant id of an account. -/
def accountId (chain : ChainId) (address : Address) : String :=
  chain.toString ++ ":" ++ address.toString

/-- `fields::uint`: a whole number in its one spelling. -/
def uint (field value : String) : Except AdapterError Nat :=
  let digits := value.toList
  let canonical := !digits.isEmpty && decide (digits.length ≤ 78) && digits.all Char.isDigit &&
    (value = "0" || digits.head? != some '0')
  if canonical = false then
    .error (.malformed s!"{field}: a whole number, without leading zeros")
  else
    match fromStrRadix (2 ^ 128) 10 digits with
    | none => .error (.unsupported s!"{field}: beyond the range this adapter handles")
    | some number => .ok number

/-- `fields::bytes`: `0x` and exactly `2 * size` hex digits. -/
def bytes (size : Nat) (field value : String) : Except AdapterError (FixedBytes size) :=
  match ((strip0x value).filter (·.length = 2 * size)).bind (decodeToSlice size) with
  | none => .error (.malformed s!"{field}: 0x and {2 * size} hex digits")
  | some bytes => .ok bytes

/-- A token the adapter can price. -/
structure Asset where
  symbol : Currency
  decimals : UInt8
  domainName : String
  domainVersion : String
deriving DecidableEq

/-- The tokens known on each chain. -/
abbrev AssetRegistry := Table (ChainId × Address) Asset

/-- `Decimal::try_from_i128_with_scale`: 96 bits of mantissa, at most 28 digits
behind the point. -/
def decimalOf (units scale : Nat) : Option Decimal :=
  if units < 2 ^ 96 ∧ scale ≤ 28 then some ⟨false, units, scale⟩ else none

/-- `fields::money`: atomic units of a token. -/
def money (atomic : Nat) (token : Asset) : Except AdapterError Money :=
  match decimalOf atomic token.decimals.toNat with
  | none => .error (.unsupported "amount: beyond the range this adapter prices")
  | some amount => .ok ⟨amount, token.symbol⟩

end MandateLedger.X402
