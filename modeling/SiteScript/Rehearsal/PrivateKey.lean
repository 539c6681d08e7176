import SiteScript.Cipher.Curve
import SiteScript.Rehearsal.Encodings

/-!
# SiteScript.Rehearsal.PrivateKey

The keys of servers.  A key is of one of three kinds: two primes, a number for a curve, or a seed of the
Edwards kind.  It is wrapped with the name of its use, or its label tells the kind.

Of a key its public part is computed, as certificates write it (`public?`); a key that holds a public
part of its own must hold the same one.
-/

namespace SiteScript.Rehearsal.PrivateKey

/-! ## Names -/

/-- How a key of two primes is to be used, as it is named in keys and certificates. -/
def primesName : Bytes :=
  [0x06, 0x09, 0x2a, 0x86, 0x48, 0x86, 0xf7, 0x0d, 0x01, 0x01, 0x01, 0x05, 0x00]

/-- The curves that keys can be on, by name. -/
def curves : List (Bytes × Curve) :=
  [([0x06, 0x08, 0x2a, 0x86, 0x48, 0xce, 0x3d, 0x03, 0x01, 0x07], .p256),
    ([0x06, 0x05, 0x2b, 0x81, 0x04, 0x00, 0x22], .p384)]

/-- How a key on a curve is to be used. -/
def curveName (name : Bytes) : Bytes :=
  [0x06, 0x07, 0x2a, 0x86, 0x48, 0xce, 0x3d, 0x02, 0x01] ++ name

/-- How a key of the Edwards kind is to be used. -/
def edwardsName : Bytes := [0x06, 0x03, 0x2b, 0x65, 0x70]

/-- The public part of a key, as a certificate writes it. -/
def publicInfo (name bits : Bytes) : Bytes :=
  Der.write Der.sequenceTag name ++ Der.write Der.bitsTag (0 :: bits)

/-! ## Two primes -/

/-- The number of bits of a number. -/
def bitCount (n : Nat) : Nat := n.log2 + 1

/-- The sizes in bits that the two primes of a key can have. -/
def primeSizes : List Nat := [1024, 1536, 2048]

/-- Whether numbers make up a key of two primes: the modulus, both exponents, the primes, and the
numbers for reckoning with each prime alone. -/
def isPrimeKey (n e d p q dp dq inverse : Nat) : Bool :=
  let size := (bitCount n + 1) / 2
  primeSizes.contains size && bitCount p = size && bitCount q = size && p * q % n = 0 &&
    e % 2 = 1 && 65537 ≤ e && bitCount e ≤ 33 && d % 2 = 1 && d < n && size < bitCount d &&
    n % 2 = 1 && p % 2 = 1 && q % 2 = 1 && dp % 2 = 1 && dp < p && dq % 2 = 1 && dq < q &&
    inverse < p && inverse * q % p = 1

/-- The public part of a key of two primes. -/
def ofPrimes? (bytes : Bytes) : Option Bytes := do
  let content ← Der.only? Der.sequenceTag bytes
  match ← Der.naturals? 9 content with
  | ([0, n, e, d, p, q, dp, dq, inverse], []) =>
    if isPrimeKey n e d p q dp dq inverse then
      let most := 1024
      some (publicInfo primesName
        (Der.write Der.sequenceTag (Der.writeNatural most n ++ Der.writeNatural most e)))
    else none
  | _ => none

/-! ## Curves -/

/-- The part that is marked by its place, if it comes next, and what follows it; none when it is
damaged. -/
def optional? (place : UInt8) (bytes : Bytes) : Option (Option Bytes × Bytes) :=
  if bytes.head? == some (Der.placeTag place) then
    (Der.read? (Der.placeTag place) bytes).map fun (content, rest) => (some content, rest)
  else some (none, bytes)

/-- The public part of a key on a curve. -/
def ofCurve? (name : Bytes) (curve : Curve) (bytes : Bytes) : Option Bytes := do
  let content ← Der.only? Der.sequenceTag bytes
  let (version, rest) ← Der.natural? content
  let (secret, rest) ← Der.read? Der.octetsTag rest
  let (named, rest) ← optional? 0 rest
  let (bits, behind) ← Der.bits? (← Der.only? (Der.placeTag 1) rest)
  let own ← curve.publicOf? (Der.ofBigEndian secret)
  if version = 1 && secret.length = curve.size && named.all (· == name) && behind.isEmpty &&
      bits == own then
    some (publicInfo (curveName name) own)
  else none

/-! ## The Edwards kind -/

/-- The public part that a wrapped key holds itself.  It is marked by its place; an older way to write
it has one more wrapping. -/
def heldPublic? (bytes : Bytes) : Option Bytes :=
  match bytes.head? with
  | some 0x81 =>
    match Der.only? 0x81 bytes with
    | some (0 :: bits) => some bits
    | _ => none
  | _ => do
    let (bits, behind) ← Der.bits? (← Der.only? (Der.placeTag 1) bytes)
    if behind.isEmpty then some bits else none

/-- The public part of a key of the Edwards kind, which may hold a public part too. -/
def ofEdwards? (bytes : Bytes) (held : Option Bytes) : Option Bytes := do
  let seed ← Der.only? Der.octetsTag bytes
  if seed.length = 32 then
    let own := Edwards.publicOf seed
    if held.all (· == own) then some (publicInfo edwardsName own) else none
  else none

/-! ## Wrapped keys -/

/-- The public part of a key that is wrapped with the name of its use.  Only one of the Edwards kind can
be of the second version, which holds a public part. -/
def ofWrapped? (bytes : Bytes) : Option Bytes := do
  let content ← Der.only? Der.sequenceTag bytes
  let (version, rest) ← Der.natural? content
  let (name, rest) ← Der.read? Der.sequenceTag rest
  let (key, rest) ← Der.read? Der.octetsTag rest
  let (_, rest) ← optional? 0 rest
  match version with
  | 0 =>
    if !rest.isEmpty then none
    else if name == primesName then ofPrimes? key
    else if name == edwardsName then ofEdwards? key none
    else
      match curves.find? fun entry => curveName entry.1 == name with
      | some (name, curve) => ofCurve? name curve key
      | none => none
  | 1 =>
    let held ← heldPublic? rest
    if name == edwardsName then ofEdwards? key (some held) else none
  | _ => none

/-! ## Files -/

/-- The labels of keys. -/
def labels : List String := ["PRIVATE KEY", "RSA PRIVATE KEY", "EC PRIVATE KEY"]

/-- The first key of some sections; none when there is none before the file is damaged. -/
def first? : List (Option Armour.Part) → Option Armour.Part
  | some part :: rest => if part.hasLabel labels then some part else first? rest
  | _ => none

/-- The key of a file. -/
def ofFile? (content : ByteArray) : Option Armour.Part := first? (Armour.ofFile content)

/-- The public part of a key, as a certificate writes it; none when it is no key that can be used. -/
def public? (key : Armour.Part) : Option Bytes :=
  if key.hasLabel ["PRIVATE KEY"] then ofWrapped? key.content
  else if key.hasLabel ["RSA PRIVATE KEY"] then ofPrimes? key.content
  else curves.findSome? fun (name, curve) => ofCurve? name curve key.content

end SiteScript.Rehearsal.PrivateKey
