import SiteScript.Rehearsal.PrivateKey

/-!
# SiteScript.Rehearsal.Certificate

The certificates of a server.  A file of certificates must be sound as a whole.  Of the first
certificate its public part is read, and everything on the way there is checked (`publicOf`): that it is
written as certificates are, of the third version, and with no extension that must be understood and is
not.

Certificate and key belong together if the certificate holds the public part of the key.
-/

namespace SiteScript.Rehearsal.Certificate

/-- The certificates of a file; none when it is damaged. -/
def certificates? (content : ByteArray) : Option (List Bytes) :=
  ((Armour.ofFile content).mapM id).map fun parts =>
    (parts.filter (·.hasLabel ["CERTIFICATE"])).map (·.content)

/-! ## Faults -/

/-- What is wrong with certificates and their key. -/
inductive Fault where
  | badKey
  | noCertificate
  /-- The certificate is not written as certificates are. -/
  | badEncoding
  /-- It is of another version. -/
  | badVersion
  /-- It names two ways to sign it. -/
  | twoSignatures
  /-- It has an extension twice. -/
  | repeatedExtension
  /-- It has an extension that must be understood and is not. -/
  | unknownExtension
  /-- It is for another key. -/
  | otherKey
deriving DecidableEq

/-- The wording of a fault. -/
def Fault.message : Fault → String
  | .badKey => "unexpected error: failed to parse private key as RSA, ECDSA, or EdDSA"
  | .noCertificate => "peer sent no certificates"
  | .badEncoding => "invalid peer certificate: BadEncoding"
  | .badVersion => "invalid peer certificate: Other(OtherError(UnsupportedCertVersion))"
  | .twoSignatures => "invalid peer certificate: Other(OtherError(SignatureAlgorithmMismatch))"
  | .repeatedExtension => "invalid peer certificate: Other(OtherError(ExtensionValueInvalid))"
  | .unknownExtension => "invalid peer certificate: Other(OtherError(UnsupportedCriticalExtension))"
  | .otherKey => "keys may not be consistent: KeyMismatch"

/-! ## Reading -/

/-- The longest part of a certificate is shorter than this. -/
def maxLength : Nat := 65535

/-- A part of a certificate with a tag, and what follows it. -/
def read (tag : UInt8) (bytes : Bytes) : Except Fault (Bytes × Bytes) :=
  match Der.read? tag bytes with
  | some (content, rest) => if content.length < maxLength then .ok (content, rest) else .error .badEncoding
  | none => .error .badEncoding

/-- A condition on the writing of a certificate. -/
def demand (holds : Bool) : Except Fault Unit := if holds then .ok () else .error .badEncoding

/-- Check the version of a certificate.  Gives what follows it. -/
def version (bytes : Bytes) : Except Fault Bytes :=
  match read (Der.placeTag 0) bytes with
  | .error _ => .error .badVersion
  | .ok (content, rest) =>
    match Der.natural? content with
    | none => .error .badEncoding
    | some (number, behind) =>
      if number ≥ 256 then .error .badEncoding
      else if number = 2 && behind.isEmpty then .ok rest
      else .error .badVersion

/-- Whether an extension must be understood, and what follows that. -/
def critical (bytes : Bytes) : Except Fault (Bool × Bytes) :=
  if bytes.head? != some Der.truthTag then .ok (false, bytes)
  else do
    let (content, rest) ← read Der.truthTag bytes
    match content with
    | [0xff] => return (true, rest)
    | [0x00] => return (false, rest)
    | _ => .error .badEncoding

/-- The extensions that are understood, by the end of their names. -/
def known : List UInt8 := [15, 17, 19, 30, 31, 37]

/-- The end of the name of an extension that is understood. -/
def known? : Bytes → Option UInt8
  | [0x55, 0x1d, last] => if known.contains last then some last else none
  | _ => none

/-- Check an extension, after those that came before it.  Gives those and this one. -/
def extension (seen : List UInt8) (bytes : Bytes) : Except Fault (List UInt8) := do
  let (name, rest) ← read Der.nameTag bytes
  let (critical, rest) ← critical rest
  let (value, rest) ← read Der.octetsTag rest
  let seen ← match known? name with
    | none => if critical then .error .unknownExtension else .ok seen
    | some last =>
      if seen.contains last then .error .repeatedExtension
      else do
        -- the one that tells what the key is for is no sequence
        if last != 15 then
          let (_, behind) ← read Der.sequenceTag value
          demand behind.isEmpty
        pure (last :: seen)
  demand rest.isEmpty
  return seen

/-- Check extensions, at most so many. -/
def extensions : Nat → List UInt8 → Bytes → Except Fault Unit
  | 0, _, _ => .error .badEncoding
  | fuel + 1, seen, bytes =>
    if bytes.isEmpty then .ok ()
    else do
      let (content, rest) ← read Der.sequenceTag bytes
      extensions fuel (← extension seen content) rest

/-- The public part that a certificate holds. -/
def publicOf (certificate : Bytes) : Except Fault Bytes := do
  let (content, behind) ← read Der.sequenceTag certificate
  demand behind.isEmpty
  let (body, rest) ← read Der.sequenceTag content
  let (signature, rest) ← read Der.sequenceTag rest
  let (bits, rest) ← read Der.bitsTag rest
  demand (bits.head? == some 0 && rest.isEmpty)
  let body ← version body
  let (_, body) ← read Der.integerTag body
  let (own, body) ← read Der.sequenceTag body
  if own != signature then .error .twoSignatures
  else
    let (_, body) ← read Der.sequenceTag body
    let (_, body) ← read Der.sequenceTag body
    let (_, body) ← read Der.sequenceTag body
    let (info, body) ← read Der.sequenceTag body
    if !body.isEmpty then
      let (content, behind) ← read (Der.placeTag 3) body
      let (list, more) ← read Der.sequenceTag content
      extensions (list.length + 1) [] list
      demand (more.isEmpty && behind.isEmpty)
    return info

/-- Check that a key is that of the first certificate. -/
def check (certificates : List Bytes) (key : Armour.Part) : Except Fault Unit :=
  match PrivateKey.public? key, certificates with
  | none, _ => .error .badKey
  | some _, [] => .error .noCertificate
  | some own, certificate :: _ =>
    match publicOf certificate with
    | .error fault => .error fault
    | .ok info => if info == own then .ok () else .error .otherKey

end SiteScript.Rehearsal.Certificate
