import SiteScript.Archive.Gzip
import SiteScript.Cipher.Cbc
import SiteScript.Cipher.Sha256
import SiteScript.Error
import SiteScript.FileMap
import SiteScript.Json.Fields
import SiteScript.Json.Printer
import SiteScript.Script.Comments

/-!
# SiteScript.Bundle

A project's files as one sealed file.  The file map is written as JSON, encrypted, written as
`vector:ciphertext` in hexadecimal digits, and compressed:

```
encode vector files = Gzip.compress (seal vector files)
```

`decode` goes the same way back, and whatever is wrong on it, the bundle is corrupt.  A distributable
bundle has the comments of its scripts taken out first.
-/

namespace SiteScript.Bundle

/-- The secret that the key of all bundles is made from. -/
def secret : String := "tontoo-super-secret-key-123456789012345"

/-- The key of all bundles. -/
def key : Bytes := Sha256.digest (Bytes.ofText secret)

/-- Bytes in an initial vector. -/
def vectorSize : Nat := 16

/-! ## Sealing -/

/-- The JSON text of a file map. -/
def plainText (files : FileMap) : String :=
  (Json.ofDictionary (files.mapValues fun _ content => .string content)).compact

/-- The sealed text of some bytes. -/
def sealBytes (vector plain : Bytes) : String :=
  String.ofList (Hex.encode vector ++ ':' :: Hex.encode (Cbc.encrypt key vector plain))

/-- The sealed text of a file map. -/
def sealFiles (vector : Bytes) (files : FileMap) : String :=
  sealBytes vector (Bytes.ofText (plainText files))

/-- The bundle of a file map. -/
def encode (vector : Bytes) (files : FileMap) : Bytes :=
  Gzip.compress (Bytes.ofText (sealFiles vector files))

/-- The file map with the comments of its scripts taken out. -/
def withoutComments (files : FileMap) : FileMap :=
  files.mapValues fun path content =>
    if isScriptPath path then Script.stripComments content else content

/-- The bundle of a file map without comments. -/
def encodeDistributable (vector : Bytes) (files : FileMap) : Bytes :=
  encode vector (withoutComments files)

/-! ## Opening -/

/-- Why a bundle cannot be opened. -/
inductive Fault where
  | notCompressed
  | separatorMissing
  | badVector (fault : Hex.Fault)
  | badCiphertext (fault : Hex.Fault)
  | vectorSize
  | decryption
  | notFileMap
deriving DecidableEq

/-- The wording of a fault.  What a damaged archive or a text that is no file map is exactly wrong
about is not told. -/
def Fault.message : Fault → String
  | .notCompressed => "decompression failed: damaged archive"
  | .separatorMissing => "missing iv separator"
  | .badVector fault => "bad iv: " ++ fault.message
  | .badCiphertext fault => "bad ciphertext: " ++ fault.message
  | .vectorSize => "iv must be " ++ Decimal.text Bundle.vectorSize ++ " bytes"
  | .decryption => "decryption failed"
  | .notFileMap => "invalid file map: not an object of texts"

/-- Decrypt a trimmed sealed text. -/
def openText (sealedText : List Char) : Except Fault Bytes :=
  match Text.cut? ':' sealedText with
  | none => .error .separatorMissing
  | some (vector, ciphertext) =>
    match Hex.decode (Bytes.ofText (String.ofList vector)) with
    | .error fault => .error (.badVector fault)
    | .ok vector =>
      match Hex.decode (Bytes.ofText (String.ofList ciphertext)) with
      | .error fault => .error (.badCiphertext fault)
      | .ok ciphertext =>
        if vector.length != vectorSize then .error .vectorSize
        else
          match Cbc.decrypt? key vector ciphertext with
          | none => .error .decryption
          | some plain => .ok plain

/-- The file map written in a JSON text: an object with texts for members, the later of two members
with one name counting. -/
def readFiles? (text : String) : Option FileMap :=
  (Json.Raw.parse? text.toList).bind (Json.Raw.entries? Json.Raw.string?)

/-- Open a sealed text. -/
def openSealed (sealedText : String) : Except Fault FileMap := do
  let plain ← openText (Text.trim sealedText.toList)
  match (Bytes.toText? plain).bind readFiles? with
  | some files => .ok files
  | none => .error .notFileMap

/-- Open a bundle. -/
def openBundle (bytes : Bytes) : Except Fault FileMap :=
  match (Gzip.decompress? bytes).bind String.fromUTF8? with
  | none => .error .notCompressed
  | some text => openSealed text

/-- The file map of a bundle. -/
def decode (bytes : Bytes) : Except Error FileMap :=
  (openBundle bytes).mapError fun fault => .corruptBundle fault.message

end SiteScript.Bundle
