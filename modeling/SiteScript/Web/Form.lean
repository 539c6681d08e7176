import SiteScript.Dictionary
import SiteScript.Text.Lossy
import SiteScript.Text.Percent

/-!
# SiteScript.Web.Form

The body of a submitted form: fields between ampersands, each a name and a value around the first
equals sign, with a plus sign for a blank and other bytes as `%XX`.
-/

namespace SiteScript.Web.Form

/-- Cut bytes at every occurrence of a byte. -/
def split (sep : UInt8) : Bytes → List Bytes
  | [] => [[]]
  | b :: bytes =>
    if b = sep then [] :: split sep bytes
    else
      match split sep bytes with
      | [] => [[b]]
      | piece :: pieces => (b :: piece) :: pieces

/-- The text of an encoded name or value. -/
def decode (bytes : Bytes) : String :=
  Text.ofBytesLossy (Text.Percent.decode (bytes.map fun b => if b = 0x2B then 0x20 else b))

/-- The name and the value of a field. -/
def field (bytes : Bytes) : String × String :=
  (decode (bytes.takeWhile (· != 0x3D)), decode ((bytes.dropWhile (· != 0x3D)).drop 1))

/-- The fields of a form; of two with one name the later counts. -/
def parse (body : Bytes) : Dictionary String :=
  .ofList (((split 0x26 body).filter (!·.isEmpty)).map field)

/-- A field that is there and not empty. -/
def filled? (form : Dictionary String) (name : String) : Option String :=
  (form.get? name).filter (!·.isEmpty)

end SiteScript.Web.Form
