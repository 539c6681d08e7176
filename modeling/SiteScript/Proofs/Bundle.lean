import SiteScript.Proofs.Archive.Gzip
import SiteScript.Proofs.Cipher.Cbc
import SiteScript.Proofs.Hex
import SiteScript.Proofs.Json.Reading
import SiteScript.Proofs.Text
import SiteScript.Run

/-!
# SiteScript.Proofs.Bundle

A bundle opens as the file map it was made from (`bundle_round_trip`), and nothing but bundles
opens (`decode_iff_sealed`).  Each layer is taken off by its counterpart, from the outside in:

* decompression gives the sealed text (`Gzip.decompress?_compress`);
* a sealed text has no blanks to trim and its first colon is the separator; both halves are digits,
  and the bytes they denote are decrypted.  The texts for which all this goes well are the seals
  (`Seals`, `openText_eq_ok_iff`), and what is made by encryption is one (`seals_encrypt`);
* the JSON text is an object of strings (`readFiles?_eq_some_iff`), and the one written for files
  reads as them, in their order (`readFiles?_plainText`).

A ciphertext is the encryption of what it decrypts to, so a seal is also made again from its vector
and what it is a seal on (`Seals.sealBytes`). -/

namespace SiteScript.Bundle

/-! ## The JSON text -/

/-- The JSON text of a file map reads as the file map. -/
theorem readFiles?_plainText (files : FileMap) : readFiles? (plainText files) = some files := by
  rw [readFiles?, plainText, Json.compact, String.toList_ofList,
    (Json.reads_compactChars _).parse?, Option.bind_some,
    Json.entries?_ofDictionary fun s => by simp [Json.Raw.ofJson, Json.Raw.string?, Json.text?_escape]]

/-! ## The sealed text -/

theorem length_key : key.length = 32 := by
  simp [key, Sha256.digest, Sha256.digestFrom, Bytes.length_bigEndian]

/-- A text is a seal on bytes: the digits of an initial vector, a colon, and the digits of whole
blocks, at least one, that are deciphered to the bytes and a padding.  No digit is a colon, so this
one is the first of the text. -/
inductive Seals : List Char → Bytes → Bytes → Prop where
  | intro {digits digits' : List Char} {vector ciphertext plain : Bytes} {n : Nat}
      (hvector : Hex.Denotes digits vector) (hsize : vector.length = vectorSize)
      (hcipher : Hex.Denotes digits' ciphertext) (hsome : 0 < ciphertext.length)
      (hwhole : ciphertext.length % Cbc.blockSize = 0) (hpos : 1 ≤ n) (hle : n ≤ Cbc.blockSize)
      (hpadded : Cbc.decipher key vector ciphertext =
        plain ++ List.replicate n (UInt8.ofNat n)) :
      Seals (digits ++ ':' :: digits') vector plain

/-- A digit is neither a blank nor the separator. -/
theorem plain_of_isDigit {c : Char} {n : Nat} (h : Hex.IsDigit c n) :
    Text.isBlank c = false ∧ c ≠ ':' :=
  h.elim (p := fun c _ => Text.isBlank c = false ∧ c ≠ ':') (by decide)

theorem colon_not_mem {digits : List Char} {bytes : Bytes} (h : Hex.Denotes digits bytes) :
    ':' ∉ digits := by
  intro hcolon
  obtain ⟨n, hdigit⟩ := h.isDigit hcolon
  exact (plain_of_isDigit hdigit).2 rfl

/-- **A text is opened when it is a seal**, and gives what it is a seal on. -/
theorem openText_eq_ok_iff {text : List Char} {plain : Bytes} :
    openText text = .ok plain ↔ ∃ vector, Seals text vector plain := by
  constructor
  · intro h
    rw [openText] at h
    split at h
    · cases h
    next digits digits' hcut =>
      split at h
      · cases h
      next vector hvector =>
        split at h
        · cases h
        next ciphertext hcipher =>
          split at h
          · cases h
          next hsize =>
            split at h
            · cases h
            next message hdecrypt =>
              cases h
              obtain ⟨hsome, hwhole, n, hpos, hle, hpadded⟩ := Cbc.decrypt?_eq_some_iff.1 hdecrypt
              rw [Text.eq_of_cut? hcut]
              exact ⟨vector, .intro (Hex.decode_eq_ok_iff.1 hvector) (by simpa using hsize)
                (Hex.decode_eq_ok_iff.1 hcipher) hsome hwhole hpos hle hpadded⟩
  · rintro ⟨vector, ⟨hvector, hsize, hcipher, hsome, hwhole, hpos, hle, hpadded⟩⟩
    have hdecrypt := Cbc.decrypt?_eq_some_iff.2 ⟨hsome, hwhole, _, hpos, hle, hpadded⟩
    rw [openText, Text.cut?_append (colon_not_mem hvector)]
    simp only [Hex.decode_eq_ok_iff.2 hvector, Hex.decode_eq_ok_iff.2 hcipher, hdecrypt]
    rw [if_neg (by simp [hsize])]

/-- What is made by encryption is a seal, in whichever case its digits are written. -/
theorem seals_encrypt {digits digits' : List Char} {vector plain : Bytes}
    (h : vector.length = vectorSize) (hvector : Hex.Denotes digits vector)
    (hcipher : Hex.Denotes digits' (Cbc.encrypt key vector plain)) :
    Seals (digits ++ ':' :: digits') vector plain := by
  obtain ⟨hsome, hwhole, n, hpos, hle, hpadded⟩ :=
    Cbc.decrypt?_eq_some_iff.1 (Cbc.decrypt?_encrypt length_key h plain)
  exact .intro hvector h hcipher hsome hwhole hpos hle hpadded

/-- A seal has no blanks to trim. -/
theorem Seals.trim {text : List Char} {vector plain : Bytes} (h : Seals text vector plain) :
    Text.trim text = text := by
  obtain ⟨hvector, -, hcipher, -⟩ := h
  refine Text.trim_eq_self fun c hc => ?_
  rcases List.mem_append.1 hc with hc | hc
  · obtain ⟨n, hdigit⟩ := hvector.isDigit hc
    exact (plain_of_isDigit hdigit).1
  · rcases List.mem_cons.1 hc with rfl | hc
    · rfl
    · obtain ⟨n, hdigit⟩ := hcipher.isDigit hc
      exact (plain_of_isDigit hdigit).1

/-- **A seal is made again from what it is a seal on**, but for the case of its digits. -/
theorem Seals.sealBytes {text : List Char} {vector plain : Bytes} (h : Seals text vector plain) :
    Bundle.sealBytes vector plain = String.ofList (text.map Char.toLower) := by
  obtain ⟨hvector, hsize, hcipher, hsome, hwhole, hpos, hle, hpadded⟩ := h
  have hdecrypt := Cbc.decrypt?_eq_some_iff.2 ⟨hsome, hwhole, _, hpos, hle, hpadded⟩
  rw [Bundle.sealBytes, Cbc.encrypt_of_decrypt? length_key hsize hdecrypt, List.map_append,
    List.map_cons, hvector.map_toLower, hcipher.map_toLower]
  rfl

/-- Opening a sealed text gives what was sealed. -/
theorem openText_sealBytes {vector : Bytes} (h : vector.length = vectorSize) (plain : Bytes) :
    openText (Text.trim (sealBytes vector plain).toList) = .ok plain := by
  have hseal := seals_encrypt h (Hex.denotes_encode vector).1
    (Hex.denotes_encode (Cbc.encrypt key vector plain)).1
  rw [sealBytes, String.toList_ofList, hseal.trim]
  exact openText_eq_ok_iff.2 ⟨vector, hseal⟩

/-- Opening the sealed text of a file map gives the file map. -/
theorem openSealed_sealFiles {vector : Bytes} (h : vector.length = vectorSize) (files : FileMap) :
    openSealed (sealFiles vector files) = .ok files := by
  rw [openSealed, sealFiles, openText_sealBytes h]
  simp only [bind, Except.bind, Bytes.toText?_ofText, Option.bind_some, readFiles?_plainText]

/-! ## Bundles -/

/-- A text reads as files when it is an object of strings; the later of two members with one name
counts. -/
theorem readFiles?_eq_some_iff {text : String} {files : FileMap} :
    readFiles? text = some files ↔
      ∃ entries, Json.StringObject text.toList entries ∧ files.HoldsLast entries :=
  Json.entries?_eq_some_iff

/-- A sealed text is opened when it is a seal on the UTF-8 of such an object. -/
theorem openSealed_eq_ok_iff {text : String} {files : FileMap} :
    openSealed text = .ok files ↔
      ∃ vector json, Seals (Text.trim text.toList) vector (Bytes.ofText json) ∧
        ∃ entries, Json.StringObject json.toList entries ∧ files.HoldsLast entries := by
  constructor
  · intro h
    rw [openSealed] at h
    cases hopen : openText (Text.trim text.toList) with
    | error fault =>
        rw [hopen] at h
        cases h
    | ok plain =>
        rw [hopen] at h
        simp only [bind, Except.bind] at h
        split at h
        next read hread =>
          cases h
          obtain ⟨json, hjson, hfiles⟩ := Option.bind_eq_some_iff.1 hread
          obtain rfl := Bytes.toText?_eq_some_iff.1 hjson
          obtain ⟨vector, hseal⟩ := openText_eq_ok_iff.1 hopen
          exact ⟨vector, json, hseal, readFiles?_eq_some_iff.1 hfiles⟩
        next => cases h
  · rintro ⟨vector, json, hseal, hfiles⟩
    rw [openSealed, openText_eq_ok_iff.2 ⟨vector, hseal⟩]
    simp only [bind, Except.bind, Bytes.toText?_ofText, Option.bind_some,
      readFiles?_eq_some_iff.2 hfiles]

/-- A bundle holds the files of the sealed text it decompresses to. -/
theorem decode_eq_ok_iff {bundle : Bytes} {files : FileMap} :
    decode bundle = .ok files ↔
      ∃ text : String, Gzip.decompress? bundle = some text.toUTF8 ∧
        openSealed text = .ok files := by
  rw [decode, openBundle]
  constructor
  · intro h
    cases htext : (Gzip.decompress? bundle).bind String.fromUTF8? with
    | none =>
        rw [htext] at h
        cases h
    | some text =>
        rw [htext] at h
        obtain ⟨array, harray, hread⟩ := Option.bind_eq_some_iff.1 htext
        obtain rfl := Bytes.fromUTF8?_eq_some_iff.1 hread
        cases hopen : openSealed text with
        | error fault =>
            simp only [hopen] at h
            cases h
        | ok opened =>
            simp only [hopen] at h
            cases h
            exact ⟨text, harray, hopen⟩
  · rintro ⟨text, hbundle, hopen⟩
    have htext := Bytes.fromUTF8?_eq_some_iff.2 (Eq.refl text.toUTF8)
    rw [hbundle, Option.bind_some, htext]
    simp only [hopen]
    rfl

/-- Whatever is wrong with a bundle, it is corrupt. -/
theorem corruptBundle_of_decode {bundle : Bytes} {error : Error}
    (h : decode bundle = .error error) : ∃ message, error = .corruptBundle message := by
  rw [decode] at h
  cases hopen : openBundle bundle with
  | ok files =>
      rw [hopen] at h
      cases h
  | error fault =>
      rw [hopen] at h
      cases h
      exact ⟨_, rfl⟩

/-- A bundle that decompresses to the sealed text of a file map holds the file map, however it was
compressed. -/
theorem decode_of_decompress {vector : Bytes} (h : vector.length = vectorSize) {files : FileMap}
    {bundle : Bytes} (hbundle : Gzip.decompress? bundle = some (sealFiles vector files).toUTF8) :
    decode bundle = .ok files :=
  decode_eq_ok_iff.2 ⟨_, hbundle, openSealed_sealFiles h files⟩

/-- A compressed text is decompressed to its UTF-8. -/
theorem decompress?_compress_ofText (text : String) :
    Gzip.decompress? (Gzip.compress (Bytes.ofText text)) = some text.toUTF8 := by
  rw [Gzip.decompress?_compress]
  rfl

/-- A bundle opens as the files it was made from. -/
theorem decode_encode {vector : Bytes} (h : vector.length = vectorSize) (files : FileMap) :
    decode (encode vector files) = .ok files :=
  decode_of_decompress h (decompress?_compress_ofText _)

/-- **Bundle round trip**: for every file map and every initial vector of 16 bytes, the bundle of
the files opens as the files, as does every other compressed form of their sealed text; and a run of
the bundle is a run of the files. -/
theorem bundle_round_trip {vector : Bytes} (h : vector.length = vectorSize) (files : FileMap) :
    decode (encode vector files) = .ok files ∧
    (∀ bundle, Gzip.decompress? bundle = some (sealFiles vector files).toUTF8 →
      decode bundle = .ok files) ∧
    ∀ host config, Run.start host (encode vector files) config =
      Run.startFiles host files config := by
  have hdecode := decode_encode h files
  exact ⟨hdecode, fun bundle => decode_of_decompress h,
    fun host config => by rw [Run.start, hdecode]⟩

/-- A file map with an empty name, an empty file, quotes, control characters and characters beyond
the basic plane. -/
def sampleFiles : FileMap :=
  .ofList [("", ""), ("main.tont", "log \"a\\b\"\n"), ("ünï/\x01😀.txt", "\x00\t")]

theorem bundle_round_trip_sample :
    ((List.range 16).map UInt8.ofNat).length = vectorSize ∧
    decode (encode ((List.range 16).map UInt8.ofNat) sampleFiles) = .ok sampleFiles :=
  ⟨by decide, (bundle_round_trip (by decide) sampleFiles).1⟩

/-- **Only bundles are decoded.**  A byte string is decoded when it decompresses to the UTF-8 of a
text that, trimmed, is a seal on the UTF-8 of an object of strings, and then to the files that the
object writes, the later of two members with one name counting.  Every other byte string is a corrupt
bundle.  A seal on the text that files are written as is what sealing those files under its initial
vector gives, but for the case of the digits. -/
theorem decode_iff_sealed (bundle : Bytes) :
    (∀ files, decode bundle = .ok files ↔
      ∃ text : String, Gzip.decompress? bundle = some text.toUTF8 ∧
        ∃ vector json, Seals (Text.trim text.toList) vector (Bytes.ofText json) ∧
          ∃ entries, Json.StringObject json.toList entries ∧ files.HoldsLast entries) ∧
    ((∃ files, decode bundle = .ok files) ∨
      ∃ message, decode bundle = .error (.corruptBundle message)) ∧
    ∀ (text : String) vector files, Gzip.decompress? bundle = some text.toUTF8 →
      Seals (Text.trim text.toList) vector (Bytes.ofText (plainText files)) →
      decode bundle = .ok files ∧
        sealFiles vector files = String.ofList ((Text.trim text.toList).map Char.toLower) := by
  refine ⟨fun files => ?_, ?_, fun text vector files hbundle hseal => ⟨?_, hseal.sealBytes⟩⟩
  · simp only [decode_eq_ok_iff, openSealed_eq_ok_iff]
  · cases hdecode : decode bundle with
    | ok files => exact .inl ⟨files, rfl⟩
    | error error =>
        obtain ⟨message, rfl⟩ := corruptBundle_of_decode hdecode
        exact .inr ⟨message, rfl⟩
  · have hfiles := readFiles?_eq_some_iff.1 (readFiles?_plainText files)
    exact decode_eq_ok_iff.2 ⟨text, hbundle,
      openSealed_eq_ok_iff.2 ⟨vector, plainText files, hseal, hfiles⟩⟩

/-- The seal on the sample under an initial vector, with its digits in upper case. -/
def loudSeal (vector : Bytes) : List Char :=
  (Hex.encode vector).map Char.toUpper ++ ':' ::
    (Hex.encode (Cbc.encrypt key vector (Bytes.ofText (plainText sampleFiles)))).map Char.toUpper

/-- A compressed line break and such a seal is a bundle of the sample, and the seal is made again in
lower case. -/
theorem decode_iff_sealed_loud :
    decode (Gzip.compress (Bytes.ofText (String.ofList ('\n' :: loudSeal (.replicate 16 0xab))))) =
      .ok sampleFiles ∧
    sealFiles (.replicate 16 0xab) sampleFiles =
      String.ofList ((loudSeal (.replicate 16 0xab)).map Char.toLower) := by
  have hseal : Seals (loudSeal (.replicate 16 0xab)) (.replicate 16 0xab)
      (Bytes.ofText (plainText sampleFiles)) :=
    seals_encrypt List.length_replicate (Hex.denotes_encode _).2 (Hex.denotes_encode _).2
  have htrim : Text.trim (String.ofList ('\n' :: loudSeal (.replicate 16 0xab))).toList =
      loudSeal (.replicate 16 0xab) := by
    rw [String.toList_ofList, Text.trim_cons_of_blank (by decide), hseal.trim]
  have hloud := (decode_iff_sealed _).2.2
    (String.ofList ('\n' :: loudSeal (.replicate 16 0xab))) (.replicate 16 0xab) sampleFiles
    (decompress?_compress_ofText _) (by rw [htrim]; exact hseal)
  rwa [htrim] at hloud

end SiteScript.Bundle
