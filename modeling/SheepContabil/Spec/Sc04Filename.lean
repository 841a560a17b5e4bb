import SheepContabil.Py.Str
import SheepContabil.Spec.Storage

/-!
# SC-04: the name of a document

The file name that `validation.py` stores for an upload, from the name that the client sent and
the extension of the media type that the content has.

* `extensionForMediaType`: `extension_for_media_type`, with its message.
* `sanitizeFilename`: `sanitize_filename`.
* `SafeStem`: what the name must be before its extension.
-/

namespace SheepContabil

open Py

/-- `ALLOWED_MEDIA_TYPES`. -/
def allowedMediaTypes : List String := ["application/pdf", "image/png", "image/jpeg", "text/plain"]

def extensionForMediaType (mediaType : String) : Except String MediaExtension :=
  if mediaType = "application/pdf" then .ok .pdf
  else if mediaType = "image/png" then .ok .png
  else if mediaType = "image/jpeg" then .ok .jpg
  else if mediaType = "text/plain" then .ok .txt
  else .error "Tipo de arquivo não permitido."

/-- The extension as it stands at the end of a name. -/
def MediaExtension.str (extension : MediaExtension) : Str := Str.of extension.text

namespace Filename

def backslash : ℕ := 0x5C

def hyphen : ℕ := 0x2D

def blank : ℕ := 0x20

/-- `[\x00-\x1f\x7f]`. -/
def isControlOrDelete (c : ℕ) : Bool := decide (c ≤ 0x1F) || c == 0x7F

/-- `[0-9A-Za-zÀ-ÖØ-öø-ÿ._ -]`. -/
def isNameChar (c : ℕ) : Bool :=
  decide (0x30 ≤ c ∧ c ≤ 0x39) || decide (0x41 ≤ c ∧ c ≤ 0x5A) || decide (0x61 ≤ c ∧ c ≤ 0x7A) ||
    decide (0xC0 ≤ c ∧ c ≤ 0xD6) || decide (0xD8 ≤ c ∧ c ≤ 0xF6) || decide (0xF8 ≤ c ∧ c ≤ 0xFF) ||
    c == PurePath.dot || c == 0x5F || c == blank || c == hyphen

/-- `" ."`. -/
def isBlankOrDot (c : ℕ) : Bool := c == blank || c == PurePath.dot

/-- `" .-"`. -/
def isEdge (c : ℕ) : Bool := c == blank || c == PurePath.dot || c == hyphen

/-- `text or "documento"`. -/
def orDocumento (text : Str) : Str := if text.isEmpty then Str.of "documento" else text

/-- `filename.replace("\\", "/")`, with a separator for each run of control characters. -/
def normalizedPath (filename : Str) : Str :=
  subRuns isControlOrDelete PurePath.slash
    (filename.map fun c => if c = backslash then PurePath.slash else c)

/-- `leaf`. -/
def leaf (filename : Str) : Str := stripOf Str.isSpace (PurePath.name (normalizedPath filename))

/-- The first `stem`: the cut of the leaf's. -/
def cutStem (filename : Str) : Str :=
  orDocumento (stripOf isBlankOrDot ((PurePath.stem (leaf filename)).take 180))

/-- The second `stem`: no character but those of a name. -/
def cleanStem (stem : Str) : Str :=
  stripOf isEdge (subRuns (fun c => !isNameChar c) hyphen stem)

end Filename

open Filename

/-- `sanitize_filename`. -/
def sanitizeFilename (filename extension : Str) : Str :=
  orDocumento (cleanStem (cutStem filename)) ++ extension

/-- A stem that can stand in a name: not empty, at most 180 characters of a name, and none of the
characters `" .-"` at either end. -/
structure SafeStem (stem : Str) : Prop where
  nonempty : stem ≠ []
  short : stem.length ≤ 180
  trimmed : Trimmed isEdge stem
  chars : ∀ c ∈ stem, isNameChar c = true

/-- The safe names with an extension. -/
def SafeName (extension name : Str) : Prop := ∃ stem, SafeStem stem ∧ name = stem ++ extension

end SheepContabil
