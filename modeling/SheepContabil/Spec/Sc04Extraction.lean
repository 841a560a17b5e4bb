import SheepContabil.Py.Lines
import SheepContabil.Spec.Sc04Filename
import SheepContabil.Spec.Sc04Intake
import SheepContabil.Spec.Sc04Policy

/-!
# SC-04: from an upload to a text

What `validation.py` accepts of an upload and what `extraction.py` then reads from its content. The
readers of PDF files and of images are not part of the repository: what they answer for a content is
a parameter, the same at each call. A text is the list of its characters.

* `detectMediaType`, `validateStructure`, `validateDocument`: the functions of `validation.py`.
* `normalizeText`: `_normalize_text`, and `NormalText`, what it leaves.
* `extract`: `DefaultTextExtractor.extract`.
-/

namespace SheepContabil

open Py

/-- The settings of a file, with their defaults. -/
structure SC04FileSettings where
  maxUploadBytes : ℕ := 10 * 1024 * 1024
  maxExtractedChars : ℕ := 50000
  maxPdfPages : ℕ := 20
  maxImagePixels : ℕ := 25000000

/-- The exceptions of a reader that the code names, and the others. -/
inductive LibraryError where
  | pdfReadError | osError | valueError | runtimeError | decompressionBomb
  | other (name : String)
  deriving DecidableEq, Repr

/-- A file that `PdfReader` opens: each page has the outcome of `extract_text`. -/
structure PdfFile where
  isEncrypted : Bool
  pages : Except LibraryError (List (Except LibraryError (List Char)))

/-- A file that `Image.open` opens, with the outcomes of `verify` and of its load and OCR. -/
structure ImageFile where
  width : ℕ
  height : ℕ
  verified : Except LibraryError Unit
  ocr : Except LibraryError (List Char)

/-- What the readers answer for a content, and what the standard library does. -/
structure FileLibraries where
  isPrintable : Char → Bool
  sha256 : Bytes → String
  readPdf : Bytes → Except LibraryError PdfFile
  openImage : Bytes → Except LibraryError ImageFile

/-- `InvalidDocument`, `ExtractionError`, or an exception that no function here catches. -/
inductive FileError where
  | invalidDocument (message : String)
  | extraction (message : String)
  | raised (e : LibraryError)
  deriving DecidableEq, Repr

/-- `content.decode("utf-8")`, of valid bytes. -/
def decodeUtf8 (content : Bytes) : Option (List Char) :=
  (ByteArray.mk content.toArray).utf8Decode?.map Array.toList

/-- The media type of an extension in `validation.py`. -/
def MediaExtension.mediaType : MediaExtension → String
  | pdf => "application/pdf"
  | png => "image/png"
  | jpg => "image/jpeg"
  | txt => "text/plain"

section Validation

variable (lib : FileLibraries) (settings : SC04FileSettings)

/-- `_detect_media_type`. The quotient of two lengths under 2 to the 50 is below `0.9` exactly when
it is below nine tenths. -/
def detectMediaType (content : Bytes) : Except FileError MediaExtension :=
  let invalid := FileError.invalidDocument "Envie um PDF, PNG, JPEG ou TXT UTF-8 válido."
  if [0x25, 0x50, 0x44, 0x46, 0x2D].isPrefixOf content then .ok .pdf
  else if [0x89, 0x50, 0x4E, 0x47, 0x0D, 0x0A, 0x1A, 0x0A].isPrefixOf content then .ok .png
  else if [0xFF, 0xD8, 0xFF].isPrefixOf content then .ok .jpg
  else
    match decodeUtf8 content with
    | none => .error invalid
    | some decoded =>
      if decoded.contains '\x00' then .error invalid
      else
        let printable := decoded.countP fun c =>
          lib.isPrintable c || c == '\r' || c == '\n' || c == '\t'
        if 10 * printable < 9 * max 1 decoded.length then .error invalid else .ok .txt

/-- The part of `_validate_structure` for a PDF. -/
def validatePdf (content : Bytes) : Except FileError (Option ℕ) :=
  match lib.readPdf content >>= PdfFile.pages with
  | .error .pdfReadError | .error .osError | .error .valueError =>
    .error (.invalidDocument "O PDF está corrompido ou incompleto.")
  | .error e => .error (.raised e)
  | .ok pages =>
    if pages.isEmpty then .error (.invalidDocument "O PDF não contém páginas válidas.")
    else if settings.maxPdfPages < pages.length then
      .error (.invalidDocument ("O PDF ultrapassa o limite de " ++ toString settings.maxPdfPages ++
        " páginas."))
    else .ok (some pages.length)

/-- The part of `_validate_structure` for an image: a failure of a reader that it catches. -/
def imageError : LibraryError → FileError
  | .osError | .decompressionBomb => .invalidDocument "A imagem está corrompida ou incompleta."
  | e => .raised e

/-- The part of `_validate_structure` for an image. -/
def validateImage (content : Bytes) : Except FileError (Option ℕ) :=
  match lib.openImage content with
  | .error e => .error (imageError e)
  | .ok image =>
    if settings.maxImagePixels < image.width * image.height then
      .error (.invalidDocument "A imagem excede o limite seguro de pixels.")
    else
      match image.verified with
      | .error e => .error (imageError e)
      | .ok _ => .ok (some 1)

/-- `_validate_structure`. -/
def validateStructure (extension : MediaExtension) (content : Bytes) :
    Except FileError (Option ℕ) :=
  match extension with
  | .txt =>
    match decodeUtf8 content with
    | none => .error (.raised .valueError)
    | some text =>
      if (stripOf isSpace text).isEmpty then
        .error (.invalidDocument "O TXT não contém texto para classificação.")
      else .ok none
  | .pdf => validatePdf lib settings content
  | .png | .jpg => validateImage lib settings content

/-- `validate_document`. -/
def validateDocument (filename : String) (content : Bytes) : Except FileError ValidatedDocument :=
  if content.isEmpty then .error (.invalidDocument "O arquivo está vazio.")
  else if settings.maxUploadBytes < content.length then
    .error (.invalidDocument ("O arquivo ultrapassa o limite de " ++
      toString (settings.maxUploadBytes / (1024 * 1024)) ++ " MiB."))
  else
    match detectMediaType lib content with
    | .error e => .error e
    | .ok extension =>
      match validateStructure lib settings extension content with
      | .error e => .error e
      | .ok pageCount => .ok
        { filename := String.ofList
            ((sanitizeFilename (Str.of filename) extension.str).map Char.ofNat)
          mediaType := extension.mediaType
          extension := extension.text
          content
          sha256 := lib.sha256 content
          pageCount }

end Validation

section Extraction

variable (lib : FileLibraries) (settings : SC04FileSettings)

/-- `text.replace("\r\n", "\n")`. -/
def replaceCrLf : List Char → List Char
  | [] => []
  | '\r' :: '\n' :: rest => '\n' :: replaceCrLf rest
  | c :: rest => c :: replaceCrLf rest

/-- The line ends of `_normalize_text`: `replace("\r\n", "\n").replace("\r", "\n")`. -/
def unixLines (text : List Char) : List Char :=
  (replaceCrLf text).map fun c => if c = '\r' then '\n' else c

/-- `_normalize_text`, before the cut. -/
def wholeNormalText (text : List Char) : List Char :=
  stripOf isSpace (squeeze '\n' 2 (rstripLines isSpace (unixLines (text.filter (· ≠ '\x00')))))

/-- `_normalize_text`. -/
def normalizeText (text : List Char) : List Char :=
  (wholeNormalText text).take settings.maxExtractedChars

inductive ExtractionMethod where
  | plainText | pdfText | ocr
  deriving DecidableEq, Repr

structure ExtractionResult where
  text : List Char
  method : ExtractionMethod
  pageCount : Option ℕ

/-- The end of the three extractions: a text with nothing left is an error. -/
def extracted (message : String) (method : ExtractionMethod) (pageCount : Option ℕ)
    (text : List Char) : Except FileError ExtractionResult :=
  if (normalizeText settings text).isEmpty then .error (.extraction message)
  else .ok { text := normalizeText settings text, method, pageCount }

/-- `_extract_text`. -/
def extractText (content : Bytes) : Except FileError ExtractionResult :=
  match decodeUtf8 content with
  | none => .error (.extraction "O TXT precisa usar codificação UTF-8.")
  | some text =>
    extracted settings "O TXT não contém texto suficiente para classificação." .plainText none text

/-- What `_extract_pdf` makes of a failure of the reader. -/
def pdfError : LibraryError → FileError
  | .pdfReadError | .osError | .valueError =>
    .extraction "O PDF está corrompido ou não pôde ser lido."
  | e => .raised e

/-- `_extract_pdf`. -/
def extractPdf (content : Bytes) : Except FileError ExtractionResult :=
  match lib.readPdf content with
  | .error e => .error (pdfError e)
  | .ok pdf =>
    if pdf.isEncrypted then
      .error (.extraction "PDF protegido por senha não pode ser processado.")
    else
      match pdf.pages with
      | .error e => .error (pdfError e)
      | .ok pages =>
        if settings.maxPdfPages < pages.length then
          .error (.extraction ("O PDF ultrapassa o limite de " ++ toString settings.maxPdfPages ++
            " páginas."))
        else
          match pages.mapM id with
          | .error e => .error (pdfError e)
          | .ok parts =>
            extracted settings
              "O PDF não contém texto pesquisável; converta a página em PNG ou JPEG para OCR."
              .pdfText (some pages.length) (List.intercalate ['\n', '\n'] parts)

/-- What `_extract_image` makes of a failure of the reader or of the OCR. -/
def ocrError : LibraryError → FileError
  | .osError | .decompressionBomb | .runtimeError =>
    .extraction "A imagem não pôde ser processada pelo OCR."
  | e => .raised e

/-- `_extract_image`. -/
def extractImage (content : Bytes) : Except FileError ExtractionResult :=
  match lib.openImage content with
  | .error e => .error (ocrError e)
  | .ok image =>
    if settings.maxImagePixels < image.width * image.height then
      .error (.extraction "A imagem excede o limite seguro de pixels.")
    else
      match image.ocr with
      | .error e => .error (ocrError e)
      | .ok text =>
        extracted settings "O OCR não encontrou texto suficiente na imagem." .ocr (some 1) text

/-- `DefaultTextExtractor.extract`. -/
def extract (content : Bytes) (mediaType : String) : Except FileError ExtractionResult :=
  if mediaType = "text/plain" then extractText settings content
  else if mediaType = "application/pdf" then extractPdf lib settings content
  else if mediaType = "image/png" ∨ mediaType = "image/jpeg" then extractImage lib settings content
  else .error (.extraction "O tipo documental não possui extrator configurado.")

end Extraction

/-- A text in normal form: no character but a newline ends a line, no line ends with a blank, no two
lines in a row are empty, and the text starts with no blank. -/
structure NormalText (t : List Char) : Prop where
  noNul : '\x00' ∉ t
  breaks : ∀ c ∈ t, isLineBreak c = true → c = '\n'
  lines : LineEndsTrimmed isSpace t
  runs : ¬ List.replicate 3 '\n' <:+: t
  head : ∀ c, t.head? = some c → isSpace c = false

end SheepContabil
