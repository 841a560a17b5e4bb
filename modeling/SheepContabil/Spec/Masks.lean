import SheepContabil.Spec.Sc20Phone

/-!
# The masks of the page

What `app.js` makes of a document or a phone in a field: it formats the field when the page loads,
when a part of the page is replaced, when the country changes, and at each input. And what the server
makes of the document that the form then sends.

* `AppJs.formatDocument`, `AppJs.formatPhone`: the masks.
* `cleanClientDocument`, `formatCpfCnpj`: the functions of `forms.py` and `models.py`.
* `typedDocument`: the field after keys that each add a character at its end.
-/

namespace SheepContabil

open Py (onlyDecimals)
open SC06 (Text)

namespace AppJs

/-- `\d` of a pattern without flags: the digits of ASCII. -/
def isDigit (c : Char) : Bool := decide ('0' ≤ c) && decide (c ≤ '9')

/-- `value.replace(/\D/g, "")`. -/
def onlyDigits (value : Text) : Text := value.filter isDigit

/-- `digits.slice(a, b)`. -/
def slice (a b : ℕ) (digits : Text) : Text := (digits.drop a).take (b - a)

def formatDocument (value : Text) : Text :=
  let digits := (onlyDigits value).take 14
  if value.isEmpty then []
  else if digits.length ≤ 11 then
    if digits.length ≤ 3 then digits
    else if digits.length ≤ 6 then slice 0 3 digits ++ '.' :: digits.drop 3
    else if digits.length ≤ 9 then
      slice 0 3 digits ++ '.' :: (slice 3 6 digits ++ '.' :: digits.drop 6)
    else
      slice 0 3 digits ++ '.' :: (slice 3 6 digits ++ '.' :: (slice 6 9 digits ++
        '-' :: digits.drop 9))
  else if digits.length ≤ 12 then
    slice 0 2 digits ++ '.' :: (slice 2 5 digits ++ '.' :: (slice 5 8 digits ++
      '/' :: digits.drop 8))
  else
    slice 0 2 digits ++ '.' :: (slice 2 5 digits ++ '.' :: (slice 5 8 digits ++
      '/' :: (slice 8 12 digits ++ '-' :: digits.drop 12)))

/-- A Brazilian number, as far as it is typed. -/
def formatBrazilianPhone (digits : Text) : Text :=
  let cleanDigits :=
    if brazil.isPrefixOf digits && decide (11 < digits.length) then digits.drop 2 else digits
  let localDigits := cleanDigits.take 11
  if localDigits.length ≤ 2 then
    if localDigits.length = 2 then '(' :: (localDigits ++ [')', ' ']) else '(' :: localDigits
  else
    let ddd := slice 0 2 localDigits
    let rest := localDigits.drop 2
    if rest.length ≤ 4 then '(' :: (ddd ++ ')' :: ' ' :: rest)
    else if rest.length ≤ 8 then
      '(' :: (ddd ++ ')' :: ' ' :: (slice 0 4 rest ++ '-' :: rest.drop 4))
    else '(' :: (ddd ++ ')' :: ' ' :: (slice 0 5 rest ++ '-' :: slice 5 9 rest))

def formatPhone (value country : Text) : Text :=
  let digits := onlyDigits value
  if value.isEmpty then []
  else if digits.isEmpty then if ['+'].isPrefixOf value then ['+'] else []
  else if country = brazil then formatBrazilianPhone digits
  else
    let cleanDigits :=
      if country.isPrefixOf digits && decide (country.length + 5 < digits.length) then
        digits.drop country.length
      else digits
    cleanDigits.take 14

end AppJs

/-- `clean_client_document`. -/
def cleanClientDocument (clientDocument : Text) : Except String Text :=
  let document := onlyDecimals clientDocument
  if document.length = 11 ∨ document.length = 14 then .ok document
  else .error "Informe um CPF ou CNPJ sintético com 11 ou 14 dígitos."

/-- `format_cpf_cnpj`. -/
def formatCpfCnpj (value : Text) : Text :=
  let digits := onlyDecimals value
  if value.isEmpty then []
  else if digits.length = 11 then
    digits.take 3 ++ ['.'] ++ (digits.take 6).drop 3 ++ ['.'] ++ (digits.take 9).drop 6 ++ ['-'] ++
      digits.drop 9
  else if digits.length = 14 then
    digits.take 2 ++ ['.'] ++ (digits.take 5).drop 2 ++ ['.'] ++ (digits.take 8).drop 5 ++ ['/'] ++
      (digits.take 12).drop 8 ++ ['-'] ++ digits.drop 12
  else value

/-- The field of a document after keys that each add a character at its end: the mask formats it
after each. -/
def typedDocument (keys : Text) : Text :=
  keys.foldl (fun value key => AppJs.formatDocument (value ++ [key])) []

/-- The field of a phone after so many passes of the mask. -/
def maskedPhone (country : Text) (n : ℕ) (value : Text) : Text :=
  (fun value => AppJs.formatPhone value country)^[n] value

end SheepContabil
