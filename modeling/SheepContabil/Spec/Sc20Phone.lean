import Mathlib.Data.List.Sort
import SheepContabil.Py.Regex
import SheepContabil.Spec.Sc06Rules

/-!
# SC-20: the phone of a certificate

The phone that the form of a certificate cleans and stores, the country that the form shows for a
stored phone, and what `format_phone` and the WhatsApp link make of it. A text is the list of its
characters, and the digits are those of every script, as `\D` has them.

* `cleanContactPhone`: `clean_contact_phone`, with its messages.
* `initialCountry`: the country in `DigitalCertificateForm.__init__`.
* `formatPhone`, `whatsappUrl`: the functions of `models.py`.
-/

namespace SheepContabil

open Py (onlyDecimals isDecimal)
open SC06 (Text strip)

/-- The text of an area code. -/
def areaCode (n : ℕ) : Text := [Char.ofNat (48 + n / 10), Char.ofNat (48 + n % 10)]

/-- `VALID_BRAZILIAN_DDDS`. -/
def validBrazilianDdds : List Text :=
  [11, 12, 13, 14, 15, 16, 17, 18, 19, 21, 22, 24, 27, 28, 31, 32, 33, 34, 35, 37, 38, 41, 42, 43,
    44, 45, 46, 47, 48, 49, 51, 53, 54, 55, 61, 62, 63, 64, 65, 66, 67, 68, 69, 71, 73, 74, 75, 77,
    79, 81, 82, 83, 84, 85, 86, 87, 88, 89, 91, 92, 93, 94, 95, 96, 97, 98, 99].map areaCode

/-- The codes of `COUNTRY_PHONE_CHOICES`. -/
def countryPhoneChoices : List Text :=
  [['5', '5'], ['1'], ['3', '5', '1'], ['5', '4'], ['5', '9', '8'], ['5', '9', '5'], ['5', '6'],
    ['3', '4'], ['4', '4'], ['3', '9'], ['4', '9'], ['3', '3']]

/-- The codes that `format_phone` splits off a number without blanks. -/
def formattedPrefixes : List Text :=
  [['3', '5', '1'], ['5', '9', '8'], ['5', '9', '5'], ['5', '4'], ['5', '6'], ['3', '4'], ['4', '4'],
    ['3', '9'], ['4', '9'], ['3', '3'], ['1']]

def brazil : Text := ['5', '5']

/-- `format_phone`. -/
def formatPhone (value : Text) : Text :=
  let raw := strip value
  let digits := onlyDecimals raw
  if raw.isEmpty then []
  else if digits.isEmpty then raw
  else if ['+'].isPrefixOf raw && !brazil.isPrefixOf digits then
    if raw.contains ' ' || raw.contains '(' || raw.contains '-' then raw
    else
      match [3, 2, 1].find? fun n =>
        decide (n + 4 < digits.length) && formattedPrefixes.contains (digits.take n) with
      | some n => '+' :: digits.take n ++ ' ' :: digits.drop n
      | none => raw
  else if brazil.isPrefixOf digits && (digits.drop 2).length == 11 then
    ['+', '5', '5', ' ', '('] ++ (digits.drop 2).take 2 ++ [')', ' '] ++
      ((digits.drop 2).drop 2).take 5 ++ ['-'] ++ (digits.drop 2).drop 7
  else if brazil.isPrefixOf digits && (digits.drop 2).length == 10 then
    ['+', '5', '5', ' ', '('] ++ (digits.drop 2).take 2 ++ [')', ' '] ++
      ((digits.drop 2).drop 2).take 4 ++ ['-'] ++ (digits.drop 2).drop 6
  else if digits.length == 11 && !(['+'].isPrefixOf raw) then
    ['+', '5', '5', ' ', '('] ++ digits.take 2 ++ [')', ' '] ++ (digits.drop 2).take 5 ++ ['-'] ++
      digits.drop 7
  else if digits.length == 10 && !(['+'].isPrefixOf raw) then
    ['+', '5', '5', ' ', '('] ++ digits.take 2 ++ [')', ' '] ++ (digits.drop 2).take 4 ++ ['-'] ++
      digits.drop 6
  else raw

/-- The country of `clean_contact_phone`: the cleaned field, what the request holds, or Brazil. -/
def selectedCountry (phoneCountry requested : Text) : Text :=
  strip (if !phoneCountry.isEmpty then phoneCountry
    else if !requested.isEmpty then requested else brazil)

/-- `len(set(digits)) == 1`. -/
def isRepeated (digits : Text) : Bool := digits.dedup.length == 1

/-- The part of `clean_contact_phone` for Brazil. -/
def cleanBrazilianPhone (rawPhone digits : Text) : Except String Text :=
  let digits :=
    if (digits.length == 12 || digits.length == 13) && brazil.isPrefixOf digits then digits.drop 2
    else digits
  let ddd := digits.take 2
  let local_ := digits.drop 2
  if ['+'].isPrefixOf rawPhone && !('+' :: brazil).isPrefixOf rawPhone then
    .error "O país selecionado é Brasil (+55). Para outro país, altere o seletor de DDI."
  else if !(digits.length == 10 || digits.length == 11) then
    .error "Informe um telefone válido com DDD (10 ou 11 dígitos, ex.: (11) 99999-0000)."
  else if !validBrazilianDdds.contains ddd then
    .error ("O DDD '" ++ String.ofList ddd ++ "' não é válido no Brasil.")
  else if isRepeated digits then
    .error "Informe um telefone válido (todos os dígitos são repetidos)."
  else if isRepeated local_ then
    .error "Informe um telefone válido (número local repetido)."
  else if local_.length == 9 && !(['9'].isPrefixOf local_) then
    .error "Telefones celulares de 9 dígitos devem iniciar com o dígito 9."
  else
    let formattedLocal :=
      if local_.length == 9 then local_.take 5 ++ ['-'] ++ local_.drop 5
      else local_.take 4 ++ ['-'] ++ local_.drop 4
    .ok (['+', '5', '5', ' ', '('] ++ ddd ++ [')', ' '] ++ formattedLocal)

/-- The part of `clean_contact_phone` for the other countries. -/
def cleanInternationalPhone (country digits : Text) : Except String Text :=
  let localDigits :=
    if country.isPrefixOf digits && decide (country.length + 5 < digits.length) then
      digits.drop country.length
    else digits
  if !(decide (6 ≤ localDigits.length) && decide (localDigits.length ≤ 14)) then
    .error ("Informe um telefone internacional válido (+" ++ String.ofList country ++
      ") com 6 a 14 dígitos.")
  else if isRepeated localDigits then
    .error "Informe um telefone válido (todos os dígitos são repetidos)."
  else .ok ('+' :: country ++ ' ' :: localDigits)

/-- `clean_contact_phone`. -/
def cleanContactPhone (phoneCountry requested contactPhone : Text) : Except String Text :=
  let rawPhone := strip contactPhone
  let country := selectedCountry phoneCountry requested
  let digits := onlyDecimals rawPhone
  if rawPhone.isEmpty then .ok []
  else if !countryPhoneChoices.contains country then
    .error "País de DDI selecionado é inválido."
  else if digits.isEmpty then .error "Informe um telefone válido."
  else if country == brazil then cleanBrazilianPhone rawPhone digits
  else cleanInternationalPhone country digits

/-- The country that the form of a stored certificate shows: the longest code the digits start
with, or Brazil. -/
def initialCountry (contactPhone : Text) : Text :=
  ((countryPhoneChoices.insertionSort fun a b => b.length ≤ a.length).find? fun code =>
    code.isPrefixOf (onlyDecimals (strip contactPhone))).getD brazil

/-- `whatsapp_url`, with the quoted message. -/
def whatsappUrl (overridePhone : Option Text) (configured contactPhone quoted : Text) : Text :=
  let phoneToUse := strip (overridePhone.getD configured)
  let targetPhone := if !phoneToUse.isEmpty then phoneToUse else contactPhone
  let digits := onlyDecimals targetPhone
  if digits.isEmpty then []
  else
    let digits :=
      if !(['+'].isPrefixOf (strip targetPhone)) && (digits.length == 10 || digits.length == 11) then
        brazil ++ digits
      else digits
    "https://api.whatsapp.com/send?phone=".toList ++ digits ++ "&text=".toList ++ quoted

end SheepContabil
