import SheepContabil.Py.Quote
import SheepContabil.Spec.Masks
import SheepContabil.Spec.Sc06Dates

/-!
# SC-20: the links of a certificate

`mailto_url` and `whatsapp_url` of `models.py` with the texts they quote.

* `mailtoUrl`: the link that opens a mail with the notice of a certificate.
* `whatsappLink`: the link that opens a chat with it; `whatsappUrl` with the quoted notice.
-/

namespace SheepContabil

open Py (quote joinQuery onlyDecimals)
open SC06 (Text strip strftime)

/-- The fields of a certificate that its links show. -/
structure CertificateCard where
  clientName : Text
  responsibleName : Text
  clientDocument : Text
  serialNumber : Text
  contactEmail : Text
  contactPhone : Text
  validUntil : ℕ
  deriving DecidableEq, Repr

namespace CertificateCard

variable (c : CertificateCard)

/-- `days_remaining`. -/
def daysRemaining (today : ℕ) : ℤ := (c.validUntil : ℤ) - today

/-- `value or default`, of a text. -/
def orText (value default : Text) : Text := if value.isEmpty then default else value

/-- The situation of a certificate. -/
def urgencyText (days : ℤ) : Text :=
  if days < 0 then "EXPIRADO há ".toList ++ (toString days.natAbs).toList ++ " dia(s)".toList
  else if days = 0 then "VENCE HOJE".toList
  else if days ≤ 15 then
    "Vencimento Crítico (restam ".toList ++ (toString days).toList ++ " dias)".toList
  else if days ≤ 30 then
    "Atenção ao Vencimento (restam ".toList ++ (toString days).toList ++ " dias)".toList
  else "Aviso Preventivo (restam ".toList ++ (toString days).toList ++ " dias)".toList

/-- The lines of a link to a test address. -/
def overrideLines (original : Text) : List Text :=
  ["[AMBIENTE DE TESTE SHEEPCONTABIL]".toList,
    "Aviso de teste redirecionado. Destinatário original: ".toList ++
      orText original "Não informado".toList,
    "----------------------------------------\n".toList]

/-- The line of the serial number, if there is one. -/
def serialLines : List Text :=
  if c.serialNumber.isEmpty then [] else ["• Identificador: ".toList ++ c.serialNumber]

/-- The advice at the end of a notice. -/
def renewal : Text :=
  "Recomendamos iniciar com antecedência o processo de renovação junto à ".toList ++
    "Autoridade Certificadora (AC) para evitar interrupções no faturamento (NF-e) ".toList ++
    "e no cumprimento de obrigações acessórias.".toList

/-- The subject of the mail. -/
def mailSubject : Text :=
  "Aviso de Vencimento de Certificado Digital · ".toList ++ c.clientName

/-- The body of the mail. -/
def mailBody (overridden : Bool) (today : ℕ) : Text :=
  ['\n'].intercalate <|
    (if overridden then overrideLines c.contactEmail else []) ++
    ["Olá, ".toList ++ orText c.responsibleName c.clientName ++ ",".toList,
      [],
      "Informamos que o certificado digital da empresa ".toList ++ c.clientName ++
        " está próximo da data de expiração.".toList,
      [],
      "Dados do Certificado:".toList,
      "• Empresa: ".toList ++ c.clientName,
      "• Documento: ".toList ++ formatCpfCnpj c.clientDocument,
      "• Validade: ".toList ++ strftime c.validUntil,
      "• Situação: ".toList ++ urgencyText (c.daysRemaining today)] ++
    c.serialLines ++
    [[],
      "Orientação para Renovação:".toList,
      renewal,
      [],
      "SheepContabil Gestão & Automações · SC-20".toList]

/-- The address of the mail: the override, or the contact of the certificate. -/
def mailTarget (overrideEmail : Option Text) (configured : Text) : Text :=
  let emailToUse := strip (overrideEmail.getD configured)
  if emailToUse.isEmpty then strip c.contactEmail else emailToUse

/-- `mailto_url`. -/
def mailtoUrl (overrideEmail : Option Text) (configured : Text) (today : ℕ) : Text :=
  let overridden := !(strip (overrideEmail.getD configured)).isEmpty
  let target := c.mailTarget overrideEmail configured
  if target.isEmpty then []
  else
    "mailto:".toList ++ target ++ '?' ::
      joinQuery [(quote (fun _ => false) "subject".toList, quote (fun _ => false) c.mailSubject),
        (quote (fun _ => false) "body".toList,
          quote (fun _ => false) (c.mailBody overridden today))]

/-- The message of the chat. -/
def whatsappMessage (overridden : Bool) (today : ℕ) : Text :=
  ['\n'].intercalate <|
    (if overridden then overrideLines c.contactPhone else []) ++
    ["*SheepContabil · Monitoramento de Certificados Digitais*".toList,
      [],
      "Olá, *".toList ++ orText c.responsibleName c.clientName ++ "*,".toList,
      "Informamos que o certificado digital de *".toList ++ c.clientName ++
        "* está próximo da data de expiração.".toList,
      [],
      "*Dados do Certificado:*".toList,
      "• Empresa: *".toList ++ c.clientName ++ "*".toList,
      "• Documento: ".toList ++ formatCpfCnpj c.clientDocument,
      "• Validade: *".toList ++ strftime c.validUntil ++ "*".toList,
      "• Situação: *".toList ++ urgencyText (c.daysRemaining today) ++ "*".toList] ++
    c.serialLines ++
    [[],
      "*Orientação para Renovação:*".toList,
      renewal,
      [],
      "_SheepContabil Gestão & Automações · SC-20_".toList]

/-- `whatsapp_url`, with the notice that it quotes. -/
def whatsappLink (overridePhone : Option Text) (configured : Text) (today : ℕ) : Text :=
  let overridden := !(strip (overridePhone.getD configured)).isEmpty
  whatsappUrl overridePhone configured c.contactPhone
    (quote (· == '/') (c.whatsappMessage overridden today))

/-- The phone of the chat: the override, or the contact of the certificate. -/
def chatTarget (overridePhone : Option Text) (configured : Text) : Text :=
  let phoneToUse := strip (overridePhone.getD configured)
  if phoneToUse.isEmpty then c.contactPhone else phoneToUse

/-- The digits that the chat dials for a phone. -/
def dialedDigits (target : Text) : Text :=
  let digits := onlyDecimals target
  if !(['+'].isPrefixOf (strip target)) && (digits.length == 10 || digits.length == 11) then
    brazil ++ digits
  else digits

end CertificateCard

/-- A text that a link carries unquoted as it is: no mark of a link, and no escape. -/
structure PlainInLink (t : Text) : Prop where
  marks : ∀ c ∈ t, Py.isLinkBreak c = false ∧ c ≠ '?' ∧ c ≠ '#'
  escapes : ∀ (before : Text) (a b : Char) (rest : Text), t = before ++ '%' :: a :: b :: rest →
    Py.escapedByte? a b = none

end SheepContabil
