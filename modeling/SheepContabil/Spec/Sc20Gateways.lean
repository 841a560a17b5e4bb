import SheepContabil.Py.Value

/-!
# SC-20: the gateways of the notifications

A gateway takes a message and returns whether it was delivered, or raises. What
the mail server does is a `MailFate`: whether it accepted the message, and how
`EmailMultiAlternatives.send` ended, which need not agree. `accepted` is what the
outside world knows; no function of the program reads it.
-/

namespace SheepContabil

open Py

inductive CommunicationChannel where
  | email | whatsapp
  deriving DecidableEq, Repr

abbrev CertificateId := ℕ

/-- `f"{certificate_id}:{valid_until}:{channel}:{policy_key}:{sequence}"`. -/
structure IdempotencyKey where
  certificate : CertificateId
  validUntil : ℤ
  channel : CommunicationChannel
  policyKey : String
  sequence : ℕ
  deriving DecidableEq, Repr

structure NotificationMessage where
  recipient : String
  channel : CommunicationChannel
  subject : String
  body : String
  idempotencyKey : IdempotencyKey
  deriving DecidableEq, Repr

structure DeliveryResult where
  delivered : Bool
  providerMessageId : String := ""
  errorMessage : String := ""
  deriving DecidableEq, Repr

/-- An exception of the platform: a subclass of `Exception`, or one of `BaseException` only. -/
inductive PythonException where
  | exception (name : String)
  | baseException (name : String)
  deriving DecidableEq, Repr

/-- How a call of `send` ends, with what the provider did: whether it accepted the message, and
whether the call of its backend raised. -/
structure SendOutcome where
  result : Except PythonException DeliveryResult
  accepted : Bool
  raised : Bool := false

/-- A `NotificationGateway`, under a choice `ι` of what the provider does. -/
abbrev NotificationGateway (ι : Type) := NotificationMessage → ι → SendOutcome

/-- `needle in hay`. -/
def contains (needle hay : String) : Bool :=
  hay.toList.tails.any fun rest => needle.toList.isPrefixOf rest

/-- `SimulatedNotificationGateway.send`; `digest` is the hexadecimal digest of the key. -/
def simulatedSend (digest : IdempotencyKey → String) (message : NotificationMessage) :
    DeliveryResult :=
  let recipient := (strip message.recipient).toLower
  if recipient = "" then
    { delivered := false, errorMessage := "Contato não informado para o canal selecionado." }
  else if message.idempotencyKey.sequence = 1 &&
      (contains "falha" recipient || recipient.endsWith ".invalid") then
    { delivered := false
      errorMessage := "Entrega simulada indisponível; uma nova tentativa pode ser feita." }
  else { delivered := true, providerMessageId := "sim-" ++ digest message.idempotencyKey }

/-- `SimulatedNotificationGateway`. It accepts exactly what it reports as delivered. -/
def simulatedGateway (digest : IdempotencyKey → String) (ι : Type) : NotificationGateway ι :=
  fun message _ =>
    let r := simulatedSend digest message
    { result := .ok r, accepted := r.delivered }

/-- What `email.send(fail_silently=False)` raises, as the handlers tell it apart. -/
inductive MailException where
  | smtpAuthenticationError
  | timeoutError
  | smtpRecipientsRefused
  | exception (name : String)
  | baseException (name : String)
  deriving DecidableEq, Repr

/-- The mail server and the connection to it. -/
structure MailFate where
  accepted : Bool
  raised : Option MailException
  deriving DecidableEq, Repr

/-- The handlers around `email.send`: the exceptions of the class `Exception` become a result. -/
def MailException.handled : MailException → Except PythonException DeliveryResult
  | smtpAuthenticationError => .ok
    { delivered := false
      errorMessage := "Falha de autenticação no Gmail SMTP (535). Certifique-se de usar uma 'Senha de Aplicativo' de 16 caracteres gerada na Conta Google (https://myaccount.google.com/apppasswords) e não a sua senha pessoal." }
  | timeoutError => .ok
    { delivered := false
      errorMessage := "Tempo limite de conexão esgotado ao contatar o servidor SMTP do Gmail (smtp.gmail.com:587)." }
  | smtpRecipientsRefused => .ok
    { delivered := false
      errorMessage := "O servidor de e-mail recusou o destinatário configurado." }
  | exception _ => .ok
    { delivered := false, errorMessage := "Falha inesperada no backend de e-mail." }
  | baseException name => .error (.baseException name)

/-- `DjangoEmailNotificationGateway.send`. Where the message goes under a recipient override
and how its body is rendered do not reach the result. -/
def djangoEmailGateway (digest : IdempotencyKey → String) : NotificationGateway MailFate :=
  fun message fate =>
    if message.channel ≠ .email then simulatedGateway digest MailFate message fate
    else if strip message.recipient = "" then
      { result := .ok
          { delivered := false
            errorMessage := "Contato de e-mail não informado para o certificado." }
        accepted := false }
    else match fate.raised with
      | none =>
        { result := .ok
            { delivered := true, providerMessageId := "smtp-" ++ digest message.idempotencyKey }
          accepted := fate.accepted }
      | some e => { result := e.handled, accepted := fate.accepted, raised := true }

/-- The server accepted a message whose `send` raised an `Exception`. -/
def MailFate.lostAnswer (fate : MailFate) : Bool :=
  fate.accepted && match fate.raised with
    | some (.baseException _) | none => false
    | some _ => true

/-- **The result of an accepted message is a delivery**, unless the answer of the server was
lost. -/
theorem djangoEmailGateway_accepted {digest : IdempotencyKey → String} {m : NotificationMessage}
    {fate : MailFate} {r : DeliveryResult} (hfate : fate.lostAnswer = false)
    (hr : (djangoEmailGateway digest m fate).result = .ok r)
    (hacc : (djangoEmailGateway digest m fate).accepted = true) :
    r.delivered = true ∧ (djangoEmailGateway digest m fate).raised = false := by
  unfold djangoEmailGateway at hr hacc ⊢
  split
  · next hchannel =>
    rw [if_pos hchannel] at hr hacc
    simp only [simulatedGateway, Except.ok.injEq] at hr hacc
    rw [hr] at hacc
    exact ⟨hacc, rfl⟩
  · next hchannel =>
    rw [if_neg hchannel] at hr hacc
    split
    · next hblank =>
      rw [if_pos hblank] at hacc; cases hacc
    · next hblank =>
      rw [if_neg hblank] at hr hacc
      cases hraised : fate.raised with
      | none =>
        simp only [hraised, Except.ok.injEq] at hr
        subst hr; exact ⟨rfl, rfl⟩
      | some e =>
        simp only [hraised] at hr hacc
        cases e <;> simp_all [MailFate.lostAnswer, MailException.handled]

end SheepContabil
