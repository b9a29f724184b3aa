import MailRound.Mail.Message
import MailRound.Text.Base64
import MailRound.Text.LowerCase

namespace MailRound.Graph

structure Contact where
  name : Option String
  address : Option String
  deriving DecidableEq, Repr

structure Recipient where
  contact : Contact
  deriving DecidableEq, Repr

structure Body where
  contentType : String
  content : String
  deriving DecidableEq, Repr

structure Enclosure where
  name : Option String
  contentType : Option String
  content : Option String
  deriving DecidableEq, Repr

structure Item where
  id : String
  messageId : Option String
  subject : Option String
  sender : Option Recipient
  recipientsTo : List Recipient
  recipientsCc : List Recipient
  recipientsBcc : List Recipient
  received : Option Calendar.Instant
  body : Option Body
  enclosures : List Enclosure
  deriving DecidableEq, Repr

structure Listing where
  items : List Item
  deriving DecidableEq, Repr

def Contact.record : Json.Record Contact :=
  (Json.Record.optional "name" Json.Reader.text).map Contact.mk
    |>.app (Json.Record.optional "address" Json.Reader.text)

def Recipient.record : Json.Record Recipient :=
  (Json.Record.required "emailAddress" (Contact.record.reader "GraphEmailAddress")).map Recipient.mk

def Recipient.reader : Json.Reader Recipient := Recipient.record.reader "GraphRecipient"

def Body.record : Json.Record Body :=
  (Json.Record.withDefault "contentType" Json.Reader.text "").map Body.mk
    |>.app (Json.Record.withDefault "content" Json.Reader.text "")

def Enclosure.record : Json.Record Enclosure :=
  (Json.Record.optional "name" Json.Reader.text).map Enclosure.mk
    |>.app (Json.Record.optional "contentType" Json.Reader.text)
    |>.app (Json.Record.optional "contentBytes" Json.Reader.text)

def recipients (name : String) : Json.Record (List Recipient) :=
  Json.Record.withDefault name (Json.Reader.list Recipient.reader) []

def Item.record : Json.Record Item :=
  (Json.Record.required "id" Json.Reader.text).map Item.mk
    |>.app (Json.Record.optional "internetMessageId" Json.Reader.text)
    |>.app (Json.Record.optional "subject" Json.Reader.text)
    |>.app (Json.Record.optional "from" Recipient.reader)
    |>.app (recipients "toRecipients")
    |>.app (recipients "ccRecipients")
    |>.app (recipients "bccRecipients")
    |>.app (Json.Record.optional "receivedDateTime" Calendar.Instant.reader)
    |>.app (Json.Record.optional "body" (Body.record.reader "GraphBody"))
    |>.app (Json.Record.withDefault "attachments"
      (Json.Reader.list (Enclosure.record.reader "GraphAttachment")) [])

def Listing.record : Json.Record Listing :=
  (Json.Record.withDefault "value" (Json.Reader.list (Item.record.reader "GraphMessage")) []).map
    Listing.mk

def Listing.reader : Json.Reader Listing := Listing.record.reader "GraphList"

/-- An address, after its name if it has one. -/
def Recipient.text (r : Recipient) : String :=
  let address := r.contact.address.getD ""
  match r.contact.name with
  | some name => if name = "" then address else name ++ " <" ++ address ++ ">"
  | none => address

/-- A file that comes with its bytes; any other is left out. -/
def Enclosure.toAttachment? (e : Enclosure) : Option Attachment := do
  let encoded ← e.content
  let content ← Text.Base64.decodePadded? Text.Base64.standard (Text.Utf8.encode encoded)
  return ⟨e.name.getD "unnamed", e.contentType.getD "application/octet-stream", content⟩

def Body.isHtml (b : Body) : Bool :=
  String.ofList (b.contentType.toList.map Char.toLower) = "html"

def Item.toMessage (accountEmail : Option String) (m : Item) : Message :=
  { Message.new m.id .outlookGraph with
    messageId := m.messageId
    subject := m.subject
    sender := m.sender.map Recipient.text
    recipientsTo := m.recipientsTo.map Recipient.text
    recipientsCc := m.recipientsCc.map Recipient.text
    recipientsBcc := m.recipientsBcc.map Recipient.text
    receivedDate := m.received
    bodyHtml := (m.body.filter Body.isHtml).map (·.content)
    bodyText := (m.body.filter fun b => !b.isHtml).map (·.content)
    attachments := m.enclosures.filterMap Enclosure.toAttachment?
    accountEmail := accountEmail }

end MailRound.Graph
