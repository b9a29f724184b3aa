import MailRound.Account.Provider
import MailRound.Calendar.Instant
import MailRound.Text.Utf8

namespace MailRound

structure Attachment where
  filename : String
  contentType : String
  content : Bytes
  deriving DecidableEq, Repr

/-- A message as it is handed out. Its id is the provider's and tells messages apart. -/
structure Message where
  id : String
  messageId : Option String
  subject : Option String
  sender : Option String
  recipientsTo : List String
  recipientsCc : List String
  recipientsBcc : List String
  bodyText : Option String
  bodyHtml : Option String
  receivedDate : Option Calendar.Instant
  attachments : List Attachment
  provider : Provider
  accountEmail : Option String
  deriving DecidableEq, Repr

def Calendar.Instant.reader : Json.Reader Calendar.Instant
  | _, .string token =>
    match token.text with
    | .error e => .error e
    | .ok s => match Calendar.Instant.read s with
      | .ok t => .ok t
      | .error e => .error (.time e)
  | _, node => node.mismatch "an RFC 3339 formatted date and time string"

def Calendar.Instant.toJson (t : Calendar.Instant) : Json := .str t.text

namespace Attachment

def record : Json.Record Attachment :=
  (Json.Record.required "filename" Json.Reader.text).map Attachment.mk
    |>.app (Json.Record.required "content_type" Json.Reader.text)
    |>.app (Json.Record.required "content" (Json.Reader.list Json.Reader.byte))

def reader : Json.Reader Attachment := record.reader "Attachment"

def bytesToJson (bs : Bytes) : Json := .ofList (fun b => .ofNat b.toNat) bs

def toJson (a : Attachment) : Json :=
  .object [("filename", .str a.filename), ("content_type", .str a.contentType),
    ("content", bytesToJson a.content)]

end Attachment

namespace Message

def new (id : String) (provider : Provider) : Message :=
  ⟨id, none, none, none, [], [], [], none, none, none, [], provider, none⟩

def texts : Json.Reader (List String) := Json.Reader.list Json.Reader.text

def record : Json.Record Message :=
  (Json.Record.required "id" Json.Reader.text).map Message.mk
    |>.app (Json.Record.nullable "message_id_header" Json.Reader.text)
    |>.app (Json.Record.nullable "subject" Json.Reader.text)
    |>.app (Json.Record.nullable "sender" Json.Reader.text)
    |>.app (Json.Record.withDefault "recipients_to" texts [])
    |>.app (Json.Record.withDefault "recipients_cc" texts [])
    |>.app (Json.Record.withDefault "recipients_bcc" texts [])
    |>.app (Json.Record.nullable "body_text" Json.Reader.text)
    |>.app (Json.Record.nullable "body_html" Json.Reader.text)
    |>.app (Json.Record.nullable "received_date" Calendar.Instant.reader)
    |>.app (Json.Record.withDefault "attachments" (Json.Reader.list Attachment.reader) [])
    |>.app (Json.Record.required "provider_type" Provider.reader)
    |>.app (Json.Record.nullable "account_email" Json.Reader.text)

def reader : Json.Reader Message := record.reader "EmailMessage"

def toJson (m : Message) : Json :=
  .object [("id", .str m.id), ("message_id_header", .ofText m.messageId),
    ("subject", .ofText m.subject), ("sender", .ofText m.sender),
    ("recipients_to", .ofList .str m.recipientsTo),
    ("recipients_cc", .ofList .str m.recipientsCc),
    ("recipients_bcc", .ofList .str m.recipientsBcc),
    ("body_text", .ofText m.bodyText), ("body_html", .ofText m.bodyHtml),
    ("received_date", .ofOption Calendar.Instant.toJson m.receivedDate),
    ("attachments", .ofList Attachment.toJson m.attachments),
    ("provider_type", m.provider.toJson), ("account_email", .ofText m.accountEmail)]

end Message

end MailRound
