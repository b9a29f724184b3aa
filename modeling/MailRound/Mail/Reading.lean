import MailRound.Failure
import MailRound.Mail.Message
import MailRound.Mime.Address
import MailRound.Mime.Body
import MailRound.Mime.MessageId

namespace MailRound.Message

def addresses (fields : Mime.Fields) (name : String) : List String :=
  match fields.find? name with
  | some field => (Mime.Address.ofField field).filterMap Mime.Mailbox.text?
  | none => []

def ofRaw (id : String) (raw : Bytes) (provider : Provider) (accountEmail : Option String) :
    Outcome Message :=
  match Mime.Entity.read? raw with
  | none => .error (.processing ("unparseable message " ++ id))
  | some entity =>
    let fields := entity.fields
    let body := Mime.Body.ofMessage entity
    .ok
      { id := id
        messageId := (fields.find? "message-id").bind Mime.MessageId.ofField
        subject := (fields.find? "subject").bind Mime.Prose.ofField
        sender := (addresses fields "from").head?
        recipientsTo := addresses fields "to"
        recipientsCc := addresses fields "cc"
        recipientsBcc := addresses fields "bcc"
        bodyText := body.plain
        bodyHtml := body.html
        receivedDate := (fields.find? "date").bind (Mime.SentDate.read? ·.value)
        attachments := body.attachments
        provider := provider
        accountEmail := accountEmail }

end MailRound.Message
