import MailRound.Mail.Message
import MailRound.Mime.Entity

namespace MailRound.Mime

/-- What the parts of a message come to: the first plain and the first HTML text that is shown,
and all that is not shown. -/
structure Body where
  plain : Option String
  html : Option String
  attachments : List Attachment
  deriving DecidableEq, Repr

namespace Body

def empty : Body := ⟨none, none, []⟩

def append (a b : Body) : Body :=
  ⟨a.plain.or b.plain, a.html.or b.html, a.attachments ++ b.attachments⟩

/-- The multipart around a part (none around the whole message), whether some multipart further
out holds alternatives, and which of the two texts are still looked for. -/
structure Scope where
  kind : Option Multipart
  amongAlternatives : Bool
  wantsHtml : Bool
  wantsPlain : Bool
  deriving DecidableEq, Repr

def Scope.whole : Scope := ⟨none, false, true, true⟩

def Scope.inside (s : Scope) (kind : Multipart) : Scope :=
  { s with kind := some kind, amongAlternatives := s.amongAlternatives || kind = .alternative }

def isAttached (fields : Fields) : Bool :=
  ((Entity.disposition? fields).map (·.type == "attachment")).getD false

def isNamed (fields : Fields) : Bool :=
  (((Entity.mediaType? fields).bind (·.parameter? "name"))).isSome

/-- A part may be shown in its place unless it is marked as attached or, inside a multipart, kept as
it came. Past the first part, one that has a name or belongs to a related part is not. -/
def isInline (s : Scope) (first intact : Bool) (fields : Fields) : Bool :=
  (intact || s.kind.isNone) && !isAttached fields &&
    (first || (s.kind ≠ some .related && !isNamed fields))

/-- Whether a text is shown, and the scope after it. Below alternatives a text of one kind ends the
search for the other kind. -/
def place (s : Scope) (first intact : Bool) (fields : Fields) (form : Form) : Bool × Scope :=
  if s.kind = some .alternative then (form = .plain || form = .html, s)
  else if isInline s first intact fields then
    match form with
    | .plain =>
      (s.wantsPlain, if s.amongAlternatives then { s with wantsHtml := false } else s)
    | .html =>
      (s.wantsHtml, if s.amongAlternatives then { s with wantsPlain := false } else s)
    | _ => (false, s)
  else (false, s)

def fileName (fields : Fields) : String :=
  let given := (Entity.disposition? fields).bind (·.parameter? "filename")
  let named := (Entity.mediaType? fields).bind (·.parameter? "name")
  (given.or named).getD "unnamed"

def typeText (fields : Fields) : String :=
  ((Entity.mediaType? fields).map MediaType.text).getD "application/octet-stream"

def decodeText (fields : Fields) (content : Bytes) : String :=
  let charset := (Entity.mediaType? fields).bind (·.parameter? "charset")
  Charset.decodeNamed (Text.Utf8.encode (charset.getD "")) content

/-- A text that is shown is a body; any other text and all other data are attachments. -/
def ofPart (shown : Bool) (fields : Fields) (form : Form) (content : Bytes) : Body :=
  if form.isText then
    let text := decodeText fields content
    match shown, form with
    | true, .plain => ⟨some text, none, []⟩
    | true, .html => ⟨none, some text, []⟩
    | _, _ => ⟨none, none, [⟨fileName fields, typeText fields, Text.Utf8.encode text⟩]⟩
  else ⟨none, none, [⟨fileName fields, typeText fields, content⟩]⟩

mutual

def ofEntity (s : Scope) (first : Bool) : Entity → Body × Scope
  | .part fields form intact content =>
    let (shown, s) := place s first intact fields form
    (ofPart shown fields form content, s)
  | .multipart _ kind parts => (ofParts (s.inside kind) true parts, s)

def ofParts (s : Scope) (first : Bool) : List Entity → Body
  | [] => empty
  | part :: parts =>
    let (body, s) := ofEntity s first part
    body.append (ofParts s false parts)

end

def ofMessage (entity : Entity) : Body := (ofEntity .whole true entity).1

end Body

end MailRound.Mime
