import MailRound.Mime.Delimiter
import MailRound.Mime.MediaType
import MailRound.Mime.Prose

namespace MailRound.Mime

inductive Multipart where
  | mixed
  | alternative
  | related
  | digest
  | other
  deriving DecidableEq, Repr

inductive Form where
  | plain
  | html
  | otherText
  | media
  | message
  | other
  deriving DecidableEq, Repr

def Form.isText : Form → Bool
  | .plain | .html | .otherText => true
  | _ => false

/-- A message is a part or a list of parts. The bytes of a part that is `intact` are free of their
transfer encoding; any other is kept as it came. -/
inductive Entity where
  | part (fields : Fields) (form : Form) (intact : Bool) (content : Bytes)
  | multipart (fields : Fields) (kind : Multipart) (parts : List Entity)
  deriving Repr

namespace Entity

def mediaType? (fields : Fields) : Option MediaType :=
  (fields.find? "content-type").bind MediaType.ofField

def disposition? (fields : Fields) : Option MediaType :=
  (fields.find? "content-disposition").bind MediaType.ofField

def transfer (fields : Fields) : Transfer :=
  Transfer.ofName (((fields.find? "content-transfer-encoding").bind Prose.ofField).getD "")

def multipart? (m : MediaType) : Option Multipart :=
  if m.type = "multipart" then
    some <| match m.subtype with
      | some "mixed" => .mixed
      | some "alternative" => .alternative
      | some "related" => .related
      | some "digest" => .digest
      | _ => .other
  else none

/-- Without a media type a part is plain text, in a digest a message. A multipart that is not
divided by the boundary it names is read as text; one that names none is data. -/
def formOf (parent : Option Multipart) : Option MediaType → Form
  | none => if parent = some .digest then .message else .plain
  | some m =>
    match m.type with
    | "text" =>
      match m.subtype with
      | some "plain" => .plain
      | some "html" => .html
      | _ => .otherText
    | "image" | "audio" | "video" => .media
    | "message" =>
      if m.subtype = some "rfc822" ∨ m.subtype = some "global" then .message else .other
    | "multipart" => if (m.parameter? "boundary").isSome then .otherText else .other
    | _ => .other

/-- What is being read around the present place. An enclosed message keeps the bytes from its
beginning on and the boundary that ends it. Parts are held backwards. -/
inductive Frame where
  | multipart (fields : Fields) (kind : Multipart) (boundary : Bytes) (parts : List Entity)
  | message (fields : Fields) (start : Bytes) (boundary : Option Bytes)
  deriving Repr

def Frame.boundary? : Frame → Option Bytes
  | .multipart _ _ boundary _ => some boundary
  | .message _ _ boundary => boundary

def Frame.kind? : Frame → Option Multipart
  | .multipart _ kind _ _ => some kind
  | .message .. => none

def boundaryOf (stack : List Frame) : Option Bytes := stack.head?.bind Frame.boundary?

def kindOf (stack : List Frame) : Option Multipart := stack.head?.bind Frame.kind?

/-- Adds a part to the innermost multipart. The parts of an enclosed message are not kept, since
its bytes are. -/
def addPart (ended : Entity) : List Frame → List Frame
  | .multipart fields kind boundary parts :: stack =>
    .multipart fields kind boundary (ended :: parts) :: stack
  | stack => stack

theorem length_addPart (ended : Entity) (stack : List Frame) :
    (addPart ended stack).length = stack.length := by
  unfold addPart
  split <;> rfl

/-- The frame read to its end, where `rest` is left of the bytes. -/
def Frame.close (rest : Bytes) : Frame → Entity
  | .multipart fields kind _ parts => .multipart fields kind parts.reverse
  | .message fields start _ => .part fields .message true (start.take (start.length - rest.length))

/-- Closes all frames, the innermost first; the outermost is the result. `ended` is the part at
hand. -/
def closeAll (rest : Bytes) (ended : Option Entity) (stack : List Frame) : Option Entity :=
  stack.foldl (fun (inner : Option Entity) frame =>
    match inner with
    | some last => (addPart last [frame]).head?.map (Frame.close rest)
    | none => some (frame.close rest)) ended

inductive Next where
  | onward (rest : Bytes) (stack : List Frame)
  | over (result : Option Entity)
  deriving Repr

/-- Ends the enclosed messages, then the multiparts with two dashes after their boundary; after
each of those the next boundary of the frame around is looked for. `mark` is what was left of the
bytes where the last part ended. -/
def resume (after mark : Bytes) (stack : List Frame) : Next :=
  match stack with
  | [] => .over none
  | .message fields start boundary :: stack =>
    resume after mark (addPart ((Frame.message fields start boundary).close mark) stack)
  | .multipart fields kind boundary parts :: stack =>
    match after with
    | 45 :: 45 :: after =>
      let ended := (Frame.multipart fields kind boundary parts).close after
      match (boundaryOf stack).bind fun outer => splitAt? (delimiter outer) after with
      | none => .over (closeAll after (some ended) stack)
      | some (before, rest) =>
        resume rest (after.drop (beforeLastLineEnd before).length) (addPart ended stack)
    | _ => .onward (skipLineEnd after) (.multipart fields kind boundary parts :: stack)
termination_by stack.length
decreasing_by all_goals simp [length_addPart]

theorem length_of_resume {after mark rest : Bytes} {stack stack' : List Frame}
    (h : resume after mark stack = .onward rest stack') : rest.length ≤ after.length := by
  fun_induction resume after mark stack with
  | case1 => simp at h
  | case2 after mark fields start boundary stack ih => exact ih h
  | case3 => simp at h
  | case4 mark fields kind boundary parts stack after ended before rest' hb ih =>
    obtain ⟨outer, _, hs⟩ := Option.bind_eq_some_iff.1 hb
    have h1 := ih h
    have h2 := length_of_splitAt? hs
    simp only [List.length_cons]
    omega
  | case5 =>
    cases h
    exact length_skipLineEnd _

/-- A part that ends in front of a boundary, or with the data where there is none. What is not well
written stays as it is and counts as other text unless it is plain text. -/
def leaf (parent : Option Multipart) (bounded : Bool) (fields : Fields) (bs : Bytes) : Entity :=
  let form := formOf parent (mediaType? fields)
  match (transfer fields).decode? bounded bs with
  | some content => .part fields form true content
  | none =>
    .part fields (if form = .plain then .plain else .otherText) false
      (if bounded then dropLineEnd bs else bs)

def openLeaf (parent : Option Multipart) (fields : Fields) (bs : Bytes) : Entity :=
  let form := formOf parent (mediaType? fields)
  .part fields (if form = .plain then .plain else .otherText) false bs

/-- The boundary of a multipart type, if there is one and the body holds it: its kind, the
boundary and what follows the first place. -/
def opening? (fields : Fields) (body : Bytes) : Option (Multipart × Bytes × Bytes) := do
  let media ← mediaType? fields
  let kind ← multipart? media
  let boundary ← media.parameter? "boundary"
  let mark := Text.Utf8.encode boundary
  let (_, after) ← splitAt? (delimiter mark) body
  if mark.isEmpty then none else return (kind, mark, after)

theorem length_of_opening? {fields : Fields} {body mark after : Bytes} {kind : Multipart}
    (h : opening? fields body = some (kind, mark, after)) : after.length ≤ body.length := by
  simp only [opening?, Option.bind_eq_bind, Option.bind_eq_some_iff] at h
  obtain ⟨_, _, _, _, _, _, ⟨_, _⟩, hs, he⟩ := h
  split at he
  · simp at he
  · simp only [pure, Option.some.injEq, Prod.mk.injEq] at he
    obtain ⟨_, _, rfl⟩ := he
    exact length_of_splitAt? hs

/-- Reads the part whose header is next and all that follow it. -/
def readFrom (bytes : Bytes) (stack : List Frame) : Option Entity :=
  let header := Field.scan bytes
  match _ : header.2 with
  | none =>
    if stack.isEmpty && header.1.isEmpty then none
    else if stack.isEmpty then some (.multipart header.1 .mixed [])
    else closeAll [] none stack
  | some body =>
    match _ : opening? header.1 body with
    | some (kind, boundary, after) =>
      readFrom (skipLineEnd after) (.multipart header.1 kind boundary [] :: stack)
    | none =>
      let form := formOf (kindOf stack) (mediaType? header.1)
      if form = .message ∧ transfer header.1 = .plain then
        readFrom body (.message header.1 body (boundaryOf stack) :: stack)
      else
        match boundaryOf stack with
        | none => closeAll [] (some (leaf (kindOf stack) false header.1 body)) stack
        | some boundary =>
          match _ : splitAt? (delimiter boundary) body with
          | none => closeAll [] (some (openLeaf (kindOf stack) header.1 body)) stack
          | some (before, after) =>
            let ended := leaf (kindOf stack) true header.1 before
            match _ : resume after (body.drop (dropLineEnd before).length) (addPart ended stack) with
            | .onward rest stack => readFrom rest stack
            | .over result => result
termination_by bytes.length
decreasing_by
  · rename_i scanned opened
    have h1 := Field.scan_length scanned
    have h2 := length_of_opening? opened
    have h3 := length_skipLineEnd after
    omega
  · exact Field.scan_length ‹_›
  · rename_i scanned _ _ split resumed
    have h1 := Field.scan_length scanned
    have h2 := length_of_splitAt? split
    have h3 := length_of_resume resumed
    omega

/-- Reads a message; none if it has neither a field nor an empty line. -/
def read? (bytes : Bytes) : Option Entity := readFrom bytes []

def fields : Entity → Fields
  | .part fields _ _ _ => fields
  | .multipart fields _ _ => fields

end Entity

end MailRound.Mime
