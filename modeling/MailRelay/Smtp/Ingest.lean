import MailRelay.Message.Basic
import MailRelay.Mime.Part

set_option autoImplicit false

namespace MailRelay

variable [ForeignDecoders]

namespace Ingest

def regeneratedNames : List String :=
  ["from", "to", "cc", "bcc", "subject", "date", "mime-version", "content-type",
    "content-transfer-encoding"]

def isRegenerated (name : String) : Bool :=
  regeneratedNames.any (Text.sameLetters name)

-- A field that cannot be read holds none.
def listedAddresses (header : Header) (name : String) : List String :=
  match (header.find? name).bind fun f => AddressList.ofTokens? f.tokens with
  | some items => (AddressList.addresses items).map String.ofList
  | none => []

def isListed (addresses : List String) (recipient : String) : Bool :=
  addresses.any (Text.sameLetters recipient)

structure Envelope where
  addressees : List String
  cc : List String
  bcc : List String
  deriving DecidableEq, Repr

/-- Files the recipients. Delivery is routed by the first addressee, so that the copies, or else
the blind copies, take the place of missing addressees. -/
def file (header : Header) (recipients : List String) : Envelope :=
  let listed := listedAddresses header "Cc"
  let blind := listedAddresses header "Bcc"
  let cc := recipients.filter (isListed listed)
  let others := recipients.filter fun r => !isListed listed r
  let bcc := others.filter (isListed blind)
  let direct := others.filter fun r => !isListed blind r
  if !direct.isEmpty then ⟨direct, cc, bcc⟩
  else if !cc.isEmpty then ⟨cc, [], bcc⟩
  else ⟨bcc, [], []⟩

def keepField (kept : Headers) (f : HeaderField) : Headers :=
  let name := f.nameText
  if isRegenerated name || kept.keys.any (Text.sameLetters name) then kept
  else kept.insert name f.value

def customFields (header : Header) : Headers :=
  header.foldl keepField .empty

structure Content where
  body : String
  html : Option String
  attachments : List Attachment
  deriving DecidableEq

/-- A part with a file name is an attachment; of the others, the first text that is not empty is the
body and the first HTML text is the HTML part. -/
def Content.add (c : Content) (l : Leaf) : Except MailError Content :=
  match l.filename with
  | some filename => do
    let attachment : Attachment := ⟨filename, l.mediaType, ← l.data⟩
    return { c with attachments := c.attachments ++ [attachment] }
  | none =>
    if l.mediaType == "text/html" && c.html.isNone then do return { c with html := some (← l.text) }
    else if l.mediaType == "text/plain" && c.body.isEmpty then do return { c with body := ← l.text }
    else .ok c

mutual

def collect (c : Content) : Part → Except MailError Content
  | .leaf l => c.add l
  | .divided parts => collectAll c parts

def collectAll (c : Content) : List Part → Except MailError Content
  | [] => .ok c
  | part :: rest => do collectAll (← collect c part) rest

end

end Ingest

def Message.ofMail (id sender : String) (recipients : List String) (raw : Bytes) (now : Instant) :
    Except MailError Message := do
  let (header, part) ← Part.read false raw
  let envelope := Ingest.file header recipients
  let content ← Ingest.collect ⟨"", none, []⟩ part
  let subject := (header.value? "Subject").getD ""
  return { Message.new id sender envelope.addressees subject now with
    cc := envelope.cc
    bcc := envelope.bcc
    headers := Ingest.customFields header
    body := content.body
    html := content.html
    attachments := content.attachments }

end MailRelay
