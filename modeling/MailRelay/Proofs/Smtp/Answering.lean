import MailRelay.Proofs.Smtp.Dialogue
import MailRelay.Proofs.Smtp.Reply

set_option autoImplicit false

namespace MailRelay

def Peer.answering (replies : List Bytes) (ending : Halt ClientError) : Peer :=
  ⟨none, ⟨[] :: replies, ending⟩, .error ending, []⟩

theorem Reply.read_nil : Reply.read [] = .ok none :=
  Reply.readAfter_tail List.not_mem_nil

theorem ReplyLine.decode_ascii {raw : Bytes} (ascii : ∀ b ∈ raw, b.toNat < 128) :
    decode raw =
      .ok ((raw.map fun b => Char.ofNat b.toNat).reverse.dropWhile (· == '\r')).reverse := by
  rw [decode, Utf8.decode_ascii ascii]

theorem Reply.read_line {raw : Bytes} {text : List Char} {line : ReplyLine} (single : 10 ∉ raw)
    (decoded : ReplyLine.decode raw = .ok text) (understood : ReplyLine.read text = .ok line)
    (last : line.isLast = true) :
    Reply.read (raw ++ [10]) = .ok (some (⟨line.code, [line.text]⟩, raw.length + 1)) := by
  have filled : text.isEmpty = false := by
    cases text with
    | nil => cases understood
    | cons => rfl
  have effect : Reply.lineEffect none raw = .completes line := by
    simp [Reply.lineEffect, decoded, filled, understood, Reply.checkCode, last]
  rw [Reply.read, Reply.readAfter_line single, effect]
  simp

-- A stretch of bytes that is one whole reply and fits the buffer.
structure Reply.Spelled (r : Reply) (bytes : Bytes) : Prop where
  short : bytes.length ≤ Inbox.firstCapacity
  whole : Reply.read bytes = .ok (some (r, bytes.length))

theorem Reply.spelled_of_ascii (raw : Bytes) {line : ReplyLine}
    (short : raw.length < Inbox.firstCapacity) (ascii : ∀ b ∈ raw, b.toNat < 128)
    (single : 10 ∉ raw)
    (understood : ReplyLine.read
      ((raw.map fun b => Char.ofNat b.toNat).reverse.dropWhile (· == '\r')).reverse = .ok line)
    (last : line.isLast = true) : Spelled ⟨line.code, [line.text]⟩ (raw ++ [10]) := by
  have whole := read_line single (ReplyLine.decode_ascii ascii) understood last
  constructor
  · rw [List.length_append]
    exact short
  · rw [List.length_append, List.length_singleton]
    simpa only [List.append_nil] using whole

namespace Inbox

variable {i j : Inbox} {wire rest : Wire} {bytes : Bytes} {r : Reply} {size : Nat}

theorem readReply_whole (whole : Reply.read i.bytes = .ok (some (r, size))) :
    i.readReply wire = (.ok r, i.drop size, wire) := by
  rw [readReply]
  simp only [whole]

theorem readReply_more (part : Reply.read i.bytes = .ok none)
    {room : j.bytes.length < j.capacity} (roomy : i.withRoom? = some ⟨j, room⟩)
    (arrived : wire.take? (j.capacity - j.bytes.length) = some (bytes, rest)) :
    i.readReply wire = (j.add bytes (Wire.take?_length arrived)).readReply rest := by
  rw [readReply]
  simp only [part, roomy]
  split
  case h_1 ended => simp [ended] at arrived
  case h_2 other later same =>
    obtain ⟨rfl, rfl⟩ : other = bytes ∧ later = rest := by simpa [same] using arrived
    rfl

theorem readReply_ended (part : Reply.read i.bytes = .ok none)
    {room : j.bytes.length < j.capacity} (roomy : i.withRoom? = some ⟨j, room⟩)
    (ended : wire.take? (j.capacity - j.bytes.length) = none) :
    i.readReply wire = (.error wire.ending, j, wire) := by
  rw [readReply]
  simp only [part, roomy]
  split
  · rfl
  · simp_all

theorem withRoom?_empty : empty.withRoom? = some ⟨empty, by decide⟩ := by
  rfl

end Inbox

namespace Reply.Spelled

variable {r : Reply} {bytes : Bytes} (spelled : r.Spelled bytes)

include spelled

theorem take (rest : List Bytes) (ending : Halt ClientError) :
    Wire.take? Inbox.firstCapacity ⟨[] :: bytes :: rest, ending⟩ =
      some (bytes, ⟨[] :: rest, ending⟩) := by
  have short := spelled.short
  cases bytes with
  | nil => simpa [Reply.read_nil] using spelled.whole
  | cons b more =>
    simp only [Wire.take?, Wire.takeFrom, Option.map_some]
    rw [List.take_of_length_le short, List.drop_of_length_le short]

theorem readReply (rest : List Bytes) (ending : Halt ClientError) :
    Inbox.empty.readReply ⟨[] :: bytes :: rest, ending⟩ =
      (.ok r, .empty, ⟨[] :: rest, ending⟩) := by
  have arrived := spelled.take rest ending
  have whole : Reply.read (Inbox.empty.add bytes (Wire.take?_length arrived)).bytes =
      .ok (some (r, bytes.length)) := by
    simpa [Inbox.add, Inbox.empty] using spelled.whole
  rw [Inbox.readReply_more Reply.read_nil Inbox.withRoom?_empty arrived,
    Inbox.readReply_whole whole]
  simp [Inbox.drop, Inbox.add, Inbox.empty]

end Reply.Spelled

def Client.Awaits (c : Client) (replies : List Bytes) (ending : Halt ClientError) : Prop :=
  c.inbox = .empty ∧ ∃ handshake encrypted,
    c.connection = some ⟨⟨[] :: replies, ending⟩, handshake, [], encrypted⟩

namespace Dialogue

variable {ε δ α β : Type}

def Yields (d : Dialogue ε α) (replies : List Bytes) (a : α) : Prop :=
  ∀ (c : Client) (rest : List Bytes) (ending : Halt ClientError),
    c.Awaits (replies ++ rest) ending →
      ∃ after, play d c = (.ok a, after) ∧ after.Awaits rest ending

namespace Yields

variable {d : Dialogue ε α} {replies later : List Bytes} {a : α} {b : β}

theorem pure (a : α) : Yields (Pure.pure a : Dialogue ε α) [] a :=
  fun c _ _ awaits => ⟨c, rfl, awaits⟩

theorem bind {f : α → Dialogue ε β} (first : Yields d replies a) (next : Yields (f a) later b) :
    Yields (d >>= f) (replies ++ later) b := by
  intro c rest ending awaits
  rw [List.append_assoc] at awaits
  obtain ⟨middle, played, awaits⟩ := first c (later ++ rest) ending awaits
  obtain ⟨after, playedOn, awaits⟩ := next middle rest ending awaits
  exact ⟨after, by rw [play_bind, played]; exact playedOn, awaits⟩

theorem quiet_bind {f : α → Dialogue ε β} (first : Yields d [] a) (next : Yields (f a) later b) :
    Yields (d >>= f) later b :=
  bind first next

theorem adapt {f : Halt ε → Halt δ} (yields : Yields d replies a) :
    Yields (ExceptT.adapt f d : Dialogue δ α) replies a := by
  intro c rest ending awaits
  obtain ⟨after, played, awaits⟩ := yields c rest ending awaits
  exact ⟨after, by rw [play_adapt, played]; rfl, awaits⟩

theorem receive {r : Reply} {bytes : Bytes} (spelled : r.Spelled bytes) :
    Yields Dialogue.receive [bytes] r := by
  intro c rest ending awaits
  obtain ⟨clear, handshake, encrypted, connected⟩ := awaits
  have read := spelled.readReply rest ending
  refine ⟨_, by simp [Dialogue.receive, clear, connected, read, Except.map]; rfl, ?_⟩
  exact ⟨rfl, handshake, encrypted, rfl⟩

theorem send (event : DialogueEvent) : Yields (Dialogue.send event) [] () := by
  intro c rest ending awaits
  obtain ⟨clear, handshake, encrypted, connected⟩ := awaits
  refine ⟨_, by simp [Dialogue.send, connected]; rfl, ?_⟩
  exact ⟨clear, handshake, encrypted, by simp⟩

theorem command (line : String) {r : Reply} {bytes : Bytes} (spelled : r.Spelled bytes) :
    Yields (Dialogue.command line) [bytes] r :=
  bind (send _) (receive spelled)

theorem payload (content : String) {r : Reply} {bytes : Bytes} (spelled : r.Spelled bytes) :
    Yields (Dialogue.payload content) [bytes] r :=
  bind (send _) (receive spelled)

end Yields

/-- From the first connection on, `d` returns `a` and leaves `rest` to come. -/
def Opens (d : Dialogue ε α) (servers : List Peer) (a : α) (rest : List Bytes)
    (ending : Halt ClientError) : Prop :=
  ∃ after, play d (.facing servers) = (.ok a, after) ∧ after.Awaits rest ending

namespace Opens

variable {d : Dialogue ε α} {servers : List Peer} {a : α} {b : β} {replies rest : List Bytes}
  {ending : Halt ClientError}

theorem connect (address : String) (replies : List Bytes) (ending : Halt ClientError) :
    Opens (Dialogue.connect address) [.answering replies ending] () replies ending := by
  refine ⟨_, by simp [Dialogue.connect, Client.facing, Peer.answering]; rfl, ?_⟩
  exact ⟨rfl, _, _, rfl⟩

theorem bind {f : α → Dialogue ε β} (first : Opens d servers a (replies ++ rest) ending)
    (next : Yields (f a) replies b) : Opens (d >>= f) servers b rest ending := by
  obtain ⟨middle, played, awaits⟩ := first
  obtain ⟨after, playedOn, awaits⟩ := next middle rest ending awaits
  exact ⟨after, by rw [play_bind, played]; exact playedOn, awaits⟩

theorem bind_one {f : α → Dialogue ε β} {bytes : Bytes}
    (first : Opens d servers a (bytes :: rest) ending) (next : Yields (f a) [bytes] b) :
    Opens (d >>= f) servers b rest ending :=
  bind first next

theorem adapt {f : Halt ε → Halt δ} (opens : Opens d servers a rest ending) :
    Opens (ExceptT.adapt f d : Dialogue δ α) servers a rest ending := by
  obtain ⟨after, played, awaits⟩ := opens
  exact ⟨after, by rw [play_adapt, played]; rfl, awaits⟩

end Opens

theorem play_command_of_ending (line : String) {c : Client} {ending : Halt ClientError}
    (awaits : c.Awaits [] ending) : (play (command line) c).1 = .error ending := by
  obtain ⟨clear, handshake, encrypted, connected⟩ := awaits
  have ended : Inbox.empty.readReply ⟨[[]], ending⟩ = (.error ending, .empty, ⟨[[]], ending⟩) :=
    Inbox.readReply_ended Reply.read_nil Inbox.withRoom?_empty rfl
  simp [command, send, receive, connected, clear, ended]

end Dialogue

end MailRelay
