import MailRelay.Proofs.Smtp.Dialogue
import MailRelay.Proofs.Smtp.Reply
import Mathlib.Algebra.GroupWithZero.Nat

set_option autoImplicit false

namespace MailRelay

namespace Reply

def isOpen (bytes : Bytes) : Bool :=
  match read bytes with
  | .ok none => true
  | _ => false

theorem isOpen_iff (bytes : Bytes) : isOpen bytes = true ↔ read bytes = .ok none := by
  unfold isOpen
  split
  · next unfinished => simp [unfinished]
  · next other => simpa using other

theorem read_of_prefix {bytes stream : Bytes} (settled : isOpen bytes = false)
    (front : bytes <+: stream) : read stream = read bytes := by
  obtain ⟨more, rfl⟩ := front
  refine (read_append bytes).resolve_left (fun unfinished => ?_) more
  rw [(isOpen_iff bytes).2 unfinished] at settled
  cases settled

/-- The next reply of a stream and what follows it. A reply that goes beyond the limit is none, and
after the last one comes the end of the connection. -/
def next (ending : Halt ClientError) (stream : Bytes) : Except (Halt ClientError) Reply × Bytes :=
  if Inbox.maxCapacity ≤ stream.length ∧ isOpen (stream.take Inbox.maxCapacity) then
    (.error (.failed (.ofReplyError (.tooLarge Inbox.maxCapacity))), stream)
  else
    match read stream with
    | .ok (some (r, size)) => (.ok r, stream.drop size)
    | .ok none => (.error ending, stream)
    | .error e => (.error (.failed (.ofReplyError e)), stream)

def nexts (ending : Halt ClientError) : Nat → Bytes → List (Except (Halt ClientError) Reply) × Bytes
  | 0, stream => ([], stream)
  | n + 1, stream =>
    let (found, rest) := next ending stream
    let (later, rest) := nexts ending n rest
    (found :: later, rest)

variable {ending : Halt ClientError} {bytes stream : Bytes}

theorem next_of_settled (settled : isOpen bytes = false) (front : bytes <+: stream)
    (short : bytes.length ≤ Inbox.maxCapacity) :
    next ending stream =
      match read bytes with
      | .ok (some (r, size)) => (.ok r, stream.drop size)
      | .ok none => (.error ending, stream)
      | .error e => (.error (.failed (.ofReplyError e)), stream) := by
  have within : isOpen (stream.take Inbox.maxCapacity) = false := by
    have beginning : bytes <+: stream.take Inbox.maxCapacity :=
      List.prefix_take_iff.2 ⟨front, short⟩
    rw [← settled, isOpen, isOpen, read_of_prefix settled beginning]
  rw [next, if_neg (by simp [within]), read_of_prefix settled front]

end Reply

namespace Wire

theorem takeFrom_none {room : Nat} {ss : List Bytes} (ended : takeFrom room ss = none) :
    ss.flatten = [] := by
  induction ss with
  | nil => rfl
  | cons s more ih =>
    cases s with
    | nil => exact ih ended
    | cons b s => cases ended

theorem flatten_of_take?_none {room : Nat} {wire : Wire} (ended : wire.take? room = none) :
    wire.stretches.flatten = [] :=
  takeFrom_none (Option.map_eq_none_iff.1 ended)

theorem flatten_of_take? {room : Nat} {wire rest : Wire} {bytes : Bytes}
    (arrived : wire.take? room = some (bytes, rest)) :
    bytes ++ rest.stretches.flatten = wire.stretches.flatten ∧ rest.ending = wire.ending := by
  obtain ⟨⟨bytes', ss⟩, taken, same⟩ := Option.map_eq_some_iff.1 arrived
  cases same
  exact ⟨takeFrom_flatten taken, rfl⟩

end Wire

namespace Inbox

-- The capacity has grown from the first one by doubling, and the limit can be reached so.
def Grown (i : Inbox) : Prop :=
  ∃ doublings, i.capacity * 2 ^ doublings = maxCapacity

theorem grown_empty : empty.Grown := ⟨8, rfl⟩

variable {i j : Inbox}

theorem Grown.capacity_le (grown : i.Grown) : i.capacity ≤ maxCapacity := by
  obtain ⟨doublings, whole⟩ := grown
  rw [← whole]
  exact Nat.le_mul_of_pos_right _ (Nat.two_pow_pos doublings)

theorem Grown.withRoom? {room : j.bytes.length < j.capacity} (grown : i.Grown)
    (roomy : i.withRoom? = some ⟨j, room⟩) : j.bytes = i.bytes ∧ j.Grown := by
  unfold Inbox.withRoom? at roomy
  split at roomy
  · cases roomy
    exact ⟨rfl, grown⟩
  split at roomy
  · cases roomy
  next within =>
  cases roomy
  refine ⟨rfl, ?_⟩
  obtain ⟨_ | doublings, whole⟩ := grown
  · have positive := i.positive
    omega
  · exact ⟨doublings, by rw [← whole, Nat.pow_succ', Nat.mul_assoc]⟩

theorem Grown.full (grown : i.Grown) (stuck : i.withRoom? = none) :
    i.bytes.length = maxCapacity := by
  unfold Inbox.withRoom? at stuck
  split at stuck
  · cases stuck
  next full =>
  split at stuck
  · next beyond =>
    have fits := i.fits
    obtain ⟨_ | doublings, whole⟩ := grown
    · omega
    · have more : i.capacity * 2 ≤ maxCapacity := by
        rw [← whole, Nat.pow_succ', ← Nat.mul_assoc]
        exact Nat.le_mul_of_pos_right _ (Nat.two_pow_pos doublings)
      omega
  · cases stuck

def unread (i : Inbox) (wire : Wire) : Bytes :=
  i.bytes ++ wire.stretches.flatten

theorem prefix_unread (i : Inbox) (wire : Wire) : i.bytes <+: i.unread wire :=
  List.prefix_append ..

theorem readReply_next (i : Inbox) (wire : Wire) (grown : i.Grown) :
    ((i.readReply wire).1, unread (i.readReply wire).2.1 (i.readReply wire).2.2) =
      Reply.next wire.ending (unread i wire) ∧
    (i.readReply wire).2.1.Grown ∧ (i.readReply wire).2.2.ending = wire.ending := by
  fun_induction readReply i wire with
  | case1 i wire e refused =>
    have settled : Reply.isOpen i.bytes = false := by simp [Reply.isOpen, refused]
    have short := Nat.le_trans i.fits grown.capacity_le
    rw [Reply.next_of_settled settled (prefix_unread i wire) short, refused]
    exact ⟨rfl, grown, rfl⟩
  | case2 i wire reply size found =>
    have settled : Reply.isOpen i.bytes = false := by simp [Reply.isOpen, found]
    have short := Nat.le_trans i.fits grown.capacity_le
    rw [Reply.next_of_settled settled (prefix_unread i wire) short, found]
    refine ⟨?_, grown, rfl⟩
    simp [unread, drop, List.drop_append_of_le_length (Reply.size_of_read found)]
  | case3 i wire unfinished stuck =>
    -- The buffer holds as much of the stream as may belong to one reply.
    have full := grown.full stuck
    have limit : (unread i wire).take maxCapacity = i.bytes := by
      rw [unread, ← full, List.take_left]
    have long : maxCapacity ≤ (unread i wire).length := by
      rw [unread, List.length_append, full]
      exact Nat.le_add_right ..
    rw [Reply.next, limit, if_pos ⟨long, (Reply.isOpen_iff _).2 unfinished⟩]
    exact ⟨rfl, grown, rfl⟩
  | case4 i wire unfinished j room roomy ended =>
    -- Nothing more comes, and there is still room: the stream is shorter than the limit.
    obtain ⟨same, grown⟩ := grown.withRoom? roomy
    have all : unread i wire = i.bytes := by
      rw [unread, Wire.flatten_of_take?_none ended, List.append_nil]
    have short : ¬ maxCapacity ≤ i.bytes.length := by
      have within := grown.capacity_le
      rw [← same]
      omega
    rw [Reply.next, all, if_neg (by simp [short]), unfinished]
    refine ⟨?_, grown, rfl⟩
    rw [← all, unread, unread, same]
  | case5 i wire unfinished j room roomy bytes rest arrived ih =>
    obtain ⟨same, grown⟩ := grown.withRoom? roomy
    obtain ⟨whole, ending⟩ := Wire.flatten_of_take? arrived
    have all : unread (j.add bytes (Wire.take?_length arrived)) rest = unread i wire := by
      simp [unread, add, same, whole]
    rw [all, ending] at ih
    exact ih grown

end Inbox

namespace Dialogue

def receipts : Nat → Client → List (Except (Halt ClientError) Reply) × Client
  | 0, c => ([], c)
  | n + 1, c =>
    let (result, c) := play receive c
    let (later, c) := receipts n c
    (result :: later, c)

variable {c : Client} {connection : Connection}

theorem play_receive (connected : c.connection = some connection) :
    (play receive c).1 = (c.inbox.readReply connection.wire).1 ∧
    (play receive c).2.inbox = (c.inbox.readReply connection.wire).2.1 ∧
    (play receive c).2.connection =
      some { connection with wire := (c.inbox.readReply connection.wire).2.2 } := by
  simp only [receive, play_bind, play_get, play_set, connected, Option.elim_some]
  generalize c.inbox.readReply connection.wire = found
  obtain ⟨outcome, inbox, wire⟩ := found
  cases outcome <;> simp [Except.map]

def unread (c : Client) : Bytes :=
  c.inbox.unread (c.connection.elim .closed (·.wire))

theorem receipts_eq (n : Nat) (connected : c.connection = some connection)
    (grown : c.inbox.Grown) :
    ((receipts n c).1, unread (receipts n c).2) =
      Reply.nexts connection.wire.ending n (unread c) := by
  induction n generalizing c connection with
  | zero => rfl
  | succ n ih =>
    obtain ⟨result, inbox, later⟩ := play_receive connected
    obtain ⟨next, kept, ending⟩ := c.inbox.readReply_next connection.wire grown
    rw [← inbox] at kept
    have before : c.inbox.unread connection.wire = unread c := by simp [unread, connected]
    have after : unread (play receive c).2 =
        (c.inbox.readReply connection.wire).2.1.unread (c.inbox.readReply connection.wire).2.2 := by
      simp [unread, inbox, later]
    rw [← result, ← after, before] at next
    have rest := ih later kept
    simp only [ending] at rest
    rw [receipts, Reply.nexts, ← next]
    dsimp only
    rw [← rest]

/-- However the network cuts what a server sends, the calls of a client find the replies that the
whole of it holds, and nothing is lost or found twice; and a reply that has been found does not
change with what comes after it. -/
theorem replies_are_those_of_the_whole_stream (c : Client) (connection : Connection) (n : Nat) :
    ((receipts n { c with inbox := .empty, connection := some connection }).1,
      unread (receipts n { c with inbox := .empty, connection := some connection }).2) =
      Reply.nexts connection.wire.ending n connection.wire.stretches.flatten ∧
    ∀ bytes, Reply.read bytes = .ok none ∨
      ∀ more, Reply.read (bytes ++ more) = Reply.read bytes :=
  ⟨receipts_eq n rfl Inbox.grown_empty, Reply.read_append⟩

end Dialogue

end MailRelay
