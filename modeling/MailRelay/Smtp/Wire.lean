import MailRelay.Smtp.Reply

set_option autoImplicit false

namespace MailRelay

inductive ClientError where
  | io (reason : String)
  | badReply (reason : String)
  | tls (reason : String)
  | closed
  | notText (e : Utf8.Malformed)
  deriving DecidableEq, Repr

namespace ClientError

def message : ClientError → String
  | io reason => "IO error: " ++ reason
  | badReply reason => "Failed to parse SMTP response: " ++ reason
  | tls reason => "TLS error: " ++ reason
  | closed => "Connection closed unexpectedly"
  | notText e => "UTF-8 error: " ++ e.message

def ofReplyError : ReplyError → ClientError
  | .notText e => notText e
  | e => badReply e.message

end ClientError

inductive Halt (ε : Type) where
  | failed (e : ε)
  | silent
  deriving DecidableEq, Repr

/-- What a connection brings: stretches of bytes, and what a read finds after the last one. -/
structure Wire where
  stretches : List Bytes
  ending : Halt ClientError
  deriving DecidableEq

namespace Wire

def closed : Wire := ⟨[], .failed .closed⟩

-- Up to `room` bytes of the first stretch that holds any, and the stretches that remain.
def takeFrom (room : Nat) : List Bytes → Option (Bytes × List Bytes)
  | [] => none
  | [] :: rest => takeFrom room rest
  | (b :: more) :: rest => some ((b :: more).take room, (b :: more).drop room :: rest)

theorem takeFrom_flatten {room : Nat} {ss rest : List Bytes} {bytes : Bytes}
    (h : takeFrom room ss = some (bytes, rest)) : bytes ++ rest.flatten = ss.flatten := by
  induction ss with
  | nil => simp [takeFrom] at h
  | cons s more ih =>
    cases s with
    | nil => simpa using ih h
    | cons b s =>
      simp only [takeFrom, Option.some.injEq, Prod.mk.injEq] at h
      obtain ⟨rfl, rfl⟩ := h
      simp [← List.append_assoc, List.take_append_drop]

theorem takeFrom_length {room : Nat} {ss rest : List Bytes} {bytes : Bytes}
    (h : takeFrom room ss = some (bytes, rest)) :
    bytes.length ≤ room ∧ (0 < room → 0 < bytes.length) := by
  induction ss with
  | nil => simp [takeFrom] at h
  | cons s more ih =>
    cases s with
    | nil => exact ih h
    | cons b s =>
      simp only [takeFrom, Option.some.injEq, Prod.mk.injEq] at h
      obtain ⟨rfl, -⟩ := h
      simp only [List.length_take, List.length_cons]
      omega

def size (w : Wire) : Nat :=
  w.stretches.flatten.length

def take? (room : Nat) (w : Wire) : Option (Bytes × Wire) :=
  (takeFrom room w.stretches).map fun (bytes, rest) => (bytes, { w with stretches := rest })

theorem take?_length {room : Nat} {w rest : Wire} {bytes : Bytes}
    (h : w.take? room = some (bytes, rest)) : bytes.length ≤ room := by
  obtain ⟨⟨bytes', ss⟩, taken, same⟩ := Option.map_eq_some_iff.1 h
  cases same
  exact (takeFrom_length taken).1

theorem size_lt_of_take? {room : Nat} {w rest : Wire} {bytes : Bytes} (positive : 0 < room)
    (h : w.take? room = some (bytes, rest)) : rest.size < w.size := by
  obtain ⟨⟨bytes', ss⟩, taken, same⟩ := Option.map_eq_some_iff.1 h
  cases same
  have whole := congrArg List.length (takeFrom_flatten taken)
  have some_bytes := (takeFrom_length taken).2 positive
  simp only [List.length_append] at whole
  simp only [size]
  omega

end Wire

/-- Bytes that have arrived and belong to no reply yet, in a buffer of limited capacity. -/
structure Inbox where
  bytes : Bytes
  capacity : Nat
  fits : bytes.length ≤ capacity
  positive : 0 < capacity
  deriving DecidableEq

namespace Inbox

def firstCapacity : Nat := 4096
def maxCapacity : Nat := 1048576

def empty : Inbox := ⟨[], firstCapacity, by simp, by decide⟩

def clear (i : Inbox) : Inbox :=
  { i with bytes := [], fits := by simp }

def drop (i : Inbox) (size : Nat) : Inbox :=
  { i with
    bytes := i.bytes.drop size
    fits := by have := i.fits; simp only [List.length_drop]; omega }

def withRoom? (i : Inbox) : Option { j : Inbox // j.bytes.length < j.capacity } :=
  if h : i.bytes.length < i.capacity then some ⟨i, h⟩
  else if maxCapacity < i.capacity * 2 then none
  else
    some ⟨{ i with
      capacity := i.capacity * 2
      fits := by have := i.fits; omega
      positive := by have := i.positive; omega },
      by have := i.fits; have := i.positive; simp only; omega⟩

def add (i : Inbox) (bytes : Bytes) (fits : bytes.length ≤ i.capacity - i.bytes.length) : Inbox :=
  { i with
    bytes := i.bytes ++ bytes
    fits := by have := i.fits; simp only [List.length_append]; omega }

def readReply (i : Inbox) (wire : Wire) : Except (Halt ClientError) Reply × Inbox × Wire :=
  match Reply.read i.bytes with
  | .error e => (.error (.failed (.ofReplyError e)), i, wire)
  | .ok (some (reply, size)) => (.ok reply, i.drop size, wire)
  | .ok none =>
    match i.withRoom? with
    | none => (.error (.failed (.ofReplyError (.tooLarge maxCapacity))), i, wire)
    | some ⟨j, _room⟩ =>
      match h : wire.take? (j.capacity - j.bytes.length) with
      | none => (.error wire.ending, j, wire)
      | some (bytes, rest) => readReply (j.add bytes (Wire.take?_length h)) rest
  termination_by wire.size
  decreasing_by exact Wire.size_lt_of_take? (by omega) h

end Inbox

end MailRelay
