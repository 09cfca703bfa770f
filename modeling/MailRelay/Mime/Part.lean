import MailRelay.Mime.FieldText
import MailRelay.Mime.Parameters

set_option autoImplicit false

namespace MailRelay

inductive MailError where
  | leadingBlank
  | loneReturn
  | badBase64
  deriving DecidableEq, Repr

structure HeaderField where
  name : Bytes
  content : Bytes
  deriving DecidableEq

namespace HeaderField

-- Names are shown byte by byte.
def nameText (f : HeaderField) : String :=
  String.ofList (latin1 f.name)

-- What is no UTF-8 is read byte by byte.
def text (f : HeaderField) : List Char :=
  match Utf8.decode f.content with
  | .ok s => s
  | .error _ => latin1 f.content

def value [ForeignDecoders] (f : HeaderField) : String :=
  FieldText.value f.text

def tokens [ForeignDecoders] (f : HeaderField) : List FieldToken :=
  FieldText.tokens f.text

def isFolded : Bytes → Bool
  | b :: _ => b == 32 || b == 9
  | [] => false

-- A line that begins with a blank or a tab goes on.
def spanContent (read : Bytes) : Bytes → Bytes × Bytes
  | [] => (read.reverse, [])
  | b :: rest =>
    if b == 10 && !isFolded rest then (read.reverse, rest) else spanContent (b :: read) rest

theorem spanContent_length (read bytes : Bytes) :
    (spanContent read bytes).2.length ≤ bytes.length := by
  induction bytes generalizing read with
  | nil => simp [spanContent]
  | cons b rest ih =>
    simp only [spanContent]
    split
    · simp
    · exact Nat.le_succ_of_le (ih _)

def withoutReturns (content : Bytes) : Bytes :=
  (content.reverse.dropWhile (· == 13)).reverse

-- Reads a field. A line without a colon is the name of a field that holds nothing.
def read (bytes : Bytes) : HeaderField × Bytes :=
  let name := bytes.takeWhile fun b => b != 58 && b != 10
  match bytes.dropWhile fun b => b != 58 && b != 10 with
  | 58 :: rest =>
    let (content, rest) := spanContent [] (rest.dropWhile (· == 32))
    (⟨name, withoutReturns content⟩, rest)
  | rest => (⟨name, []⟩, rest.drop 1)

theorem read_length (b : UInt8) (bytes : Bytes) :
    (read (b :: bytes)).2.length ≤ bytes.length := by
  have short := (List.dropWhile_sublist (fun b => b != 58 && b != 10) (l := b :: bytes)).length_le
  simp only [read]
  split
  · next rest eq =>
    rw [eq] at short
    have inner := (List.dropWhile_sublist (· == 32) (l := rest)).length_le
    have whole := spanContent_length [] (rest.dropWhile (· == 32))
    simp only [List.length_cons] at short
    show (spanContent [] (rest.dropWhile (· == 32))).2.length ≤ bytes.length
    omega
  · simp only [List.length_drop, List.length_cons] at short ⊢
    omega

end HeaderField

abbrev Header := List HeaderField

namespace Header

def find? (header : Header) (name : String) : Option HeaderField :=
  List.find? (fun f => Text.sameLetters f.nameText name) header

def value? [ForeignDecoders] (header : Header) (name : String) : Option String :=
  (header.find? name).map HeaderField.value

-- The fields `before` have the last one first.
def readAfter (before : Header) (bytes : Bytes) : Except MailError (Header × Bytes) :=
  match bytes with
  | [] => .ok (before.reverse, [])
  | 10 :: rest => .ok (before.reverse, rest)
  | 13 :: 10 :: rest => .ok (before.reverse, rest)
  | 13 :: _ => .error .loneReturn
  | 32 :: _ => .error .leadingBlank
  | b :: rest =>
    let next := HeaderField.read (b :: rest)
    readAfter (next.1 :: before) next.2
  termination_by bytes.length
  decreasing_by exact Nat.lt_succ_of_le (HeaderField.read_length b rest)

def read (bytes : Bytes) : Except MailError (Header × Bytes) :=
  readAfter [] bytes

end Header

structure MediaType where
  name : String
  parameters : Parameters

namespace MediaType

def ofText [ForeignDecoders] (value : String) : MediaType :=
  let parameters := Parameters.read value
  ⟨Text.lowercase parameters.main, parameters⟩

/-- The type of a part that gives none: mail in a digest, otherwise text. -/
def assumed [ForeignDecoders] (inDigest : Bool) : MediaType :=
  ofText (if inDigest then "message/rfc822" else "text/plain")

def ofHeader [ForeignDecoders] (header : Header) (inDigest : Bool) : MediaType :=
  match header.value? "Content-Type" with
  | some value => ofText value
  | none => assumed inDigest

def charset (t : MediaType) : String :=
  (t.parameters.get? "charset").getD "us-ascii"

def boundary? (t : MediaType) : Option String :=
  if "multipart/".toList.isPrefixOf t.name.toList then t.parameters.get? "boundary" else none

end MediaType

structure Leaf where
  mediaType : String
  charset : String
  filename : Option String
  encoding : TransferEncoding
  content : Bytes
  deriving DecidableEq

namespace Leaf

def ofHeader [ForeignDecoders] (header : Header) (mediaType : MediaType) (content : Bytes) :
    Leaf where
  mediaType := mediaType.name
  charset := mediaType.charset
  filename :=
    (header.value? "Content-Disposition").bind fun value => (Parameters.read value).get? "filename"
  encoding := .ofName ((header.value? "Content-Transfer-Encoding").getD "")
  content := content

def data (l : Leaf) : Except MailError Bytes :=
  match l.encoding.decode? l.content with
  | some bytes => .ok bytes
  | none => .error .badBase64

def text [ForeignDecoders] (l : Leaf) : Except MailError String :=
  l.data.map fun bytes => String.ofList (Charset.decodeLabelled l.charset bytes)

end Leaf

inductive Part where
  | leaf (l : Leaf)
  | divided (parts : List Part)

namespace Part

-- The bytes `before` have the last one first.
def seek? (key : Bytes) (atStart : Bool) (before : Bytes) : Bytes → Option (Bytes × Bytes)
  | [] => none
  | b :: rest =>
    if atStart && key.isPrefixOf (b :: rest) then some (before.reverse, (b :: rest).drop key.length)
    else seek? key (b == 10) (b :: before) rest

theorem seek?_length {key before bytes left right : Bytes} {atStart : Bool}
    (h : seek? key atStart before bytes = some (left, right)) :
    left.length ≤ before.length + bytes.length ∧ right.length ≤ bytes.length := by
  induction bytes generalizing atStart before with
  | nil => simp [seek?] at h
  | cons b rest ih =>
    simp only [seek?] at h
    split at h
    · simp only [Option.some.injEq, Prod.mk.injEq] at h
      obtain ⟨rfl, rfl⟩ := h
      simp only [List.length_reverse, List.length_drop, List.length_cons]
      omega
    · have := ih h
      simp only [List.length_cons] at this ⊢
      omega

-- Drops the line end before a boundary, which belongs to the boundary.
def withoutLineEnd (bytes : Bytes) : Bytes :=
  match bytes.reverse with
  | 10 :: 13 :: rest => rest.reverse
  | 10 :: rest => rest.reverse
  | _ => bytes

theorem withoutLineEnd_length (bytes : Bytes) : (withoutLineEnd bytes).length ≤ bytes.length := by
  have same : bytes.length = bytes.reverse.length := by simp
  unfold withoutLineEnd
  split
  · next eq => rw [same, eq]; simp only [List.length_reverse, List.length_cons]; omega
  · next eq => rw [same, eq]; simp
  · exact Nat.le_refl _

def isLast (afterBoundary : Bytes) : Bool :=
  match afterBoundary with
  | a :: b :: _ => a == 45 && b == 45
  | _ => true

-- A part that no boundary ends takes the rest.
def slices (key : Bytes) (bytes : Bytes) : List Bytes :=
  match _h : bytes.dropWhile (· != 10) with
  | [] => []
  | _ :: body =>
    match _found : seek? key true [] body with
    | none => [body]
    | some (before, after) =>
      withoutLineEnd before :: if isLast after then [] else slices key after
  termination_by bytes.length
  decreasing_by
    have short := (List.dropWhile_sublist (· != 10) (l := bytes)).length_le
    rw [_h] at short
    have := (seek?_length _found).2
    simp only [List.length_cons] at short
    omega

theorem slices_length {key bytes : Bytes} {slice : Bytes} (h : slice ∈ slices key bytes) :
    slice.length < bytes.length := by
  fun_induction slices key bytes with
  | case1 => simp at h
  | case2 bytes b body eq none_found =>
    have short := (List.dropWhile_sublist (· != 10) (l := bytes)).length_le
    rw [eq] at short
    simp only [List.length_cons] at short
    cases List.mem_singleton.1 h
    omega
  | case3 bytes b body eq before after found ih =>
    have short := (List.dropWhile_sublist (· != 10) (l := bytes)).length_le
    rw [eq] at short
    simp only [List.length_cons] at short
    have bounds := seek?_length found
    have trimmed := withoutLineEnd_length before
    simp only [List.length_nil] at bounds
    rcases List.mem_cons.1 h with rfl | h
    · omega
    · split at h
      · simp at h
      · have := ih h
        omega

def divide (mediaType : MediaType) (content : Bytes) : List Bytes :=
  match mediaType.boundary? with
  | none => []
  | some boundary =>
    let key := 45 :: 45 :: Utf8.ofString boundary
    match seek? key true [] content with
    | none => []
    | some (_, after) => slices key after

theorem divide_length {mediaType : MediaType} {content slice : Bytes}
    (h : slice ∈ divide mediaType content) : slice.length < content.length := by
  unfold divide at h
  split at h
  · simp at h
  · dsimp only at h
    split at h
    · simp at h
    · next found =>
      have := slices_length h
      have := (seek?_length found).2
      omega

theorem readAfter_length {before header : Header} {bytes content : Bytes}
    (h : Header.readAfter before bytes = .ok (header, content)) :
    content.length ≤ bytes.length := by
  fun_induction Header.readAfter before bytes with
  | case1 | case2 | case3 => simp_all; try omega
  | case4 | case5 => simp at h
  | case6 before b rest _ _ _ _ next ih =>
    have shorter : next.2.length ≤ rest.length := HeaderField.read_length b rest
    have := ih h
    simp only [List.length_cons]
    omega

def read [ForeignDecoders] (inDigest : Bool) (bytes : Bytes) : Except MailError (Header × Part) :=
  match _h : Header.read bytes with
  | .error e => .error e
  | .ok (header, content) =>
    let mediaType := MediaType.ofHeader header inDigest
    let slices := divide mediaType content
    if slices.isEmpty then .ok (header, .leaf (Leaf.ofHeader header mediaType content))
    else do
      let digest := mediaType.name == "multipart/digest"
      let parts ← slices.attach.mapM fun ⟨slice, _⟩ => (read digest slice).map (·.2)
      return (header, .divided parts)
  termination_by bytes.length
  decreasing_by
    have := readAfter_length _h
    have := divide_length ‹_ ∈ slices›
    omega

end Part

end MailRelay
