import MailRelay.Message.Rendering
import MailRelay.Proofs.Message.Validation
import MailRelay.Proofs.Text.Utf8
import Mathlib.Data.List.Basic

set_option autoImplicit false

namespace MailRelay

namespace Letter

def emptyLine : List Char := ['\r', '\n', '\r', '\n']

def divide? : List Char → Option (List Char × List Char)
  | [] => none
  | c :: rest =>
    match Text.dropFront? emptyLine (c :: rest) with
    | some text => some ([], text)
    | none => (divide? rest).map fun (head, text) => (c :: head, text)

def addToFirst (c : Char) : List (List Char) → List (List Char)
  | [] => [[c]]
  | line :: rest => (c :: line) :: rest

def lines : List Char → List (List Char)
  | [] => [[]]
  | '\r' :: '\n' :: rest => [] :: lines rest
  | c :: rest => addToFirst c (lines rest)

def cut (line : List Char) : List Char × List Char :=
  (line.takeWhile (· != ':'), (line.dropWhile (· != ':')).drop 1)

structure Proper (line : List Char) : Prop where
  filled : line ≠ []
  noReturn : '\r' ∉ line
  noFeed : '\n' ∉ line

theorem dropFront?_of_ne {c : Char} (other : c ≠ '\r') (rest : List Char) :
    Text.dropFront? emptyLine (c :: rest) = none := by
  simp [Text.dropFront?, emptyLine, other.symm]

theorem divide?_append {line : List Char} (noReturn : '\r' ∉ line) (rest : List Char) :
    divide? (line ++ rest) = (divide? rest).map fun (head, text) => (line ++ head, text) := by
  induction line with
  | nil => simp
  | cons c line ih =>
    have other : c ≠ '\r' := fun same => noReturn (same ▸ List.mem_cons_self)
    have clear : '\r' ∉ line := fun member => noReturn (List.mem_cons_of_mem c member)
    rw [List.cons_append, divide?, dropFront?_of_ne other, ih clear]
    cases divide? rest <;> rfl

theorem divide?_emptyLine (text : List Char) : divide? (emptyLine ++ text) = some ([], text) := by
  simp [divide?, Text.dropFront?, emptyLine, List.isPrefixOf]

theorem divide?_lineEnd {rest : List Char} (next : rest.head? ≠ some '\r') :
    divide? ('\r' :: '\n' :: rest) =
      (divide? rest).map fun (head, text) => ('\r' :: '\n' :: head, text) := by
  have unmet : Text.dropFront? emptyLine ('\r' :: '\n' :: rest) = none := by
    cases rest with
    | nil => simp [Text.dropFront?, emptyLine, List.isPrefixOf]
    | cons c more =>
      have other : c ≠ '\r' := fun same => next (congrArg some same)
      simp [Text.dropFront?, emptyLine, List.isPrefixOf, other.symm]
  rw [divide?, unmet]
  simp only
  rw [divide?, dropFront?_of_ne (by decide)]
  cases divide? rest <;> rfl

theorem divide?_lines {first : List Char} {others : List (List Char)}
    (proper : ∀ line ∈ first :: others, Proper line) (text : List Char) :
    divide? ((first :: others).flatMap (· ++ ['\r', '\n']) ++ ['\r', '\n'] ++ text) =
      some (['\r', '\n'].intercalate (first :: others), text) := by
  induction others generalizing first with
  | nil =>
    have shape : [first].flatMap (· ++ ['\r', '\n']) ++ ['\r', '\n'] ++ text =
        first ++ (emptyLine ++ text) := by
      simp [emptyLine]
    rw [shape, divide?_append (proper first List.mem_cons_self).noReturn, divide?_emptyLine]
    simp
  | cons second others ih =>
    obtain ⟨start, later⟩ := List.forall_mem_cons.1 proper
    have rest := ih later
    generalize tail : (second :: others).flatMap (· ++ ['\r', '\n']) ++ ['\r', '\n'] ++ text =
      more at rest
    have shape : (first :: second :: others).flatMap (· ++ ['\r', '\n']) ++ ['\r', '\n'] ++ text =
        first ++ ('\r' :: '\n' :: more) := by
      simp [← tail]
    have next : more.head? ≠ some '\r' := by
      obtain ⟨filled, noReturn, -⟩ := later second List.mem_cons_self
      rw [← tail]
      cases second with
      | nil => exact absurd rfl filled
      | cons c line =>
        intro same
        obtain rfl : c = '\r' := by simpa using same
        exact noReturn List.mem_cons_self
    rw [shape, divide?_append start.noReturn, divide?_lineEnd next, rest]
    simp

theorem lines_append {line : List Char} (noReturn : '\r' ∉ line) (rest : List Char) :
    lines (line ++ '\r' :: '\n' :: rest) = line :: lines rest := by
  induction line with
  | nil => rfl
  | cons c line ih =>
    have other : c ≠ '\r' := fun same => noReturn (same ▸ List.mem_cons_self)
    have clear : '\r' ∉ line := fun member => noReturn (List.mem_cons_of_mem c member)
    rw [List.cons_append, lines, ih clear]
    · rfl
    · rintro more rfl
      exact absurd rfl other

theorem lines_single {line : List Char} (noReturn : '\r' ∉ line) : lines line = [line] := by
  induction line with
  | nil => rfl
  | cons c line ih =>
    have other : c ≠ '\r' := fun same => noReturn (same ▸ List.mem_cons_self)
    have clear : '\r' ∉ line := fun member => noReturn (List.mem_cons_of_mem c member)
    rw [lines, ih clear]
    · rfl
    · rintro more rfl
      exact absurd rfl other

theorem lines_intercalate {first : List Char} {others : List (List Char)}
    (proper : ∀ line ∈ first :: others, Proper line) :
    lines (['\r', '\n'].intercalate (first :: others)) = first :: others := by
  induction others generalizing first with
  | nil => simpa using lines_single (proper first List.mem_cons_self).noReturn
  | cons second others ih =>
    obtain ⟨start, later⟩ := List.forall_mem_cons.1 proper
    have shape : ['\r', '\n'].intercalate (first :: second :: others) =
        first ++ '\r' :: '\n' :: ['\r', '\n'].intercalate (second :: others) := by
      simp
    rw [shape, lines_append start.noReturn, ih later]

theorem cut_append {name : List Char} (clear : ':' ∉ name) (value : List Char) :
    cut (name ++ ':' :: value) = (name, value) := by
  have passed : ∀ c ∈ name, (c != ':') = true := by
    intro c member
    rw [bne_iff_ne]
    rintro rfl
    exact clear member
  simp [cut, List.takeWhile_append_of_pos passed, List.dropWhile_append_of_pos passed]

end Letter

namespace Text

theorem sameLetters_congr {s t : String} (same : sameLetters s t = true) :
    sameLetters s = sameLetters t := by
  have letters : lowercase s = lowercase t := beq_iff_eq.1 same
  funext u
  rw [sameLetters, sameLetters, letters]

end Text

theorem isFieldName_clean {name : String} (valid : isFieldName name = true) :
    ':' ∉ name.toList ∧ Text.hasLineBreak name = false := by
  simp only [isFieldName, Bool.and_eq_true, List.all_eq_true] at valid
  have graphic := valid.2
  rw [Text.hasLineBreak_eq_false_iff]
  refine ⟨fun member => ?_, fun member => ?_, fun member => ?_⟩
  · exact absurd (graphic _ member) (by decide)
  · exact absurd (graphic _ member) (by decide)
  · exact absurd (graphic _ member) (by decide)

namespace Message

variable {m : Message}

theorem singleLine_clean (value : String) : Text.hasLineBreak (singleLine value) = false := by
  rw [Text.hasLineBreak_eq_false_iff, singleLine, String.toList_ofList]
  constructor
  · intro member
    obtain ⟨c, -, same⟩ := List.mem_map.1 member
    split at same <;> simp_all
  · intro member
    obtain ⟨c, -, same⟩ := List.mem_map.1 member
    split at same <;> simp_all

theorem singleLine_of_clean {value : String} (clean : Text.hasLineBreak value = false) :
    singleLine value = value := by
  obtain ⟨noReturn, noFeed⟩ := (Text.hasLineBreak_eq_false_iff value).1 clean
  have same : (value.toList.map fun c => if c == '\r' || c == '\n' then ' ' else c) =
      value.toList.map fun c => c := by
    refine List.map_congr_left fun c member => if_neg ?_
    simp only [Bool.or_eq_true, beq_iff_eq, not_or]
    exact ⟨fun isReturn => noReturn (isReturn ▸ member), fun isFeed => noFeed (isFeed ▸ member)⟩
  rw [singleLine, same, List.map_id', String.ofList_toList]

def lineOf (field : String × String) : List Char :=
  field.1.toList ++ ':' :: ' ' :: (singleLine field.2).toList

theorem toList_fieldLine (field : String × String) :
    (fieldLine field).toList = lineOf field ++ ['\r', '\n'] := by
  simp [fieldLine, lineOf]

theorem proper_lineOf {field : String × String} (clean : Text.hasLineBreak field.1 = false) :
    Letter.Proper (lineOf field) := by
  obtain ⟨noReturn, noFeed⟩ := (Text.hasLineBreak_eq_false_iff _).1 clean
  obtain ⟨noReturn', noFeed'⟩ := (Text.hasLineBreak_eq_false_iff _).1 (singleLine_clean field.2)
  constructor <;> simp [lineOf, noReturn, noFeed, noReturn', noFeed']

def ownNames (alone : Bool) : List String :=
  ["From", "To", "Subject", "Date", "MIME-Version"] ++ (if alone then [] else ["Cc"])
    ++ ["Content-Type"]

theorem name_of_field {field : String × String} {date : Instant} (member : field ∈ m.fields date) :
    field.1 ∈ ownNames m.cc.isEmpty ∨ field ∈ m.headers.entries ∧ isWritten field = true := by
  simp only [fields, List.mem_append, List.mem_cons, List.not_mem_nil, or_false] at member
  rcases member with ((generated | copies) | custom) | rfl
  · rcases generated with rfl | rfl | rfl | rfl | rfl <;> simp [ownNames]
  · split at copies
    · cases copies
    · next copied =>
      obtain rfl := List.mem_singleton.1 copies
      simp [ownNames, copied]
  · exact .inr (List.mem_filter.1 custom)
  · simp [ownNames]

theorem name_clean {field : String × String} {date : Instant} (member : field ∈ m.fields date) :
    Text.hasLineBreak field.1 = false := by
  rcases name_of_field member with own | ⟨-, written⟩
  · have clean : ∀ alone, ∀ name ∈ ownNames alone, Text.hasLineBreak name = false := by decide
    exact clean _ _ own
  · simp only [isWritten, Bool.and_eq_true, Bool.not_eq_true'] at written
    exact written.1.2

theorem toList_render (m : Message) (date : Instant) :
    (m.render date).toList =
      ((m.fields date).map lineOf).flatMap (· ++ ['\r', '\n']) ++ ['\r', '\n'] ++
        m.content.2.toList := by
  have lines : (fun field => (fieldLine field).toList) =
      fun field => lineOf field ++ ['\r', '\n'] :=
    funext toList_fieldLine
  simp [render, String.toList_join, List.flatMap_map, lines]

theorem render_read (m : Message) (date : Instant) :
    ∃ head, Letter.divide? (m.render date).toList = some (head, m.content.2.toList) ∧
      Letter.lines head = (m.fields date).map lineOf := by
  have proper : ∀ line ∈ (m.fields date).map lineOf, Letter.Proper line :=
    List.forall_mem_map.2 fun field member => proper_lineOf (name_clean member)
  obtain ⟨first, others, split⟩ : ∃ first others, m.fields date = first :: others := ⟨_, _, rfl⟩
  rw [split, List.map_cons] at proper
  refine ⟨['\r', '\n'].intercalate ((m.fields date).map lineOf), ?_, ?_⟩
  · rw [toList_render, split, List.map_cons, Letter.divide?_lines proper]
  · rw [split, List.map_cons, Letter.lines_intercalate proper]

theorem content_eq (m : Message) : m.content.2 = m.htmlBody.getD m.body := by
  unfold content
  cases m.htmlBody <;> rfl

/-- The fields of a valid message as they can be read: what the relay writes itself, and each custom
field with a free name, unchanged. -/
def readableFields (m : Message) (date : Instant) : List (String × String) :=
  [("From", singleLine m.sender), ("To", singleLine (String.intercalate ", " m.addressees)),
    ("Subject", m.subject), ("Date", singleLine (Timestamp.writeMailDate date)),
    ("MIME-Version", "1.0")]
    ++ (if m.cc.isEmpty then [] else [("Cc", singleLine (String.intercalate ", " m.cc))])
    ++ m.headers.entries.filter (fun field => !isReserved field.1)
    ++ [("Content-Type", m.content.1)]

theorem fields_of_valid {limits : Limits} (accepted : m.validate limits = .ok ())
    (date : Instant) :
    ((m.fields date).map fun field => (field.1, singleLine field.2)) = m.readableFields date := by
  obtain ⟨subject, custom⟩ := header_of_validate accepted
  have kept : m.headers.entries.filter isWritten =
      m.headers.entries.filter fun field => !isReserved field.1 := by
    refine List.filter_congr fun field member => ?_
    obtain ⟨named, clean⟩ := custom field member
    simp [isWritten, (isFieldName_clean named).2, clean]
  have unchanged : ((m.headers.entries.filter fun field => !isReserved field.1).map
      fun field => (field.1, singleLine field.2)) =
        m.headers.entries.filter fun field => !isReserved field.1 := by
    rw [List.map_congr_left (g := fun field => field) fun field member => ?_, List.map_id']
    rw [singleLine_of_clean (custom field (List.mem_filter.1 member).1).2]
  have version : singleLine "1.0" = "1.0" := by decide
  have kind : singleLine m.content.1 = m.content.1 := by
    refine singleLine_of_clean ?_
    unfold content
    cases m.htmlBody <;> dsimp only <;> decide
  have copies : ((if m.cc.isEmpty then [] else [("Cc", String.intercalate ", " m.cc)]).map
      fun field : String × String => (field.1, singleLine field.2)) =
        if m.cc.isEmpty then [] else [("Cc", singleLine (String.intercalate ", " m.cc))] := by
    split <;> rfl
  rw [fields, readableFields, kept, List.map_append, List.map_append, List.map_append, copies,
    unchanged]
  simp [singleLine_of_clean subject, version, kind]

theorem cut_lineOf {field : String × String} (clear : ':' ∉ field.1.toList) :
    Letter.cut (lineOf field) = (field.1.toList, ' ' :: (singleLine field.2).toList) :=
  Letter.cut_append clear _

theorem name_clear {limits : Limits} (accepted : m.validate limits = .ok ())
    {field : String × String} {date : Instant} (member : field ∈ m.fields date) :
    ':' ∉ field.1.toList := by
  rcases name_of_field member with own | ⟨custom, -⟩
  · have clear : ∀ alone, ∀ name ∈ ownNames alone, ':' ∉ name.toList := by decide
    exact clear _ _ own
  · exact (isFieldName_clean ((header_of_validate accepted).2 field custom).1).1

theorem isReserved_congr {name other : String} (same : Text.sameLetters name other = true) :
    isReserved name = isReserved other := by
  rw [isReserved, isReserved, Text.sameLetters_congr same]

theorem count_ownNames {name : String} (reserved : isReserved name = true) (alone : Bool) :
    (ownNames alone).countP (Text.sameLetters name) =
      if Text.sameLetters name "Bcc" || Text.sameLetters name "Cc" && alone then 0 else 1 := by
  obtain ⟨known, member, same⟩ := List.any_eq_true.1 reserved
  rw [Text.sameLetters_congr same]
  clear reserved same
  revert known alone
  decide

theorem count_reserved (m : Message) (date : Instant) {name : String}
    (reserved : isReserved name = true) :
    (m.readableFields date).countP (fun field => Text.sameLetters name field.1) =
      if Text.sameLetters name "Bcc" || Text.sameLetters name "Cc" && m.cc.isEmpty then 0
      else 1 := by
  have custom : (m.headers.entries.filter fun field => !isReserved field.1).countP
      (fun field => Text.sameLetters name field.1) = 0 := by
    rw [List.countP_eq_zero]
    intro field member same
    have free := (List.mem_filter.1 member).2
    rw [← isReserved_congr same, reserved] at free
    cases free
  rw [← count_ownNames reserved, readableFields, ownNames]
  simp only [List.countP_append, custom, List.countP_cons, List.countP_nil]
  cases m.cc.isEmpty <;> simp

/-- The text of a rendered message begins after its first empty line, and no line before that
breaks. Of a valid message, these lines are exactly the fields that are meant. -/
theorem header_lines_are_the_fields (m : Message) (date : Instant) :
    ∃ head, Letter.divide? (m.render date).toList = some (head, (m.htmlBody.getD m.body).toList) ∧
      (∀ line ∈ Letter.lines head, '\r' ∉ line ∧ '\n' ∉ line) ∧
      ∀ limits, m.validate limits = .ok () →
        (Letter.lines head).map Letter.cut =
            (m.readableFields date).map (fun field => (field.1.toList, ' ' :: field.2.toList)) ∧
          ∀ name, isReserved name = true →
            ((Letter.lines head).map Letter.cut).countP
                (fun field => Text.sameLetters name (String.ofList field.1)) =
              if Text.sameLetters name "Bcc" || Text.sameLetters name "Cc" && m.cc.isEmpty then 0
              else 1 := by
  obtain ⟨head, divided, lines⟩ := render_read m date
  refine ⟨head, content_eq m ▸ divided, fun line member => ?_, fun limits accepted => ?_⟩
  · rw [lines] at member
    obtain ⟨field, written, rfl⟩ := List.mem_map.1 member
    obtain ⟨-, noReturn, noFeed⟩ := proper_lineOf (name_clean written)
    exact ⟨noReturn, noFeed⟩
  · have cuts : (Letter.lines head).map Letter.cut =
        (m.readableFields date).map fun field => (field.1.toList, ' ' :: field.2.toList) := by
      rw [lines, ← fields_of_valid accepted, List.map_map, List.map_map]
      exact List.map_congr_left fun field member => cut_lineOf (name_clear accepted member)
    refine ⟨cuts, fun name reserved => ?_⟩
    rw [cuts, List.countP_map, ← count_reserved m date reserved]
    simp [Function.comp_def]

-- The name in front of the sender's address breaks the line, and a custom field names blind copies.
def forgedNote : Message :=
  { Message.new "m" "\"\r\nBcc: v@example.net\r\n\r\n\" <a@example.com>" ["b@example.org"] "s" .min with
    cc := ["c@example.org"]
    headers := .ofList [("X-Tag", "1"), ("BCC", "v@example.net")]
    body := "b\r\n\r\n" }

theorem forged_note_reads_back :
    forgedNote.validate .default = .ok () ∧
      ∃ head, Letter.divide? (forgedNote.render .min).toList = some (head, "b\r\n\r\n".toList) ∧
        (Letter.lines head).map (fun line => String.ofList (Letter.cut line).1) =
          ["From", "To", "Subject", "Date", "MIME-Version", "Cc", "X-Tag", "Content-Type"] := by
  have accepted : forgedNote.validate .default = .ok () := rfl
  obtain ⟨head, divided, -, valid⟩ := header_lines_are_the_fields forgedNote .min
  refine ⟨accepted, head, divided, ?_⟩
  have names := congrArg (List.map fun field => String.ofList field.1) (valid .default accepted).1
  rw [List.map_map, List.map_map] at names
  exact names.trans rfl

end Message

end MailRelay
