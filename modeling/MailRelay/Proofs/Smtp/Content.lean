import MailRelay.Proofs.Smtp.Session
import MailRelay.Proofs.Text.Decoding

set_option autoImplicit false

namespace MailRelay

namespace Payload

def completed (text : List Char) : List Char :=
  if text.getLast? = some '\n' then text else text ++ ['\n']

def withReturns : List Char → List Char
  | [] => []
  | c :: rest =>
    if c = '\r' ∧ rest.head? = some '\n' then withReturns rest
    else if c = '\n' then '\r' :: '\n' :: withReturns rest
    else c :: withReturns rest

def delivered (text : String) : Bytes :=
  Utf8.encode (withReturns (completed text.toList))

theorem lines_feed (text : List Char) : lines ('\n' :: text) = [] :: lines text :=
  rfl

theorem lines_cons {c : Char} (other : c ≠ '\n') (text : List Char) :
    lines (c :: text) =
      match lines text with
      | [] => [[c]]
      | line :: rest => (c :: line) :: rest := by
  have first : lines (c :: text) = addToLines c (lines text) := rfl
  unfold addToLines at first
  rwa [if_neg (by simpa using other)] at first

theorem eq_nil_of_lines {text : List Char} (none : lines text = []) : text = [] := by
  cases text with
  | nil => rfl
  | cons c text =>
    by_cases feed : c = '\n'
    · subst feed
      cases none
    · rw [lines_cons feed] at none
      split at none <;> cases none

theorem lines_single (text : List Char) : ∀ line ∈ lines text, '\n' ∉ line := by
  induction text with
  | nil => exact List.forall_mem_nil _
  | cons c text ih =>
    by_cases feed : c = '\n'
    · subst feed
      rw [lines_feed]
      exact List.forall_mem_cons.2 ⟨List.not_mem_nil, ih⟩
    · rw [lines_cons feed]
      cases found : lines text with
      | nil => simpa using Ne.symm feed
      | cons line rest =>
        rw [found, List.forall_mem_cons] at ih
        simpa [Ne.symm feed, ih.1] using ih.2

theorem completed_cons (c : Char) {text : List Char} (more : text ≠ []) :
    completed (c :: text) = c :: completed text := by
  obtain ⟨d, text, rfl⟩ := List.exists_cons_of_ne_nil more
  simp only [completed, List.getLast?_cons_cons]
  split <;> rfl

theorem flatMap_lines {text : List Char} (more : text ≠ []) :
    (lines text).flatMap (· ++ ['\n']) = completed text := by
  induction text with
  | nil => exact absurd rfl more
  | cons c text ih =>
    by_cases empty : text = []
    · subst empty
      by_cases feed : c = '\n'
      · subst feed
        rfl
      · rw [lines_cons feed]
        simp [completed, feed, lines]
    · rw [completed_cons c empty, ← ih empty]
      by_cases feed : c = '\n'
      · subst feed
        simp [lines_feed]
      · rw [lines_cons feed]
        cases found : lines text with
        | nil => exact absurd (eq_nil_of_lines found) empty
        | cons line rest => simp

def sentLines (text : List Char) : List (List Char) :=
  match lines text with
  | [] => [[]]
  | ls => ls

theorem withoutReturn_cons (c : Char) {line : List Char} (more : line ≠ []) :
    withoutReturn (c :: line) = c :: withoutReturn line := by
  obtain ⟨d, line, rfl⟩ := List.exists_cons_of_ne_nil more
  simp only [withoutReturn, List.getLast?_cons_cons, List.dropLast_cons_cons]
  split <;> rfl

theorem withReturns_line {line : List Char} (single : '\n' ∉ line) (rest : List Char) :
    withReturns (line ++ '\n' :: rest) =
      withoutReturn line ++ '\r' :: '\n' :: withReturns rest := by
  induction line with
  | nil => simp [withReturns, withoutReturn]
  | cons c line ih =>
    rw [List.mem_cons, not_or] at single
    obtain ⟨other, single⟩ := single
    cases line with
    | nil =>
      by_cases returns : c = '\r'
      · simp [withReturns, withoutReturn, returns]
      · simp [withReturns, withoutReturn, returns, Ne.symm other]
    | cons d line =>
      have next : d ≠ '\n' := fun feed => single (feed ▸ List.mem_cons_self)
      have kept : withReturns (c :: (d :: line ++ '\n' :: rest)) =
          c :: withReturns (d :: line ++ '\n' :: rest) := by
        rw [withReturns]
        simp [Ne.symm other, next]
      rw [List.cons_append, kept, ih single, withoutReturn_cons c (List.cons_ne_nil d line)]
      rfl

theorem withReturns_flatMap {ls : List (List Char)} (single : ∀ line ∈ ls, '\n' ∉ line) :
    withReturns (ls.flatMap (· ++ ['\n'])) = ls.flatMap (withoutReturn · ++ ['\r', '\n']) := by
  induction ls with
  | nil => rfl
  | cons line ls ih =>
    obtain ⟨first, others⟩ := List.forall_mem_cons.1 single
    have next := withReturns_line first (ls.flatMap (· ++ ['\n']))
    simpa [ih others] using next

theorem sentLines_single (text : List Char) : ∀ line ∈ sentLines text, '\n' ∉ line := by
  unfold sentLines
  split
  · simp
  · exact lines_single text

theorem delivered_eq (text : String) :
    delivered text =
      (sentLines text.toList).flatMap fun line =>
        Utf8.encode (withoutReturn line ++ ['\r', '\n']) := by
  have whole : (sentLines text.toList).flatMap (· ++ ['\n']) = completed text.toList := by
    unfold sentLines
    split
    · next none =>
      rw [eq_nil_of_lines none]
      rfl
    · next some =>
      refine flatMap_lines fun empty => some ?_
      rw [empty]
      rfl
  rw [delivered, ← whole, withReturns_flatMap (sentLines_single text.toList), Utf8.encode,
    List.flatMap_assoc]
  rfl

theorem stuff_eq (text : String) :
    Utf8.ofString (stuff text) =
      (sentLines text.toList).flatMap fun line => Utf8.encode (stuffLine line) := by
  have whole : (stuff text).toList = (sentLines text.toList).flatMap stuffLine := by
    unfold stuff sentLines
    cases lines text.toList with
    | nil => decide
    | cons line ls => exact String.toList_ofList
  rw [Utf8.ofString_eq_encode, whole, Utf8.encode, List.flatMap_assoc]
  rfl

theorem head?_encode {text : List Char} (first : (Utf8.encode text).head? = some dot) :
    text.head? = some '.' := by
  cases text with
  | nil => cases first
  | cons c text =>
    obtain ⟨b, tail, spelled, -⟩ := Utf8.scan_utf8EncodeChar c []
    have whole : Utf8.encode (c :: text) = b :: (tail ++ Utf8.encode text) := by
      rw [← List.cons_append, ← spelled]
      rfl
    rw [whole, List.head?_cons, Option.some.injEq] at first
    have member : dot ∈ String.utf8EncodeChar c := by simp [spelled, first]
    have number := (Utf8.mem_utf8EncodeChar_iff c (by decide)).1 member
    rw [List.head?_cons, ← Char.ofNat_toNat c, number]
    rfl

theorem plain_of_head? {line : Bytes} (other : line.head? ≠ some dot) :
    isEnd line = false ∧ unstuff line = line := by
  constructor
  · simp only [isEnd, Bool.or_eq_false_iff, beq_eq_false_iff_ne]
    constructor <;> rintro rfl <;> exact other rfl
  · unfold unstuff
    split
    · next a b rest =>
      have first : a ≠ dot := by simpa using other
      simp [first]
    · rfl

-- A line is not taken for the end on its way, and arrives as it was, with its end.
theorem stuffLine_arrives (line : List Char) :
    isEnd (Utf8.encode (stuffLine line)) = false ∧
      unstuff (Utf8.encode (stuffLine line)) =
        Utf8.encode (withoutReturn line ++ ['\r', '\n']) := by
  simp only [stuffLine]
  generalize withoutReturn line = line
  cases line with
  | nil => exact plain_of_head? (by decide)
  | cons c line =>
    by_cases dotted : c = '.'
    · subst dotted
      exact ⟨rfl, rfl⟩
    · rw [if_neg (by simpa using dotted), List.nil_append]
      exact plain_of_head? fun first => dotted (by simpa using head?_encode first)

theorem isEnded_stuffLine {line : List Char} (single : '\n' ∉ line) :
    IsEnded (Utf8.encode (stuffLine line)) := by
  obtain ⟨front, parts, noFeed⟩ : ∃ front, stuffLine line = front ++ ['\n'] ∧ '\n' ∉ front := by
    have kept : '\n' ∉ withoutReturn line := by
      unfold withoutReturn
      split
      · exact fun member => single ((List.dropLast_sublist line).subset member)
      · exact single
    refine ⟨(if (withoutReturn line).head? = some '.' then ['.'] else []) ++
      withoutReturn line ++ ['\r'], by simp [stuffLine], ?_⟩
    split <;> simp [kept]
  refine ⟨Utf8.encode front, ?_, fun member => ?_⟩
  · rw [parts, Utf8.encode_append]
    rfl
  · exact noFeed ((Utf8.mem_encode_iff front '\n' (by decide)).1 member)

end Payload

namespace Incoming

variable {limit : Nat} {i : Incoming}

theorem foldl_oversized (full : i.oversized = true) (ls : List Bytes) :
    (ls.foldl (add limit) i).oversized = true := by
  induction ls generalizing i with
  | nil => exact full
  | cons line ls ih =>
    refine ih ?_
    simp only [add]
    split <;> simp [full]

theorem foldl_add (ls : List Bytes) (fits : i.oversized = false)
    (within : i.data.toList.length ≤ limit) :
    let whole := i.data.toList ++ ls.flatMap Payload.unstuff
    whole.length ≤ limit ∧ ls.foldl (add limit) i = ⟨whole.toArray, false⟩ ∨
      limit < whole.length ∧ (ls.foldl (add limit) i).oversized = true := by
  induction ls generalizing i with
  | nil =>
    obtain ⟨data, oversized⟩ := i
    obtain rfl := fits
    exact .inl ⟨by simpa using within, by simp⟩
  | cons line ls ih =>
    have whole : (i.data ++ Payload.unstuff line).toList =
        i.data.toList ++ Payload.unstuff line := by simp
    rw [List.foldl_cons, List.flatMap_cons, ← List.append_assoc, ← whole]
    by_cases more : limit < i.data.size + (Payload.unstuff line).length
    · refine .inr ⟨?_, foldl_oversized (by simp [add, more]) ls⟩
      rw [List.length_append, whole, List.length_append, Array.length_toList]
      omega
    · have next : add limit i line = ⟨i.data ++ Payload.unstuff line, false⟩ := by
        simp [add, more, fits]
      rw [next]
      refine @ih ⟨i.data ++ Payload.unstuff line, false⟩ rfl ?_
      rw [whole, List.length_append, Array.length_toList]
      omega

end Incoming

namespace Session

theorem heard_flatten {ls : List Bytes} (ended : ∀ line ∈ ls, IsEnded line) (rest : Bytes)
    (ending : InputEnd) : heard (ls.flatten ++ rest) ending = ls ++ heard rest ending := by
  induction ls with
  | nil => rfl
  | cons line ls ih =>
    obtain ⟨⟨raw, rfl, single⟩, others⟩ := List.forall_mem_cons.1 ended
    have parts : ((raw ++ [10]) :: ls).flatten ++ rest = raw ++ 10 :: (ls.flatten ++ rest) := by
      simp
    rw [parts, heard_line single, ih others]
    rfl

theorem heard_append (front rest : Bytes) (ending : InputEnd) :
    heard (front ++ 10 :: rest) ending = heard (front ++ [10]) ending ++ heard rest ending := by
  induction front using line_induction with
  | tail front single =>
    rw [heard_line single, heard_line single]
    rfl
  | line raw front single ih =>
    rw [List.append_assoc, List.cons_append, List.append_assoc, List.cons_append,
      heard_line single, heard_line single, ih, List.cons_append]

def sent (text : String) : List Bytes :=
  (Payload.sentLines text.toList).map fun line => Utf8.encode (Payload.stuffLine line)

theorem isEnd_sent (text : String) : ∀ line ∈ sent text, Payload.isEnd line = false := by
  intro line member
  obtain ⟨text, -, rfl⟩ := List.mem_map.1 member
  exact (Payload.stuffLine_arrives text).1

theorem isEnded_sent (text : String) : ∀ line ∈ sent text, IsEnded line := by
  intro line member
  obtain ⟨line, among, rfl⟩ := List.mem_map.1 member
  exact Payload.isEnded_stuffLine (Payload.sentLines_single _ line among)

theorem send_eq (text : String) : Payload.send text = (sent text).flatten ++ [46, 13, 10] := by
  have terminator : Utf8.ofString Payload.terminator = [46, 13, 10] := by decide
  rw [Payload.send, Utf8.ofString_append, terminator, Payload.stuff_eq, sent, List.flatMap_def]

theorem heard_send (text : String) (rest : Bytes) (ending : InputEnd) :
    heard (Payload.send text ++ rest) ending = sent text ++ [46, 13, 10] :: heard rest ending := by
  have last : [46, 13, 10] ++ rest = [46, 13] ++ 10 :: rest := rfl
  rw [send_eq, List.append_assoc, heard_flatten (isEnded_sent text), last, heard_line (by decide)]
  rfl

theorem end_is_last (text : String) :
    ¬ [13, 10, 46, 13, 10] <:+: (13 :: 10 :: Payload.send text).dropLast := by
  have front : (13 :: 10 :: Payload.send text).dropLast =
      [13] ++ 10 :: ((sent text).flatten ++ [46, 13]) := by
    have last : 13 :: 10 :: Payload.send text =
        ([13] ++ 10 :: ((sent text).flatten ++ [46, 13])) ++ [10] := by simp [send_eq]
    rw [last, List.dropLast_concat]
  rintro ⟨before, after, parts⟩
  have regrouped : before ++ [13, 10, 46, 13, 10] ++ after =
      (before ++ [13]) ++ 10 :: ([46, 13] ++ 10 :: after) := by simp
  have same : heard ((before ++ [13]) ++ 10 :: ([46, 13] ++ 10 :: after)) .silent =
      [13, 10] :: sent text := by
    have unended : heard [46, 13] .silent = [] := rfl
    rw [← regrouped, parts, front, heard_line (by decide), heard_flatten (isEnded_sent text), unended,
      List.append_nil]
    rfl
  have member : [46, 13, 10] ∈ [13, 10] :: sent text := by
    have next := heard_line (show 10 ∉ [46, 13] by decide) after .silent
    rw [← same, heard_append, next]
    exact List.mem_append_right _ List.mem_cons_self
  rcases List.mem_cons.1 member with other | early
  · cases other
  · cases isEnd_sent text _ early

section

variable [ForeignDecoders] {stamps : Stamps} {host sender : String}
variable {recipients : List String} {r : Reception}

theorem lines_gathered {body : List Bytes} (inside : ∀ line ∈ body, Payload.isEnd line = false) :
    lines stamps ⟨host, .content sender recipients .empty, r⟩ body =
      (⟨host, .content sender recipients
          (body.foldl (Incoming.add r.limits.maxMessageSize) .empty), r⟩,
        body.map fun _ => ⟨none, []⟩) := by
  induction body using List.reverseRecOn with
  | nil => rfl
  | append_singleton body line ih =>
    rw [List.forall_mem_append] at inside
    rw [lines_snoc, ih inside.1]
    have further := inside.2 line List.mem_cons_self
    simp [Session.line, further]

-- The line that ends a content is answered, and the lines after it are commands again.
theorem lines_ended {body : List Bytes} (inside : ∀ line ∈ body, Payload.isEnd line = false)
    {raw : Bytes} (ends : Payload.isEnd raw = true) (rest : List Bytes) :
    lines stamps ⟨host, .content sender recipients .empty, r⟩ (body ++ raw :: rest) =
      (let received := body.foldl (Incoming.add r.limits.maxMessageSize) .empty
        let (reception, answer) := submit stamps r sender recipients received
        let (s, events) := lines stamps ⟨host, .greeted, reception⟩ rest
        (s, (body.map fun _ => ⟨none, []⟩) ++ ⟨none, [answer]⟩ :: events)) := by
  rw [List.append_cons, lines_append, lines_snoc, lines_gathered inside]
  simp [Session.line, ends]

/-- The lines of a content and its end are taken in, and no further ones. None of them is taken for
the end too early, and what has come in is the text with every line ended in one way. -/
theorem content_arrives_as_it_was_sent (stamps : Stamps) (host sender : String)
    (recipients : List String) (r : Reception) (text : String) (rest : Bytes) (ending : InputEnd) :
    ∃ body received,
      heard (Payload.send text ++ rest) ending = body ++ [46, 13, 10] :: heard rest ending ∧
      Payload.send text = body.flatten ++ [46, 13, 10] ∧
      (∀ line ∈ body, Payload.isEnd line = false) ∧
      lines stamps ⟨host, .content sender recipients .empty, r⟩
          (heard (Payload.send text ++ rest) ending) =
        (let (reception, answer) := submit stamps r sender recipients received
          let (s, events) := lines stamps ⟨host, .greeted, reception⟩ (heard rest ending)
          (s, (body.map fun _ => ⟨none, []⟩) ++ ⟨none, [answer]⟩ :: events)) ∧
      ((Payload.delivered text).length ≤ r.limits.maxMessageSize ∧
          received = ⟨(Payload.delivered text).toArray, false⟩ ∨
        r.limits.maxMessageSize < (Payload.delivered text).length ∧ received.oversized = true) ∧
      ¬ [13, 10, 46, 13, 10] <:+: (13 :: 10 :: Payload.send text).dropLast := by
  refine ⟨sent text, (sent text).foldl (Incoming.add r.limits.maxMessageSize) .empty,
    heard_send text rest ending, send_eq text, isEnd_sent text, ?_, ?_, end_is_last text⟩
  · rw [heard_send]
    exact lines_ended (isEnd_sent text) (by decide) _
  · have whole : (sent text).flatMap Payload.unstuff = Payload.delivered text := by
      rw [sent, List.flatMap_map, Payload.delivered_eq]
      simp only [(Payload.stuffLine_arrives _).2]
    rw [← whole]
    exact @Incoming.foldl_add _ .empty (sent text) rfl (Nat.zero_le _)

end

-- A carriage return that nothing follows is not kept: it counts as the beginning of the line end.
open AsciiOnly in
theorem final_return_is_not_kept :
    let s : Session := ⟨"h", .content "a@example.com" ["b@example.org"] .empty,
      .new .default (.new 1 .zero)⟩
    let stamps : Stamps := fun _ => ⟨"m", .min, .min⟩
    let body := (heard (Payload.send "a\r") .closed).dropLast
    (s.lines stamps body).1.stage =
        .content "a@example.com" ["b@example.org"] ⟨#[97, 13, 10], false⟩ ∧
      [97, 13, 10] ≠ Utf8.encode (Payload.withReturns "a\r".toList ++ ['\r', '\n']) := by
  refine ⟨?_, by decide⟩
  rfl

end Session

end MailRelay
