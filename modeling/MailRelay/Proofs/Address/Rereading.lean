import MailRelay.Proofs.Address.Mailbox

set_option autoImplicit false

namespace MailRelay

namespace AddressList

-- Characters that are not taken as they stand at the beginning of an address.
def isOpeningMark (c : Char) : Bool :=
  Text.isBlank c || c == '"' || c == '<' || c == ';'

def isMark (c : Char) : Bool :=
  c == '<' || c == ',' || c == ';' || c == ':' || c == '('

/-- Text that is read as it stands. -/
def isBare : List Char → Bool
  | [] => false
  | first :: rest => !isOpeningMark first && rest.all (!isMark ·)

/-- What is left of a text without its comments and without one comma or semicolon at its end;
nothing if another mark stands in it. -/
def withoutComments? (inside : Bool) : List Char → Option (List Char)
  | [] => if inside then none else some []
  | c :: rest =>
    if inside then withoutComments? (c != ')') rest
    else if c == '(' then withoutComments? true rest
    else if c == ',' || c == ';' then if rest.isEmpty then some [] else none
    else if c == '<' || c == ':' then none
    else (withoutComments? false rest).map (c :: ·)

def respelled? : List Char → Option (List Char)
  | [] => none
  | first :: rest =>
    if isOpeningMark first then none
    else (withoutComments? false rest).map fun kept => Text.trimEnd (first :: kept)

theorem withoutComments?_of_unmarked {rest : List Char} (unmarked : rest.all (!isMark ·) = true) :
    withoutComments? false rest = some rest := by
  induction rest with
  | nil => rfl
  | cons c rest ih => simp_all [withoutComments?, isMark]

theorem length_withoutComments? {inside : Bool} {rest kept : List Char}
    (left : withoutComments? inside rest = some kept) : kept.length ≤ rest.length := by
  induction rest generalizing inside kept with
  | nil => cases inside <;> cases left; exact Nat.le_refl _
  | cons c rest ih =>
    have shorter {inside' : Bool} (left : withoutComments? inside' rest = some kept) :
        kept.length ≤ rest.length + 1 := (ih left).trans (Nat.le_succ _)
    unfold withoutComments? at left
    split at left
    · exact shorter left
    split at left
    · exact shorter left
    split at left
    · split at left <;> cases left
      exact Nat.zero_le _
    split at left
    · cases left
    · obtain ⟨later, found, rfl⟩ := Option.map_eq_some_iff.1 left
      exact Nat.succ_le_succ (ih found)

theorem unmarked_of_withoutComments? {rest : List Char}
    (left : withoutComments? false rest = some rest) : rest.all (!isMark ·) = true := by
  induction rest with
  | nil => rfl
  | cons c rest ih =>
    have shorter : withoutComments? true rest ≠ some (c :: rest) := fun left =>
      absurd (length_withoutComments? left) (by simp)
    unfold withoutComments? at left
    simp only [Bool.false_eq_true, if_false] at left
    split at left
    · exact absurd left shorter
    split at left
    · split at left <;> cases left
    split at left
    · cases left
    · obtain ⟨kept, left, same⟩ := Option.map_eq_some_iff.1 left
      cases same
      simp_all [isMark]

theorem respelled?_self_iff {address : List Char} (visible : Text.trimEnd address = address) :
    respelled? address = some address ↔ isBare address = true := by
  cases address with
  | nil => simp [respelled?, isBare]
  | cons first rest =>
    simp only [respelled?, isBare, Bool.and_eq_true]
    by_cases opening : isOpeningMark first = true
    · simp [opening]
    simp only [opening, Bool.false_eq_true, if_false, Option.map_eq_some_iff, Bool.not_false,
      true_and]
    constructor
    · rintro ⟨kept, left, same⟩
      -- Trimming only shortens, and so does leaving out the comments.
      have whole : (first :: rest).Sublist (first :: kept) := same ▸ Text.trimEnd_sublist _
      have same : rest = kept := (List.cons_sublist_cons.1 whole).eq_of_length_le
        (length_withoutComments? left)
      exact unmarked_of_withoutComments? (same ▸ left)
    · intro unmarked
      exact ⟨rest, withoutComments?_of_unmarked unmarked, visible⟩

theorem trim_respelled? {first : Char} {rest b : List Char} (shown : Text.isBlank first = false)
    (respelled : respelled? (first :: rest) = some b) : Text.trim b = b := by
  rw [respelled?] at respelled
  split at respelled
  · contradiction
  · obtain ⟨kept, -, rfl⟩ := Option.map_eq_some_iff.1 respelled
    rw [Text.trimEnd_cons shown, Text.trim_of_shown shown, Text.trimEnd_trimEnd]

def isGroup : AddressItem → Bool
  | .group _ => true
  | .mailbox _ => false

def single? : List AddressItem → Option (List Char)
  | [.mailbox address] => some address
  | _ => none

theorem single?_eq_none {items : List AddressItem}
    (crowded : items.any isGroup = true ∨ 2 ≤ items.length) : single? items = none := by
  match items with
  | [] => rfl
  | [.mailbox address] => simp [isGroup] at crowded
  | [.group members] => rfl
  | first :: second :: rest => cases first <;> rfl

/-- Text in brackets ends at the first closing one; other text holds no mark. -/
def IsRead (address : List Char) : Prop :=
  '>' ∉ address ∨ isBare address = true

theorem isBare_snoc {text : List Char} {c : Char} (bare : isBare text = true)
    (unmarked : isMark c = false) : isBare (text ++ [c]) = true := by
  cases text with
  | nil => cases bare
  | cons first rest => simp_all [isBare]

theorem isBare_trimEnd {text : List Char} (bare : isBare text = true) :
    isBare (Text.trimEnd text) = true := by
  cases text with
  | nil => cases bare
  | cons first rest =>
    have visible : Text.isBlank first = false := by simp_all [isBare, isOpeningMark]
    rw [Text.trimEnd_cons visible]
    simp only [isBare, Bool.and_eq_true, List.all_eq_true] at bare ⊢
    exact ⟨bare.1, fun c member => bare.2 c ((Text.trimEnd_sublist rest).mem member)⟩

theorem IsRead.trim {address : List Char} (read : IsRead address) : IsRead (Text.trim address) := by
  rcases read with unclosed | bare
  · exact .inl fun member => unclosed ((Text.trim_sublist address).mem member)
  · cases address with
    | nil => cases bare
    | cons first rest =>
      have shown : Text.isBlank first = false := by simp_all [isBare, isOpeningMark]
      rw [Text.trim_of_shown shown, ← Text.trimEnd_cons shown]
      exact .inr (isBare_trimEnd bare)

namespace Reader
variable {r r' : Reader} {c : Char}

-- No closing bracket, no way to a list of one mailbox.
def isLost (r : Reader) : Bool :=
  r.members.isSome || r.items.any isGroup || 2 ≤ r.items.length ||
    match r.place with
    | .quotedName | .escapedChar | .afterQuotedName | .brackets _ => true
    | .plain _ | .plainComment _ => 1 ≤ r.items.length
    | _ => false

theorem isLost_step (lost : r.isLost = true) (other : c ≠ '>')
    (taken : r.step? (.char c) = some r') : r'.isLost = true := by
  obtain ⟨place, items, members⟩ := r
  cases place <;> unfold step? at taken <;> simp only [between?] at taken <;>
    grind [isLost, goto, add?, openGroup?, closeGroup, isGroup, Option.map]

theorem crowded_finish? (lost : r.isLost = true) {items : List AddressItem}
    (finished : r.finish? = some items) : items.any isGroup = true ∨ 2 ≤ items.length := by
  obtain ⟨place, items, members⟩ := r
  cases members with
  | some members => cases place <;> grind [finish?, isGroup]
  | none => cases place <;> grind [isLost, finish?, isGroup, add?]

def found? (r : Reader) (rest : List Char) : Option (List Char) :=
  ((r.run? rest).bind finish?).bind single?

theorem found?_cons (rest : List Char) :
    r.found? (c :: rest) = (r.step? (.char c)).bind (·.found? rest) := by
  have step : r.run? (c :: rest) = (r.step? (.char c)).bind (·.run? rest) := rfl
  rw [found?, step]
  cases r.step? (.char c) <;> rfl

theorem found?_eq_none (lost : r.isLost = true) {rest : List Char} (unclosed : '>' ∉ rest) :
    r.found? rest = none := by
  induction rest generalizing r with
  | nil =>
    rw [found?, Option.bind_eq_none_iff]
    intro items finished
    exact single?_eq_none (crowded_finish? lost finished)
  | cons c rest ih =>
    obtain ⟨other, later⟩ : c ≠ '>' ∧ '>' ∉ rest := by simpa [eq_comm] using unclosed
    rw [found?_cons]
    cases taken : r.step? (.char c) with
    | none => rfl
    | some next => exact ih (isLost_step lost other taken) later

def EndsVisibly (rest : List Char) : Prop :=
  ∀ c, rest.getLast? = some c → Text.isBlank c = false

theorem EndsVisibly.tail {rest : List Char} (visible : EndsVisibly (c :: rest)) :
    EndsVisibly rest := by
  intro last same
  apply visible
  cases rest with
  | nil => cases same
  | cons => simpa using same

theorem found?_after {address rest : List Char} (more : rest ≠ []) (visible : EndsVisibly rest)
    (unclosed : '>' ∉ rest) : found? ⟨.between, [.mailbox address], none⟩ rest = none := by
  induction rest with
  | nil => contradiction
  | cons c rest ih =>
    obtain ⟨-, later⟩ : c ≠ '>' ∧ '>' ∉ rest := by simpa [eq_comm] using unclosed
    generalize held : (⟨.between, [.mailbox address], none⟩ : Reader) = r at ih ⊢
    have step : r.step? (.char c) = r.between? (.char c) := by
      subst held
      unfold step?
      rfl
    rw [found?_cons, step]
    by_cases blank : Text.isBlank c = true
    · have next : r.between? (.char c) = some r := by
        subst held
        simp [between?, blank, goto]
      rw [next]
      refine ih ?_ visible.tail later
      rintro rfl
      have shown := visible c rfl
      simp [blank] at shown
    · cases taken : r.between? (.char c) with
      | none => rfl
      | some next =>
        refine found?_eq_none ?_ later
        grind [between?, isLost, goto]

def reading (inside : Bool) (text : List Char) : Reader :=
  ⟨if inside then .plainComment text else .plain text, [], none⟩

def address? (text : List Char) : Option (List Char) :=
  if (Text.trimEnd text).contains '@' then some (Text.trimEnd text) else none

theorem found?_reading_nil (text : List Char) :
    (reading false text).found? [] = address? text.reverse := by
  have same : (reading false text).found? [] =
      ((reading false text).finish?).bind single? := rfl
  rw [same, address?]
  simp only [reading, finish?, add?, plainAddress, Bool.false_eq_true, if_false]
  split <;> rfl

theorem found?_reading_cons {c : Char} (unmarked : isMark c = false) (text rest : List Char) :
    (reading false text).found? (c :: rest) = (reading false (c :: text)).found? rest := by
  have step : (reading false text).step? (.char c) = some (reading false (c :: text)) := by
    unfold step?
    simp only [reading, Bool.false_eq_true, if_false]
    split <;> simp_all [isMark, goto]
  rw [found?_cons, step]
  rfl

theorem found?_reading_unmarked {rest : List Char} (unmarked : rest.all (!isMark ·) = true)
    (text : List Char) : (reading false text).found? rest = address? (text.reverse ++ rest) := by
  induction rest generalizing text with
  | nil => rw [found?_reading_nil, List.append_nil]
  | cons c rest ih =>
    obtain ⟨first, later⟩ : isMark c = false ∧ rest.all (!isMark ·) = true := by
      simpa using unmarked
    rw [found?_reading_cons first, ih later]
    simp

theorem found?_reading_end {c : Char} (ends : c = ',' ∨ c = ';') (text : List Char)
    {rest : List Char} (unclosed : '>' ∉ rest) (visible : EndsVisibly rest) :
    (reading false text).found? (c :: rest) =
      if rest.isEmpty then address? text.reverse else none := by
  have step : (reading false text).step? (.char c) =
      (address? text.reverse).map fun address => ⟨.between, [.mailbox address], none⟩ := by
    have added : (reading false text).add? (plainAddress text) =
        (address? text.reverse).map fun address =>
          ⟨.plain text, [.mailbox address], none⟩ := by
      simp only [reading, add?, plainAddress, address?, Bool.false_eq_true, if_false]
      split <;> rfl
    have next : (reading false text).step? (.char c) =
        ((reading false text).add? (plainAddress text)).map (·.goto .between) ∨
        (reading false text).step? (.char c) =
          ((reading false text).add? (plainAddress text)).map closeGroup := by
      rcases ends with rfl | rfl
      · exact .inl rfl
      · exact .inr rfl
    rcases next with next | next <;> rw [next, added, Option.map_map] <;> rfl
  rw [found?_cons, step, Option.bind_map]
  cases rest with
  | nil => cases address? text.reverse <;> rfl
  | cons next rest =>
    rw [Option.bind_eq_none_iff.2]
    · rfl
    · intro address found
      exact found?_after (List.cons_ne_nil _ _) visible unclosed

theorem found?_reading {inside : Bool} {text rest : List Char} (unclosed : '>' ∉ rest)
    (visible : EndsVisibly rest) :
    (reading inside text).found? rest =
      (withoutComments? inside rest).bind fun kept => address? (text.reverse ++ kept) := by
  induction rest generalizing inside text with
  | nil =>
    cases inside with
    | true => rfl
    | false => simp [found?_reading_nil, withoutComments?]
  | cons c rest ih =>
    obtain ⟨other, later⟩ : c ≠ '>' ∧ '>' ∉ rest := by simpa [eq_comm] using unclosed
    have ih := fun inside text => @ih inside text later visible.tail
    cases inside with
    | true =>
      have step : (reading true text).step? (.char c) = some (reading (c != ')') text) := by
        unfold step?
        simp only [reading, if_true]
        split <;> simp_all [goto]
      rw [found?_cons, step, Option.bind_some, ih]
      rfl
    | false =>
      by_cases comment : c = '('
      · subst comment
        exact (found?_cons rest).trans (ih true text)
      by_cases ends : c = ',' ∨ c = ';'
      · rw [found?_reading_end ends text later visible.tail]
        rcases ends with rfl | rfl <;> cases rest <;> simp [withoutComments?]
      by_cases leaves : c = '<' ∨ c = ':'
      · rw [found?_cons]
        have none : withoutComments? false (c :: rest) = none := by
          rcases leaves with rfl | rfl <;> simp [withoutComments?]
        rw [none]
        cases taken : (reading false text).step? (.char c) with
        | none => rfl
        | some next =>
          refine found?_eq_none ?_ later
          rcases leaves with rfl | rfl <;> cases taken <;> rfl
      · have unmarked : isMark c = false := by simp_all [isMark]
        have kept : withoutComments? false (c :: rest) =
            (withoutComments? false rest).map (c :: ·) := by simp_all [withoutComments?]
        rw [found?_reading_cons unmarked, ih, kept]
        cases withoutComments? false rest <;> simp

structure Sound (r : Reader) : Prop where
  brackets : ∀ address, r.place = .brackets address → '>' ∉ address
  plain : ∀ text, r.place = .plain text ∨ r.place = .plainComment text →
    isBare text.reverse = true
  items : ∀ address, .mailbox address ∈ r.items → IsRead address

theorem sound_start : start.Sound where
  brackets := nofun
  plain text stands := by rcases stands with stands | stands <;> cases stands
  items := nofun

-- An address in the making is either between brackets, which the first closing one ends, or plain
-- text, which each mark ends.
theorem sound_step? (sound : r.Sound) (taken : r.step? (.char c) = some r') : r'.Sound := by
  obtain ⟨brackets, plain, items⟩ := sound
  have bare (text : List Char) (stands : r.place = .plain text) :
      isBare (plainAddress text) = true :=
    isBare_trimEnd (plain text (.inl stands))
  obtain ⟨place, held, members⟩ := r
  cases place <;> unfold step? at taken <;> simp only [between?] at taken <;>
    grind [Sound, IsRead, goto, add?, openGroup?, closeGroup, Option.map, isBare_snoc, isBare,
      isOpeningMark, isMark]

theorem sound_run? {cs : List Char} (sound : r.Sound) (taken : r.run? cs = some r') : r'.Sound := by
  induction cs generalizing r with
  | nil =>
    cases taken
    exact sound
  | cons c cs ih =>
    obtain ⟨next, first, rest⟩ := Option.bind_eq_some_iff.1 taken
    exact ih (sound_step? sound first) rest

theorem sound_finish? {items : List AddressItem} (sound : r.Sound)
    (finished : r.finish? = some items) {address : List Char}
    (member : .mailbox address ∈ items) : IsRead address := by
  unfold finish? at finished
  split at finished
  case h_1 =>
    cases finished
    exact sound.items address (by simpa using member)
  case h_2 =>
    cases finished
    exact sound.items address (by simpa using member)
  case h_3 =>
    cases finished
    exact sound.items address (by simpa using member)
  case h_4 text place alone =>
    obtain ⟨added, found, rfl⟩ := Option.map_eq_some_iff.1 finished
    rw [(add?_items found alone).1] at member
    rcases List.mem_cons.1 (List.mem_reverse.1 member) with same | held
    · cases same
      exact .inr (isBare_trimEnd (sound.plain text (.inl place)))
    · exact sound.items address held
  case h_5 => contradiction

-- Where an address comes from allows to read it again without losing it in brackets.
theorem found?_start {first : Char} {rest : List Char} (shown : Text.isBlank first = false)
    (visible : EndsVisibly rest) (read : IsRead (first :: rest)) :
    start.found? (first :: rest) =
      (respelled? (first :: rest)).bind fun b => if b.contains '@' then some b else none := by
  by_cases opening : isOpeningMark first = true
  · have unclosed : '>' ∉ rest := by
      rcases read with unclosed | bare
      · exact fun member => unclosed (List.mem_cons_of_mem _ member)
      · simp [isBare, opening] at bare
    rw [respelled?, if_pos opening, found?_cons, Option.bind_none]
    cases taken : start.step? (.char first) with
    | none => rfl
    | some next =>
      have quoted : first = '"' ∨ first = '<' ∨ first = ';' := by
        simpa [isOpeningMark, shown, or_assoc] using opening
      refine found?_eq_none ?_ unclosed
      rcases quoted with rfl | rfl | rfl <;> cases taken <;> rfl
  · have step : start.step? (.char first) = some (reading false [first]) := by
      simp only [isOpeningMark, Bool.or_eq_true, not_or, beq_iff_eq] at opening
      obtain ⟨⟨⟨h1, h2⟩, h3⟩, h4⟩ := opening
      unfold step? start
      simp [between?, reading, goto, h1, h2, h3, h4]
    rw [found?_cons, step, Option.bind_some, respelled?, if_neg opening, Option.bind_map]
    rcases read with unclosed | bare
    · exact found?_reading (fun member => unclosed (List.mem_cons_of_mem _ member)) visible
    · have unmarked : rest.all (!isMark ·) = true := by simp_all [isBare]
      rw [found?_reading_unmarked unmarked, withoutComments?_of_unmarked unmarked]
      rfl

end Reader
end AddressList

namespace Mailbox
open AddressList

/-- What an address is read as the second time. -/
def reread? (address : List Char) : Option (List Char) :=
  (respelled? address).bind fun b => (split? b).map fun _ => b

theorem parseChars?_eq {input : List Char} (shown : Text.trim input ≠ []) :
    parseChars? input = (start.found? (Text.trim input)).bind fun address =>
      (split? (Text.trim address)).map fun _ => Text.trim address := by
  rw [parseChars?, if_neg (by simpa using shown)]
  rw [Reader.found?]
  have same : ofText? (Text.trim input) = (start.run? (Text.trim input)).bind Reader.finish? := rfl
  rw [← same]
  cases ofText? (Text.trim input) with
  | none => rfl
  | some items =>
    match items with
    | [] => rfl
    | [.mailbox address] => rfl
    | [.group members] => rfl
    | first :: second :: rest => cases first <;> rfl

theorem isRead_of_parseChars? {input address : List Char}
    (parsed : parseChars? input = some address) : IsRead address := by
  obtain ⟨item, read, rfl, -⟩ := parseChars?_eq_some parsed
  obtain ⟨last, taken, finished⟩ := Option.bind_eq_some_iff.1 read
  exact (Reader.sound_finish? (Reader.sound_run? Reader.sound_start taken) finished
    (List.mem_singleton_self _)).trim

theorem parseChars?_again {input address : List Char} (parsed : parseChars? input = some address) :
    parseChars? address = reread? address := by
  obtain ⟨item, -, trimmed, parts⟩ := parseChars?_eq_some parsed
  have again : Text.trim address = address := by rw [trimmed, Text.trim_trim]
  have read := isRead_of_parseChars? parsed
  cases address with
  | nil => cases parts
  | cons first rest =>
    have shown : Text.isBlank first = false := Text.head?_trim item (by rw [← trimmed]; rfl)
    have visible : Reader.EndsVisibly rest :=
      Reader.EndsVisibly.tail fun c last => Text.getLast?_trim item (trimmed ▸ last)
    rw [parseChars?_eq (by simp [again]), again, Reader.found?_start shown visible read, reread?,
      Option.bind_assoc]
    refine Option.bind_congr fun b respelled => ?_
    have trim : Text.trim b = b := trim_respelled? shown respelled
    split
    · rw [Option.bind_some, trim]
    · next away =>
      rw [split?_of_not_mem (by simpa using away)]
      rfl

theorem reread?_self_iff {input address : List Char} (parsed : parseChars? input = some address) :
    reread? address = some address ↔ isBare address = true := by
  obtain ⟨item, -, trimmed, parts⟩ := parseChars?_eq_some parsed
  have visible : Text.trimEnd address = address := by rw [trimmed, Text.trim, Text.trimEnd_trimEnd]
  rw [← respelled?_self_iff visible, reread?, Option.bind_eq_some_iff]
  constructor
  · rintro ⟨b, respelled, found⟩
    obtain ⟨-, -, rfl⟩ := Option.map_eq_some_iff.1 found
    exact respelled
  · intro respelled
    obtain ⟨split, same⟩ := Option.isSome_iff_exists.1 parts
    exact ⟨address, respelled, by rw [same]; rfl⟩

theorem parse?_again {s a : String} (parsed : parse? s = some a) :
    parse? a = (reread? a.toList).map String.ofList := by
  rw [parse?, parseChars?_again (parse?_eq_some.1 parsed)]

theorem parse?_self_iff {s a : String} (parsed : parse? s = some a) :
    parse? a = some a ↔ isBare a.toList = true := by
  have chars := parse?_eq_some.1 parsed
  rw [parse?_eq_some, parseChars?_again chars, reread?_self_iff chars]

end Mailbox
end MailRelay
