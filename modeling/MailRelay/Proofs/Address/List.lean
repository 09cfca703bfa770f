import MailRelay.Address.List
import MailRelay.Proofs.Text.Blank

set_option autoImplicit false

namespace MailRelay.AddressList

open List (Sublist)

-- The text that may still become an address.
def Place.text : Place → List Char
  | brackets address => address.reverse
  | plain text | plainComment text => text.reverse
  | between | opened | quotedName | escapedChar | afterQuotedName | afterBrackets | encodedName
  | bracketsComment => []

namespace Reader

/-- What reading one character may do. The text grows by that character at most; of the items, a new
mailbox is part of the text read before. -/
inductive Takes (r : Reader) (c : Char) (r' : Reader) : Prop where
  | keeps (items : r'.items = r.items)
      (text : r'.place.text.Sublist (r.place.text ++ [c])) : Takes r c r'
  | mailbox {address : List Char} (items : r'.items = .mailbox address :: r.items)
      (within : address.Sublist r.place.text) (text : r'.place.text = []) : Takes r c r'
  | group {members : List (List Char)} (items : r'.items = .group members :: r.items)
      (text : r'.place.text = []) : Takes r c r'

theorem plainAddress_sublist (text : List Char) : (plainAddress text).Sublist text.reverse :=
  Text.trimEnd_sublist _

variable {r r' : Reader} {c : Char} {place : Place}

theorem takes_goto (text : place.text.Sublist (r.place.text ++ [c])) : Takes r c (r.goto place) :=
  .keeps rfl text

theorem takes_openGroup? (opened : r.openGroup? = some r') : Takes r c r' := by
  unfold openGroup? at opened
  split at opened
  · contradiction
  · cases opened
    exact .keeps rfl (List.nil_sublist _)

theorem takes_closeGroup : Takes r c r.closeGroup := by
  unfold closeGroup
  split
  · exact .group rfl rfl
  · exact takes_goto (List.nil_sublist _)

theorem takes_add? {address : List Char} (added : r.add? address = some r')
    (within : address.Sublist r.place.text) (text : place.text = []) :
    Takes r c (r'.goto place) := by
  unfold add? at added
  split at added
  · split at added
    · cases added
      exact .keeps rfl (text ▸ List.nil_sublist _)
    · cases added
      exact .mailbox rfl within text
  · contradiction

theorem takes_closeGroup_of_add? {address : List Char} (added : r.add? address = some r')
    (within : address.Sublist r.place.text) : Takes r c r'.closeGroup := by
  unfold add? at added
  split at added
  · split at added
    · cases added
      exact .group rfl rfl
    · cases added
      rename_i alone
      simp only [closeGroup, alone]
      exact .mailbox rfl within rfl
  · contradiction

theorem takes_same : Takes r c r :=
  .keeps rfl (List.sublist_append_left _ _)

theorem takes_grown {text : List Char} (before : r.place.text = text.reverse)
    (after : place.text = (c :: text).reverse) : Takes r c (r.goto place) :=
  takes_goto (by simp [after, before])

theorem takes_between? (taken : r.between? (.char c) = some r') : Takes r c r' := by
  unfold between? at taken
  simp only at taken
  split at taken
  · cases taken
    exact takes_goto (List.nil_sublist _)
  split at taken
  · cases taken
    exact takes_goto (List.nil_sublist _)
  split at taken
  · cases taken
    exact takes_goto (List.nil_sublist _)
  split at taken
  · split at taken
    · cases taken
      exact takes_closeGroup
    · contradiction
  · cases taken
    exact takes_goto (List.sublist_append_right _ _)

theorem takes_brackets {address : List Char} (place : r.place = .brackets address)
    (taken : r.step? (.char c) = some r') : Takes r c r' := by
  have text : r.place.text = address.reverse := by rw [place]; rfl
  unfold step? at taken
  simp only [place] at taken
  split at taken
  · obtain ⟨added, found, rfl⟩ := Option.map_eq_some_iff.1 taken
    exact takes_add? found (text ▸ List.Sublist.refl _) rfl
  · next same =>
    cases same
    cases taken
    exact takes_grown text rfl
  · contradiction
  · contradiction

theorem takes_afterBrackets (place : r.place = .afterBrackets)
    (taken : r.step? (.char c) = some r') : Takes r c r' := by
  unfold step? at taken
  simp only [place] at taken
  split at taken
  · cases taken
    exact takes_same
  split at taken
  · cases taken
    exact takes_goto (List.nil_sublist _)
  split at taken
  · cases taken
    exact takes_closeGroup
  split at taken
  · cases taken
    exact takes_goto (List.nil_sublist _)
  · contradiction

theorem takes_plain {read : List Char} (place : r.place = .plain read)
    (taken : r.step? (.char c) = some r') : Takes r c r' := by
  have text : r.place.text = read.reverse := by rw [place]; rfl
  have within : (plainAddress read).Sublist r.place.text := text ▸ plainAddress_sublist read
  unfold step? at taken
  simp only [place] at taken
  split at taken
  · cases taken
    exact takes_goto (List.nil_sublist _)
  · obtain ⟨added, found, rfl⟩ := Option.map_eq_some_iff.1 taken
    exact takes_add? found within rfl
  · obtain ⟨added, found, rfl⟩ := Option.map_eq_some_iff.1 taken
    exact takes_closeGroup_of_add? found within
  · exact takes_openGroup? taken
  · cases taken
    exact takes_goto (text ▸ List.sublist_append_left _ _)
  · next same =>
    cases same
    cases taken
    exact takes_grown text rfl
  · contradiction
  · contradiction

-- Only within brackets and in plain text does the place hold text that the character may join.
theorem takes_step? (taken : r.step? (.char c) = some r') : Takes r c r' := by
  cases place : r.place with
  | brackets address => exact takes_brackets place taken
  | afterBrackets => exact takes_afterBrackets place taken
  | plain text => exact takes_plain place taken
  | between | opened =>
    unfold step? at taken
    simp only [place] at taken
    exact takes_between? taken
  | quotedName =>
    unfold step? at taken
    simp only [place] at taken
    split at taken <;> cases taken
    · exact takes_goto (List.nil_sublist _)
    · exact takes_goto (List.nil_sublist _)
    · exact takes_same
  | escapedChar =>
    unfold step? at taken
    simp only [place] at taken
    cases taken
    exact takes_goto (List.nil_sublist _)
  | afterQuotedName =>
    unfold step? at taken
    simp only [place] at taken
    split at taken
    · cases taken
      exact takes_goto (List.nil_sublist _)
    · exact takes_openGroup? taken
    · cases taken
      exact takes_goto (List.nil_sublist _)
    · contradiction
    · cases taken
      exact takes_same
  | encodedName =>
    unfold step? at taken
    simp only [place] at taken
    split at taken
    · cases taken
      exact takes_goto (List.nil_sublist _)
    · exact takes_openGroup? taken
    · cases taken
      exact takes_same
  | bracketsComment =>
    unfold step? at taken
    simp only [place] at taken
    split at taken <;> cases taken
    · exact takes_goto (List.nil_sublist _)
    · exact takes_same
  | plainComment text =>
    unfold step? at taken
    simp only [place] at taken
    split at taken <;> cases taken
    · exact takes_goto (by rw [place]; exact List.sublist_append_left _ _)
    · exact takes_same

structure Within (read : List Char) (r : Reader) : Prop where
  text : r.place.text.Sublist read
  items : ∀ address, .mailbox address ∈ r.items → address.Sublist read

namespace Takes

theorem suffix (takes : Takes r c r') : r.items <:+ r'.items := by
  cases takes with
  | keeps items => exact items ▸ List.suffix_rfl
  | mailbox items => exact items ▸ List.suffix_cons _ _
  | group items => exact items ▸ List.suffix_cons _ _

theorem within (takes : Takes r c r') {read : List Char} (within : Within read r) :
    Within (read ++ [c]) r' := by
  have older (address : List Char) (member : .mailbox address ∈ r.items) :
      address.Sublist (read ++ [c]) :=
    (within.items address member).trans (List.sublist_append_left _ _)
  cases takes with
  | keeps items text =>
    refine ⟨text.trans (within.text.append_right _), ?_⟩
    rw [items]
    exact older
  | mailbox items inside text =>
    refine ⟨text ▸ List.nil_sublist _, ?_⟩
    rw [items]
    intro address member
    rcases List.mem_cons.1 member with same | member
    · cases same
      exact (inside.trans within.text).trans (List.sublist_append_left _ _)
    · exact older address member
  | group items text =>
    refine ⟨text ▸ List.nil_sublist _, ?_⟩
    rw [items]
    intro address member
    rcases List.mem_cons.1 member with same | member
    · cases same
    · exact older address member

end Takes

def run? (r : Reader) (cs : List Char) : Option Reader :=
  (cs.map .char).foldlM step? r

theorem run?_within {read cs : List Char} (taken : r.run? cs = some r') (within : Within read r) :
    Within (read ++ cs) r' := by
  induction cs generalizing r read with
  | nil =>
    cases taken
    simpa using within
  | cons c cs ih =>
    obtain ⟨next, first, rest⟩ := Option.bind_eq_some_iff.1 taken
    simpa using ih rest ((takes_step? first).within within)

theorem run?_suffix {cs : List Char} (taken : r.run? cs = some r') : r.items <:+ r'.items := by
  induction cs generalizing r with
  | nil =>
    cases taken
    exact List.suffix_rfl
  | cons c cs ih =>
    obtain ⟨next, first, rest⟩ := Option.bind_eq_some_iff.1 taken
    exact (takes_step? first).suffix.trans (ih rest)

theorem add?_items {address : List Char} (added : r.add? address = some r')
    (alone : r.members = none) : r'.items = .mailbox address :: r.items ∧ r'.members = none := by
  unfold add? at added
  split at added
  · simp only [alone, Option.some.injEq] at added
    simp [← added]
  · contradiction

inductive Ends (r : Reader) : List AddressItem → Prop where
  | nothing : Ends r r.items.reverse
  | mailbox {address : List Char} (within : address.Sublist r.place.text) :
      Ends r (.mailbox address :: r.items).reverse
  | group (members : List (List Char)) : Ends r (.group members :: r.items).reverse

theorem ends_finish? {items : List AddressItem} (finished : r.finish? = some items) :
    r.Ends items := by
  unfold finish? at finished
  split at finished
  case h_1 =>
    cases finished
    exact .group _
  case h_2 =>
    cases finished
    exact .nothing
  case h_3 =>
    cases finished
    exact .nothing
  case h_4 text place alone =>
    obtain ⟨added, found, rfl⟩ := Option.map_eq_some_iff.1 finished
    rw [(add?_items found alone).1]
    exact .mailbox (by rw [place]; exact plainAddress_sublist text)
  case h_5 => contradiction

theorem Ends.within {read : List Char} {items : List AddressItem} (ends : r.Ends items)
    (within : Within read r) {address : List Char} (member : .mailbox address ∈ items) :
    address.Sublist read := by
  cases ends with
  | nothing => exact within.items address (List.mem_reverse.1 member)
  | mailbox inside =>
    rcases List.mem_cons.1 (List.mem_reverse.1 member) with same | member
    · cases same
      exact inside.trans within.text
    · exact within.items address member
  | group members =>
    rcases List.mem_cons.1 (List.mem_reverse.1 member) with same | member
    · cases same
    · exact within.items address member

theorem Ends.front {items : List AddressItem} (ends : r.Ends items) :
    r.items.reverse <+: items := by
  cases ends <;> simp

theorem run?_brackets {read cs : List Char} {items all : List AddressItem} {last : Reader}
    (taken : run? ⟨.brackets read, items, none⟩ cs = some last)
    (finished : last.finish? = some all) :
    ∃ rest, cs = cs.takeWhile (· != '>') ++ '>' :: rest ∧
      (.mailbox (read.reverse ++ cs.takeWhile (· != '>')) :: items).reverse <+: all := by
  -- Until the bracket closes, every character goes to the address; a text cannot end before that.
  induction cs generalizing read with
  | nil =>
    cases taken
    simp [finish?] at finished
  | cons c cs ih =>
    obtain ⟨next, first, more⟩ := Option.bind_eq_some_iff.1 taken
    by_cases closing : c = '>'
    · subst closing
      obtain ⟨added, found, rfl⟩ := Option.map_eq_some_iff.1 first
      have kept := List.reverse_prefix.2 (run?_suffix more)
      refine ⟨cs, by simp, ?_⟩
      rw [List.takeWhile_cons_of_neg (by simp), List.append_nil, ← (add?_items found rfl).1]
      exact kept.trans (ends_finish? finished).front
    · have inside : next = ⟨.brackets (c :: read), items, none⟩ := by
        unfold step? at first
        simp only at first
        cases first
        rfl
      subst inside
      obtain ⟨rest, split, kept⟩ := ih more
      have passed : (c :: cs).takeWhile (· != '>') = c :: cs.takeWhile (· != '>') :=
        List.takeWhile_cons_of_pos (by simpa using closing)
      refine ⟨rest, by rw [passed, List.cons_append, ← split], ?_⟩
      simpa [passed] using kept

end Reader

theorem sublist_of_ofText? {s address : List Char} {items : List AddressItem}
    (parsed : ofText? s = some items) (member : .mailbox address ∈ items) : address.Sublist s := by
  obtain ⟨last, taken, finished⟩ := Option.bind_eq_some_iff.1 parsed
  have empty : Reader.Within [] start := ⟨List.nil_sublist _, by simp [start]⟩
  exact (Reader.ends_finish? finished).within (Reader.run?_within taken empty) member

theorem takeWhile_of_ofText? {s : List Char} {item : AddressItem}
    (parsed : ofText? ('<' :: s) = some [item]) :
    item = .mailbox (s.takeWhile (· != '>')) ∧
      ∃ rest, s = s.takeWhile (· != '>') ++ '>' :: rest := by
  obtain ⟨last, taken, finished⟩ := Option.bind_eq_some_iff.1 parsed
  have opened : Reader.run? ⟨.brackets [], [], none⟩ s = some last := taken
  obtain ⟨rest, split, kept⟩ := Reader.run?_brackets opened finished
  obtain ⟨rest', same⟩ := kept
  refine ⟨?_, rest, split⟩
  simpa using (List.cons.inj same).1.symm

end MailRelay.AddressList
