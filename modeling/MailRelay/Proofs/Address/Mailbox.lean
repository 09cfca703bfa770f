import MailRelay.Address.Mailbox
import MailRelay.Proofs.Address.List

set_option autoImplicit false

namespace MailRelay

namespace Mailbox

theorem before_at {user : List Char} (clear : '@' ∉ user) : ∀ c ∈ user, (c != '@') = true := by
  intro c member
  rw [bne_iff_ne]
  rintro rfl
  exact clear member

theorem split?_append {user domain : List Char} (clear : '@' ∉ user) :
    split? (user ++ '@' :: domain) =
      if user = [] ∨ domain = [] ∨ '@' ∈ domain then none else some (user, domain) := by
  have passed := before_at clear
  simp [split?, List.takeWhile_append_of_pos passed, List.dropWhile_append_of_pos passed, or_assoc]

theorem split?_of_not_mem {address : List Char} (clear : '@' ∉ address) :
    split? address = none := by
  have passed : (address ++ []).dropWhile (· != '@') = [] :=
    List.dropWhile_append_of_pos (before_at clear)
  rw [List.append_nil] at passed
  simp [split?, passed]

theorem split?_eq_some_iff {address user domain : List Char} :
    split? address = some (user, domain) ↔
      address = user ++ '@' :: domain ∧ '@' ∉ user ∧ user ≠ [] ∧ domain ≠ [] ∧ '@' ∉ domain := by
  constructor
  · intro parts
    by_cases member : '@' ∈ address
    · obtain ⟨front, back, rfl, clear⟩ := List.eq_append_cons_of_mem member
      rw [split?_append clear] at parts
      split at parts
      · contradiction
      · simp_all
    · simp [split?_of_not_mem member] at parts
  · rintro ⟨rfl, clear, named, placed, once⟩
    rw [split?_append clear, if_neg (by simp [named, placed, once])]

theorem split?_isSome_of_sublist {address text : List Char} (parts : (split? address).isSome)
    (inside : address.Sublist text) : (split? text).isSome ↔ text.count '@' = 1 := by
  constructor
  · intro some
    obtain ⟨⟨user, domain⟩, same⟩ := Option.isSome_iff_exists.1 some
    obtain ⟨rfl, clear, -, -, once⟩ := split?_eq_some_iff.1 same
    simp [List.count_eq_zero_of_not_mem clear, List.count_eq_zero_of_not_mem once]
  · intro once
    obtain ⟨⟨user, domain⟩, same⟩ := Option.isSome_iff_exists.1 parts
    obtain ⟨rfl, -, named, placed, -⟩ := split?_eq_some_iff.1 same
    obtain ⟨front, middle, rfl, before, after⟩ := List.append_sublist_iff.1 inside
    obtain ⟨middle, back, rfl, member, behind⟩ := List.cons_sublist_iff.1 after
    obtain ⟨ahead, past, rfl⟩ := List.append_of_mem member
    -- The at sign of the address is the only one of the text, so that its parts hold those of the
    -- address.
    have same : front ++ (ahead ++ '@' :: past ++ back) =
        (front ++ ahead) ++ '@' :: (past ++ back) := by simp
    rw [same, List.count_append, List.count_cons_self] at once
    have clear : '@' ∉ front ++ ahead := List.count_eq_zero.1 (by omega)
    have single : '@' ∉ past ++ back := List.count_eq_zero.1 (by omega)
    have user_found : front ≠ [] := fun empty => named (List.sublist_nil.1 (empty ▸ before))
    have domain_found : back ≠ [] := fun empty => placed (List.sublist_nil.1 (empty ▸ behind))
    rw [same, split?_append clear, if_neg (by simp_all)]
    rfl

theorem parseChars?_eq_some {input address : List Char}
    (parsed : parseChars? input = some address) :
    ∃ item, AddressList.ofText? (Text.trim input) = some [.mailbox item] ∧
      address = Text.trim item ∧ (split? address).isSome := by
  unfold parseChars? at parsed
  simp only at parsed
  split at parsed
  · contradiction
  split at parsed
  · next item read =>
    obtain ⟨parts, split, rfl⟩ := Option.map_eq_some_iff.1 parsed
    exact ⟨item, read, rfl, by simp [split]⟩
  · contradiction

theorem parseChars?_sublist {input address : List Char}
    (parsed : parseChars? input = some address) :
    address.Sublist (withoutBrackets (Text.trim input)) := by
  obtain ⟨item, read, rfl, -⟩ := parseChars?_eq_some parsed
  refine (Text.trim_sublist item).trans ?_
  have whole := AddressList.sublist_of_ofText? read (List.mem_cons_self ..)
  unfold withoutBrackets
  split
  · next rest begins =>
    split
    · next closed =>
      -- The address ends before the first closing bracket, which is at most the one left out.
      rw [begins] at read
      obtain ⟨same, more, split⟩ := AddressList.takeWhile_of_ofText? read
      cases same
      generalize rest.takeWhile (· != '>') = inner at split
      rw [split, List.dropLast_append_of_ne_nil (by simp)]
      exact List.sublist_append_left _ _
    · exact whole
  · exact whole

theorem withoutBrackets_sublist (text : List Char) : (withoutBrackets text).Sublist text := by
  unfold withoutBrackets
  split
  · split
    · exact (List.dropLast_sublist _).trans (List.sublist_cons_self _ _)
    · exact List.Sublist.refl _
  · exact List.Sublist.refl _

theorem count_withoutBrackets (text : List Char) :
    (withoutBrackets text).count '@' = text.count '@' := by
  unfold withoutBrackets
  split
  · next rest =>
    split
    · next closed =>
      obtain ⟨inner, rfl⟩ := List.getLast?_eq_some_iff.1 (beq_iff_eq.1 closed)
      simp
    · rfl
  · rfl

theorem parse?_eq_some {s a : String} :
    parse? s = some a ↔ parseChars? s.toList = some a.toList := by
  rw [parse?, Option.map_eq_some_iff]
  constructor
  · rintro ⟨address, parsed, rfl⟩
    simpa using parsed
  · intro parsed
    exact ⟨_, parsed, String.ofList_toList⟩

theorem domain?_eq_none_iff {s a : String} (parsed : parse? s = some a) :
    domain? s = none ↔ 2 ≤ s.toList.count '@' := by
  have chars := parse?_eq_some.1 parsed
  obtain ⟨item, -, -, parts⟩ := parseChars?_eq_some chars
  have inside := parseChars?_sublist chars
  have single := split?_isSome_of_sublist parts inside
  have present := (split?_isSome_of_sublist parts (List.Sublist.refl _)).1 parts
  have counted := inside.count_le '@'
  rw [count_withoutBrackets, Text.count_trim (by decide)] at single counted
  rw [domain?, Option.map_eq_none_iff, ← Option.not_isSome_iff_eq_none, single]
  omega

theorem domain?_of_bare {s : String} (bare : parse? s = some s) :
    ∃ user domain, split? s.toList = some (user, domain) ∧
      domain? s = some (String.ofList domain) := by
  have chars := parse?_eq_some.1 bare
  obtain ⟨item, read, trimmed, parts⟩ := parseChars?_eq_some chars
  have inside := parseChars?_sublist chars
  -- Nothing is left out of the spelling, since the address is within what is kept.
  have outside := (withoutBrackets_sublist _).trans (Text.trim_sublist s.toList)
  have same := inside.eq_of_length_le outside.length_le
  obtain ⟨⟨user, domain⟩, split⟩ := Option.isSome_iff_exists.1 parts
  exact ⟨user, domain, split, by rw [domain?, ← same, split]; rfl⟩

end Mailbox

end MailRelay
