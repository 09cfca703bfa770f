import MailRelay.Proofs.SortedMap
import MailRelay.Smtp.Ingest
import Mathlib.Data.List.Induction

set_option autoImplicit false

namespace MailRelay

namespace Header

theorem find?_of_same {name other : String} (same : Text.lowercase name = Text.lowercase other)
    (header : Header) : header.find? name = header.find? other := by
  simp only [find?, Text.sameLetters, same]

theorem find?_snoc (header : Header) (f : HeaderField) (name : String) :
    Header.find? (header ++ [f]) name =
      (header.find? name).or
        (if Text.lowercase f.nameText = Text.lowercase name then some f else none) := by
  rw [find?, List.find?_append]
  congr 1
  by_cases same : Text.lowercase f.nameText = Text.lowercase name <;> simp [Text.sameLetters, same]

theorem name_of_find? {header : Header} {name : String} {f : HeaderField}
    (found : header.find? name = some f) : Text.lowercase f.nameText = Text.lowercase name := by
  simpa [Text.sameLetters] using List.find?_some found

end Header

namespace Ingest

theorem isRegenerated_of_same {name other : String}
    (same : Text.lowercase name = Text.lowercase other) :
    isRegenerated name = isRegenerated other := by
  have letters : Text.sameLetters name = Text.sameLetters other :=
    funext fun t => by rw [Text.sameLetters, Text.sameLetters, same]
  rw [isRegenerated, isRegenerated, letters]

theorem keys_any_iff {kept : Headers} {name : String} :
    kept.keys.any (Text.sameLetters name) = true ↔
      ∃ field ∈ kept.entries, Text.lowercase name = Text.lowercase field.1 := by
  simp [SortedMap.keys, Text.sameLetters]

variable [ForeignDecoders] (header : Header) (recipients : List String)

def isCopied (recipient : String) : Bool :=
  isListed (listedAddresses header "Cc") recipient

def isBlind (recipient : String) : Bool :=
  isListed (listedAddresses header "Bcc") recipient && !isCopied header recipient

def isSeen (recipient : String) : Bool := !isBlind header recipient

def isDirect (recipient : String) : Bool :=
  isSeen header recipient && !isCopied header recipient

theorem file_eq : file header recipients =
    if !(recipients.filter (isDirect header)).isEmpty then
      ⟨recipients.filter (isDirect header), recipients.filter (isCopied header),
        recipients.filter (isBlind header)⟩
    else if !(recipients.filter (isCopied header)).isEmpty then
      ⟨recipients.filter (isCopied header), [], recipients.filter (isBlind header)⟩
    else ⟨recipients.filter (isBlind header), [], []⟩ := by
  have direct : (isDirect header) = fun r =>
      !isListed (listedAddresses header "Bcc") r && !isListed (listedAddresses header "Cc") r := by
    funext r
    simp only [isDirect, isSeen, isBlind, isCopied]
    cases isListed (listedAddresses header "Cc") r <;> simp
  simp only [file, List.filter_filter, direct]
  rfl

theorem isSeen_of_isCopied {recipient : String} (copied : isCopied header recipient = true) :
    isSeen header recipient = true := by
  simp [isSeen, isBlind, copied]

theorem isSeen_of_isDirect {recipient : String} (direct : isDirect header recipient = true) :
    isSeen header recipient = true :=
  (Bool.and_eq_true_iff.1 direct).1

theorem filter_seen {test : String → Bool} (seen : ∀ r, test r = true → isSeen header r = true) :
    (recipients.filter (isSeen header)).filter test = recipients.filter test := by
  rw [List.filter_filter]
  refine List.filter_congr fun r _ => ?_
  cases tested : test r with
  | false => rfl
  | true => exact seen r tested

theorem seen_perm :
    (recipients.filter (isDirect header) ++ recipients.filter (isCopied header)).Perm
      (recipients.filter (isSeen header)) := by
  have direct : recipients.filter (isDirect header) =
      (recipients.filter (isSeen header)).filter fun r => !isCopied header r := by
    rw [List.filter_filter]
    exact List.filter_congr fun r _ => Bool.and_comm _ _
  rw [direct, ← filter_seen header recipients fun _ => isSeen_of_isCopied header]
  exact List.perm_append_comm.trans (List.filter_append_perm _ _)

theorem file_cases :
    recipients.filter (isDirect header) ≠ [] ∧
        file header recipients = ⟨recipients.filter (isDirect header),
          recipients.filter (isCopied header), recipients.filter (isBlind header)⟩ ∨
      recipients.filter (isDirect header) = [] ∧ recipients.filter (isCopied header) ≠ [] ∧
        file header recipients =
          ⟨recipients.filter (isCopied header), [], recipients.filter (isBlind header)⟩ ∨
      recipients.filter (isDirect header) = [] ∧ recipients.filter (isCopied header) = [] ∧
        file header recipients = ⟨recipients.filter (isBlind header), [], []⟩ := by
  rw [file_eq]
  cases recipients.filter (isDirect header) with
  | cons r rest => exact .inl ⟨List.cons_ne_nil r rest, rfl⟩
  | nil =>
    cases recipients.filter (isCopied header) with
    | cons r rest => exact .inr (.inl ⟨rfl, List.cons_ne_nil r rest, rfl⟩)
    | nil => exact .inr (.inr ⟨rfl, rfl, rfl⟩)

theorem parts_perm :
    (recipients.filter (isDirect header) ++ recipients.filter (isCopied header) ++
      recipients.filter (isBlind header)).Perm recipients :=
  ((seen_perm header recipients).append_right _).trans
    (List.perm_append_comm.trans (List.filter_append_perm (isBlind header) recipients))

theorem file_perm :
    ((file header recipients).addressees ++ (file header recipients).cc ++
      (file header recipients).bcc).Perm recipients := by
  have parts := parts_perm header recipients
  rcases file_cases header recipients with ⟨-, filed⟩ | ⟨none, -, filed⟩ | ⟨none, copied, filed⟩
  · rwa [filed]
  · rw [none] at parts
    simpa [filed] using parts
  · rw [none, copied] at parts
    simpa [filed] using parts

theorem file_addressees (named : recipients ≠ []) : (file header recipients).addressees ≠ [] := by
  have parts := parts_perm header recipients
  rcases file_cases header recipients with
    ⟨direct, filed⟩ | ⟨-, copied, filed⟩ | ⟨direct, copied, filed⟩
  · rwa [filed]
  · rwa [filed]
  · rw [direct, copied] at parts
    rw [filed]
    intro (blind : recipients.filter (isBlind header) = [])
    rw [blind] at parts
    exact named parts.nil_eq.symm

/-- Whether a custom field is the first one of its name in a header, and not written anew. -/
def IsCustom (header : Header) (field : String × String) : Prop :=
  isRegenerated field.1 = false ∧
    ∃ f, header.find? field.1 = some f ∧ field = (f.nameText, f.value)

variable {header} {f : HeaderField} {field : String × String}

theorem isCustom_snoc_of_first (free : isRegenerated f.nameText = false)
    (first : header.find? f.nameText = none) :
    IsCustom (header ++ [f]) field ↔ field = (f.nameText, f.value) ∨ IsCustom header field := by
  rw [IsCustom, Header.find?_snoc]
  constructor
  · rintro ⟨regular, g, found, same⟩
    cases earlier : header.find? field.1 with
    | some h =>
      rw [earlier, Option.some_or] at found
      exact .inr ⟨regular, g, earlier.trans found, same⟩
    | none =>
      rw [earlier, Option.none_or] at found
      split at found
      · cases found
        exact .inl same
      · cases found
  · rintro (rfl | ⟨regular, g, found, same⟩)
    · exact ⟨free, f, by simp [first], rfl⟩
    · exact ⟨regular, g, by rw [found, Option.some_or], same⟩

theorem isCustom_snoc_of_later
    (earlier : isRegenerated f.nameText = true ∨ ∃ g, header.find? f.nameText = some g) :
    IsCustom (header ++ [f]) field ↔ IsCustom header field := by
  rw [IsCustom, IsCustom, Header.find?_snoc]
  refine and_congr_right fun regular => ?_
  by_cases same : Text.lowercase f.nameText = Text.lowercase field.1
  · rw [isRegenerated_of_same same, regular, Header.find?_of_same same] at earlier
    obtain ⟨g, found⟩ := earlier.resolve_left Bool.false_ne_true
    rw [found, Option.some_or]
  · rw [if_neg same, Option.or_none]

theorem isCustom_of_find? {g : HeaderField} {name : String} (free : isRegenerated name = false)
    (found : header.find? name = some g) : IsCustom header (g.nameText, g.value) := by
  have same := Header.name_of_find? found
  exact ⟨(isRegenerated_of_same same).trans free, g, (Header.find?_of_same same header).trans found,
    rfl⟩

theorem mem_customFields_iff : field ∈ (customFields header).entries ↔ IsCustom header field := by
  induction header using List.reverseRecOn generalizing field with
  | nil => simp [customFields, SortedMap.empty, IsCustom, Header.find?]
  | append_singleton header f ih =>
    have taken : (customFields header).keys.any (Text.sameLetters f.nameText) = true ↔
        ∃ field, IsCustom header field ∧ Text.lowercase f.nameText = Text.lowercase field.1 := by
      simp only [keys_any_iff, ih]
    have next : customFields (header ++ [f]) = keepField (customFields header) f := by
      simp [customFields]
    rw [next, keepField]
    split
    · next skipped =>
      rw [ih, isCustom_snoc_of_later]
      rw [Bool.or_eq_true, taken] at skipped
      refine skipped.imp_right ?_
      rintro ⟨field, ⟨-, g, found, -⟩, same⟩
      exact ⟨g, (Header.find?_of_same same header).trans found⟩
    · next kept =>
      rw [Bool.or_eq_true, not_or, taken, Bool.not_eq_true] at kept
      obtain ⟨free, fresh⟩ := kept
      have first : Header.find? header f.nameText = none := by
        cases found : Header.find? header f.nameText with
        | none => rfl
        | some g =>
          have custom := isCustom_of_find? free found
          exact absurd ⟨_, custom, (Header.name_of_find? found).symm⟩ fresh
      have absent : (customFields header).get? f.nameText = none := by
        cases held : (customFields header).get? f.nameText with
        | none => rfl
        | some value =>
          have custom := ih.1 (SortedMap.get?_eq_some_iff.1 held)
          exact absurd ⟨_, custom, rfl⟩ fresh
      rw [SortedMap.mem_insert_iff absent, ih, isCustom_snoc_of_first free first]

theorem existsUnique_customField (among : f ∈ header) (free : isRegenerated f.nameText = false) :
    ∃! field, field ∈ (customFields header).entries ∧
      Text.sameLetters field.1 f.nameText = true := by
  have named : (header.find? f.nameText).isSome = true :=
    List.find?_isSome.2 ⟨f, among, by simp [Text.sameLetters]⟩
  obtain ⟨g, found⟩ := Option.isSome_iff_exists.1 named
  have custom := mem_customFields_iff.2 (isCustom_of_find? free found)
  refine ⟨(g.nameText, g.value), ⟨custom, beq_iff_eq.2 (Header.name_of_find? found)⟩, ?_⟩
  rintro field ⟨member, letters⟩
  obtain ⟨-, h, first, rfl⟩ := mem_customFields_iff.1 member
  rw [Header.find?_of_same (beq_iff_eq.1 letters), found] at first
  cases first
  rfl

variable (header) in
theorem mem_customFields (member : field ∈ (customFields header).entries) :
    isRegenerated field.1 = false ∧ ∃ f ∈ header, f.nameText = field.1 := by
  obtain ⟨free, f, found, rfl⟩ := mem_customFields_iff.1 member
  exact ⟨free, f, List.mem_of_find?_eq_some found, rfl⟩

end Ingest

namespace Message

variable [ForeignDecoders] {id sender : String} {recipients : List String} {raw : Bytes}
variable {now : Instant} {m : Message}

def ofParts (id sender : String) (recipients : List String) (header : Header)
    (content : Ingest.Content) (now : Instant) : Message :=
  let envelope := Ingest.file header recipients
  { Message.new id sender envelope.addressees ((header.value? "Subject").getD "") now with
    cc := envelope.cc
    bcc := envelope.bcc
    headers := Ingest.customFields header
    body := content.body
    html := content.html
    attachments := content.attachments }

theorem ofMail_of_read {header : Header} {part : Part}
    (read : Part.read false raw = .ok (header, part)) :
    ofMail id sender recipients raw now =
      (Ingest.collect ⟨"", none, []⟩ part).map fun content =>
        ofParts id sender recipients header content now := by
  simp only [ofMail, read, bind, Except.bind]
  cases Ingest.collect ⟨"", none, []⟩ part <;> rfl

theorem ofMail_eq_ok (made : ofMail id sender recipients raw now = .ok m) :
    ∃ header part content, Part.read false raw = .ok (header, part) ∧
      Ingest.collect ⟨"", none, []⟩ part = .ok content ∧
      m = ofParts id sender recipients header content now := by
  cases read : Part.read false raw with
  | error e =>
    unfold ofMail at made
    rw [read] at made
    cases made
  | ok mail =>
    obtain ⟨header, part⟩ := mail
    rw [ofMail_of_read read] at made
    cases gathered : Ingest.collect ⟨"", none, []⟩ part with
    | error e =>
      rw [gathered] at made
      cases made
    | ok content =>
      rw [gathered] at made
      cases made
      exact ⟨header, part, content, rfl, gathered, rfl⟩

theorem ofMail_ok (made : ofMail id sender recipients raw now = .ok m) :
    m.id = id ∧ m.sender = sender ∧ m.recipients.Perm recipients ∧
      (recipients ≠ [] → m.addressees ≠ []) := by
  obtain ⟨header, part, content, -, -, rfl⟩ := ofMail_eq_ok made
  exact ⟨rfl, rfl, Ingest.file_perm header recipients, Ingest.file_addressees header recipients⟩

end Message

end MailRelay
