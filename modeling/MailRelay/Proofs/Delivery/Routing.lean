import MailRelay.Delivery.Attempt
import MailRelay.Proofs.Address.Mailbox
import MailRelay.Proofs.Delivery.Consent
import MailRelay.Proofs.Message.Validation

set_option autoImplicit false

namespace MailRelay

theorem enclosed_injective {before a b : String} (same : before ++ a ++ ">" = before ++ b ++ ">") :
    a = b := by
  simpa using same

theorem envelope_injective {s s' : String} {rs rs' : List String}
    (same : envelope s rs = envelope s' rs') : s = s' ∧ rs = rs' := by
  obtain ⟨sender, recipients⟩ := List.cons.inj same
  refine ⟨enclosed_injective (DialogueEvent.command.inj sender), ?_⟩
  refine (List.map_inj_right fun a b same => ?_).1 recipients
  exact enclosed_injective (DialogueEvent.command.inj same)

def Mailbox.found (s : String) : String :=
  (parse? s).getD s

theorem Mailbox.found_eq_self_iff {s : String} (parsed : (parse? s).isSome) :
    found s = s ↔ parse? s = some s := by
  obtain ⟨a, same⟩ := Option.isSome_iff_exists.1 parsed
  simp [found, same]

namespace Message

/-- The domain that delivery asks for is the one of the first address found. -/
def RoutedAsParsed (m : Message) : Prop :=
  ∀ first ∈ m.addressees.head?, ∃ a user domain, Mailbox.parse? first = some a ∧
    Mailbox.split? a.toList = some (user, domain) ∧
    Mailbox.domain? first = some (String.ofList domain)

/-- No conversation names another sender or recipient than the addresses found. -/
def SentAsParsed (m : Message) : Prop :=
  ∀ (t : Transport) (host : String) (limit : Duration) (date : Instant) (servers : List Peer),
    (t.deliver host m limit date (.facing servers)).2.events.filter DialogueEvent.isEnvelope <+:
      envelope (Mailbox.found m.sender) (m.recipients.map Mailbox.found)

theorem sentAsParsed_iff (m : Message) :
    m.SentAsParsed ↔ ∀ s ∈ m.sender :: m.recipients, Mailbox.found s = s := by
  constructor
  · intro sent
    -- A server that consents to everything gets the whole envelope.
    let t : Transport := ⟨"", 25⟩
    have accepted := t.deliver_consenting "" m .zero .min (.failed .closed)
    have shown := (t.deliver_sends_envelope "" m .zero .min _).2 accepted
    have front := sent t "" .zero .min [.consenting m (.failed .closed)]
    rw [shown] at front
    obtain ⟨sender, recipients⟩ := envelope_injective (front.eq_of_length (by simp [envelope]))
    have unchanged : m.recipients.map Mailbox.found = m.recipients.map fun s => s := by
      rw [List.map_id', ← recipients]
    exact List.forall_mem_cons.2 ⟨sender.symm, List.map_inj_left.1 unchanged⟩
  · intro same t host limit date servers
    obtain ⟨sender, recipients⟩ := List.forall_mem_cons.1 same
    rw [sender, List.map_congr_left recipients, List.map_id']
    exact (t.deliver_sends_envelope host m limit date servers).1

theorem routedAsParsed_of_bare {m : Message}
    (bare : ∀ s ∈ m.sender :: m.recipients, Mailbox.parse? s = some s) : m.RoutedAsParsed := by
  intro first member
  have addressed : first ∈ m.recipients := by
    simp [recipients, List.mem_of_mem_head? member]
  have parsed := bare first (List.mem_cons_of_mem _ addressed)
  obtain ⟨user, domain, split, found⟩ := Mailbox.domain?_of_bare parsed
  exact ⟨first, user, domain, parsed, split, found⟩

end Message

theorem Attempt.turnTo_ne_invalidDomain (domain recipient : String) (hosts : List Exchanger) :
    turnTo domain hosts ≠ failed (.invalidDomain recipient) := by
  cases hosts <;> simp [turnTo, failed]

theorem Attempt.start_invalidDomain_iff (cache : ExchangerCache) (now : Nat) (m : Message)
    (recipient : String) :
    (start false cache now m).1 = failed (.invalidDomain recipient) ↔
      m.addressees.head? = some recipient ∧ Mailbox.domain? recipient = none := by
  unfold start
  simp only [Bool.false_eq_true, if_false]
  cases first : m.addressees.head? with
  | none => simp [failed]
  | some other =>
    simp only [Option.some.injEq]
    cases domain : Mailbox.domain? other with
    | none =>
      simp only
      constructor
      · intro same
        obtain rfl : other = recipient := by simpa [failed] using same
        exact ⟨rfl, domain⟩
      · rintro ⟨rfl, -⟩
        rfl
    | some found =>
      simp only
      constructor
      · intro same
        split at same
        · exact absurd same (turnTo_ne_invalidDomain found recipient _)
        · simp [failed] at same
      · rintro ⟨rfl, missing⟩
        simp [domain] at missing

/-- For an accepted message, delivery uses the addresses that validation finds exactly if every
address is spelled bare; and it finds no domain exactly if the first addressee holds a second at
sign. -/
theorem delivery_follows_validation_iff (m : Message) (limits : Limits)
    (accepted : m.validate limits = .ok ()) :
    (m.RoutedAsParsed ∧ m.SentAsParsed ↔
        ∀ s ∈ m.sender :: m.recipients, Mailbox.parse? s = some s) ∧
      ∀ cache now first, (Attempt.start false cache now m).1 = .failed (.invalidDomain first) ↔
        m.addressees.head? = some first ∧ 2 ≤ first.toList.count '@' := by
  obtain ⟨-, parsed⟩ := Message.validate_ok accepted
  have bare : m.SentAsParsed ↔ ∀ s ∈ m.sender :: m.recipients, Mailbox.parse? s = some s := by
    rw [m.sentAsParsed_iff]
    exact forall₂_congr fun s member => Mailbox.found_eq_self_iff (parsed s member)
  constructor
  · rw [bare]
    exact ⟨And.right, fun all => ⟨Message.routedAsParsed_of_bare all, all⟩⟩
  · intro cache now first
    rw [Attempt.start_invalidDomain_iff]
    refine and_congr_right fun head => ?_
    have member : first ∈ m.sender :: m.recipients := by
      simp [Message.recipients, List.mem_of_mem_head? head]
    obtain ⟨a, found⟩ := Option.isSome_iff_exists.1 (parsed first member)
    exact Mailbox.domain?_eq_none_iff found

theorem bare_message_follows_validation :
    (noteTo "b@example.org").RoutedAsParsed ∧ (noteTo "b@example.org").SentAsParsed := by
  have bare : ∀ s ∈ (noteTo "b@example.org").sender :: (noteTo "b@example.org").recipients,
      Mailbox.parse? s = some s := by
    simp only [noteTo, Message.new, Message.recipients, List.append_nil, List.forall_mem_cons]
    exact ⟨rfl, rfl, List.forall_mem_nil _⟩
  exact (delivery_follows_validation_iff (noteTo "b@example.org") .default rfl).1.2 bare

theorem named_addressee_is_not_followed :
    (noteTo "\"Jo\" <jo@example.com>").validate .default = .ok () ∧
      Mailbox.parse? "\"Jo\" <jo@example.com>" = some "jo@example.com" ∧
      Mailbox.domain? "\"Jo\" <jo@example.com>" = some "example.com>" ∧
      ¬ (noteTo "\"Jo\" <jo@example.com>").RoutedAsParsed ∧
      ¬ (noteTo "\"Jo\" <jo@example.com>").SentAsParsed ∧
      (noteTo "\"a@b\" <jo@example.com>").validate .default = .ok () ∧
      (Attempt.start false (.new .zero) 0 (noteTo "\"a@b\" <jo@example.com>")).1 =
        .failed (.invalidDomain "\"a@b\" <jo@example.com>") := by
  have parsed : Mailbox.parse? "\"Jo\" <jo@example.com>" = some "jo@example.com" := rfl
  have domain : Mailbox.domain? "\"Jo\" <jo@example.com>" = some "example.com>" := rfl
  -- A name and brackets are accepted, and so is an at sign in the name.
  refine ⟨rfl, parsed, domain, ?_, ?_, rfl, rfl⟩
  · intro routed
    obtain ⟨a, user, found, same, split, asked⟩ := routed _ rfl
    obtain rfl : "jo@example.com" = a := Option.some.inj (parsed.symm.trans same)
    have parts : Mailbox.split? "jo@example.com".toList =
        some ("jo".toList, "example.com".toList) := rfl
    rw [parts] at split
    cases split
    exact absurd (domain.symm.trans asked) (by decide)
  · rw [Message.sentAsParsed_iff]
    intro unchanged
    have same := unchanged "\"Jo\" <jo@example.com>" (by decide)
    rw [Mailbox.found, parsed] at same
    exact absurd same (by decide)

end MailRelay
