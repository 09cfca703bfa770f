import MailRelay.Message.Validation
import MailRelay.Proofs.Delivery.Consent
import MailRelay.Proofs.Text.Utf8

set_option autoImplicit false

namespace MailRelay

namespace DialogueEvent

theorem isLine_enclosed (before address : String) (clean : Text.hasLineBreak before = false) :
    IsLine (command (before ++ address ++ ">")).sent ↔ Text.hasLineBreak address = false := by
  have ending : Text.hasLineBreak ">" = false := by decide
  rw [sent, isLine_ofString_iff, Text.hasLineBreak_append, Text.hasLineBreak_append, clean, ending]
  simp

end DialogueEvent

theorem envelope_isLine_iff (sender : String) (recipients : List String) :
    (∀ e ∈ envelope sender recipients, IsLine e.sent) ↔
      ∀ address ∈ sender :: recipients, Text.hasLineBreak address = false := by
  have mail := DialogueEvent.isLine_enclosed "MAIL FROM:<" sender (by decide)
  have rcpt (recipient : String) :=
    DialogueEvent.isLine_enclosed "RCPT TO:<" recipient (by decide)
  simp only [envelope, List.forall_mem_cons, List.forall_mem_map, mail, rcpt]

namespace Transport

theorem envelope_commands_are_lines_iff (t : Transport) (host : String) (m : Message)
    (limit : Duration) (date : Instant) :
    (∀ servers, ∀ e ∈ (t.deliver host m limit date (.facing servers)).2.events,
        e.isEnvelope = true → IsLine e.sent) ↔
      ∀ address ∈ m.sender :: m.recipients, Text.hasLineBreak address = false := by
  rw [← envelope_isLine_iff]
  constructor
  · intro lines e member
    -- A server that consents to everything gets to see the whole envelope.
    have accepted := t.deliver_consenting host m limit date (.failed .closed)
    have shown := (t.deliver_sends_envelope host m limit date _).2 accepted
    rw [← shown, List.mem_filter] at member
    exact lines _ e member.1 member.2
  · intro lines servers e member named
    have front := (t.deliver_sends_envelope host m limit date servers).1
    exact lines e (front.subset (List.mem_filter.2 ⟨member, named⟩))

end Transport

-- A mailbox whose display name holds line breaks.
def brokenRecipient : String :=
  "\"\r\nRCPT TO:<victim@example.net>\r\n\" <jo@example.org>"

theorem accepted_recipient_brings_a_command :
    (noteTo brokenRecipient).validate .default = .ok () ∧
      ∃ e ∈ (Transport.deliver ⟨"relay", 25⟩ "mx" (noteTo brokenRecipient) (.ofSecs 30) .min
          (.facing [.consenting (noteTo brokenRecipient) (.failed .closed)])).2.events,
        e.isEnvelope = true ∧ ¬ IsLine e.sent ∧
          [13, 10] ++ Utf8.ofString "RCPT TO:<victim@example.net>\r\n" <:+: e.sent := by
  refine ⟨rfl, ?_⟩
  have accepted := Transport.deliver_consenting ⟨"relay", 25⟩ "mx" (noteTo brokenRecipient)
    (.ofSecs 30) .min (.failed .closed)
  have shown := (Transport.deliver_sends_envelope _ _ _ _ _ _).2 accepted
  have member : DialogueEvent.command ("RCPT TO:<" ++ brokenRecipient ++ ">") ∈
      envelope (noteTo brokenRecipient).sender (noteTo brokenRecipient).recipients := by
    simp [envelope, noteTo, Message.recipients, Message.new]
  rw [← shown, List.mem_filter] at member
  refine ⟨_, member.1, member.2, ?_, ?_⟩
  · rw [DialogueEvent.isLine_enclosed _ _ (by decide)]
    decide
  · decide

end MailRelay
