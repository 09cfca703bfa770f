import MailRelay.Proofs.Delivery.Conversation
import MailRelay.Proofs.Smtp.Answering

set_option autoImplicit false

namespace MailRelay

def greetingBytes : Bytes := [50, 50, 48, 13] ++ [10]
def consentBytes : Bytes := [50, 53, 48, 13] ++ [10]
def inviteBytes : Bytes := [51, 53, 52, 13] ++ [10]

theorem greeting_spelled : Reply.Spelled ⟨220, [""]⟩ greetingBytes :=
  Reply.spelled_of_ascii [50, 50, 48, 13] (by decide) (by simp) (by decide) rfl rfl

theorem consent_spelled : Reply.Spelled ⟨250, [""]⟩ consentBytes :=
  Reply.spelled_of_ascii [50, 53, 48, 13] (by decide) (by simp) (by decide) rfl rfl

theorem invite_spelled : Reply.Spelled ⟨354, [""]⟩ inviteBytes :=
  Reply.spelled_of_ascii [51, 53, 52, 13] (by decide) (by simp) (by decide) rfl rfl

def toEnvelope (recipients : Nat) : List Bytes :=
  [consentBytes] ++ (List.replicate recipients consentBytes ++ [inviteBytes])

-- The greeting of the client, the envelope and the content each get what they ask for.
def consents (recipients : Nat) : List Bytes :=
  greetingBytes :: consentBytes :: (toEnvelope recipients ++ [consentBytes])

def noteTo (addressee : String) : Message :=
  { Message.new "m" "a@example.com" [addressee] "s" .min with body := "b" }

def Peer.consenting (m : Message) (ending : Halt ClientError) : Peer :=
  .answering (consents m.recipients.length) ending

namespace Transport

open Dialogue

theorem yields_expect {r : Reply} (success : r.isSuccess = true) : Yields (expect r) [] () := by
  rw [expect, if_pos success]
  exact Yields.pure ()

theorem yields_recipients (rs : List String) :
    Yields (recipients rs) (List.replicate rs.length consentBytes) () := by
  induction rs with
  | nil => exact Yields.pure ()
  | cons recipient rest ih =>
    rw [recipients, List.length_cons, List.replicate_succ, ← List.singleton_append]
    refine Yields.bind (Yields.command _ consent_spelled).adapt ?_
    exact Yields.bind (yields_expect rfl) ih

theorem yields_greet (t : Transport) : Yields (greet t) [consentBytes] ⟨250, [""]⟩ := by
  rw [greet]
  exact Yields.bind (Yields.command _ consent_spelled).adapt (Yields.pure _)

theorem yields_negotiate (t : Transport) : Yields (negotiate t) [consentBytes] false := by
  rw [negotiate]
  exact Yields.bind (yields_greet t) (Yields.pure false)

theorem opens_connect (address : String) (rest : List Bytes) (ending : Halt ClientError) :
    Opens (connect address) [.answering (greetingBytes :: rest) ending] () rest ending := by
  rw [connect]
  refine Opens.bind_one (Opens.connect address _ ending).adapt ?_
  exact Yields.bind (Yields.receive greeting_spelled).adapt (yields_expect rfl)

theorem opens_reach (t : Transport) (host : String) (rest : List Bytes)
    (ending : Halt ClientError) :
    Opens (t.reach host) [.answering (greetingBytes :: consentBytes :: rest) ending] () rest
      ending := by
  rw [reach]
  refine Opens.bind_one (opens_connect _ _ ending) ?_
  exact Yields.bind (yields_negotiate t) (Yields.pure ())

theorem opens_prepare (t : Transport) (host : String) (m : Message) (rest : List Bytes)
    (ending : Halt ClientError) :
    Opens (t.prepare host m)
      [.answering (greetingBytes :: consentBytes :: (toEnvelope m.recipients.length ++ rest))
        ending]
      () rest ending := by
  rw [prepare]
  refine Opens.bind (opens_reach t host _ ending) ?_
  rw [toEnvelope]
  refine Yields.bind (Yields.command _ consent_spelled).adapt ?_
  refine Yields.quiet_bind (yields_expect rfl) ?_
  refine Yields.bind (yields_recipients m.recipients) ?_
  exact Yields.bind (Yields.command _ invite_spelled).adapt (Yields.pure ())

theorem opens_handover (t : Transport) (host : String) (m : Message) (date : Instant)
    (ending : Halt ClientError) :
    Opens (t.handover host m date) [.consenting m ending] () [] ending := by
  rw [handover, Peer.consenting, consents]
  refine Opens.bind_one (opens_prepare t host m _ ending) ?_
  exact Yields.bind (Yields.payload _ consent_spelled).adapt (yields_expect rfl)

theorem deliver_consenting (t : Transport) (host : String) (m : Message) (limit : Duration)
    (date : Instant) (ending : Halt ClientError) :
    (t.deliver host m limit date (.facing [.consenting m ending])).1 =
      match ending with
      | .failed _ => .ok ()
      | .silent => .error (.timeout limit) := by
  obtain ⟨after, handed, awaits⟩ := opens_handover t host m date ending
  have ended : (play quit after).1 = .error ending := play_command_of_ending "QUIT" awaits
  have left := play_leave after
  rw [ended] at left
  rw [deliver_eq, transact_eq, play_bind, handed]
  cases result : play leave after with
  | mk outcome last =>
    rw [result] at left
    subst left
    cases ending <;> simp [result]

end Transport

end MailRelay
