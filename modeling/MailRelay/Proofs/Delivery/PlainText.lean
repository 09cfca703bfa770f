import MailRelay.Proofs.Delivery.Conversation

set_option autoImplicit false

namespace MailRelay

namespace Dialogue

variable {ε δ α β : Type}

def Keeps (I : Client → Prop) (d : Dialogue ε α) : Prop :=
  ∀ c, I c → I (play d c).2

namespace Keeps

variable {I : Client → Prop} {d : Dialogue ε α}

theorem pure (a : α) : Keeps I (Pure.pure a : Dialogue ε α) :=
  fun _ holds => holds

theorem throw (h : Halt ε) : Keeps I (MonadExcept.throw h : Dialogue ε α) :=
  fun _ holds => holds

theorem bind {f : α → Dialogue ε β} (first : Keeps I d) (next : ∀ a, Keeps I (f a)) :
    Keeps I (d >>= f) := by
  intro c holds
  have after := first c holds
  rw [play_bind]
  cases result : play d c with
  | mk outcome later =>
    rw [result] at after
    cases outcome with
    | error h => exact after
    | ok a => exact next a later after

theorem tryCatch {handler : Halt ε → Dialogue ε α} (first : Keeps I d)
    (next : ∀ h, Keeps I (handler h)) : Keeps I (MonadExcept.tryCatch d handler) := by
  intro c holds
  have after := first c holds
  rw [play_tryCatch]
  cases result : play d c with
  | mk outcome later =>
    rw [result] at after
    cases outcome with
    | error h => exact next h later after
    | ok a => exact after

theorem adapt {f : Halt ε → Halt δ} (keeps : Keeps I d) :
    Keeps I (ExceptT.adapt f d : Dialogue δ α) :=
  fun c holds => keeps c holds

theorem ite {condition : Prop} [Decidable condition] {e : Dialogue ε α} (yes : Keeps I d)
    (no : Keeps I e) : Keeps I (if condition then d else e) := by
  split
  · exact yes
  · exact no

end Keeps

end Dialogue

def Peer.IsPlain (p : Peer) : Prop :=
  ∀ wire, p.handshake ≠ .ok wire

structure Client.IsPlain (c : Client) : Prop where
  coming : ∀ p ∈ c.coming, p.IsPlain
  connection : ∀ k, c.connection = some k → ∀ wire, k.handshake ≠ .ok wire
  history : .secured ∉ c.history

namespace Dialogue

theorem plain_connect (address : String) : Keeps Client.IsPlain (connect address) := by
  intro c plain
  have next : (c.coming.head?.getD .closed).IsPlain := by
    cases coming : c.coming with
    | nil =>
      intro wire secured
      cases secured
    | cons p rest => exact plain.coming p (coming ▸ List.mem_cons_self)
  have later (p : Peer) (member : p ∈ c.coming.tail) : p.IsPlain :=
    plain.coming p (List.mem_of_mem_tail member)
  cases refusal : (c.coming.head?.getD .closed).refusal with
  | some halt =>
    simp only [connect, play_bind, play_get, play_set, refusal, play_throw]
    exact ⟨later, by simp, plain.history⟩
  | none =>
    simp only [connect, play_bind, play_get, play_set, refusal, play_modify, play_record]
    refine ⟨later, ?_, ?_⟩
    · rintro _ ⟨⟩
      exact next
    · simpa using plain.history

theorem plain_send (event : DialogueEvent) (other : event ≠ .secured) :
    Keeps Client.IsPlain (send event) := by
  intro c plain
  cases connected : c.connection with
  | none =>
    simp only [send, play_bind, play_get, connected, play_throw]
    exact plain
  | some k =>
    have same (k' : Connection) (held : some { k with faults := k.faults.tail } = some k') :
        ∀ wire, k'.handshake ≠ .ok wire := by
      cases held
      exact plain.connection k connected
    cases fault : k.faults.head?.bind id with
    | some halt =>
      simp only [send, play_bind, play_get, connected, play_modify, fault, play_throw]
      exact ⟨plain.coming, same, plain.history⟩
    | none =>
      simp only [send, play_bind, play_get, connected, play_modify, fault, play_record]
      refine ⟨plain.coming, same, ?_⟩
      simpa [other.symm] using plain.history

theorem plain_receive : Keeps Client.IsPlain receive := by
  intro c plain
  have same (wire : Wire) (k' : Connection)
      (held : c.connection.map (fun old => { old with wire }) = some k') :
      ∀ wire, k'.handshake ≠ .ok wire := by
    obtain ⟨k, connected, rfl⟩ := Option.map_eq_some_iff.1 held
    exact plain.connection k connected
  cases read : (c.inbox.readReply (c.connection.elim .closed (·.wire))).1 with
  | error halt =>
    simp only [receive, play_bind, play_get, play_set, read, play_throw]
    exact ⟨plain.coming, same _, plain.history⟩
  | ok reply =>
    simp only [receive, play_bind, play_get, play_set, read, play_record, play_pure]
    refine ⟨plain.coming, same _, ?_⟩
    simpa using plain.history

theorem plain_secure : Keeps Client.IsPlain secure := by
  intro c plain
  cases connected : c.connection with
  | none =>
    simp only [secure, play_bind, play_get, play_set, connected, play_throw]
    exact ⟨plain.coming, by simp, plain.history⟩
  | some k =>
    cases encrypted : k.encrypted with
    | true =>
      simp [secure, connected, encrypted]
      exact ⟨plain.coming, by simp, plain.history⟩
    | false =>
      cases handshake : k.handshake with
      | error halt =>
        simp [secure, connected, encrypted, handshake]
        exact ⟨plain.coming, by simp, plain.history⟩
      | ok wire => exact absurd handshake (plain.connection k connected wire)

theorem plain_exchange {event : DialogueEvent} (other : event ≠ .secured) :
    Keeps Client.IsPlain (do send event; receive) :=
  (plain_send event other).bind fun _ => plain_receive

theorem plain_command (line : String) : Keeps Client.IsPlain (command line) := by
  have other : DialogueEvent.command line ≠ .secured := by simp
  exact plain_exchange other

theorem plain_startTls : Keeps Client.IsPlain startTls := by
  rw [startTls]
  refine (plain_command _).bind fun reply => ?_
  exact Keeps.ite (plain_secure.bind fun _ => Keeps.pure reply) (Keeps.pure reply)

end Dialogue

namespace Transport

open Dialogue

theorem plain_expect (r : Reply) : Keeps Client.IsPlain (expect r) := by
  rw [expect]
  exact Keeps.ite (Keeps.pure ()) (Keeps.throw _)

theorem plain_ask (line : String) : Keeps Client.IsPlain (talk (command line)) :=
  (plain_command line).adapt

theorem plain_open (address : String) : Keeps Client.IsPlain (connect address) := by
  rw [connect]
  exact (plain_connect address).adapt.bind fun _ => plain_receive.adapt.bind plain_expect

theorem plain_greet (t : Transport) : Keeps Client.IsPlain (greet t) := by
  rw [greet]
  refine (plain_ask _).bind fun reply => Keeps.ite (Keeps.pure reply) ?_
  exact (plain_ask _).bind fun reply => (plain_expect reply).bind fun _ => Keeps.pure reply

theorem plain_negotiate (t : Transport) : Keeps Client.IsPlain (negotiate t) := by
  rw [negotiate]
  refine (plain_greet t).bind fun greeting => Keeps.ite (Keeps.pure false) ?_
  refine (Keeps.tryCatch ?_ ?_).bind fun secured => ?_
  · exact plain_startTls.adapt.bind fun reply => Keeps.pure (some reply)
  · rintro (e | _)
    · exact Keeps.pure none
    · exact Keeps.throw .silent
  · cases secured with
    | none => exact Keeps.pure true
    | some reply =>
      refine Keeps.ite (Keeps.pure true) ((plain_ask _).bind fun reply => ?_)
      exact (plain_expect reply).bind fun _ => Keeps.pure false

theorem plain_recipients (rs : List String) : Keeps Client.IsPlain (recipients rs) := by
  induction rs with
  | nil => exact Keeps.pure ()
  | cons recipient rest ih =>
    rw [recipients]
    exact (plain_ask _).bind fun reply => (plain_expect reply).bind fun _ => ih

theorem plain_leave : Keeps Client.IsPlain leave := by
  rw [leave]
  refine Keeps.tryCatch ((plain_ask _).bind fun _ => Keeps.pure ()) ?_
  rintro (e | _)
  · exact Keeps.pure ()
  · exact Keeps.throw .silent

theorem plain_reach (t : Transport) (host : String) : Keeps Client.IsPlain (t.reach host) := by
  rw [reach]
  refine (plain_open _).bind fun _ => (plain_negotiate t).bind fun again => ?_
  refine Keeps.ite ?_ (Keeps.pure ())
  exact (plain_open _).bind fun _ => (plain_greet t).bind fun _ => Keeps.pure ()

theorem plain_prepare (t : Transport) (host : String) (m : Message) :
    Keeps Client.IsPlain (t.prepare host m) := by
  rw [prepare]
  refine (plain_reach t host).bind fun _ => (plain_ask _).bind fun reply => ?_
  refine (plain_expect reply).bind fun _ => (plain_recipients _).bind fun _ => ?_
  exact (plain_ask _).bind fun reply => Keeps.ite (Keeps.throw _) (Keeps.pure ())

theorem plain_transact (t : Transport) (host : String) (m : Message) (date : Instant) :
    Keeps Client.IsPlain (t.transact host m date) := by
  have other : DialogueEvent.payload (m.render date) ≠ .secured := by simp
  have sent : Keeps Client.IsPlain (talk (Dialogue.payload (m.render date))) :=
    (plain_exchange other).adapt
  rw [transact_eq, handover]
  exact ((plain_prepare t host m).bind fun _ => sent.bind plain_expect).bind fun _ => plain_leave

theorem secured_not_mem {servers : List Peer} (plain : ∀ p ∈ servers, p.IsPlain) (t : Transport)
    (host : String) (m : Message) (date : Instant) :
    .secured ∉ (play (t.transact host m date) (.facing servers)).2.events := by
  have kept := t.plain_transact host m date (.facing servers) ⟨plain, by simp [Client.facing], List.not_mem_nil⟩
  rw [Client.events, List.mem_reverse]
  exact kept.history

end Transport

end MailRelay
