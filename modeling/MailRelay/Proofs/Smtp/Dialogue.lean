import MailRelay.Smtp.Client

set_option autoImplicit false

namespace MailRelay

def Client.facing (servers : List Peer) : Client := ⟨servers, none, .empty, []⟩

def Client.events (c : Client) : List DialogueEvent := c.history.reverse

namespace Dialogue

variable {ε δ α β : Type}

@[simp] theorem mapError_error (f : ε → δ) (e : ε) :
    (Except.error e : Except ε α).mapError f = .error (f e) := rfl

@[simp] theorem mapError_ok (f : ε → δ) (a : α) :
    (Except.ok a : Except ε α).mapError f = .ok a := rfl

def play (d : Dialogue ε α) (c : Client) : Except (Halt ε) α × Client := d.run.run c

@[simp] theorem play_pure (a : α) (c : Client) : play (pure a : Dialogue ε α) c = (.ok a, c) := rfl

@[simp] theorem play_throw (h : Halt ε) (c : Client) :
    play (throw h : Dialogue ε α) c = (.error h, c) := rfl

@[simp] theorem play_bind (d : Dialogue ε α) (f : α → Dialogue ε β) (c : Client) :
    play (d >>= f) c =
      match play d c with
      | (.ok a, c) => play (f a) c
      | (.error h, c) => (.error h, c) := by
  cases result : play d c with
  | mk outcome after =>
    cases outcome <;> simp_all [play, ExceptT.run_bind, StateT.run_bind] <;> rfl

@[simp] theorem play_map (f : α → β) (d : Dialogue ε α) (c : Client) :
    play (f <$> d) c = ((play d c).1.map f, (play d c).2) := by
  rw [map_eq_pure_bind, play_bind]
  cases result : play d c with
  | mk outcome after => cases outcome <;> rfl

@[simp] theorem play_tryCatch (d : Dialogue ε α) (handler : Halt ε → Dialogue ε α) (c : Client) :
    play (tryCatch d handler) c =
      match play d c with
      | (.ok a, c) => (.ok a, c)
      | (.error h, c) => play (handler h) c := by
  cases result : play d c with
  | mk outcome after =>
    cases outcome <;>
      simp_all [play, tryCatch, tryCatchThe, MonadExceptOf.tryCatch, ExceptT.tryCatch, ExceptT.run,
        ExceptT.mk, StateT.run_bind] <;>
      rfl

@[simp] theorem play_adapt (f : Halt ε → Halt δ) (d : Dialogue ε α) (c : Client) :
    play (ExceptT.adapt f d : Dialogue δ α) c = ((play d c).1.mapError f, (play d c).2) := by
  rfl

@[simp] theorem play_get (c : Client) : play (get : Dialogue ε Client) c = (.ok c, c) := rfl

@[simp] theorem play_set (s c : Client) : play (set s : Dialogue ε PUnit) c = (.ok ⟨⟩, s) := rfl

@[simp] theorem play_modify (f : Client → Client) (c : Client) :
    play (modify f : Dialogue ε PUnit) c = (.ok ⟨⟩, f c) := rfl

@[simp] theorem play_record (event : DialogueEvent) (c : Client) :
    play (record event) c = (.ok (), { c with history := event :: c.history }) := rfl

/-- Every run of `d` adds events to the history which, with how it ends, satisfy `Q`. -/
def Traces (d : Dialogue ε α) (Q : Except (Halt ε) α → List DialogueEvent → Prop) : Prop :=
  ∀ c, ∃ es, (play d c).2.events = c.events ++ es ∧ Q (play d c).1 es

namespace Traces

variable {d : Dialogue ε α} {P Q : Except (Halt ε) α → List DialogueEvent → Prop}

theorem mono (traces : Traces d P) (weaker : ∀ outcome es, P outcome es → Q outcome es) :
    Traces d Q := by
  intro c
  obtain ⟨es, added, holds⟩ := traces c
  exact ⟨es, added, weaker _ _ holds⟩

theorem pure {a : α} (holds : Q (.ok a) []) : Traces (Pure.pure a) Q := by
  intro c
  exact ⟨[], by simp, holds⟩

theorem throw {h : Halt ε} (holds : Q (.error h) []) : Traces (MonadExcept.throw h) Q := by
  intro c
  exact ⟨[], by simp, holds⟩

theorem bind {f : α → Dialogue ε β} {R : Except (Halt ε) β → List DialogueEvent → Prop}
    (first : Traces d P) (stops : ∀ h es, P (.error h) es → R (.error h) es)
    (next : ∀ a es, P (.ok a) es → Traces (f a) fun outcome later => R outcome (es ++ later)) :
    Traces (d >>= f) R := by
  intro c
  obtain ⟨es, added, holds⟩ := first c
  cases result : play d c with
  | mk outcome after =>
    rw [result] at added holds
    cases outcome with
    | error h => exact ⟨es, by simpa [result] using added, by simpa [result] using stops h es holds⟩
    | ok a =>
      obtain ⟨later, addedLater, holdsLater⟩ := next a es holds after
      refine ⟨es ++ later, ?_, by simpa [result] using holdsLater⟩
      rw [play_bind, result]
      simp only [addedLater, added, List.append_assoc]

theorem tryCatch {handler : Halt ε → Dialogue ε α} (first : Traces d P)
    (returns : ∀ a es, P (.ok a) es → Q (.ok a) es)
    (next : ∀ h es, P (.error h) es →
      Traces (handler h) fun outcome later => Q outcome (es ++ later)) :
    Traces (MonadExcept.tryCatch d handler) Q := by
  intro c
  obtain ⟨es, added, holds⟩ := first c
  cases result : play d c with
  | mk outcome after =>
    rw [result] at added holds
    cases outcome with
    | ok a => exact ⟨es, by simpa [result] using added, by simpa [result] using returns a es holds⟩
    | error h =>
      obtain ⟨later, addedLater, holdsLater⟩ := next h es holds after
      refine ⟨es ++ later, ?_, by simpa [result] using holdsLater⟩
      rw [play_tryCatch, result]
      simp only [addedLater, added, List.append_assoc]

theorem adapt (f : Halt ε → Halt δ) (traces : Traces d P) :
    Traces (ExceptT.adapt f d : Dialogue δ α) fun outcome es =>
      ∃ inner, P inner es ∧ outcome = inner.mapError f := by
  intro c
  obtain ⟨es, added, holds⟩ := traces c
  exact ⟨es, added, _, holds, rfl⟩

end Traces

def OnSuccess (event : α → DialogueEvent) : Except (Halt ε) α → List DialogueEvent → Prop
  | .ok a, es => es = [event a]
  | .error _, es => es = []

theorem traces_connect (address : String) :
    Traces (connect address) (OnSuccess fun _ => .connected address) := by
  intro c
  cases refusal : (c.coming.head?.getD .closed).refusal with
  | some halt =>
    exact ⟨[], by simp [connect, refusal, Client.events], by simp [connect, refusal, OnSuccess]⟩
  | none =>
    exact ⟨[.connected address], by simp [connect, refusal, Client.events],
      by simp [connect, refusal, OnSuccess]⟩

theorem traces_send (event : DialogueEvent) : Traces (send event) (OnSuccess fun _ => event) := by
  intro c
  cases connected : c.connection with
  | none => exact ⟨[], by simp [send, connected], by simp [send, connected, OnSuccess]⟩
  | some connection =>
    cases fault : connection.faults.head?.bind id with
    | some halt =>
      simp only [send, play_bind, play_get, connected, play_modify, fault, play_throw]
      exact ⟨[], by simp [Client.events], rfl⟩
    | none =>
      simp only [send, play_bind, play_get, connected, play_modify, fault, play_record]
      exact ⟨[event], by simp [Client.events], rfl⟩

theorem traces_receive : Traces receive (OnSuccess .reply) := by
  intro c
  cases read : (c.inbox.readReply (c.connection.elim .closed (·.wire))).1 with
  | error halt =>
    exact ⟨[], by simp [receive, read, Client.events], by simp [receive, read, OnSuccess]⟩
  | ok reply =>
    exact ⟨[.reply reply], by simp [receive, read, Client.events],
      by simp [receive, read, OnSuccess, Except.map]⟩

theorem traces_secure : Traces secure (OnSuccess fun _ => .secured) := by
  intro c
  cases connected : c.connection with
  | none =>
    exact ⟨[], by simp [secure, connected, Client.events], by simp [secure, connected, OnSuccess]⟩
  | some connection =>
    cases encrypted : connection.encrypted with
    | true =>
      exact ⟨[], by simp [secure, connected, encrypted, Client.events],
        by simp [secure, connected, encrypted, OnSuccess]⟩
    | false =>
      cases handshake : connection.handshake with
      | error halt =>
        exact ⟨[], by simp [secure, connected, encrypted, handshake, Client.events],
          by simp [secure, connected, encrypted, handshake, OnSuccess]⟩
      | ok wire =>
        exact ⟨[.secured], by simp [secure, connected, encrypted, handshake, Client.events],
          by simp [secure, connected, encrypted, handshake, OnSuccess]⟩

inductive Exchanged (sent : DialogueEvent) :
    Except (Halt ClientError) Reply → List DialogueEvent → Prop where
  | unsent (h : Halt ClientError) : Exchanged sent (.error h) []
  | unanswered (h : Halt ClientError) : Exchanged sent (.error h) [sent]
  | answered (reply : Reply) : Exchanged sent (.ok reply) [sent, .reply reply]

theorem traces_exchange (sent : DialogueEvent) :
    Traces (do send sent; receive) (Exchanged sent) := by
  apply (traces_send sent).bind
  · rintro h es rfl
    exact .unsent h
  · rintro ⟨⟩ es rfl
    apply traces_receive.mono
    rintro (h | reply) es rfl
    · exact .unanswered h
    · exact .answered reply

/-- Of the events that `seen` selects, the history gains `shown` if `d` returns; if it halts, a
front part of that. -/
def Shows (seen : DialogueEvent → Bool) (shown : List DialogueEvent) (d : Dialogue ε α) : Prop :=
  Traces d fun
    | .ok _, es => es.filter seen = shown
    | .error _, es => es.filter seen <+: shown

namespace Shows

variable {seen : DialogueEvent → Bool} {shown later : List DialogueEvent} {d : Dialogue ε α}

theorem pure (a : α) : Shows seen [] (Pure.pure a : Dialogue ε α) :=
  Traces.pure rfl

theorem throw (h : Halt ε) : Shows seen shown (MonadExcept.throw h : Dialogue ε α) :=
  Traces.throw List.nil_prefix

theorem bind {f : α → Dialogue ε β} (first : Shows seen shown d)
    (next : ∀ a, Shows seen later (f a)) : Shows seen (shown ++ later) (d >>= f) := by
  apply Traces.bind first
  · intro h es front
    exact front.trans (List.prefix_append _ _)
  · intro a es all
    -- All of the first part is there, so that a front part of the rest gives one of the whole.
    apply (next a).mono
    rintro (h | b) more front
    · simp only [List.filter_append, all] at front ⊢
      exact List.prefix_append_right_inj _ |>.2 front
    · simp only [List.filter_append, all] at front ⊢
      rw [front]

theorem quiet_bind {f : α → Dialogue ε β} (first : Shows seen [] d)
    (next : ∀ a, Shows seen later (f a)) : Shows seen later (d >>= f) :=
  bind first next

theorem adapt {f : Halt ε → Halt δ} (shows : Shows seen shown d) :
    Shows seen shown (ExceptT.adapt f d : Dialogue δ α) := by
  apply (Traces.adapt f shows).mono
  rintro outcome es ⟨h | a, front, rfl⟩ <;> exact front

theorem quiet_tryCatch {handler : Halt ε → Dialogue ε α} (first : Shows seen [] d)
    (next : ∀ h, Shows seen [] (handler h)) : Shows seen [] (MonadExcept.tryCatch d handler) := by
  apply Traces.tryCatch first
  · intro a es all
    exact all
  · intro h es front
    apply (next h).mono
    have quiet : es.filter seen = [] := List.prefix_nil.1 front
    rintro (h | a) more front <;> simpa [quiet] using front

theorem ite {condition : Prop} [Decidable condition] {e : Dialogue ε α} (yes : Shows seen shown d)
    (no : Shows seen shown e) : Shows seen shown (if condition then d else e) := by
  split
  · exact yes
  · exact no

theorem connect (address : String) (quiet : seen (.connected address) = false) :
    Shows seen [] (Dialogue.connect address) := by
  apply (traces_connect address).mono
  rintro (h | a) es rfl <;> simp [quiet]

theorem receive (quiet : ∀ r, seen (.reply r) = false) : Shows seen [] Dialogue.receive := by
  apply traces_receive.mono
  rintro (h | reply) es rfl <;> simp [quiet]

theorem secure (quiet : seen .secured = false) : Shows seen [] Dialogue.secure := by
  apply traces_secure.mono
  rintro (h | a) es rfl <;> simp [quiet]

theorem exchange (sent : DialogueEvent) (quiet : ∀ r, seen (.reply r) = false) :
    Shows seen ([sent].filter seen) (do send sent; Dialogue.receive) := by
  apply (traces_exchange sent).mono
  rintro outcome es (h | h | reply)
  · exact List.nil_prefix
  · exact List.prefix_rfl
  · simp [List.filter_cons, quiet]

theorem command (line : String) (quiet : ∀ r, seen (.reply r) = false) :
    Shows seen ([.command line].filter seen) (Dialogue.command line) :=
  exchange _ quiet

theorem payload (content : String) (quiet : ∀ r, seen (.reply r) = false) :
    Shows seen ([.payload content].filter seen) (Dialogue.payload content) :=
  exchange _ quiet

theorem of_facing (shows : Shows seen shown d) (servers : List Peer) :
    (play d (.facing servers)).2.events.filter seen <+: shown ∧
      ∀ a, (play d (.facing servers)).1 = .ok a →
        (play d (.facing servers)).2.events.filter seen = shown := by
  obtain ⟨es, added, front⟩ := shows (.facing servers)
  have events : (play d (.facing servers)).2.events = es := added
  rw [events]
  cases outcome : (play d (.facing servers)).1 with
  | error h =>
    simp only [outcome] at front
    exact ⟨front, by simp⟩
  | ok a =>
    simp only [outcome] at front
    exact ⟨front ▸ List.prefix_rfl, fun _ _ => front⟩

end Shows

end Dialogue

end MailRelay
