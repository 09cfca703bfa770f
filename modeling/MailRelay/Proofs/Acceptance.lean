import MailRelay.Proofs.Api.Answers
import MailRelay.Proofs.Smtp.Queueing

set_option autoImplicit false

namespace MailRelay

theorem acceptance_is_all_or_nothing [ForeignDecoders] (stamps : Stamps) :
    -- Over HTTP, a request gains what its answer reports.
    (∀ (settings : ApiSettings) (uptimeSecs : Nat) (r : Reception) (request : HttpRequest),
      let answered := Api.answer settings stamps uptimeSecs r request
      r.spool.GainsExactly answered.2.reported answered.1.spool ∧
      (answered.2.status ≠ 202 → answered.1.spool = r.spool) ∧
      (answered.2.status = 202 → (∃ id, answered.2.reported = [id]) ∨
        ∃ answers, answered.2.body = .json (.array answers) ∧
          ∀ j ∈ answers, j.queuedId? = none → ∃ e, j = Api.rejected e)) ∧
    -- On the submission port, so does every line, whatever has come in elsewhere meanwhile,
    (∀ (s : Session) (raw : Bytes),
      let taken := s.line stamps raw
      s.reception.spool.GainsExactly taken.2.reported?.toList taken.1.reception.spool) ∧
    -- and with it all that a client sends, wherever it ends.
    (∀ (s : Session) (input : Bytes) (ending : InputEnd),
      let served := s.serve stamps input ending
      s.reception.spool.GainsExactly (served.2.filterMap (·.reported?))
        served.1.reception.spool) ∧
    -- Content is not accepted before the line with the single dot has come in with its end.
    ∀ (s : Session) (input : Bytes) (ending : InputEnd) (before after : List Bytes) (raw : Bytes),
      Session.heard input ending = before ++ raw :: after →
      ((s.lines stamps before).1.line stamps raw).1.reception.spool ≠
        (s.lines stamps before).1.reception.spool →
      (raw = [Payload.dot, 13, 10] ∨ raw = [Payload.dot, 10]) ∧
        before.flatten ++ raw <+: input := by
  refine ⟨fun settings uptimeSecs r request => ?_, fun s raw => ?_, fun s input ending => ?_,
    fun s input ending before after raw split => Session.complete_of_gain stamps split⟩
  · have answered := Api.answered_answer stamps settings uptimeSecs r request
    refine ⟨answered.gains.exactly, fun other => ?_, answered.told⟩
    have silent : (Api.answer settings stamps uptimeSecs r request).2.reported = [] := if_neg other
    exact answered.gains.exactly.untouched silent
  · exact (Session.line_gains stamps s raw).exactly
  · exact (Session.serve_gains stamps s input ending).exactly

-- Content whose last line lacks its end is not accepted, and with the end it is.
open AsciiOnly in
theorem content_without_its_last_end_is_lost :
    let input := "EHLO a\r\nMAIL FROM:<a@example.com>\r\nRCPT TO:<b@example.org>\r\nDATA\r\n" ++
      "Subject: s\r\n\r\nb\r\n."
    let s := Session.new "h" (.new .default (.new 1 .zero))
    let served (input : String) :=
      s.serve (fun _ => ⟨"m", .min, .min⟩) (Utf8.ofString input) .closed
    (served input).1.reception.spool = .new 1 .zero ∧
      (served (input ++ "\r\n")).1.reception.spool.stats.sent = 1 := by
  intro input s served
  obtain ⟨-, -, gains, -⟩ := acceptance_is_all_or_nothing fun _ => ⟨"m", .min, .min⟩
  have nothing : (served input).2.filterMap (·.reported?) = [] := by decide +kernel
  have accepted : (served (input ++ "\r\n")).2.filterMap (·.reported?) = ["m"] := by
    decide +kernel
  have counted := (gains s (Utf8.ofString (input ++ "\r\n")) .closed).counted
  refine ⟨(gains s (Utf8.ofString input) .closed).untouched nothing, ?_⟩
  rw [accepted] at counted
  rw [counted]
  rfl

end MailRelay
