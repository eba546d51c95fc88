import ServiceLocator.Proofs.Client.Disclosure
import ServiceLocator.Proofs.Client.Statuses
import ServiceLocator.Proofs.Text.Utf8.Lossy

/-!
The message of a client error. It is the body of the reply, read as text: whatever is text in the
body is in the message as it is, and each part that is no text has one character in its place
(`Utf8.Faithful`). An action ends in a client error exactly if the last reply it got is of the 4xx
class, and the error has the message of that reply.
-/
namespace ServiceLocator

/-- A client error is what its caller is told of the reply that it is blamed on. -/
theorem Blamed.exists_reply {caller : Caller} {Replied : Reply → Prop} {shown : Presented}
    (h : Blamed caller Replied (.client shown)) :
    ∃ reply, Replied reply ∧ reply.status.isClientError = true ∧ shown =
      HttpError.shownTo ⟨reply.statusText, reply.status, reply.text⟩ reply.requestUri caller := by
  cases h with
  | other hother => cases hother
  | @reply reply f hreplied hf heq =>
    rcases Reply.failure_cases hf with ⟨-, hclient, -⟩ | ⟨hkind, -⟩
    · have hverdict : reply.verdict caller = .error (.client shown) :=
        Reply.verdict_eq_error.mpr ⟨f, hf, heq.symm⟩
      rw [Reply.verdict_of_isClientError hclient] at hverdict
      cases hverdict
      exact ⟨reply, hreplied, hclient, rfl⟩
    · rw [Failure.toError, hkind] at heq
      cases heq

/-- Messages tell bodies. The text of a body is the one that is faithful to it: its bytes are those
of the body exactly if the body is the bytes of a text; text at the front is read as it is, whatever
follows; each maximal ill-formed subpart becomes one replacement character, at no cost to a
character after it; and the bytes of the text are read as the text. This is the message of every
reply of the 4xx class, to either kind of caller. An action, over any transport that takes no reply
for a failure, ends in a client error exactly if its last reply is of this class, and then with the
message of that reply. -/
theorem message_tells_body :
    (∀ decode, Utf8.Faithful decode ↔ decode = Utf8.decodeLossy) ∧
    (∀ (reply : Reply) (caller : Caller), reply.status.isClientError = true →
      reply.outcome.toResult caller = .error (.client
        (HttpError.shownTo ⟨reply.statusText, reply.status, Utf8.decodeLossy reply.body⟩
          reply.requestUri caller))) ∧
    ∀ {σ ρ : Type} (t : Transport σ) (s : σ) (c : Client) (action : Action ρ) (shown : Presented),
      t.Impartial →
      let run := (c.act action).run t s
      run.result = .error (.client shown) ↔
        ∃ reply, t.RepliedLast s run.sent reply ∧ reply.status.isClientError = true ∧ shown =
          HttpError.shownTo ⟨reply.statusText, reply.status, Utf8.decodeLossy reply.body⟩
            reply.requestUri c.caller := by
  refine ⟨fun decode => Utf8.faithful_iff, fun reply caller hclient => ?_, ?_⟩
  · exact Reply.verdict_of_isClientError hclient caller
  · intro σ ρ t s c action shown ht run
    constructor
    · intro he
      exact (Step.Blames.act c action t ht s _ he).exists_reply
    · rintro ⟨reply, ⟨before, request, hsent, hanswer⟩, hclient, rfl⟩
      exact result_act_of_verdict hsent hanswer (Reply.verdict_of_isClientError hclient c.caller)

/-- A service refuses a request of an internal caller. In the body an é follows a euro sign that is
cut short, and a byte with which no character begins comes last: neither takes anything else with
it. -/
theorem message_tells_body_cutShort :
    let c : Client := .new (.internal "a:") none
    let body : Bytes := Utf8.encode "caf" ++ ([0xE2, 0x82] ++ (String.utf8EncodeChar 'é' ++ [0xFF]))
    let run : Run (List ScriptedReply) (Answer Unit) :=
      (c.act (.call (.get "b:"))).run .scripted [.reply 404 "Not Found" ∅ body none]
    run.result = .error (.client (.http ⟨"Not Found", 404, "caf\uFFFDé\uFFFD"⟩)) := by
  intro c body run
  obtain ⟨hfaithful, -, hact⟩ := message_tells_body
  have hread : Utf8.Faithful Utf8.decodeLossy := (hfaithful _).mpr rfl
  have hcut : Utf8.Truncated [0xE2, 0x82] := ⟨by decide, '€', ⟨[0xAC], by decide⟩, by decide⟩
  have hstray : Utf8.Stray 0xFF := Utf8.not_prefix_of_lead?_eq_none (by decide) (by decide)
  have hmessage : Utf8.decodeLossy body = "caf\uFFFDé\uFFFD" := by
    have hlast := hread.subpart_append _ _ (.stray [] hstray)
    rw [List.append_nil, Utf8.decodeLossy_nil] at hlast
    rw [hread.text_append, hread.subpart_character _ _ _ (.inl hcut), hlast]
    decide
  refine (hact .scripted _ c _ _ (Transport.Provided.impartial .scripted)).mpr
    ⟨⟨404, "Not Found", ∅, body, "b:"⟩, ⟨[], .get "b:", rfl, rfl⟩, by decide, ?_⟩
  rw [hmessage]
  rfl

end ServiceLocator
