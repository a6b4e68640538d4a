import RelatedIssues.Proofs.Resolution.Ending
import RelatedIssues.Resolution.OverHttp
import RelatedIssues.Search.Script

namespace RelatedIssues

namespace Payload

-- The text of the first argument. It is empty if there is no argument, or null in its place.
def firstArgument (payload : Json) : String :=
  match (payload.getD "clause").getD "arguments" with
  | .arr (.null :: _) => ""
  | .arr (first :: _) => first.display
  | _ => ""

-- The operator is a text which is not blank, and it is not the one operator that does not negate.
def Excludes (payload : Json) : Prop :=
  ∃ operator, (payload.getD "clause").getD "operator" = .str operator ∧
    (¬∀ c ∈ operator.toList, Text.isBlank c) ∧ operator ≠ "in"

-- Payloads that ask for nothing.
inductive AsksNothing (payload : Json) : Prop
  | noObject (h : ∀ fields, payload ≠ .obj fields)
  | noClause (h : ∀ fields, payload.getD "clause" ≠ .obj fields)
  | noList   (h : ∀ items, (payload.getD "clause").getD "arguments" ≠ .arr items)
  | empty    (h : (payload.getD "clause").getD "arguments" = .arr [])
  | null     (h : (payload.getD "clause").getD "arguments" = .arr (.null :: rest))
  | blank    (h : (payload.getD "clause").getD "arguments" = .arr (first :: rest))
      (blank : ∀ c ∈ first.display.toList, Text.isBlank c)

variable {payload : Json} {name : String}

theorem getD_of_not_obj (h : ∀ fields, payload ≠ .obj fields) : payload.getD name = .null := by
  cases payload
  case obj fields => exact absurd rfl (h fields)
  all_goals rfl

theorem argument_ofPayload : (Invocation.ofPayload payload).argument = firstArgument payload := by
  rw [Invocation.argument, Invocation.ofPayload, firstArgument]
  cases (payload.getD "clause").getD "arguments"
  case arr items =>
    cases items
    case nil => rfl
    case cons first rest => cases first <;> rfl
  all_goals rfl

theorem negates_ofPayload : (Invocation.ofPayload payload).negates ↔ Excludes payload := by
  rw [Invocation.negates, Invocation.ofPayload, Excludes]
  cases (payload.getD "clause").getD "operator"
  case str operator =>
    simp only [Invocation.operatorOfJson, ← Text.trimBy_eq_nil_iff]
    by_cases h : Text.trim operator.toList = [] <;> simp [h]
  all_goals simp [Invocation.operatorOfJson]

-- The first argument is looked for in its own place, so a null there does not bring up the second one.
theorem AsksNothing.isBlank_firstArgument (h : AsksNothing payload) :
    ∀ c ∈ (firstArgument payload).toList, Text.isBlank c := by
  cases h with
  | noObject h =>
    have hc : payload.getD "clause" = .null := getD_of_not_obj h
    have ha : (payload.getD "clause").getD "arguments" = .null := by rw [hc]; rfl
    simp [firstArgument, ha]
  | noClause h => simp [firstArgument, getD_of_not_obj h]
  | noList h =>
    rw [firstArgument]
    split
    case h_1 hn => exact absurd hn (h _)
    case h_2 hn => exact absurd hn (h _)
    case h_3 => simp
  | empty h => simp [firstArgument, h]
  | null h => simp [firstArgument, h]
  | blank h hb =>
    rw [firstArgument, h]
    split
    case h_1 => simp
    case h_2 hn => cases hn; exact hb
    case h_3 hn => exact absurd rfl (hn _ _)

end Payload

namespace Dialogue

variable {α σ : Type} {client : Client σ} {s : σ} {d : Dialogue α}

-- Only a call changes the state of a client.
theorem state_eq_of_calls_eq_nil (h : (d.run client s).calls = []) : (d.run client s).state = s := by
  induction d generalizing s with
  | done => rfl
  | tell _ _ ih => exact ih h
  | ask => cases h

end Dialogue

namespace Resolution

-- The clause that no issue meets, the one that every issue meets, or one for some keys.
inductive IsClause : String → Prop
  | nothing : IsClause Clause.matchNothing
  | everything : IsClause Clause.matchEverything
  | keys {c : Clause} (h : c.keys ≠ []) : IsClause c.text

-- A clause, and nothing else, in an object.
def IsAnswer (j : Json) : Prop :=
  ∃ clause, j = .obj [("jql", .str clause)] ∧ IsClause clause

variable {σ : Type} {client : Client σ} {s : σ} {clock : Clock} {settings : Except Failure Settings}
  {i i' : Invocation} {c : Clause} {r : Resolution} {responses : List HttpResponse} {payload payload' : Json}

theorem isClause_text : IsClause c.text := by
  by_cases h : c.keys = []
  case neg => exact .keys h
  case pos =>
    rw [Clause.text_of_keys_eq_nil h]
    cases c.negated
    case false => exact .nothing
    case true => exact .everything

theorem Ends.isClause {settings : Settings} {negated : Bool} {request : Request} {xs : List Exchange}
    {es : List Event} (h : Ends clock settings negated request xs es r) : IsClause r.clause := by
  cases h with
  | blank | broken | untimed => exact .nothing
  | resolved => exact isClause_text

theorem isClause_of_resolve (h : ((resolve clock settings i).run client s).value = .ok r) :
    IsClause r.clause := by
  cases settings with
  | error f =>
    have ⟨elapsed, hr⟩ := exists_elapsed h
    exact hr ▸ .nothing
  | ok settings => exact (ends_ofRequest h).isClause

-- A resolution without a result is answered as well.
theorem isClause_answer : IsClause ((answer clock settings i).run client s).value := by
  rw [answer, Dialogue.value_run_bind]
  split
  case h_1 h => exact isClause_of_resolve h
  case h_2 => exact .nothing

theorem isClause_answerOverHttp : IsClause (answerOverHttp clock settings responses i).value := by
  rw [answerOverHttp]
  split
  case h_1 => exact .nothing
  case h_2 => exact isClause_answer

theorem exchanges_resolve_of_blank (h : ∀ c ∈ i.argument.toList, Text.isBlank c) :
    (resolve clock settings i).exchanges client s = [] := by
  cases settings with
  | error f => exact exchanges_giveUp
  | ok settings => exact exchanges_ofRequest_eq_nil_iff.mpr (Request.query_parse_eq_empty_iff.mpr h)

theorem calls_answer_of_blank (h : ∀ c ∈ i.argument.toList, Text.isBlank c) :
    ((answer clock settings i).run client s).calls = [] := by
  rw [Dialogue.calls_eq_map_exchanges, answer, Dialogue.exchanges_bind, exchanges_resolve_of_blank h]
  split <;> rfl

theorem silent_answerOverHttp_of_blank (h : ∀ c ∈ i.argument.toList, Text.isBlank c) :
    (answerOverHttp clock settings responses i).calls = [] ∧
      (answerOverHttp clock settings responses i).state = { pending := responses } := by
  rw [answerOverHttp]
  split
  case h_1 => exact ⟨rfl, rfl⟩
  case h_2 => exact ⟨calls_answer_of_blank h, Dialogue.state_eq_of_calls_eq_nil (calls_answer_of_blank h)⟩

-- Of an invocation the argument counts, and whether it negates.
theorem resolve_congr (ha : i.argument = i'.argument) (hn : i.negates = i'.negates) :
    resolve clock settings i = resolve clock settings i' := by
  simp only [resolve, ha, hn]

theorem answer_congr (ha : i.argument = i'.argument) (hn : i.negates = i'.negates) :
    answer clock settings i = answer clock settings i' := by
  rw [answer, answer, resolve_congr ha hn]

theorem answerOverHttp_congr (ha : i.argument = i'.argument) (hn : i.negates = i'.negates) :
    answerOverHttp clock settings responses i = answerOverHttp clock settings responses i' := by
  rw [answerOverHttp, answerOverHttp]
  simp only [answer_congr ha hn]

-- Whatever the payload, the client or the service, and the settings are, and whether these can be loaded, the
-- answer is a clause. A payload that asks for nothing leads to no call. Payloads with the same text as their
-- first argument are answered alike and by the same calls, if both exclude what is found or neither does.
theorem handle_answers_every_payload (clock : Clock) (settings : Except Failure Settings) :
    (∀ {σ : Type} (client : Client σ) (s : σ) (payload : Json),
      let run := (handle clock settings payload).run client s
      IsAnswer run.value ∧ (Payload.AsksNothing payload → run.calls = [])) ∧
    (∀ (responses : List HttpResponse) (payload : Json),
      let run := handleOverHttp clock settings responses payload
      IsAnswer run.value ∧ (Payload.AsksNothing payload → run.calls = [] ∧ run.state.sent = [])) ∧
    (∀ payload payload' : Json, Payload.firstArgument payload = Payload.firstArgument payload' →
      (Payload.Excludes payload ↔ Payload.Excludes payload') →
      (∀ {σ : Type} (client : Client σ) (s : σ),
        (handle clock settings payload).run client s = (handle clock settings payload').run client s) ∧
      ∀ responses : List HttpResponse,
        handleOverHttp clock settings responses payload = handleOverHttp clock settings responses payload') := by
  refine ⟨?client, ?http, ?alike⟩
  case client =>
    intro σ client s payload run
    have hr : run = ((answer clock settings (.ofPayload payload)).run client s).map answerJson :=
      Dialogue.run_map
    rw [hr]
    refine ⟨⟨_, rfl, isClause_answer⟩, fun hn => ?_⟩
    exact calls_answer_of_blank (Payload.argument_ofPayload ▸ hn.isBlank_firstArgument)
  case http =>
    intro responses payload run
    refine ⟨⟨_, rfl, isClause_answerOverHttp⟩, fun hn => ?_⟩
    have ⟨hc, hs⟩ : _ ∧ run.state = { pending := responses } :=
      silent_answerOverHttp_of_blank (Payload.argument_ofPayload ▸ hn.isBlank_firstArgument)
    exact ⟨hc, congrArg Gateway.Channel.sent hs⟩
  case alike =>
    intro payload payload' ha he
    have ha : (Invocation.ofPayload payload).argument = (Invocation.ofPayload payload').argument := by
      rw [Payload.argument_ofPayload, Payload.argument_ofPayload, ha]
    have hn : (Invocation.ofPayload payload).negates = (Invocation.ofPayload payload').negates := by
      rw [Bool.eq_iff_iff, Payload.negates_ofPayload, Payload.negates_ofPayload, he]
    constructor
    case left =>
      intro σ client s
      rw [handle, handle, answer_congr ha hn]
    case right =>
      intro responses
      rw [handleOverHttp, handleOverHttp, answerOverHttp_congr ha hn]

-- Nothing is asked for in place of a null, though a query stands behind it, and an empty text with a number
-- behind it comes to the same.
theorem handle_answers_every_payload_with_null :
    let payload : Json := .obj [("clause", .obj [
      ("operator", .str "not in"), ("arguments", .arr [.null, .str "project = A"])])]
    let payload' : Json := .obj [("clause", .obj [
      ("arguments", .arr [.str "", .int 5]), ("operator", .str "!=")]), ("accountId", .null)]
    let script : Script := { enhanced := [.error (.runtime "refused")] }
    let run payload := (handle ⟨fun _ => .zero⟩ (.ok {}) payload).run Script.client script
    IsAnswer (run payload).value ∧ (run payload).calls = [] ∧ run payload = run payload' := by
  intro payload payload' script run
  have ⟨hclient, _, halike⟩ := handle_answers_every_payload ⟨fun _ => .zero⟩ (.ok {})
  have ⟨ha, hn⟩ := hclient Script.client script payload
  have he : Payload.Excludes payload := ⟨"not in", rfl, fun h => absurd (h 'n' (by decide)) (by decide), by decide⟩
  have he' : Payload.Excludes payload' := ⟨"!=", rfl, fun h => absurd (h '!' (by decide)) (by decide), by decide⟩
  exact ⟨ha, hn (.null rfl), (halike payload payload' rfl (iff_of_true he he')).1 Script.client script⟩

end Resolution
end RelatedIssues
