import RelatedIssues.Proofs.Request.Parsing
import RelatedIssues.Proofs.Resolution.Ending
import RelatedIssues.Proofs.Search.Course
import RelatedIssues.Proofs.Search.Extension
import RelatedIssues.Proofs.Search.Gateway
import RelatedIssues.Resolution.OverHttp

namespace RelatedIssues

namespace Client

-- A client that replies to each call what the next response tells about it. A call whose parameters are too
-- long has no response, since it is not sent.
structure Translates (client : Client (List HttpResponse)) : Prop where
  sent   : ∀ responses call, call.fits →
    Gateway.Translation call (responses.headD Gateway.lastResponse) (client.answer responses call).1 ∧
      (client.answer responses call).2 = responses.tail
  unsent : ∀ responses call, ¬call.fits → client.answer responses call = (.error Gateway.tooLong, responses)

-- Replies to every call what the next response tells about it, as if no call were too long.
def replaying : Client (List HttpResponse) where
  answer responses call := (Gateway.reply call (responses.headD Gateway.lastResponse), responses.tail)

def translating : Client (List HttpResponse) where
  answer responses call :=
    if call.fits then replaying.answer responses call else (.error Gateway.tooLong, responses)

theorem answer_replaying {response : HttpResponse} {responses : List HttpResponse} {call : Call} :
    replaying.answer (response :: responses) call = (Gateway.reply call response, responses) :=
  rfl

theorem translates_translating : translating.Translates where
  sent responses call hf := by
    have ha : translating.answer responses call = replaying.answer responses call := if_pos hf
    rw [ha]
    exact ⟨Gateway.translation_iff.mpr rfl, rfl⟩
  unsent _ _ hf := if_neg hf

end Client

namespace Gateway

variable {α : Type} {settings : Settings} {s : Service} {call : Call} {ch : Channel}
  {client : Client (List HttpResponse)}

theorem answer_of_fits (hs : connect settings = .ok s) (ha : Accepts s) (ch : Channel) (hf : call.fits) :
    ∃ r, request s call = .ok r ∧ answer s ch call =
      (reply call (ch.pending.headD lastResponse), { pending := ch.pending.tail, sent := ch.sent ++ [r] }) := by
  have ⟨r, hr⟩ := exists_request ha hf
  have ht := isTyped_of_request ha.typed (isDirectory_of_connect hs ha.typed).2 hr
  exact ⟨r, hr, by simp only [answer, hr, exchange, if_pos ht]⟩

theorem answer_of_unfit (ha : Accepts s) (hf : ¬call.fits) : answer s ch call = (.error tooLong, ch) := by
  simp only [answer, request_of_unfit ha hf]

-- One step of a run over HTTP and of a run with a client that translates. From it, by induction on what is said,
-- whole runs.
theorem answer_of_translates (hs : connect settings = .ok s) (ha : Accepts s) (hc : client.Translates)
    (ch : Channel) (call : Call) :
    client.answer ch.pending call = ((answer s ch call).1, (answer s ch call).2.pending) ∧
    ∃ sent, (answer s ch call).2.sent = ch.sent ++ sent ∧
      List.Forall₂ (fun call r => request s call = .ok r) ([call].filter Call.fits) sent := by
  by_cases hf : call.fits
  case pos =>
    have ⟨r, hr, he⟩ := answer_of_fits hs ha ch hf
    have ⟨ht, hp⟩ := hc.sent ch.pending call hf
    rw [he, List.filter_cons_of_pos hf]
    exact ⟨Prod.ext (translation_iff.mp ht) hp, [r], rfl, .cons hr .nil⟩
  case neg =>
    rw [answer_of_unfit ha hf, hc.unsent ch.pending call hf, List.filter_cons_of_neg hf]
    exact ⟨rfl, [], (List.append_nil _).symm, .nil⟩

theorem run_of_translates (hs : connect settings = .ok s) (ha : Accepts s) (hc : client.Translates)
    (d : Dialogue α) (ch : Channel) :
    let run := d.run (Gateway.client s) ch
    let run' := d.run client ch.pending
    run.value = run'.value ∧ run.calls = run'.calls ∧ run.events = run'.events ∧
    ∃ sent, run.state.sent = ch.sent ++ sent ∧
      List.Forall₂ (fun call r => request s call = .ok r) (run.calls.filter Call.fits) sent := by
  induction d generalizing ch with
  | done a => exact ⟨rfl, rfl, rfl, [], (List.append_nil _).symm, .nil⟩
  | tell e rest ih =>
    have ⟨hv, hcalls, he, hsent⟩ := ih ch
    exact ⟨hv, hcalls, congrArg (e :: ·) he, hsent⟩
  | ask call next ih =>
    have ⟨hr, sent, hsent, hf⟩ := answer_of_translates hs ha hc ch call
    have ⟨hv, hcalls, he, sent', hsent', hf'⟩ := ih (answer s ch call).1 (answer s ch call).2
    simp only [Dialogue.run, hr]
    refine ⟨hv, congrArg (call :: ·) hcalls, he, sent ++ sent', ?_, ?_⟩
    case refine_1 => exact hsent'.trans (by rw [hsent, List.append_assoc])
    case refine_2 =>
      rw [← List.singleton_append, List.filter_append]
      exact List.rel_append hf hf'

end Gateway

namespace Retrieval.Course

variable {q : Query} {cap : Nat} {cursor offset : List Exchange} {r : Except Failure (List Issue)}

-- No call has an empty token.
theorem call_cases (h : Course q cap cursor offset r) : ∀ x ∈ cursor ++ offset,
    (∃ token, x.call = .enhanced q.text q.fields q.size token ∧ token ≠ some "") ∨
      ∃ start, x.call = .legacy q.text q.fields start q.size := by
  refine List.forall_mem_append.mpr ⟨fun x hx => ?_, fun x hx => .inr (h.offset_call x hx)⟩
  have ⟨token, hc⟩ := h.cursor_call x hx
  refine .inl ⟨token, hc, ?_⟩
  rintro rfl
  exact h.named x hx "" hc rfl

end Retrieval.Course

-- A list in which an entry is followed by others only if it meets a condition.
theorem exists_append_of_last {α : Type} {p : α → Bool} {l : List α}
    (h : ∀ as x bs, l = as ++ x :: bs → ¬p x → bs = []) :
    ∃ rest, l = l.filter p ++ rest ∧ rest.length ≤ 1 ∧ ∀ x ∈ rest, ¬p x := by
  induction l with
  | nil => exact ⟨[], rfl, Nat.zero_le _, by simp⟩
  | cons a l ih =>
    by_cases hp : p a
    case pos =>
      have ⟨rest, hl, hr⟩ := ih fun as x bs hx => h (a :: as) x bs (congrArg (a :: ·) hx)
      exact ⟨rest, by rw [List.filter_cons_of_pos hp, List.cons_append, ← hl], hr⟩
    case neg =>
      cases h [] a l rfl hp
      exact ⟨[a], by simp [hp], Nat.le_refl _, by simpa using hp⟩

namespace Resolution

variable {σ : Type} {client : Client σ} {s : σ} {clock : Clock} {settings : Settings} {i : Invocation}

theorem exists_course (clock : Clock) (settings : Settings) (i : Invocation) (client : Client σ) (s : σ) :
    let xs := (resolve clock (.ok settings) i).exchanges client s
    xs = [] ∨ ∃ text size cap cursor offset r, xs = cursor ++ offset ∧
      Retrieval.Course ⟨text, Retrieval.defaultFields, size⟩ cap cursor offset r := by
  intro xs
  have hx : xs = _ := exchanges_ofRequest
  by_cases hq : (Request.parse i.argument).query = ""
  case pos => exact .inl (hx.trans (if_pos hq))
  case neg =>
    have ⟨cursor, offset, hc, _, h⟩ := Retrieval.issues_take_course (Request.parse i.argument).query
      Retrieval.defaultFields settings.pageCap settings.pageSize client s
    exact .inr ⟨_, _, _, cursor, offset, _, hx.trans ((if_neg hq).trans hc), h⟩

-- Nothing follows a call that was too long to be sent.
theorem eq_nil_of_unfit {client : Client (List HttpResponse)} {responses : List HttpResponse}
    (hc : client.Translates) {as bs : List Call} {call : Call}
    (h : ((resolve clock (.ok settings) i).run client responses).calls = as ++ call :: bs) (hf : ¬call.fits) :
    bs = [] := by
  rw [Dialogue.calls_eq_map_exchanges] at h
  have ⟨as', xs, hx, _, hxs⟩ := List.map_eq_append_iff.mp h
  have ⟨x, bs', hxs, hcall, hbs⟩ := List.map_eq_cons_iff.mp hxs
  rw [hxs] at hx
  have hm : x ∈ (resolve clock (.ok settings) i).exchanges client responses := by simp [hx]
  have hr : x.reply = .error Gateway.tooLong :=
    Dialogue.forall_mem_exchanges (P := fun call reply => ¬call.fits → reply = .error Gateway.tooLong)
      (fun s call hf => by rw [hc.unsent s call hf]) x hm (hcall ▸ hf)
  have hl : x.IsFatal := ⟨_, hr, .inr nofun⟩
  rcases exists_course clock settings i client responses with hn | ⟨_, _, _, cursor, offset, _, he, h'⟩
  case inl => simp [hn] at hm
  case inr =>
    have hb : bs' = [] := (h'.fatal as' x bs' _ (he.symm.trans hx) hl hr).1
    simpa [hb] using hbs.symm

-- Every call of a resolution can be told from its request.
theorem readable_calls : ∀ call ∈ ((resolve clock (.ok settings) i).run client s).calls,
    call.fields = Retrieval.defaultFields ∧ ∀ text fields size, call ≠ .enhanced text fields size (some "") := by
  rw [Dialogue.calls_eq_map_exchanges]
  refine List.forall_mem_map.mpr fun x hx => ?_
  rcases exists_course clock settings i client s with hn | ⟨_, _, _, cursor, offset, _, he, h⟩
  case inl => simp [hn] at hx
  case inr =>
    rcases h.call_cases x (he ▸ hx) with ⟨token, hc, ht⟩ | ⟨start, hc⟩
    case inl =>
      rw [hc]
      refine ⟨rfl, fun text fields size he => ?_⟩
      cases he
      exact ht rfl
    case inr => exact hc ▸ ⟨rfl, nofun⟩

theorem call?_eq_of_carries {base : Url} {call : Call} {r : HttpRequest}
    (hf : call.fields = Retrieval.defaultFields) (h : Gateway.Carries base call r) : r.call? = some call := by
  have hd : ∀ field ∈ Retrieval.defaultFields, ',' ∉ field.toList := by
    simp [Retrieval.defaultFields]
  exact h.call?_eq (hf ▸ by simp [Retrieval.defaultFields]) (hf ▸ hd)

-- Where there are no cursors, a retrieval finds what its search by offset does.
theorem value_retrieval_of_unavailable {request : Request} {s' : σ} {message : String}
    (ha : ∀ token, client.answer s (.enhanced request.query Retrieval.defaultFields (max 1 settings.pageSize)
      token) = (.error (.unavailable message), s')) :
    ∃ cap, ((retrieval settings request).run client s).value =
      (((Paging.offset ⟨request.query, Retrieval.defaultFields, max 1 settings.pageSize⟩).pages 0 0 []
        (cap + 1)).run client s').value.bind (·.mapM Issue.ofJson) := by
  have ⟨cap, hcap⟩ := Retrieval.exists_toNat_pageCap settings.pageCap
  have hd : Retrieval.defaultFields.eraseDups = Retrieval.defaultFields := by decide
  refine ⟨cap, ?_⟩
  rw [retrieval, Retrieval.value_issues, hcap, hd, Retrieval.value_entries_of_error (ha none)]

-- Where there are no cursors, a query that is too long is a failure.
theorem value_of_long_query {elapsed : Nat} {body : String} {responses : List HttpResponse} {service : Service}
    (hs : Gateway.connect settings = .ok service) (ha : Gateway.Accepts service)
    (hc : clock.elapsed 1 = .ok elapsed) (hl : Url.maxLength < (Request.parse i.argument).query.length) :
    ((resolve clock (.ok settings) i).run (Gateway.client service)
      { pending := ⟨404, body⟩ :: responses }).value = .ok (ofFailure Gateway.tooLong elapsed) := by
  have ⟨hv, _⟩ := Gateway.run_of_translates hs ha Client.translates_translating
    (resolve clock (.ok settings) i) { pending := ⟨404, body⟩ :: responses }
  have hq : (Request.parse i.argument).query ≠ "" := fun he => by simp [he] at hl
  have hfirst token : Client.translating.answer (⟨404, body⟩ :: responses) (.enhanced
      (Request.parse i.argument).query Retrieval.defaultFields (max 1 settings.pageSize) token) =
        (.error (.unavailable Failure.defaultUnavailable), responses) :=
    rfl
  have hsecond fields size start : Client.translating.answer responses
      ((Paging.offset ⟨(Request.parse i.argument).query, fields, size⟩).call start) =
        (.error Gateway.tooLong, responses) :=
    if_neg (Call.not_fits_of_long hl)
  have ⟨cap, hr⟩ := value_retrieval_of_unavailable hfirst
  refine hv.trans (value_ofRequest_of_failure hc hq ?_)
  rw [hr, Paging.run_pages_of_error (hsecond _ _ _)]
  rfl

-- With a client for which no call is too long the page that comes then is read, and it is empty.
theorem value_replaying {elapsed : Nat} {body : String} (hc : clock.elapsed 1 = .ok elapsed)
    (hq : (Request.parse i.argument).query ≠ "") :
    ((resolve clock (.ok settings) i).run Client.replaying [⟨404, body⟩, Gateway.lastResponse]).value =
      .ok (ofIssues settings.maxKeys i.negates (Request.parse i.argument) [] elapsed) := by
  have hfirst token : Client.replaying.answer [⟨404, body⟩, Gateway.lastResponse] (.enhanced
      (Request.parse i.argument).query Retrieval.defaultFields (max 1 settings.pageSize) token) =
        (.error (.unavailable Failure.defaultUnavailable), [Gateway.lastResponse]) :=
    rfl
  have hsecond call : Client.replaying.answer [Gateway.lastResponse] call = (.ok (.obj []), []) := by
    rw [Client.answer_replaying, Gateway.reply_lastResponse]
  have hsize {n : Int} : 0 ≤ max 1 n := Int.le_trans Int.one_nonneg (Int.le_max_left 1 n)
  have ⟨cap, hr⟩ := value_retrieval_of_unavailable hfirst
  refine value_ofRequest_of_issues hc hq ?_
  rw [hr, Paging.value_pages_of_last (hsecond _) (Paging.next?_offset_empty hsize)]
  rfl

-- Over HTTP the result, the calls and the events are those with a client that translates each response. The
-- requests that are sent carry the calls in their order, and these can be read off them. If a call is too long to
-- be sent, then it is the last one.
theorem http_refines_translation (clock : Clock) (settings : Settings) (i : Invocation)
    (responses : List HttpResponse) {service : Service} (hs : Gateway.connect settings = .ok service)
    (ha : Gateway.Accepts service) (client : Client (List HttpResponse)) (hc : client.Translates) :
    let resolution := resolve clock (.ok settings) i
    let run := resolution.run (Gateway.client service) { pending := responses }
    let run' := resolution.run client responses
    run.value = run'.value ∧ run.calls = run'.calls ∧ run.events = run'.events ∧
    ∃ carried unsent, run.calls = carried ++ unsent ∧ unsent.length ≤ 1 ∧ (∀ call ∈ unsent, ¬call.fits) ∧
      List.Forall₂ (Gateway.Carries service.base) carried run.state.sent ∧
      run.state.sent.map HttpRequest.call? = carried.map some := by
  intro resolution run run'
  have ⟨hv, hcalls, he, sent, hsent, hr⟩ :=
    Gateway.run_of_translates hs ha hc resolution { pending := responses }
  have hsent : run.state.sent = sent := hsent
  have ⟨unsent, hl, hlength, hunfit⟩ : ∃ unsent, run'.calls = run'.calls.filter Call.fits ++ unsent ∧ _ :=
    exists_append_of_last fun as call bs h hf => eq_nil_of_unfit hc h hf
  have hreadable : ∀ call ∈ run.calls.filter Call.fits, call.fields = Retrieval.defaultFields ∧
      ∀ text fields size, call ≠ .enhanced text fields size (some "") := fun call hm =>
    readable_calls call (List.mem_filter.mp hm).1
  have hb := (Gateway.isDirectory_of_connect hs ha.typed).1
  have hcarries : List.Forall₂ (fun call r => call.fields = Retrieval.defaultFields ∧
      Gateway.Carries service.base call r) (run.calls.filter Call.fits) sent :=
    ((List.forall₂_and_left _ _).mpr ⟨hreadable, hr⟩).imp fun call r ⟨⟨hf, ht⟩, hr⟩ =>
      ⟨hf, Gateway.carries_of_request hb ht hr⟩
  have hread : List.Forall₂ Eq (sent.map HttpRequest.call?) ((run.calls.filter Call.fits).map some) :=
    List.forall₂_map_left_iff.mpr (List.forall₂_map_right_iff.mpr
      (hcarries.imp fun _ _ ⟨hf, h⟩ => call?_eq_of_carries hf h).flip)
  refine ⟨hv, hcalls, he, run.calls.filter Call.fits, unsent, ?_, hlength, hunfit, ?_, ?_⟩
  case refine_1 => rw [hcalls]; exact hl
  case refine_2 => exact hsent ▸ hcarries.imp fun _ _ h => h.2
  case refine_3 => rw [hsent, ← List.forall₂_eq_eq_eq]; exact hread

-- There are no cursors, and the search begins again by offset.
theorem http_refines_translation_without_cursors :
    let clock : Clock := ⟨fun _ => .zero⟩
    let issue : Json := .obj [("fields", .obj [("subtasks", .arr [.obj [("key", .str "A-1")]])])]
    let responses : List HttpResponse := [⟨404, "gone"⟩, .ofJson 200 (.obj [("issues", .arr [issue])])]
    let resolution := resolve clock (.ok {}) { arguments := ["subtask: project = A"] }
    Client.translating.Translates ∧ ∃ service, Gateway.connect {} = .ok service ∧ Gateway.Accepts service ∧
      let run := resolution.run (Gateway.client service) { pending := responses }
      run.value = .ok { clause := "issuekey in ('A-1')", relation := some .subtask, seeds := 1, keys := 1 } ∧
      run.state.sent.map HttpRequest.call? =
        [some (.enhanced "project = A" Retrieval.defaultFields 100 none),
          some (.legacy "project = A" Retrieval.defaultFields 0 100)] := by
  intro clock issue responses resolution
  have ⟨service, hs, ha⟩ := Gateway.exists_default
  have ⟨hv, hcalls, _, carried, unsent, hu, _, hunfit, _, hread⟩ := http_refines_translation clock {}
    { arguments := ["subtask: project = A"] } responses hs ha _ Client.translates_translating
  have hc : (resolution.run Client.translating responses).calls =
      [.enhanced "project = A" Retrieval.defaultFields 100 none,
        .legacy "project = A" Retrieval.defaultFields 0 100] := by
    decide +kernel
  have hn : unsent = [] := by
    refine List.eq_nil_iff_forall_not_mem.mpr fun call h => hunfit call h ?_
    have hfits : ∀ call ∈ (resolution.run Client.translating responses).calls, call.fits := by
      decide +kernel
    exact hfits call (hcalls ▸ hu ▸ List.mem_append_right _ h)
  refine ⟨Client.translates_translating, service, hs, ha, hv.trans (by decide +kernel), hread.trans ?_⟩
  rw [hcalls, hc, hn, List.append_nil] at hu
  rw [← hu]
  rfl

-- The query is one character too long, so that no second request is sent and the clause is the one that no
-- issue meets. With a client that reads the second response as well, it is the one that all issues meet. And if
-- the address of the service has a query, then the path of a call ends up in it.
theorem http_departs_from_replaying :
    let clock : Clock := ⟨fun _ => .zero⟩
    let argument : String := .ofList ('=' :: List.replicate Url.maxLength 'a')
    let resolution := resolve clock (.ok {}) { operator := "not in", arguments := [argument] }
    let responses : List HttpResponse := [⟨404, ""⟩, ⟨200, "\x7b\x7d"⟩]
    let settings : Settings := { baseUrl := "https://x.test?a=b" }
    (∃ service, Gateway.connect {} = .ok service ∧ Gateway.Accepts service ∧
      (resolution.run (Gateway.client service) { pending := responses }).value =
        .ok { clause := Clause.matchNothing, error := some "URL component 'query' too long" }) ∧
    (resolution.run Client.replaying responses).value =
      .ok { clause := Clause.matchEverything, relation := some .linked } ∧
    ∃ service ∈ (Gateway.connect settings).toOption, Gateway.Accepts service ∧
      let run := (resolve clock (.ok settings) { arguments := ["A"] }).run (Gateway.client service) {}
      ∃ r ∈ run.state.sent, r.method = .post ∧ r.url.path = ['/'] ∧
        r.url.query = some "a=b/rest/api/3/search/jql".toList := by
  intro clock argument resolution responses settings
  have hm : Clock.milliseconds .zero .zero = .ok 0 := by decide +kernel
  have hc : clock.elapsed 1 = .ok 0 := by simp [clock, Clock.elapsed, hm, bind, Except.bind]
  have hb : ∀ c ∈ '=' :: List.replicate Url.maxLength 'a', ¬Text.isBlank c :=
    List.forall_mem_cons.mpr ⟨by decide, fun c h => List.eq_of_mem_replicate h ▸ by decide⟩
  have hp : Request.parse argument = { query := argument } := Request.parse_of_wordless hb (by decide)
  have hl : Url.maxLength < argument.length := by
    rw [String.length_ofList, List.length_cons, List.length_replicate]
    exact Nat.lt_succ_self _
  have hq : argument ≠ "" := fun he => by simp [he] at hl
  refine ⟨?http, ?replaying, by decide +kernel⟩
  case http =>
    have ⟨service, hs, ha⟩ := Gateway.exists_default
    exact ⟨service, hs, ha, value_of_long_query hs ha hc (hp ▸ hl)⟩
  case replaying =>
    refine (value_replaying hc (hp ▸ hq)).trans ?_
    simp only [Invocation.argument, List.headD, hp]
    rfl

end Resolution
end RelatedIssues
