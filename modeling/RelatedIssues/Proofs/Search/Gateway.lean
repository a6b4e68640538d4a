import Mathlib
import RelatedIssues.Proofs.Search.Exchange
import RelatedIssues.Proofs.Url.Joining
import RelatedIssues.Search.Wire

namespace RelatedIssues

-- Whether the parameters of a call are short enough for an address.
def Call.fits (call : Call) : Bool :=
  call.params?.all fun params => (Url.Query.encode params).length ≤ Url.maxLength

theorem Call.fits_iff {call : Call} {params : List (String × String)} (h : call.params? = some params) :
    call.fits ↔ (Url.Query.encode params).length ≤ Url.maxLength := by
  simp [fits, h]

theorem Call.not_fits_of_long {query : String} {fields : List String} {start size : Int}
    (h : Url.maxLength < query.length) : ¬(legacy query fields start size).fits := fun hf =>
  Nat.not_le.mpr h (Url.Query.length_le_length_encode.trans ((fits_iff rfl).mp hf))

-- The fields of the issues that a call asks for.
def Call.fields : Call → List String
  | enhanced _ fields .. => fields
  | legacy _ fields .. => fields

namespace HttpRequest

-- The call that a request is for: a body tells one by cursor, and the parameters tell one by offset.
def callByCursor? (body : Json) : Option Call :=
  match body.getD "jql", body.getD "maxResults" with
  | .str text, .int size =>
    some (.enhanced text ((body.getD "fields").itemsD.filterMap Json.str?) size (body.getD "nextPageToken").str?)
  | _, _ => none

def callByOffset? (params : List (String × String)) : Option Call := do
  let text ← Table.get? params "jql"
  let start ← Table.get? params "startAt"
  let size ← Table.get? params "maxResults"
  let fields ← Table.get? params "fields"
  return .legacy text ((fields.toList.splitOn ',').map .ofList) (← start.toInt?) (← size.toInt?)

def call? (r : HttpRequest) : Option Call :=
  match r.method with
  | .post => r.body.bind callByCursor?
  | .get => callByOffset? r.params

end HttpRequest

namespace Gateway

-- The address of a service can be used: it says of which type it is, and the emptiest calls have requests.
structure Accepts (s : Service) : Prop where
  typed    : s.base.scheme ≠ []
  byCursor : ∃ r, request s (.enhanced "" [] 0 none) = .ok r
  byOffset : ∃ r, request s (.legacy "" [] 0 0) = .ok r

-- The failure of a call whose parameters are too long.
def tooLong : Failure :=
  .address (.partTooLong "query")

-- The request by which a call is carried to a service with this address. A token is sent if there is one.
inductive Carries (base : Url) : Call → HttpRequest → Prop
  | posted (method : r.method = .post)
      (path : r.url.path = base.joinedPath "rest/api/3/search/jql".toList)
      (query : r.url.query = base.query.map (· ++ "rest/api/3/search/jql".toList))
      (body : r.body = some (.obj ([("jql", .str text), ("maxResults", .int size),
        ("fields", .arr (fields.map .str))] ++ token.toList.map fun t => ("nextPageToken", .str t)))) :
    Carries base (.enhanced text fields size token) r
  | got (method : r.method = .get)
      (path : r.url.path = base.joinedPath "rest/api/3/search".toList)
      (params : r.params = [("jql", text), ("startAt", toString start), ("maxResults", toString size),
        ("fields", ",".intercalate fields)])
      (body : r.body = none) :
    Carries base (.legacy text fields start size) r

-- What a response tells about a call.
inductive Translation (call : Call) (response : HttpResponse) : Reply → Prop
  | page (success : 200 ≤ response.status ∧ response.status < 300)
      (body : Json.readBody response.body = .ok (.obj fields)) :
    Translation call response (.ok (.obj fields))
  | noObject (success : 200 ≤ response.status ∧ response.status < 300)
      (body : Json.readBody response.body = .ok j) (other : ∀ fields, j ≠ .obj fields) :
    Translation call response (.ok (.obj []))
  | undecodable (success : 200 ≤ response.status ∧ response.status < 300)
      (body : Json.readBody response.body = .error u) :
    Translation call response (.error (.undecodable u))
  | unavailable (status : response.status = 404) (enhanced : call.isLegacy = false) :
    Translation call response (.error (.unavailable Failure.defaultUnavailable))
  | refused (status : ¬(200 ≤ response.status ∧ response.status < 300))
      (other : ¬(response.status = 404 ∧ call.isLegacy = false)) :
    Translation call response (.error (.search call.protocol response.status response.body))

variable {settings : Settings} {s : Service} {call : Call} {r : HttpRequest} {query : String}
  {fields : List String} {start size : Int} {token : Option String}

theorem accepts_iff : Accepts s ↔ s.base.scheme ≠ [] ∧
    (request s (.enhanced "" [] 0 none)).isOk ∧ (request s (.legacy "" [] 0 0)).isOk := by
  have h {e : Except Failure HttpRequest} : e.isOk ↔ ∃ r, e = .ok r := by
    cases e <;> simp [Except.isOk, Except.toBool]
  rw [h, h]
  exact ⟨fun ha => ⟨ha.typed, ha.byCursor, ha.byOffset⟩, fun ⟨ht, hc, ho⟩ => ⟨ht, hc, ho⟩⟩

-- Whether an address can be used is found out by trying.
instance : Decidable (Accepts s) :=
  decidable_of_iff _ accepts_iff.symm

theorem exists_default : ∃ s, connect {} = .ok s ∧ Accepts s := by
  have ⟨s, hs, ha⟩ : ∃ s ∈ (connect {}).toOption, Accepts s := by decide +kernel
  cases hc : connect {} with
  | error => simp [hc, Except.toOption] at hs
  | ok => exact ⟨s, by simpa [hc, Except.toOption] using hs, ha⟩

theorem base_of_connect (h : connect settings = .ok s) : ∃ u, Url.parse settings.address.toList = .ok u ∧
    u.asDirectory = .ok s.base := by
  simp only [connect, bind, Except.bind] at h
  cases hu : Url.parse settings.address.toList with
  | error => simp [hu, Except.mapError] at h
  | ok u =>
    cases hb : u.asDirectory with
    | error => simp [hu, hb, Except.mapError] at h
    | ok base =>
      cases hc : checkHeader settings.userAgent.toList with
      | error => simp [hu, hb, hc, Except.mapError] at h
      | ok =>
        simp only [hu, hb, hc, Except.mapError] at h
        cases h
        exact ⟨u, rfl, hb⟩

-- The address of a service that was connected is a directory, if it says of which type it is.
theorem isDirectory_of_connect (h : connect settings = .ok s) (ht : s.base.scheme ≠ []) :
    s.base.IsDirectory ∧ Url.IsScheme s.base.scheme := by
  have ⟨u, hu, hb⟩ := base_of_connect h
  have hs := Url.scheme_of_asDirectory hb
  have ⟨first, hf, hc⟩ := Url.parse_eq_ok hu
  have hfirst : first.scheme ≠ [] := Url.scheme_of_settle hf ▸ hs ▸ ht
  refine ⟨Url.isDirectory_of_asDirectory (Url.isSettled_of_settle hfirst hf) hb, ?_⟩
  rw [hs, Url.scheme_of_settle hf, hc]
  exact Url.isScheme_splitScheme

theorem request_eq : request s call =
    ((url s.base call).mapError .address).bind fun url =>
      ((Url.checkHost url.host).mapError .host).bind fun _ =>
        (checkHeader url.place).bind fun _ => .ok {
          method := call.method, url, body := call.body, userAgent := s.userAgent, timeout := s.timeout
          authorization := s.authorization <|> accountOf url } :=
  rfl

theorem request_eq_ok_iff : request s call = .ok r ↔
    ∃ u, url s.base call = .ok u ∧ Url.checkHost u.host = .ok () ∧ checkHeader u.place = .ok () ∧
      r = { method := call.method, url := u, body := call.body, userAgent := s.userAgent, timeout := s.timeout
            authorization := s.authorization <|> accountOf u } := by
  rw [request_eq]
  cases url s.base call with
  | error => simp [Except.mapError, Except.bind]
  | ok u =>
    cases hh : Url.checkHost u.host <;> cases hp : checkHeader u.place <;>
      simp [Except.mapError, Except.bind, hh, hp, eq_comm]

theorem request_enhanced (h : request s (.enhanced "" [] 0 none) = .ok r) :
    request s (.enhanced query fields size token) =
      .ok { r with body := (Call.enhanced query fields size token).body } := by
  have ⟨u, hu, hh, hp, he⟩ := request_eq_ok_iff.mp h
  exact request_eq_ok_iff.mpr ⟨u, hu, hh, hp, by rw [he]; rfl⟩

-- The addresses for two calls by offset differ in their queries only.
theorem url_of_params {u : Url} {params : List (String × String)} (ht : s.base.scheme ≠ [])
    (h : url s.base (.legacy "" [] 0 0) = .ok u) (hp : call.params? = some params) :
    url s.base call =
      if call.fits then .ok { u with query := some (Url.Query.encode params) }
      else .error (.partTooLong "query") := by
  cases call with
  | enhanced => cases hp
  | legacy query fields start size =>
    have hu (q : String) (fs : List String) (i n : Int) : url s.base (.legacy q fs i n) =
        (s.base.extend (Call.legacy q fs i n).path).bind fun v =>
          v.redirect v.path (some (Url.Query.encode [("jql", q), ("startAt", toString i),
            ("maxResults", toString n), ("fields", ",".intercalate fs)])) :=
      rfl
    cases hp
    rw [hu] at h
    rw [hu]
    cases he : s.base.extend (Call.legacy "" [] 0 0).path with
    | error => simp [he, Except.bind] at h
    | ok dir =>
      rw [he] at h
      have hd : dir.scheme ≠ [] := Url.scheme_of_extend he ▸ ht
      rw [show s.base.extend (Call.legacy query fields start size).path = .ok dir from he]
      refine (Url.redirect_of_redirect hd h).trans ?_
      rw [Url.escape_eq_self Url.inQuery_of_mem_encode]
      have hf : (Call.legacy query fields start size).fits ↔ _ := Call.fits_iff rfl
      by_cases hl : (Call.legacy query fields start size).fits
      case pos => rw [if_pos hl, if_neg (Nat.not_lt.mpr (hf.mp hl))]
      case neg => rw [if_neg hl, if_pos (Nat.lt_of_not_le (mt hf.mpr hl))]

theorem exists_request (ha : Accepts s) (hf : call.fits) : ∃ r, request s call = .ok r := by
  cases call with
  | enhanced =>
    have ⟨r, hr⟩ := ha.byCursor
    exact ⟨_, request_enhanced hr⟩
  | legacy =>
    have ⟨r, hr⟩ := ha.byOffset
    have ⟨u, hu, hh, hp, _⟩ := request_eq_ok_iff.mp hr
    exact ⟨_, request_eq_ok_iff.mpr ⟨_, (url_of_params ha.typed hu rfl).trans (if_pos hf), hh, hp, rfl⟩⟩

theorem request_of_unfit (ha : Accepts s) (hf : ¬call.fits) : request s call = .error tooLong := by
  cases call with
  | enhanced => exact absurd rfl hf
  | legacy =>
    have ⟨r, hr⟩ := ha.byOffset
    have ⟨u, hu, _⟩ := request_eq_ok_iff.mp hr
    rw [request_eq, url_of_params ha.typed hu rfl, if_neg hf]
    rfl

theorem isLevel_path : Url.IsLevel call.path := by
  cases call with
  | enhanced =>
    have h : Url.IsLevel "rest/api/3/search/jql".toList := Url.isLevel_of_all (by decide +kernel)
    exact h
  | legacy =>
    have h : Url.IsLevel "rest/api/3/search".toList := Url.isLevel_of_all (by decide +kernel)
    exact h

theorem isPlain_path : Url.IsPlain call.path := by
  have h {path : List Char} (hp : path.all Url.inPath = true) (hq : path.all Url.inQuery = true) :
      Url.IsPlain path :=
    ⟨List.all_eq_true.mp hp, List.all_eq_true.mp hq⟩
  cases call with
  | enhanced => exact @h "rest/api/3/search/jql".toList (by decide +kernel) (by decide +kernel)
  | legacy => exact @h "rest/api/3/search".toList (by decide +kernel) (by decide +kernel)

theorem url_eq : url s.base call = (s.base.extend call.path).bind fun u =>
    match call.params? with
    | some params => u.withParams params
    | none => .ok u :=
  rfl

theorem isTyped_of_request (ht : s.base.scheme ≠ []) (hc : Url.IsScheme s.base.scheme)
    (h : request s call = .ok r) : r.url.isTyped := by
  have ⟨u, hu, _, _, hr⟩ := request_eq_ok_iff.mp h
  have hs : u.scheme = s.base.scheme := by
    rw [url_eq] at hu
    cases he : s.base.extend call.path with
    | error => simp [he, Except.bind] at hu
    | ok dir =>
      simp only [he, Except.bind] at hu
      split at hu
      case h_1 => rw [Url.scheme_of_redirect hu, Url.scheme_of_extend he]
      case h_2 => cases hu; exact Url.scheme_of_extend he
  rw [hr]
  exact Url.isTyped_of_isScheme (hs ▸ ht) (hs ▸ hc)

theorem carries_of_request (hb : s.base.IsDirectory)
    (ht : ∀ text fields size, call ≠ .enhanced text fields size (some "")) (h : request s call = .ok r) :
    Carries s.base call r := by
  have ⟨u, hu, _, _, hr⟩ := request_eq_ok_iff.mp h
  rw [url_eq] at hu
  cases he : s.base.extend call.path with
  | error => simp [he, Except.bind] at hu
  | ok dir =>
    simp only [he, Except.bind] at hu
    have ⟨hp, hq, hd⟩ := Url.extend_eq_ok hb.toIsSettled (hb.isLevel_joinedPath isLevel_path) isPlain_path he
    cases call with
    | enhanced text fields size token =>
      cases hu
      have htoken : token.filter (· ≠ "") = token := by
        cases token with
        | none => rfl
        | some token =>
          have hn : token ≠ "" := fun he => ht text fields size (he ▸ rfl)
          simp [hn]
      cases hr
      exact .posted rfl hp hq (by simp only [Call.body, htoken])
    | legacy text fields start size =>
      have ⟨hpath, hquery, _⟩ := Url.redirect_eq_ok hd.scheme hu
      rw [Url.straighten_of_isLevel hd.level, Url.escape_eq_self hd.path, hp] at hpath
      rw [Option.map_some, Url.escape_eq_self Url.inQuery_of_mem_encode] at hquery
      cases hr
      refine .got rfl hpath ?_ rfl
      rw [HttpRequest.params, hquery, Option.elim_some, Url.Query.decode_encode (by simp) (by simp)]

theorem callByCursor?_body : HttpRequest.callByCursor? (.obj ([("jql", .str query), ("maxResults", .int size),
    ("fields", .arr (fields.map .str))] ++ token.toList.map fun t => ("nextPageToken", .str t))) =
      some (.enhanced query fields size token) := by
  have hf : fields.filterMap (Json.str? ∘ Json.str) = fields := List.filterMap_some
  cases token <;> simp [HttpRequest.callByCursor?, Table.get?, Json.itemsD, Json.str?, hf]

-- A name that holds a comma could not be told from two.
theorem callByOffset?_params (hn : fields ≠ []) (hf : ∀ field ∈ fields, ',' ∉ field.toList) :
    HttpRequest.callByOffset? [("jql", query), ("startAt", toString start), ("maxResults", toString size),
      ("fields", ",".intercalate fields)] = some (.legacy query fields start size) := by
  have hs : ([','].intercalate (fields.map String.toList)).splitOn ',' = fields.map String.toList :=
    List.splitOn_intercalate ',' (List.forall_mem_map.mpr hf) (by simpa using hn)
  simp [HttpRequest.callByOffset?, Table.get?, hs]

theorem Carries.call?_eq {base : Url} (h : Carries base call r) (hn : call.fields ≠ [])
    (hf : ∀ field ∈ call.fields, ',' ∉ field.toList) : r.call? = some call := by
  cases h with
  | posted method _ _ body => rw [HttpRequest.call?, method, body]; exact callByCursor?_body
  | got method _ params _ => rw [HttpRequest.call?, method, params]; exact callByOffset?_params hn hf

theorem reply_of_success {response : HttpResponse} (h : 200 ≤ response.status ∧ response.status < 300) :
    reply call response = page response.body := by
  have hn : ¬(response.status = 404 ∧ !call.isLegacy) := fun hs => by omega
  rw [reply, if_neg hn, if_pos (by simpa [HttpResponse.isSuccess] using h)]

-- The page that comes when no response is left is empty.
theorem reply_lastResponse : reply call lastResponse = .ok (.obj []) := by
  rw [reply_of_success (by decide)]
  rfl

theorem reply_of_refusal {response : HttpResponse} (h : ¬(200 ≤ response.status ∧ response.status < 300))
    (ho : ¬(response.status = 404 ∧ call.isLegacy = false)) :
    reply call response = .error (.search call.protocol response.status response.body) := by
  rw [reply, if_neg (by simpa using ho), if_neg (by simpa [HttpResponse.isSuccess] using h)]

-- Every response is translated, and in one way only.
theorem translation_iff {response : HttpResponse} {reply : Reply} :
    Translation call response reply ↔ reply = Gateway.reply call response := by
  constructor
  case mp =>
    intro h
    cases h with
    | page hs hb => rw [reply_of_success hs, page, hb]
    | noObject hs hb ho =>
      rw [reply_of_success hs, page, hb]
      cases ‹Json›
      case obj fields => exact absurd rfl (ho fields)
      all_goals rfl
    | undecodable hs hb => rw [reply_of_success hs, page, hb]
    | unavailable hs he => simp [Gateway.reply, hs, he]
    | refused hs ho => exact (reply_of_refusal hs ho).symm
  case mpr =>
    rintro rfl
    by_cases hs : 200 ≤ response.status ∧ response.status < 300
    case pos =>
      rw [reply_of_success hs, page]
      split
      case h_1 hb => exact .page hs hb
      case h_2 hn hb => exact .noObject hs hb hn
      case h_3 hb => exact .undecodable hs hb
    case neg =>
      by_cases ho : response.status = 404 ∧ call.isLegacy = false
      case pos => simpa [Gateway.reply, ho] using .unavailable ho.1 ho.2
      case neg => exact reply_of_refusal hs ho ▸ .refused hs ho

end Gateway
end RelatedIssues
