import RelatedIssues.Proofs.Resolution.Ending
import RelatedIssues.Proofs.Search.Served
import RelatedIssues.Search.Script

namespace RelatedIssues

namespace Client

-- A client that has some entries by offset only, and gives no more than `limit` of them at once.
def ofEntries (limit : Nat) (entries : List Json) : Client Unit where
  answer
    | _, .enhanced .. => (.error (.unavailable Failure.defaultUnavailable), ())
    | _, .legacy _ _ start size =>
      let most := min size.toNat limit
      (.ok (.obj [
        ("issues", .arr ((entries.drop start.toNat).take most)),
        ("maxResults", .int most),
        ("total", .int entries.length)]), ())

theorem servesByOffset_ofEntries {q : Query} {limit : Nat} {entries : List Json} :
    (ofEntries limit entries).ServesByOffset q limit entries where
  unavailable _ := ⟨_, rfl⟩
  window _ _ := ⟨_, rfl, rfl, rfl, rfl⟩

-- A client that has some pages by cursor, and gives one after the other.
def ofPages : Client (List (List Json)) where
  answer
    | page :: next :: rest, .enhanced .. =>
      (.ok (.obj [("issues", .arr page), ("nextPageToken", .str "next")]), next :: rest)
    | served, _ => (.ok (.obj [("issues", .arr served.flatten), ("isLast", .bool true)]), [])

theorem servesByCursor_ofPages {q : Query} {token : Option String} {page : List Json}
    {rest : List (List Json)} : ofPages.ServesByCursor q (page :: rest) token (page :: rest) := by
  induction rest generalizing token page with
  | nil => exact .last rfl (by simp [Table.get?]) (.inl rfl)
  | cons next rest ih =>
    refine .next rfl rfl ⟨fun hl => ?_, rfl, rfl⟩ ih
    cases hl

end Client

namespace Resolution

variable {σ : Type} {s : σ} {clock : Clock} {settings : Settings}

-- Two results of a success that may differ in the time only.
structure Agrees (r r' : Resolution) : Prop where
  error  : r.error = none ∧ r'.error = none
  clause : r.clause = r'.clause
  seeds  : r.seeds = r'.seeds
  keys   : r.keys = r'.keys

-- The query that is searched for an invocation.
def searched (settings : Settings) (i : Invocation) : Query :=
  ⟨(Request.parse i.argument).query, Retrieval.defaultFields.eraseDups, settings.pageSize⟩

theorem agrees_of_serveAlike {τ : Type} {byOffset : Client σ} {byCursor : Client τ} {t : τ}
    {entries : List Json} {i : Invocation} {clock' : Clock}
    (hr : ∀ entry ∈ entries, ∃ issue, Issue.ofJson entry = .ok issue)
    (h : byOffset.ServeAlike byCursor t (searched settings i) entries)
    (hc : clock.RunsForward) (hc' : clock'.RunsForward) :
    ∃ r r', ((resolve clock (.ok settings) i).run byOffset s).value = .ok r ∧
      ((resolve clock' (.ok settings) i).run byCursor t).value = .ok r' ∧ Agrees r r' := by
  have ⟨elapsed, he⟩ := hc.elapsed_eq 1
  have ⟨elapsed', he'⟩ := hc'.elapsed_eq 1
  by_cases hq : (Request.parse i.argument).query = ""
  case pos =>
    exact ⟨_, _, value_ofRequest_of_blank he hq, value_ofRequest_of_blank he' hq, ⟨rfl, rfl⟩, rfl, rfl, rfl⟩
  case neg =>
    have ⟨issues, ho, hb⟩ := h.value_issues_eq (s := s) hr settings.pageCap_pos settings.pageSize_pos
    exact ⟨_, _, value_ofRequest_of_issues he hq ho, value_ofRequest_of_issues he' hq hb,
      ⟨rfl, rfl⟩, rfl, rfl, rfl⟩

-- Both searches find the beginning of what the service has, in its order and all of it that so many pages
-- hold. The one by offset makes its pages as large as the service allows, the one by cursor takes them as
-- they come. If they are equally large, then it makes no difference which search there is, neither for a
-- retrieval nor for a resolution.
theorem searches_agree {entries : List Json}
    (read : ∀ entry ∈ entries, ∃ issue, Issue.ofJson entry = .ok issue) :
    (∀ (text : String) (fields : List String) (cap size : Nat), 1 ≤ cap → 1 ≤ size →
      let q : Query := ⟨text, fields.eraseDups, size⟩
      let retrieval := Retrieval.issues text fields cap size
      (∀ {σ : Type} (client : Client σ) (s : σ) (limit : Nat), 1 ≤ limit →
        client.ServesByOffset q limit entries →
        Retrieval.ComesTo (retrieval.run client s).value (entries.take (cap * min size limit))) ∧
      (∀ {σ : Type} (client : Client σ) (s : σ) (served : List (List Json)),
        client.ServesByCursor q s none served → served.flatten = entries →
        Retrieval.ComesTo (retrieval.run client s).value (served.take cap).flatten ∧
        (FullPages size served →
          Retrieval.ComesTo (retrieval.run client s).value (entries.take (cap * size)))) ∧
      (∀ {σ τ : Type} (byOffset : Client σ) (s : σ) (byCursor : Client τ) (t : τ),
        byOffset.ServeAlike byCursor t q entries →
        (retrieval.run byOffset s).value = (retrieval.run byCursor t).value)) ∧
    (∀ {σ τ : Type} (byOffset : Client σ) (s : σ) (byCursor : Client τ) (t : τ) (settings : Settings)
      (i : Invocation) (clock clock' : Clock), clock.RunsForward → clock'.RunsForward →
      byOffset.ServeAlike byCursor t (searched settings i) entries →
      ∃ r r', ((resolve clock (.ok settings) i).run byOffset s).value = .ok r ∧
        ((resolve clock' (.ok settings) i).run byCursor t).value = .ok r' ∧ Agrees r r') := by
  constructor
  case left =>
    intro text fields cap size hc hs q retrieval
    refine ⟨?offset, ?cursor, ?alike⟩
    case offset =>
      intro σ client s limit hl h
      exact Retrieval.comesTo_of_offset read hc hs hl h
    case cursor =>
      intro σ client s served h hf
      have hv := Retrieval.comesTo_of_cursor (hf ▸ read) hc hs h
      refine ⟨hv, fun hp => ?_⟩
      rwa [← hf, ← hp.flatten_take]
    case alike =>
      intro σ τ byOffset s byCursor t h
      have ⟨issues, ho, hb⟩ := h.value_issues_eq (s := s) read hc hs
      exact ho.trans hb.symm
  case right =>
    intro σ τ byOffset s byCursor t settings i clock clock' hc hc' h
    exact agrees_of_serveAlike read h hc hc'

-- The service has five entries. By offset it gives no more than one at once, or as many as it is asked for;
-- by cursor it gives two.
theorem searches_agree_on_five :
    let entries : List Json := ["A-1", "A-2", "A-3", "A-4", "A-5"].map fun key => .obj [("key", .str key)]
    let served : List (List Json) := [entries.take 2, (entries.drop 2).take 2, entries.drop 4]
    let retrieval := Retrieval.issues "project = A" ["parent", "parent"] 2 2
    let i : Invocation := { arguments := ["project = A"] }
    let clock : Clock := ⟨fun _ => .zero⟩
    (∀ entry ∈ entries, ∃ issue, Issue.ofJson entry = .ok issue) ∧
    Retrieval.ComesTo (retrieval.run (.ofEntries 1 entries) ()).value (entries.take 2) ∧
    Retrieval.ComesTo (retrieval.run .ofPages served).value (entries.take 4) ∧
    (retrieval.run (.ofEntries 2 entries) ()).value = (retrieval.run .ofPages served).value ∧
    ∃ r r', ((resolve clock (.ok { pageSize := 2 }) i).run (.ofEntries 2 entries) ()).value = .ok r ∧
      ((resolve clock (.ok { pageSize := 2 }) i).run .ofPages served).value = .ok r' ∧ Agrees r r' := by
  intro entries served retrieval i clock
  have hr : ∀ entry ∈ entries, ∃ issue, Issue.ofJson entry = .ok issue :=
    List.forall_mem_map.mpr fun key _ => ⟨_, rfl⟩
  have hm : Clock.milliseconds .zero .zero = .ok 0 := by decide +kernel
  have hc : clock.RunsForward := fun _ => ⟨0, hm⟩
  have hp : FullPages 2 served := .next rfl (.next rfl (.last (by decide)))
  have hs (q : Query) : Client.ofPages.ServesByCursor q served none served :=
    Client.servesByCursor_ofPages
  have ha (q : Query) (hq : q.size = 2) :
      (Client.ofEntries 2 entries).ServeAlike .ofPages served q entries :=
    ⟨⟨2, Int.le_of_eq hq, Client.servesByOffset_ofEntries⟩, served, hs q, rfl, hq ▸ hp⟩
  have ⟨hsearch, hresolve⟩ := searches_agree hr
  have ⟨hoffset, hcursor, halike⟩ :=
    hsearch "project = A" ["parent", "parent"] 2 2 (by decide) (by decide)
  exact ⟨hr, hoffset _ () 1 (by decide) Client.servesByOffset_ofEntries,
    (hcursor _ served served (hs _) rfl).2 hp, halike _ () _ served (ha _ rfl),
    hresolve _ () _ served { pageSize := 2 } i clock clock hc hc (ha _ rfl)⟩

end Resolution
end RelatedIssues
