import Mathlib.Data.List.Forall2
import RelatedIssues.Proofs.Issue.Pieces
import RelatedIssues.Proofs.Search.Retrieval
import RelatedIssues.Search.Script

namespace RelatedIssues

-- The same failure twice, or two values that are related.
inductive SameOutcome (R : α → β → Prop) : Except Failure α → Except Failure β → Prop
  | ok : R a b → SameOutcome R (.ok a) (.ok b)
  | error : SameOutcome R (.error f) (.error f)

-- Two pages with related entries that lead on alike.
structure Page.Alike (R : Json → Json → Prop) (page page' : Json) : Prop where
  issues        : List.Forall₂ R (issues page) (issues page')
  isLast        : page.getD "isLast" = page'.getD "isLast"
  nextPageToken : page.getD "nextPageToken" = page'.getD "nextPageToken"
  maxResults    : page.getD "maxResults" = page'.getD "maxResults"
  total         : page.getD "total" = page'.getD "total"

-- Two clients that answer alike from these states on, whatever they are asked. Their states may differ, as
-- long as they keep to some relation.
def Client.AnswerAlike {σ τ : Type} (R : Json → Json → Prop) (client : Client σ) (s : σ)
    (client' : Client τ) (t : τ) : Prop :=
  ∃ I : σ → τ → Prop, I s t ∧ ∀ s t, I s t → ∀ call,
    SameOutcome (Page.Alike R) (client.answer s call).1 (client'.answer t call).1 ∧
    I (client.answer s call).2 (client'.answer t call).2

structure Exchange.Alike (R : Json → Json → Prop) (x x' : Exchange) : Prop where
  call  : x.call = x'.call
  reply : SameOutcome (Page.Alike R) x.reply x'.reply

-- Two dialogues that go the same way, as far as the replies to them are alike, and end in related values.
inductive Dialogue.Alike (R : Json → Json → Prop) (S : α → β → Prop) : Dialogue α → Dialogue β → Prop
  | done : S a b → Alike R S (done a) (done b)
  | tell : Alike R S d d' → Alike R S (tell e d) (tell e d')
  | ask : (∀ reply reply', SameOutcome (Page.Alike R) reply reply' →
      Alike R S (next reply) (next' reply')) →
    Alike R S (ask c next) (ask c next')

variable {R : Json → Json → Prop}

namespace Dialogue

variable {α α' β β' σ τ : Type} {S : α → α' → Prop} {T : β → β' → Prop}

theorem Alike.bind {d : Dialogue α} {d' : Dialogue α'} {f : α → Dialogue β} {f' : α' → Dialogue β'}
    (h : d.Alike R S d') (hf : ∀ a a', S a a' → (f a).Alike R T (f' a')) :
    (d.bind f).Alike R T (d'.bind f') := by
  induction h with
  | done ha => exact hf _ _ ha
  | tell _ ih => exact .tell ih
  | ask _ ih => exact .ask ih

theorem Alike.exchanges {d : Dialogue α} {d' : Dialogue α'} {client : Client σ} {s : σ}
    {client' : Client τ} {t : τ} (h : d.Alike R S d') (hc : client.AnswerAlike R s client' t) :
    List.Forall₂ (Exchange.Alike R) (d.exchanges client s) (d'.exchanges client' t) := by
  have ⟨I, hi, ha⟩ := hc
  clear hc
  induction h generalizing s t with
  | done => exact .nil
  | tell _ ih => exact ih hi
  | @ask _ _ call _ ih =>
    have ⟨hr, hi⟩ := ha s t hi call
    exact .cons ⟨rfl, hr⟩ (ih _ _ hr hi)

end Dialogue

namespace Paging

-- Alike pages lead to the same place.
theorem next?_cursor_eq {q : Query} {page page' : Json} (h : Page.Alike R page page')
    (token : Option String) : (cursor q).next? token page = (cursor q).next? token page' := by
  simp only [cursor, Page.nextToken?, h.isLast, h.nextPageToken]

theorem next?_offset_eq {q : Query} {page page' : Json} (h : Page.Alike R page page') (start : Int) :
    (offset q).next? start page = (offset q).next? start page' := by
  have hs : Page.step q.size page = Page.step q.size page' := by rw [Page.step, h.maxResults, Page.step]
  have ht : Page.total page = Page.total page' := by rw [Page.total, h.total, Page.total]
  simp only [offset, hs, ht]

-- Only the number of the entries is told to the log.
theorem alike_pages {κ : Type} {p : Paging κ}
    (hp : ∀ page page', Page.Alike R page page' → ∀ place, p.next? place page = p.next? place page')
    (page : Nat) (place : κ) (found found' : List Json) (hf : List.Forall₂ R found found')
    (left : Nat) : (p.pages page place found left).Alike R (SameOutcome (List.Forall₂ R))
      (p.pages page place found' left) := by
  induction left generalizing page place found found' with
  | zero => exact .done (.ok hf)
  | succ left ih =>
    refine .ask fun reply reply' hr => ?_
    cases hr with
    | error => exact .done .error
    | @ok data data' hd =>
      have hf : List.Forall₂ R (found ++ Page.issues data) (found' ++ Page.issues data') :=
        List.rel_append hf hd.issues
      dsimp only
      rw [hf.length_eq, hp data data' hd]
      refine .tell ?_
      split
      case h_1 => exact .done (.ok hf)
      case h_2 next _ => exact ih (page + 1) next _ _ hf

end Paging

namespace Retrieval

theorem alike_entries (q : Query) (cap : Nat) : (Retrieval.entries q cap).Alike R
    (SameOutcome (List.Forall₂ R)) (Retrieval.entries q cap) := by
  have hc := Paging.alike_pages (p := .cursor q) (R := R) (fun _ _ => Paging.next?_cursor_eq) 0 none
    [] [] .nil cap
  refine hc.bind fun r r' hr => ?_
  have ho := Paging.alike_pages (p := .offset q) (R := R) (fun _ _ => Paging.next?_offset_eq) 0 0
    [] [] .nil cap
  cases hr with
  | ok hf => exact .done (.ok hf)
  | @error f =>
    cases f
    case unavailable => exact .tell ho
    all_goals exact .done .error

end Retrieval

namespace Exchange

variable {x x' : Exchange} {xs xs' : List Exchange}

theorem Alike.entries (h : x.Alike R x') : List.Forall₂ R x.entries x'.entries := by
  have ⟨call, reply⟩ := x
  have ⟨call', reply'⟩ := x'
  cases h.reply with
  | ok hp => exact hp.issues
  | error => exact .nil

theorem Alike.isFatal (h : x.Alike R x') (hf : x'.IsFatal) : x.IsFatal := by
  have ⟨call, reply⟩ := x
  have ⟨call', reply'⟩ := x'
  have ⟨hc, hr⟩ := h
  cases hc
  cases hr with
  | ok =>
    have ⟨_, he, _⟩ := hf
    cases he
  | error => exact hf

theorem map_call_of_alike (h : List.Forall₂ (Alike R) xs xs') :
    xs.map (·.call) = xs'.map (·.call) := by
  induction h with
  | nil => rfl
  | cons hx _ ih => rw [List.map_cons, List.map_cons, hx.call, ih]

theorem found_of_alike (h : List.Forall₂ (Alike R) xs xs') :
    List.Forall₂ R (found xs) (found xs') := by
  have hl : xs.any (·.call.isLegacy) = xs'.any (·.call.isLegacy) := by
    simpa [Function.comp_def] using congrArg (List.any · Call.isLegacy) (map_call_of_alike h)
  have hc : List.Forall₂ (Alike R) (completing xs) (completing xs') := by
    rw [completing, completing, hl]
    split
    case isTrue => exact List.rel_filter (fun x x' hx => by simp [hx.call]) h
    case isFalse => exact h
  exact List.rel_flatMap hc fun x x' hx => hx.entries

theorem not_fatal_of_alike (h : List.Forall₂ (Alike R) xs xs') (hx : ∀ x ∈ xs, ¬x.IsFatal) :
    ∀ x ∈ xs', ¬x.IsFatal := by
  induction h with
  | nil => simp
  | cons ha _ ih =>
    have ⟨hx, hxs⟩ := List.forall_mem_cons.mp hx
    exact List.forall_mem_cons.mpr ⟨mt ha.isFatal hx, ih hxs⟩

end Exchange

theorem Script.answerAlike {s t : Script}
    (he : List.Forall₂ (SameOutcome (Page.Alike R)) s.enhanced t.enhanced)
    (hl : List.Forall₂ (SameOutcome (Page.Alike R)) s.legacy t.legacy) :
    client.AnswerAlike R s client t := by
  refine ⟨fun s t => List.Forall₂ (SameOutcome (Page.Alike R)) s.enhanced t.enhanced ∧
    List.Forall₂ (SameOutcome (Page.Alike R)) s.legacy t.legacy, ⟨he, hl⟩, ?_⟩
  intro ⟨es, ls⟩ ⟨et, lt⟩ ⟨he, hl⟩ call
  cases call with
  | enhanced =>
    cases he with
    | nil => exact ⟨.ok ⟨.nil, rfl, rfl, rfl, rfl⟩, .nil, hl⟩
    | cons hr he => exact ⟨hr, he, hl⟩
  | legacy =>
    cases hl with
    | nil => exact ⟨.ok ⟨.nil, rfl, rfl, rfl, rfl⟩, he, .nil⟩
    | cons hr hl => exact ⟨hr, he, hl⟩

namespace Retrieval

-- What two clients have a retrieval come to: the same calls, related entries, and the same issue wherever the
-- entry is the same. If there are issues at one, then there are at the other, unless an entry is refused.
structure Isolated {σ τ : Type} (R : Json → Json → Prop) (retrieval : Dialogue (Except Failure (List Issue)))
    (client : Client σ) (s : σ) (client' : Client τ) (t : τ) : Prop where
  calls   : (retrieval.run client s).calls = (retrieval.run client' t).calls
  entries : List.Forall₂ R (Exchange.found (retrieval.exchanges client s))
    (Exchange.found (retrieval.exchanges client' t))
  served  : ∀ found, (retrieval.run client s).value = .ok found →
    ((∃ found', (retrieval.run client' t).value = .ok found') ↔
      ∀ entry ∈ Exchange.found (retrieval.exchanges client' t), ¬Issue.Refused entry)
  kept    : ∀ found found', (retrieval.run client s).value = .ok found →
    (retrieval.run client' t).value = .ok found' → found.length = found'.length ∧ ∀ k : Nat,
      (Exchange.found (retrieval.exchanges client s))[k]? =
        (Exchange.found (retrieval.exchanges client' t))[k]? →
      found[k]? = found'[k]?

section

variable {σ τ : Type} {client : Client σ} {s : σ} {client' : Client τ} {t : τ} {text : String}
  {fields : List String} {pageCap pageSize : Int} {found found' : List Issue}

theorem exchanges_issues_alike (h : client.AnswerAlike R s client' t) :
    List.Forall₂ (Exchange.Alike R) ((issues text fields pageCap pageSize).exchanges client s)
      ((issues text fields pageCap pageSize).exchanges client' t) := by
  rw [exchanges_issues, exchanges_issues]
  exact (alike_entries _ _).exchanges h

theorem exists_issues_iff (h : client.AnswerAlike R s client' t)
    (hv : ((issues text fields pageCap pageSize).run client s).value = .ok found) :
    (∃ found', ((issues text fields pageCap pageSize).run client' t).value = .ok found') ↔
      ∀ entry ∈ Exchange.found ((issues text fields pageCap pageSize).exchanges client' t),
        ¬Issue.Refused entry := by
  constructor
  case mp =>
    intro ⟨_, hv'⟩ entry he
    exact Issue.exists_ofJson_iff.mp (forall_ok_of_mapM (of_issues_ok hv').1 entry he)
  case mpr =>
    intro hr
    cases hv' : ((issues text fields pageCap pageSize).run client' t).value with
    | ok found' => exact ⟨found', rfl⟩
    | error f =>
      have hn := fun x hx hf => (of_issues_ok hv).2 (.inl ⟨x, hx, hf⟩)
      cases of_issues_error hv' with
      | inl hb =>
        have ⟨x, hx, hf⟩ := hb
        exact absurd hf (Exchange.not_fatal_of_alike (exchanges_issues_alike h) hn x hx)
      | inr hb =>
        have ⟨entry, he, f, hf⟩ := hb
        have ⟨issue, ho⟩ := Issue.exists_ofJson_iff.mpr (hr entry he)
        cases hf.symm.trans ho

theorem isolated_issues (h : client.AnswerAlike R s client' t) :
    Isolated R (issues text fields pageCap pageSize) client s client' t where
  calls := by
    rw [Dialogue.calls_eq_map_exchanges, Dialogue.calls_eq_map_exchanges]
    exact Exchange.map_call_of_alike (exchanges_issues_alike h)
  entries := Exchange.found_of_alike (exchanges_issues_alike h)
  served _ hv := exists_issues_iff h hv
  kept found found' hv hv' := by
    have hl : (Exchange.found ((issues text fields pageCap pageSize).exchanges client s)).length =
        (Exchange.found ((issues text fields pageCap pageSize).exchanges client' t)).length :=
      (Exchange.found_of_alike (exchanges_issues_alike h)).length_eq
    have hm := (of_issues_ok hv).1
    have hm' := (of_issues_ok hv').1
    constructor
    case left => rw [length_eq_of_mapM hm, length_eq_of_mapM hm', hl]
    case right =>
      intro k hk
      rw [getElem?_of_mapM hm, getElem?_of_mapM hm', hk]

end

-- An entry is the issue that its pieces tell, each of them one part, unless it is refused. So another value
-- for a piece changes no other part; a value that is bare is refused where a list belongs. Where a service has
-- other entries than another one, what is kept is read alike.
theorem entries_are_isolated (entry : Json) :
    (¬Issue.Refused entry → Issue.ofJson entry = .ok (Issue.ofPieces (entry.getD "key")
      (Issue.piece entry "issuelinks") (Issue.piece entry "parent") (Issue.piece entry "subtasks"))) ∧
    (Issue.Refused entry → ∃ kind, Issue.ofJson entry = .error (.misuse (.notIterable kind))) ∧
    (∀ entry' issue issue', Issue.ofJson entry = .ok issue → Issue.ofJson entry' = .ok issue' →
      Issue.ShareParts entry entry' issue issue') ∧
    (∀ issue name value, Issue.ofJson entry = .ok issue →
      (name = "issuelinks" ∨ name = "subtasks" → ¬value.IsBare) →
      ∃ issue', Issue.ofJson (Issue.withPiece entry name value) = .ok issue' ∧
        Issue.DifferIn name issue issue') ∧
    (∀ {σ τ : Type} (R : Json → Json → Prop) (client : Client σ) (s : σ) (client' : Client τ) (t : τ),
      client.AnswerAlike R s client' t →
      ∀ (text : String) (fields : List String) (pageCap pageSize : Int),
        Isolated R (issues text fields pageCap pageSize) client s client' t) :=
  ⟨Issue.ofJson_of_not_refused, Issue.ofJson_of_refused, fun _ _ _ => Issue.shareParts_of_ofJson,
    fun _ _ _ => Issue.ofJson_withPiece, fun _ _ _ _ _ h _ _ _ _ => isolated_issues h⟩

-- In place of its links the first entry gets a text, which holds no links, and then a number, which is refused.
theorem entries_are_isolated_at_links :
    let first : Json := .obj [("key", .str "A-1"), ("fields", .obj [
      ("issuelinks", .arr [.obj [("outwardIssue", .obj [("key", .str "B-1")])]]),
      ("subtasks", .arr [.obj [("key", .str "A-3")]])])]
    let second : Json := .obj [("key", .str "A-2")]
    let blank := Issue.withPiece first "issuelinks" (.str "nonsense")
    let bare := Issue.withPiece first "issuelinks" (.int 5)
    let retrieval := issues "project = A" ["issuelinks", "subtasks"] 1 2
    let value (entry : Json) := (retrieval.run Script.client
      { enhanced := [.ok (.obj [("issues", .arr [entry, second])])] }).value
    (∃ issue issue', Issue.ofJson first = .ok issue ∧ Issue.ofJson blank = .ok issue' ∧
      Issue.DifferIn "issuelinks" issue issue') ∧
    (∃ kind, Issue.ofJson bare = .error (.misuse (.notIterable kind))) ∧
    (∃ found found', value first = .ok found ∧ value blank = .ok found' ∧ found[1]? = found'[1]?) ∧
    ¬∃ found, value bare = .ok found := by
  intro first second blank bare retrieval value
  have ⟨_, _, _, hpiece, hclient⟩ := entries_are_isolated first
  have hblank : ∃ issue', Issue.ofJson blank = .ok issue' ∧ Issue.DifferIn "issuelinks" _ issue' :=
    hpiece _ "issuelinks" (.str "nonsense") rfl fun _ => nofun
  have hr : Issue.Refused bare := .inl (.int (by decide))
  have halike (entry : Json) := hclient (fun _ _ => True) Script.client
    { enhanced := [.ok (.obj [("issues", .arr [first, second])])] } Script.client
    { enhanced := [.ok (.obj [("issues", .arr [entry, second])])] }
    (Script.answerAlike (.cons (.ok ⟨.cons trivial (.cons trivial .nil), rfl, rfl, rfl, rfl⟩) .nil) .nil)
    "project = A" ["issuelinks", "subtasks"] 1 2
  have ⟨issue', hi, hd⟩ := hblank
  have ⟨found, hf⟩ : ∃ found, value first = .ok found := ⟨_, rfl⟩
  have ⟨found', hf'⟩ : ∃ found', value blank = .ok found' := ⟨_, rfl⟩
  refine ⟨⟨_, issue', rfl, hi, hd⟩, (entries_are_isolated bare).2.1 hr, ⟨found, found', hf, hf', ?_⟩, ?_⟩
  case refine_1 => exact ((halike blank).kept found found' hf hf').2 1 rfl
  case refine_2 =>
    intro h
    have hm : bare ∈ Exchange.found (retrieval.exchanges Script.client
        { enhanced := [.ok (.obj [("issues", .arr [bare, second])])] }) := .head [second]
    exact ((halike bare).served found hf).mp h bare hm hr

end Retrieval
end RelatedIssues
