import RelatedIssues.Proofs.Url.Path

namespace RelatedIssues.Url

variable {u v : Url} {path more s : List Char} {query : Option (List Char)} {c : Char} {keep : Char → Bool}

-- What holds of the characters of ASCII one by one holds of every character among them.
theorem forall_ascii {P : Char → Prop} (h : ∀ n : Fin 128, P (.ofNat n)) (hc : c.toNat < 128) : P c := by
  have hp := h ⟨c.toNat, hc⟩
  rwa [Char.ofNat_toNat] at hp

theorem toNat_lt_of_isAlphanum (h : c.isAlphanum) : c.toNat < 128 := by
  rcases Bool.or_eq_true_iff.mp h with ha | hd
  case inl =>
    rcases Bool.or_eq_true_iff.mp ha with hu | hl
    case inl => exact Nat.lt_of_le_of_lt (of_decide_eq_true hu).2 (by decide)
    case inr => exact Nat.lt_of_le_of_lt (of_decide_eq_true (Bool.and_eq_true_iff.mp hl).2) (by decide)
  case inr => exact Nat.lt_of_le_of_lt (of_decide_eq_true (Bool.and_eq_true_iff.mp hd).2) (by decide)

theorem inPath_of_isAlphanum (h : c.isAlphanum) : inPath c :=
  forall_ascii (P := fun c => c.isAlphanum → inPath c) (by decide) (toNat_lt_of_isAlphanum h) h

theorem inQuery_of_isAlphanum (h : c.isAlphanum) : inQuery c :=
  forall_ascii (P := fun c => c.isAlphanum → inQuery c) (by decide) (toNat_lt_of_isAlphanum h) h

theorem forall_mem_escape (hm : keep '%') (ha : ∀ c : Char, c.isAlphanum → keep c) :
    ∀ c ∈ escape keep s, keep c := by
  intro c hc
  have ⟨d, _, hd⟩ := List.mem_flatMap.mp hc
  unfold escapeChar at hd
  split at hd
  case isTrue hk => exact List.mem_singleton.mp hd ▸ hk
  case isFalse =>
    have ⟨b, _, hb⟩ := List.mem_flatMap.mp hd
    cases mem_escapeOctet hb with
    | inl hb => exact hb ▸ hm
    | inr hb => exact ha c hb

theorem forall_mem_escape_inPath : ∀ c ∈ escape inPath s, inPath c :=
  forall_mem_escape (by decide) fun _ => inPath_of_isAlphanum

theorem forall_mem_escape_inQuery : ∀ c ∈ escape inQuery s, inQuery c :=
  forall_mem_escape (by decide) fun _ => inQuery_of_isAlphanum

theorem inQuery_of_mem_encode {pairs : List (String × String)} : ∀ c ∈ Query.encode pairs, inQuery c := by
  intro c hc
  rcases Query.mem_encode hc with rfl | rfl | hc | rfl | rfl
  case inr.inr.inl =>
    simp only [isUnreserved, Bool.or_eq_true, decide_eq_true_eq] at hc
    rcases hc with (((hc | rfl) | rfl) | rfl) | rfl
    case inl.inl.inl.inl => exact inQuery_of_isAlphanum hc
    all_goals decide
  all_goals decide

-- An address whose parts have been put into the form that they have in every address.
structure IsSettled (u : Url) : Prop where
  scheme : u.scheme ≠ []
  path   : ∀ c ∈ u.path, inPath c
  level  : IsLevel u.path
  query  : ∀ query ∈ u.query, ∀ c ∈ query, inQuery c

theorem settle_eq (h : u.scheme ≠ []) : settle u = .ok { u with
    path     := escape inPath (straighten u.path)
    query    := u.query.map (escape inQuery)
    fragment := u.fragment.map (escape inFragment) } := by
  simp [settle, isRooted, h]

theorem scheme_of_settle (h : settle u = .ok v) : v.scheme = u.scheme := by
  unfold settle at h
  split at h
  case isTrue => cases h
  case isFalse =>
    split at h <;> cases h
    rfl

theorem isSettled_of_settle (hs : u.scheme ≠ []) (h : settle u = .ok v) : v.IsSettled := by
  cases (settle_eq hs).symm.trans h
  exact {
    scheme := hs
    path := forall_mem_escape_inPath
    level := isLevel_escape (by decide) isLevel_straighten
    query := fun query hq => by
      have ⟨q, _, he⟩ := Option.map_eq_some_iff.mp hq
      exact he ▸ forall_mem_escape_inQuery
  }

theorem redirect_eq : u.redirect path query =
    match { u with path, query : Url }.parts.find? (maxLength < ·.2.length) with
    | some part => .error (.partTooLong part.1)
    | none => (encodeHost u.writtenHost).bind fun host => settle { u with path, query, host } := by
  simp only [redirect, bind, Except.bind]
  cases { u with path, query : Url }.parts.find? (maxLength < ·.2.length) <;> rfl

theorem settle_of_redirect (h : u.redirect path query = .ok v) :
    ∃ host, settle { u with path, query, host } = .ok v := by
  rw [redirect_eq] at h
  split at h
  case h_1 => cases h
  case h_2 =>
    cases hh : encodeHost u.writtenHost <;> rw [hh] at h
    case error => cases h
    case ok host => exact ⟨host, h⟩

theorem scheme_of_redirect (h : u.redirect path query = .ok v) : v.scheme = u.scheme := by
  have ⟨_, h⟩ := settle_of_redirect h
  have hs := scheme_of_settle h
  exact hs

theorem redirect_eq_ok (hs : u.scheme ≠ []) (h : u.redirect path query = .ok v) :
    v.path = escape inPath (straighten path) ∧ v.query = query.map (escape inQuery) ∧ v.IsSettled := by
  have ⟨host, h⟩ := settle_of_redirect h
  have hs : { u with path, query, host : Url }.scheme ≠ [] := hs
  have hv := isSettled_of_settle hs h
  cases (settle_eq hs).symm.trans h
  exact ⟨rfl, rfl, hv⟩

theorem IsSettled.isLevel_pathOrRoot (h : u.IsSettled) : IsLevel u.pathOrRoot := by
  unfold pathOrRoot
  split
  case isTrue =>
    have h : IsLevel ([] ++ '/' :: []) := isLevel_append_slash_iff.mpr ⟨isLevel_nil, isLevel_nil⟩
    exact h
  case isFalse => exact h.level

theorem IsSettled.inPath_of_mem_pathOrRoot (h : u.IsSettled) : ∀ c ∈ u.pathOrRoot, inPath c := by
  unfold pathOrRoot
  split
  case isTrue => simp; decide
  case isFalse => exact h.path

-- What is joined to an address stands at the end of its query, if it has one, or else of its path.
def joinedPath (u : Url) (more : List Char) : List Char :=
  if u.query = none then u.pathOrRoot ++ more else u.pathOrRoot

theorem extend_eq_redirect :
    u.extend more = u.redirect (u.joinedPath more) (u.query.map (· ++ more)) := by
  unfold extend joinedPath
  cases u.query <;> rfl

-- Text that has its form in a path and in a query already.
structure IsPlain (more : List Char) : Prop where
  inPath  : ∀ c ∈ more, inPath c
  inQuery : ∀ c ∈ more, inQuery c

theorem isPlain_slash : IsPlain ['/'] :=
  ⟨List.forall_mem_singleton.mpr (by decide), List.forall_mem_singleton.mpr (by decide)⟩

theorem extend_eq_ok (hu : u.IsSettled) (hl : IsLevel (u.joinedPath more)) (hm : IsPlain more)
    (h : u.extend more = .ok v) :
    v.path = u.joinedPath more ∧ v.query = u.query.map (· ++ more) ∧ v.IsSettled := by
  rw [extend_eq_redirect] at h
  have ⟨hp, hq, hv⟩ := redirect_eq_ok hu.scheme h
  refine ⟨hp.trans ?path, hq.trans ?query, hv⟩
  case path =>
    rw [straighten_of_isLevel hl]
    refine escape_eq_self ?_
    unfold joinedPath
    split
    case isTrue => exact List.forall_mem_append.mpr ⟨hu.inPath_of_mem_pathOrRoot, hm.inPath⟩
    case isFalse => exact hu.inPath_of_mem_pathOrRoot
  case query =>
    cases hn : u.query with
    | none => rfl
    | some query =>
      have hk : ∀ c ∈ query ++ more, Url.inQuery c := List.forall_mem_append.mpr ⟨hu.query query hn, hm.inQuery⟩
      simp [escape_eq_self hk]

-- An address to whose path more can be joined: its path ends in a slash, unless it is the query that is
-- joined to.
structure IsDirectory (u : Url) : Prop extends IsSettled u where
  ending : u.query = none → u.pathOrRoot.getLast? = some '/'

theorem IsDirectory.isLevel_joinedPath (h : u.IsDirectory) (hm : IsLevel more) :
    IsLevel (u.joinedPath more) := by
  unfold joinedPath
  split
  case isTrue hn => exact isLevel_append h.isLevel_pathOrRoot (h.ending hn) hm
  case isFalse => exact h.isLevel_pathOrRoot

theorem scheme_of_extend (h : u.extend more = .ok v) : v.scheme = u.scheme :=
  scheme_of_redirect (extend_eq_redirect ▸ h)

theorem scheme_of_asDirectory (h : u.asDirectory = .ok v) : v.scheme = u.scheme := by
  unfold asDirectory at h
  split at h
  case isTrue => cases h; rfl
  case isFalse => exact scheme_of_extend h

theorem isDirectory_of_asDirectory (hu : u.IsSettled) (h : u.asDirectory = .ok v) : v.IsDirectory := by
  unfold asDirectory at h
  split at h
  case isTrue he =>
    cases h
    exact ⟨hu, fun hn => by simpa [hn] using he⟩
  case isFalse =>
    have hl : IsLevel (u.joinedPath ['/']) := by
      unfold joinedPath
      split
      case isTrue => exact isLevel_append_slash_iff.mpr ⟨hu.isLevel_pathOrRoot, isLevel_nil⟩
      case isFalse => exact hu.isLevel_pathOrRoot
    have ⟨hp, hq, hv⟩ := extend_eq_ok hu hl isPlain_slash h
    refine ⟨hv, fun hn => ?_⟩
    have hn : u.query = none := Option.map_eq_none_iff.mp (hq.symm.trans hn)
    rw [pathOrRoot, hp, joinedPath, if_pos hn, if_neg (by simp), List.getLast?_append]
    rfl

theorem beforeLastHash_append {start rest : List Char} (h : '#' ∉ start) :
    ∃ rest', beforeLastHash (start ++ rest) = start ++ rest' := by
  unfold beforeLastHash
  split
  case isFalse => exact ⟨rest, rfl⟩
  case isTrue hm =>
    have hr : '#' ∈ rest := by simpa [h] using hm
    have hd : rest.reverse.dropWhile (· ≠ '#') ≠ [] := by
      simpa [List.dropWhile_eq_nil_iff] using hr
    have ⟨c, after, ha⟩ := List.exists_cons_of_ne_nil hd
    refine ⟨after.reverse, ?_⟩
    rw [List.reverse_append, List.dropWhile_append, ha]
    simp

-- No scheme has a character that ends one.
def IsScheme (scheme : List Char) : Prop :=
  ∀ c ∈ scheme, c ≠ '/' ∧ c ≠ ':' ∧ c ≠ '#'

theorem isTyped_of_isScheme (hn : u.scheme ≠ []) (h : IsScheme u.scheme) : u.isTyped := by
  have ⟨rest, ht⟩ : ∃ rest, u.text.toList = (u.scheme ++ [':']) ++ rest :=
    ⟨_, by simp only [text, if_neg hn, String.toList_ofList, List.append_assoc]; rfl⟩
  have hh : '#' ∉ u.scheme ++ [':'] := by
    simpa using fun hm => (h '#' hm).2.2 rfl
  have ⟨rest', hb⟩ : ∃ rest', beforeLastHash (u.scheme ++ [':'] ++ rest) = u.scheme ++ [':'] ++ rest' :=
    beforeLastHash_append hh
  have hp : ∀ c ∈ u.scheme, (decide (c ≠ '/') && decide (c ≠ ':')) = true := fun c hc => by
    simp [h c hc]
  have hs : (u.scheme ++ [':'] ++ rest').takeWhile (fun c => c ≠ '/' && c ≠ ':') = u.scheme := by
    rw [List.append_assoc, List.takeWhile_append_of_pos hp]
    simp
  rw [isTyped]
  simp only [ht, hb, hs]
  simp [hn]

theorem isSchemeChar_lt {c : Char} (h : isSchemeChar c) : c.toNat < 128 := by
  simp only [isSchemeChar, Bool.or_eq_true, decide_eq_true_eq] at h
  rcases h with ((h | rfl) | rfl) | rfl
  case inl.inl.inl => exact toNat_lt_of_isAlphanum h
  all_goals decide

theorem isScheme_splitScheme : IsScheme (splitScheme s).1 := by
  have hc : ∀ c, isSchemeChar c → c.toLower ≠ '/' ∧ c.toLower ≠ ':' ∧ c.toLower ≠ '#' := fun c h =>
    forall_ascii (P := fun c => isSchemeChar c → c.toLower ≠ '/' ∧ c.toLower ≠ ':' ∧ c.toLower ≠ '#')
      (by decide) (isSchemeChar_lt h) h
  unfold splitScheme
  simp only
  split
  case h_2 => exact nofun
  case h_1 =>
    refine List.forall_mem_map.mpr fun c hm => hc c ?_
    split at hm
    case isTrue => exact List.mem_takeWhile_imp hm
    case isFalse => exact absurd hm List.not_mem_nil

theorem parse_eq_ok (h : parse s = .ok u) :
    ∃ start, settle start = .ok u ∧ start.scheme = (splitScheme s).1 := by
  simp only [parse, bind, Except.bind] at h
  split at h
  case isTrue => cases h
  case isFalse =>
    split at h
    case h_1 => cases h
    case h_2 =>
      split at h
      case h_1 => cases h
      case h_2 =>
        split at h
        case h_1 => cases h
        case h_2 => exact ⟨_, h, rfl⟩

-- Whether an address can have another query is decided by the length of the query. Nothing else in the address
-- depends on it.
theorem redirect_of_redirect {first next : List Char} (hs : u.scheme ≠ [])
    (h : u.redirect path (some first) = .ok v) :
    u.redirect path (some next) =
      if maxLength < next.length then .error (.partTooLong "query")
      else .ok { v with query := some (escape inQuery next) } := by
  have hparts (q : List Char) : { u with path, query := some q : Url }.parts =
      [("scheme", u.scheme), ("authority", u.authority), ("path", path)] ++ [("query", q)] ++
        u.fragment.toList.map ("fragment", ·) :=
    rfl
  rw [redirect_eq, hparts, List.find?_append, List.find?_append] at h ⊢
  generalize List.find? _ [("scheme", u.scheme), _, _] = before at h ⊢
  generalize List.find? _ (u.fragment.toList.map _) = behind at h ⊢
  simp only [List.find?_cons, List.find?_nil] at h ⊢
  cases before with
  | some part => cases h
  | none =>
    by_cases hf : maxLength < first.length
    case pos => simp [hf] at h
    case neg =>
      cases behind with
      | some part => simp [hf] at h
      | none =>
        cases hh : encodeHost u.writtenHost with
        | error => simp [hf, hh, Except.bind] at h
        | ok host =>
          have h : settle { u with path, query := some first, host } = .ok v := by
            simpa [hf, hh, Except.bind] using h
          rw [settle_eq (u := { u with path, query := some first, host }) hs] at h
          cases h
          by_cases hn : maxLength < next.length
          case pos => simp [hn]
          case neg =>
            have hq := settle_eq (u := { u with path, query := some next, host }) hs
            simpa [hn, Except.bind] using hq

end RelatedIssues.Url
