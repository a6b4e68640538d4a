import Mathlib.Data.List.TakeWhile
import RelatedIssues.Proofs.Distinct
import RelatedIssues.Proofs.Text.Utf8
import RelatedIssues.Url.Query

namespace RelatedIssues.Url

variable {keep : Char → Bool} {c : Char} {s rest : List Char} {n : Nat}

theorem escape_eq_self (h : ∀ c ∈ s, keep c) : escape keep s = s := by
  induction s with
  | nil => rfl
  | cons c s ih =>
    have ⟨hc, hs⟩ := List.forall_mem_cons.mp h
    rw [escape, List.flatMap_cons, escapeChar, if_pos hc]
    exact congrArg (c :: ·) (ih hs)

theorem hexDigit?_capitalDigit (h : n < 16) : Text.hexDigit? (capitalDigit n) = some n := by
  have hd : ∀ n : Fin 16, Text.hexDigit? (capitalDigit n) = some n.val := by decide
  exact hd ⟨n, h⟩

theorem isAlphanum_capitalDigit (h : n < 16) : (capitalDigit n).isAlphanum := by
  have hd : ∀ n : Fin 16, (capitalDigit n).isAlphanum := by decide
  exact hd ⟨n, h⟩

-- The characters that an escaped octet is written with.
theorem mem_escapeOctet {b : UInt8} (h : c ∈ escapeOctet b) : c = '%' ∨ c.isAlphanum := by
  have hb := b.toNat_lt
  simp only [escapeOctet, List.mem_cons, List.not_mem_nil, or_false] at h
  rcases h with rfl | rfl | rfl
  case inl => exact .inl rfl
  case inr.inl => exact .inr (isAlphanum_capitalDigit (by omega))
  case inr.inr => exact .inr (isAlphanum_capitalDigit (by omega))

theorem octetsAfter_escapeOctet {b : UInt8} :
    octetsAfter 0 (escapeOctet b ++ rest) = b :: octetsAfter 0 rest := by
  have hb := b.toNat_lt
  have hn : b.toNat / 16 * 16 + b.toNat % 16 = b.toNat := by omega
  simp [escapeOctet, octetsAfter, escaped?, hexDigit?_capitalDigit (n := b.toNat / 16) (by omega),
    hexDigit?_capitalDigit (n := b.toNat % 16) (by omega), hn]

theorem octetsAfter_escapeOctets {bs : List UInt8} :
    octetsAfter 0 (bs.flatMap escapeOctet ++ rest) = bs ++ octetsAfter 0 rest := by
  induction bs with
  | nil => rfl
  | cons b bs ih =>
    rw [List.flatMap_cons, List.append_assoc, octetsAfter_escapeOctet, ih, List.cons_append]

theorem octetsAfter_of_plain (h : c ≠ '%') :
    octetsAfter 0 (c :: rest) = String.utf8EncodeChar c ++ octetsAfter 0 rest := by
  simp [octetsAfter, h]

namespace Query

-- How one character is written.
def encodeChar (c : Char) : List Char :=
  if c = ' ' then ['+'] else escapeChar isUnreserved c

def plusToSpace (c : Char) : Char :=
  if c = '+' then ' ' else c

variable {t : String} {pairs : List (String × String)}

theorem map_plusToSpace_escapeOctets {bs : List UInt8} :
    (bs.flatMap escapeOctet).map plusToSpace = bs.flatMap escapeOctet := by
  refine (List.map_congr_left fun c hc => ?_).trans (List.map_id _)
  have ⟨b, _, hc⟩ := List.mem_flatMap.mp hc
  have hp : c ≠ '+' := by
    rintro rfl
    cases mem_escapeOctet hc with
    | inl h => exact absurd h (by decide)
    | inr h => exact absurd h (by decide)
  exact if_neg hp

theorem encodePart_eq : encodePart t = t.toList.flatMap encodeChar :=
  rfl

theorem mem_encodeChar {d : Char} (h : d ∈ encodeChar c) : isUnreserved d ∨ d = '+' ∨ d = '%' := by
  unfold encodeChar at h
  split at h
  case isTrue => exact .inr (.inl (List.mem_singleton.mp h))
  case isFalse =>
    unfold escapeChar at h
    split at h
    case isTrue hk => exact .inl (List.mem_singleton.mp h ▸ hk)
    case isFalse =>
      have ⟨b, _, hd⟩ := List.mem_flatMap.mp h
      cases mem_escapeOctet hd with
      | inl hd => exact .inr (.inr hd)
      | inr hd => exact .inl (by simp [isUnreserved, hd])

theorem mem_encodePart (h : c ∈ encodePart t) : isUnreserved c ∨ c = '+' ∨ c = '%' :=
  have ⟨_, _, h⟩ := List.mem_flatMap.mp h
  mem_encodeChar h

-- A plus sign that was written for a space is told from one that was escaped.
theorem octetsAfter_encodeChar : octetsAfter 0 ((encodeChar c).map plusToSpace ++ rest) =
    String.utf8EncodeChar c ++ octetsAfter 0 rest := by
  unfold encodeChar
  split
  case isTrue h => exact h ▸ octetsAfter_of_plain (by decide)
  case isFalse =>
    unfold escapeChar
    split
    case isTrue hk =>
      have hp : c ≠ '+' := fun h => by simp [h, isUnreserved] at hk
      have hm : c ≠ '%' := fun h => by simp [h, isUnreserved] at hk
      rw [List.map_singleton, plusToSpace, if_neg hp]
      exact octetsAfter_of_plain hm
    case isFalse => rw [map_plusToSpace_escapeOctets, octetsAfter_escapeOctets]

theorem octetsAfter_encodePart : octetsAfter 0 ((encodePart t).map plusToSpace) = Text.octets t.toList := by
  rw [encodePart_eq, Text.octets]
  induction t.toList with
  | nil => rfl
  | cons c s ih => rw [List.flatMap_cons, List.map_append, octetsAfter_encodeChar, ih, List.flatMap_cons]

theorem decodePart_encodePart : decodePart (encodePart t) = t := by
  have hu : unescape ((encodePart t).map plusToSpace) = t.toList := by
    rw [unescape, octetsAfter_encodePart, Text.ofOctets_octets]
  exact (congrArg String.ofList hu).trans String.ofList_toList

theorem encodeChar_ne_nil : encodeChar c ≠ [] := by
  unfold encodeChar escapeChar
  split
  case isTrue => simp
  case isFalse =>
    split
    case isTrue => simp
    case isFalse =>
      have hn : String.utf8EncodeChar c ≠ [] :=
        List.ne_nil_of_length_pos (String.length_utf8EncodeChar c ▸ Char.utf8Size_pos c)
      have ⟨b, bs, hb⟩ := List.exists_cons_of_ne_nil hn
      simp [hb, escapeOctet]

-- No text gets shorter by being written for an address.
theorem length_le_length_encodePart : t.length ≤ (encodePart t).length := by
  rw [← String.length_toList, encodePart_eq]
  induction t.toList with
  | nil => exact Nat.le_refl _
  | cons c s ih =>
    have hc : 1 ≤ (encodeChar c).length := List.length_pos_iff.mpr encodeChar_ne_nil
    rw [List.flatMap_cons, List.length_append, List.length_cons]
    omega

theorem length_le_length_encode {name : String} : t.length ≤ (encode ((name, t) :: pairs)).length := by
  have he : t.length ≤ (encodePair (name, t)).length := by
    have ht : t.length ≤ (encodePart (name, t).2).length := length_le_length_encodePart
    rw [encodePair, List.length_append, List.length_cons]
    omega
  rw [encode, List.map_cons]
  cases pairs with
  | nil => simpa using he
  | cons =>
    simp only [List.map_cons, List.intercalate_cons_cons, List.length_append]
    omega

theorem not_mem_encodePart (hu : isUnreserved c = false) (hp : c ≠ '+') (hm : c ≠ '%') : c ∉ encodePart t := by
  intro h
  rcases mem_encodePart h with h | h | h
  case inl => exact Bool.false_ne_true (hu.symm.trans h)
  case inr.inl => exact hp h
  case inr.inr => exact hm h

theorem decodePair_encodePair {pair : String × String} : decodePair (encodePair pair) = pair := by
  have hn : ∀ c ∈ encodePart pair.1, decide (c ≠ '=') := fun c hc => by
    rw [decide_eq_true_iff]
    rintro rfl
    exact not_mem_encodePart (by decide) (by decide) (by decide) hc
  rw [encodePair, decodePair, List.takeWhile_append_of_pos hn, List.dropWhile_append_of_pos hn]
  simp [decodePart_encodePart]

theorem encodePair_ne_nil {pair : String × String} : encodePair pair ≠ [] := by
  simp [encodePair]

theorem ampersand_not_mem_encodePair {pair : String × String} : '&' ∉ encodePair pair := by
  have h (t : String) : '&' ∉ encodePart t := not_mem_encodePart (by decide) (by decide) (by decide)
  simp [encodePair, h]

theorem splitOnP_encode (h : pairs ≠ []) : (encode pairs).splitOnP (· = '&') = pairs.map encodePair := by
  have hm : ∀ l ∈ pairs.map encodePair, '&' ∉ l :=
    List.forall_mem_map.mpr fun _ _ => ampersand_not_mem_encodePair
  exact List.splitOn_intercalate '&' hm (by simpa using h)

theorem mem_encode (h : c ∈ encode pairs) :
    c = '&' ∨ c = '=' ∨ isUnreserved c ∨ c = '+' ∨ c = '%' := by
  have hp {pair : String × String} (h : c ∈ encodePair pair) : c = '=' ∨ isUnreserved c ∨ c = '+' ∨ c = '%' := by
    rcases List.mem_append.mp h with h | h
    case inl => exact .inr (mem_encodePart h)
    case inr =>
      rcases List.mem_cons.mp h with h | h
      case inl => exact .inl h
      case inr => exact .inr (mem_encodePart h)
  induction pairs with
  | nil => simp [encode] at h
  | cons pair pairs ih =>
    cases pairs with
    | nil => exact .inr (hp (by simpa [encode] using h))
    | cons next pairs =>
      rw [encode, List.map_cons, List.map_cons, List.intercalate_cons_cons, List.append_assoc] at h
      rcases List.mem_append.mp h with h | h
      case inl => exact .inr (hp h)
      case inr =>
        rcases List.mem_append.mp h with h | h
        case inl => exact .inl (List.mem_singleton.mp h)
        case inr => exact ih h

-- Pairs with different names are not moved together.
theorem gather_of_nodup (h : (pairs.map (·.1)).Nodup) : gather pairs = pairs := by
  rw [gather, Distinct.eraseDups_of_nodup h]
  induction pairs with
  | nil => rfl
  | cons pair pairs ih =>
    have ⟨hp, hn⟩ : pair.1 ∉ pairs.map (·.1) ∧ (pairs.map (·.1)).Nodup := List.nodup_cons.mp h
    have hfirst : (pair :: pairs).filter (·.1 = pair.1) = [pair] := by
      rw [List.filter_cons_of_pos (by simp), List.filter_eq_nil_iff.mpr fun other ho => ?_]
      exact fun he => hp (List.mem_map.mpr ⟨other, ho, of_decide_eq_true he⟩)
    have hrest : ∀ name ∈ pairs.map (·.1),
        (pair :: pairs).filter (·.1 = name) = pairs.filter (·.1 = name) := by
      intro name hm
      refine List.filter_cons_of_neg fun he => hp ?_
      have he : pair.1 = name := of_decide_eq_true he
      exact he ▸ hm
    rw [List.map_cons, List.flatMap_cons, hfirst, List.flatMap_congr hrest, ih hn]
    rfl

theorem decode_encode (hn : pairs ≠ []) (h : (pairs.map (·.1)).Nodup) : decode (encode pairs) = pairs := by
  have hf : (pairs.map encodePair).filter (· ≠ []) = pairs.map encodePair :=
    List.filter_eq_self.mpr (List.forall_mem_map.mpr fun _ _ => by simp [encodePair_ne_nil])
  have hd : (pairs.map encodePair).map decodePair = pairs := by
    rw [List.map_map]
    exact (List.map_congr_left fun _ _ => decodePair_encodePair).trans (List.map_id _)
  rw [decode, splitOnP_encode hn, hf, hd, gather_of_nodup h]

end Query
end RelatedIssues.Url
