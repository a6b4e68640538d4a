import RelatedIssues.Text.Utf8

namespace RelatedIssues.Text

variable {b : Begun} {n : Nat} {c : Char} {rest : List UInt8}

theorem takeOctet_last (h : b.low ≤ n ∧ n ≤ b.high) (hl : b.left = 1) :
    takeOctet (some b) n = ([Char.ofNat (b.code * 64 + (n - 0x80))], none) := by
  simp [takeOctet, h, hl]

theorem takeOctet_inner (h : b.low ≤ n ∧ n ≤ b.high) (hl : 1 < b.left) :
    takeOctet (some b) n = ([], some { left := b.left - 1, code := b.code * 64 + (n - 0x80) }) := by
  simp [takeOctet, h, hl]

-- The first octet of two, of three and of four. Which second octets may follow it depends on it, so that no
-- character can be written in two ways, and no surrogate can be written.
theorem firstOctet_of_two (h : 0xC2 ≤ n ∧ n < 0xE0) :
    firstOctet n = ([], some { left := 1, code := n - 0xC0 }) := by
  have h1 : ¬n < 0x80 := by omega
  have h2 : ¬(n < 0xC2 ∨ 0xF4 < n) := by omega
  rw [firstOctet, if_neg h1, if_neg h2, if_pos h.2]

theorem firstOctet_of_three {second : Nat} (h : 0xE0 ≤ n ∧ n < 0xF0) (hs : 0x80 ≤ second ∧ second ≤ 0xBF)
    (hlow : n = 0xE0 → 0xA0 ≤ second) (hhigh : n = 0xED → second ≤ 0x9F) :
    ∃ b, firstOctet n = ([], some b) ∧ b.left = 2 ∧ b.code = n - 0xE0 ∧ b.low ≤ second ∧ second ≤ b.high := by
  have h1 : ¬n < 0x80 := by omega
  have h2 : ¬(n < 0xC2 ∨ 0xF4 < n) := by omega
  have h3 : ¬n < 0xE0 := by omega
  rw [firstOctet, if_neg h1, if_neg h2, if_neg h3]
  by_cases he : n = 0xE0
  case pos => exact ⟨_, if_pos he, rfl, by simp [he], hlow he, hs.2⟩
  case neg =>
    rw [if_neg he]
    by_cases hd : n = 0xED
    case pos => exact ⟨_, if_pos hd, rfl, by simp [hd], hs.1, hhigh hd⟩
    case neg => exact ⟨{ left := 2, code := n - 0xE0 }, by rw [if_neg hd, if_pos h.2], rfl, rfl, hs⟩

theorem firstOctet_of_four {second : Nat} (h : 0xF0 ≤ n ∧ n ≤ 0xF4) (hs : 0x80 ≤ second ∧ second ≤ 0xBF)
    (hlow : n = 0xF0 → 0x90 ≤ second) (hhigh : n = 0xF4 → second ≤ 0x8F) :
    ∃ b, firstOctet n = ([], some b) ∧ b.left = 3 ∧ b.code = n - 0xF0 ∧ b.low ≤ second ∧ second ≤ b.high := by
  have h1 : ¬n < 0x80 := by omega
  have h2 : ¬(n < 0xC2 ∨ 0xF4 < n) := by omega
  have h3 : ¬n < 0xE0 := by omega
  have h4 : ¬n = 0xE0 := by omega
  have h5 : ¬n = 0xED := by omega
  have h6 : ¬n < 0xF0 := by omega
  rw [firstOctet, if_neg h1, if_neg h2, if_neg h3, if_neg h4, if_neg h5, if_neg h6]
  by_cases he : n = 0xF0
  case pos => exact ⟨_, if_pos he, rfl, by simp [he], hlow he, hs.2⟩
  case neg =>
    rw [if_neg he]
    by_cases hd : n = 0xF4
    case pos => exact ⟨_, if_pos hd, rfl, by simp [hd], hs.1, hhigh hd⟩
    case neg => exact ⟨_, if_neg hd, rfl, rfl, hs⟩

theorem ofOctetsFrom_cons {begun : Option Begun} {x : UInt8} : ofOctetsFrom begun (x :: rest) =
    (takeOctet begun x.toNat).1 ++ ofOctetsFrom (takeOctet begun x.toNat).2 rest :=
  rfl

section

variable {x y z w : UInt8}

theorem ofOctetsFrom_two (hx : 0xC2 ≤ x.toNat ∧ x.toNat < 0xE0) (hy : 0x80 ≤ y.toNat ∧ y.toNat ≤ 0xBF) :
    ofOctetsFrom none (x :: y :: rest) =
      .ofNat ((x.toNat - 0xC0) * 64 + (y.toNat - 0x80)) :: ofOctetsFrom none rest := by
  rw [ofOctetsFrom_cons, takeOctet, firstOctet_of_two hx, List.nil_append, ofOctetsFrom_cons,
    takeOctet_last hy rfl]
  rfl

theorem ofOctetsFrom_three (hx : 0xE0 ≤ x.toNat ∧ x.toNat < 0xF0) (hy : 0x80 ≤ y.toNat ∧ y.toNat ≤ 0xBF)
    (hz : 0x80 ≤ z.toNat ∧ z.toNat ≤ 0xBF) (hlow : x.toNat = 0xE0 → 0xA0 ≤ y.toNat)
    (hhigh : x.toNat = 0xED → y.toNat ≤ 0x9F) :
    ofOctetsFrom none (x :: y :: z :: rest) =
      .ofNat (((x.toNat - 0xE0) * 64 + (y.toNat - 0x80)) * 64 + (z.toNat - 0x80)) ::
        ofOctetsFrom none rest := by
  have ⟨b, hb, hl, hc, hr⟩ := firstOctet_of_three hx hy hlow hhigh
  have hl1 : b.left - 1 = 1 := by omega
  rw [ofOctetsFrom_cons, takeOctet, hb, List.nil_append, ofOctetsFrom_cons,
    takeOctet_inner hr (by omega), List.nil_append, ofOctetsFrom_cons, takeOctet_last hz hl1, hc]
  rfl

theorem ofOctetsFrom_four (hx : 0xF0 ≤ x.toNat ∧ x.toNat ≤ 0xF4) (hy : 0x80 ≤ y.toNat ∧ y.toNat ≤ 0xBF)
    (hz : 0x80 ≤ z.toNat ∧ z.toNat ≤ 0xBF) (hw : 0x80 ≤ w.toNat ∧ w.toNat ≤ 0xBF)
    (hlow : x.toNat = 0xF0 → 0x90 ≤ y.toNat) (hhigh : x.toNat = 0xF4 → y.toNat ≤ 0x8F) :
    ofOctetsFrom none (x :: y :: z :: w :: rest) =
      .ofNat ((((x.toNat - 0xF0) * 64 + (y.toNat - 0x80)) * 64 + (z.toNat - 0x80)) * 64 +
        (w.toNat - 0x80)) :: ofOctetsFrom none rest := by
  have ⟨b, hb, hl, hc, hr⟩ := firstOctet_of_four hx hy hlow hhigh
  have hl2 : 1 < b.left - 1 := by omega
  have hl1 : b.left - 1 - 1 = 1 := by omega
  rw [ofOctetsFrom_cons, takeOctet, hb, List.nil_append, ofOctetsFrom_cons,
    takeOctet_inner hr (by omega), List.nil_append, ofOctetsFrom_cons, takeOctet_inner hz hl2,
    List.nil_append, ofOctetsFrom_cons, takeOctet_last hw hl1, hc]
  rfl

end

theorem toNat_ofNat_octet (h : n < 256) : (UInt8.ofNat n).toNat = n := by
  simpa using h

-- An octet that follows the first one holds six bits.
theorem toNat_following (n : Nat) : (UInt8.ofNat (n % 0x40 + 0x80)).toNat = n % 0x40 + 0x80 :=
  toNat_ofNat_octet (by omega)

section

variable {v : Nat}

theorem ofOctetsFrom_encoded_one (h : v < 0x80) :
    ofOctetsFrom none (.ofNat v :: rest) = .ofNat v :: ofOctetsFrom none rest := by
  have hn : (UInt8.ofNat v).toNat = v := toNat_ofNat_octet (by omega)
  have hf : firstOctet v = ([.ofNat v], none) := by rw [firstOctet, if_pos (by omega)]
  simp [ofOctetsFrom_cons, hn, takeOctet, hf]

theorem ofOctetsFrom_encoded_two (hl : 0x80 ≤ v) (hu : v < 0x800) :
    ofOctetsFrom none (.ofNat (v / 64 % 0x20 + 0xC0) :: .ofNat (v % 0x40 + 0x80) :: rest) =
      .ofNat v :: ofOctetsFrom none rest := by
  have head : (UInt8.ofNat (v / 64 % 0x20 + 0xC0)).toNat = v / 64 + 0xC0 := by
    rw [toNat_ofNat_octet (by omega)]
    omega
  have he : (v / 64 + 0xC0 - 0xC0) * 64 + (v % 0x40 + 0x80 - 0x80) = v := by omega
  rw [ofOctetsFrom_two (by rw [head]; omega) (by rw [toNat_following]; omega), head, toNat_following, he]

theorem ofOctetsFrom_encoded_three (hl : 0x800 ≤ v) (hu : v < 0x10000) (hs : v < 0xD800 ∨ 0xDFFF < v) :
    ofOctetsFrom none (.ofNat (v / 4096 % 0x10 + 0xE0) :: .ofNat (v / 64 % 0x40 + 0x80) ::
      .ofNat (v % 0x40 + 0x80) :: rest) = .ofNat v :: ofOctetsFrom none rest := by
  have head : (UInt8.ofNat (v / 4096 % 0x10 + 0xE0)).toNat = v / 4096 + 0xE0 := by
    rw [toNat_ofNat_octet (by omega)]
    omega
  have he : ((v / 4096 + 0xE0 - 0xE0) * 64 + (v / 64 % 0x40 + 0x80 - 0x80)) * 64 +
      (v % 0x40 + 0x80 - 0x80) = v := by omega
  rw [ofOctetsFrom_three (by rw [head]; omega) (by rw [toNat_following]; omega)
    (by rw [toNat_following]; omega) (by rw [head, toNat_following]; omega)
    (by rw [head, toNat_following]; omega), head, toNat_following, toNat_following, he]

theorem ofOctetsFrom_encoded_four (hl : 0x10000 ≤ v) (hu : v < 0x110000) :
    ofOctetsFrom none (.ofNat (v / 262144 % 0x08 + 0xF0) :: .ofNat (v / 4096 % 0x40 + 0x80) ::
      .ofNat (v / 64 % 0x40 + 0x80) :: .ofNat (v % 0x40 + 0x80) :: rest) =
        .ofNat v :: ofOctetsFrom none rest := by
  have head : (UInt8.ofNat (v / 262144 % 0x08 + 0xF0)).toNat = v / 262144 + 0xF0 := by
    rw [toNat_ofNat_octet (by omega)]
    omega
  have he : (((v / 262144 + 0xF0 - 0xF0) * 64 + (v / 4096 % 0x40 + 0x80 - 0x80)) * 64 +
      (v / 64 % 0x40 + 0x80 - 0x80)) * 64 + (v % 0x40 + 0x80 - 0x80) = v := by omega
  rw [ofOctetsFrom_four (by rw [head]; omega) (by rw [toNat_following]; omega)
    (by rw [toNat_following]; omega) (by rw [toNat_following]; omega) (by rw [head, toNat_following]; omega)
    (by rw [head, toNat_following]; omega), head, toNat_following, toNat_following, toNat_following, he]

end

-- The cases are those of the encoding. A character is no surrogate, and it lies below the limit of all.
theorem ofOctetsFrom_utf8EncodeChar :
    ofOctetsFrom none (String.utf8EncodeChar c ++ rest) = c :: ofOctetsFrom none rest := by
  have hv : c.val.toNat < 0xD800 ∨ 0xDFFF < c.val.toNat ∧ c.val.toNat < 0x110000 := c.valid
  have hc : c = Char.ofNat c.val.toNat := (Char.ofNat_toNat c).symm
  rw [String.utf8EncodeChar]
  generalize c.val.toNat = v at hv hc ⊢
  rw [hc]
  split
  case isTrue => exact ofOctetsFrom_encoded_one (by omega)
  case isFalse =>
    split
    case isTrue => exact ofOctetsFrom_encoded_two (by omega) (by omega)
    case isFalse =>
      split
      case isTrue => exact ofOctetsFrom_encoded_three (by omega) (by omega) (by omega)
      case isFalse => exact ofOctetsFrom_encoded_four (by omega) (by omega)

theorem ofOctets_octets (s : List Char) : ofOctets (octets s) = s := by
  induction s with
  | nil => rfl
  | cons c s ih =>
    rw [octets, List.flatMap_cons, ofOctets, ofOctetsFrom_utf8EncodeChar]
    exact congrArg (c :: ·) ih

end RelatedIssues.Text
