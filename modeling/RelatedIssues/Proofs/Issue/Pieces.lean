import RelatedIssues.Issue.OfJson

namespace RelatedIssues

namespace Json

-- What has no items and says something: true, or a number other than zero.
inductive IsBare : Json → Prop
  | bool : IsBare (.bool true)
  | int : n ≠ 0 → IsBare (.int n)
  | real : ¬x.isZero → IsBare (.real x)

variable {j : Json}

theorem listed_of_isBare (h : j.IsBare) : j.listed = .error (.misuse (.notIterable j.kind)) := by
  cases h with
  | bool => rfl
  | int h => simp [listed, isTruthy, h]
  | real h => simp [listed, isTruthy, h]

theorem listed_of_not_isBare (h : ¬j.IsBare) : j.listed = .ok j.itemsD := by
  cases j with
  | bool b =>
    cases b with
    | false => rfl
    | true => exact absurd .bool h
  | int n =>
    have hn : n = 0 := Decidable.not_not.mp fun hn => h (.int hn)
    rw [hn]
    rfl
  | real x =>
    have hx : x.isZero := Decidable.not_not.mp fun hx => h (.real hx)
    simp [listed, isTruthy, hx, itemsD]
  | null | str | arr | obj => rfl

-- An object with another value in one of its fields. What is no object has no fields.
def withField : Json → (name : String) → (value : Json) → Json
  | .obj fields, name, value => .obj (Table.insert fields name value)
  | j, _, _ => j

theorem getD_withField_of_ne {name other : String} {value : Json} (h : name ≠ other) :
    (j.withField name value).getD other = j.getD other := by
  cases j with
  | obj fields => rw [withField, getD_obj, getD_obj, Table.get?_insert, if_neg h]
  | null | bool | int | real | str | arr => rfl

-- What stands in the field then is the value, if there are fields at all.
theorem getD_withField {name : String} {value : Json} :
    (j.withField name value).getD name = value ∨ (j.withField name value).getD name = j.getD name := by
  cases j with
  | obj fields =>
    rw [withField, getD_obj, Table.get?_insert, if_pos rfl]
    exact .inl rfl
  | null | bool | int | real | str | arr => exact .inr rfl

end Json

namespace Issue

-- A piece of an entry, by the name of its field.
def piece (entry : Json) (name : String) : Json :=
  (entry.getD "fields").getD name

-- An entry with another value for one of its pieces.
def withPiece (entry : Json) (name : String) (value : Json) : Json :=
  entry.withField "fields" ((entry.getD "fields").withField name value)

-- An entry is refused for what stands where its links or its subtasks belong.
def Refused (entry : Json) : Prop :=
  (piece entry "issuelinks").IsBare ∨ (piece entry "subtasks").IsBare

-- The issue that some pieces tell, each of them one part of it.
def ofPieces (key links parent subtasks : Json) : Issue where
  key      := key.str?
  links    := links.itemsD.filterMap Link.ofJson?
  parent   := Parent.ofJson? parent
  subtasks := subtasks.itemsD.filterMap IssueRef.ofJson?

variable {entry entry' value : Json} {name other : String} {issue issue' : Issue}

theorem ofJson_of_refused (h : Refused entry) :
    ∃ kind, ofJson entry = .error (.misuse (.notIterable kind)) := by
  by_cases hl : (piece entry "issuelinks").IsBare
  case pos =>
    have hl := Json.listed_of_isBare hl
    exact ⟨_, by rw [ofJson, ofFields, ← piece, hl]; rfl⟩
  case neg =>
    have hs := Json.listed_of_isBare (h.resolve_left hl)
    have hl := Json.listed_of_not_isBare hl
    exact ⟨_, by rw [ofJson, ofFields, ← piece, ← piece, hl, hs]; rfl⟩

-- A number in place of the links costs the key, the parent and the subtasks, too.
theorem ofJson_refuses_number :
    let fields : Json := .obj [("issuelinks", .int 5), ("parent", .obj [("key", .str "EP-1")]),
      ("subtasks", .arr [.obj [("key", .str "ABC-2")]])]
    ofJson (.obj [("key", .str "ABC-1"), ("fields", fields)]) = .error (.misuse (.notIterable "int")) :=
  rfl

theorem ofJson_of_not_refused (h : ¬Refused entry) : ofJson entry = .ok (ofPieces (entry.getD "key")
    (piece entry "issuelinks") (piece entry "parent") (piece entry "subtasks")) := by
  have ⟨hl, hs⟩ := not_or.mp h
  rw [ofJson, ofFields, ← piece, ← piece, Json.listed_of_not_isBare hl, Json.listed_of_not_isBare hs]
  rfl

theorem exists_ofJson_iff : (∃ issue, ofJson entry = .ok issue) ↔ ¬Refused entry := by
  constructor
  case mp =>
    intro ⟨_, ho⟩ h
    have ⟨_, he⟩ := ofJson_of_refused h
    cases ho.symm.trans he
  case mpr => exact fun h => ⟨_, ofJson_of_not_refused h⟩

theorem eq_ofPieces_of_ofJson (h : ofJson entry = .ok issue) : issue = ofPieces (entry.getD "key")
    (piece entry "issuelinks") (piece entry "parent") (piece entry "subtasks") := by
  rw [ofJson_of_not_refused (exists_ofJson_iff.mp ⟨issue, h⟩)] at h
  exact (Except.ok.inj h).symm

-- Two issues have each part in common whose pieces their entries have in common.
structure ShareParts (entry entry' : Json) (issue issue' : Issue) : Prop where
  key      : entry'.getD "key" = entry.getD "key" → issue'.key = issue.key
  links    : piece entry' "issuelinks" = piece entry "issuelinks" → issue'.links = issue.links
  parent   : piece entry' "parent" = piece entry "parent" → issue'.parent = issue.parent
  subtasks : piece entry' "subtasks" = piece entry "subtasks" → issue'.subtasks = issue.subtasks

theorem shareParts_of_ofJson (h : ofJson entry = .ok issue) (h' : ofJson entry' = .ok issue') :
    ShareParts entry entry' issue issue' := by
  cases eq_ofPieces_of_ofJson h
  cases eq_ofPieces_of_ofJson h'
  exact {
    key := fun he => congrArg Json.str? he
    links := fun he => congrArg (·.itemsD.filterMap Link.ofJson?) he
    parent := fun he => congrArg Parent.ofJson? he
    subtasks := fun he => congrArg (·.itemsD.filterMap IssueRef.ofJson?) he }

-- Two issues differ in the part that this piece tells, if at all.
structure DifferIn (name : String) (issue issue' : Issue) : Prop where
  key      : issue'.key = issue.key
  links    : name ≠ "issuelinks" → issue'.links = issue.links
  parent   : name ≠ "parent" → issue'.parent = issue.parent
  subtasks : name ≠ "subtasks" → issue'.subtasks = issue.subtasks

theorem getD_key_withPiece : (withPiece entry name value).getD "key" = entry.getD "key" :=
  Json.getD_withField_of_ne (by decide)

theorem getD_fields_withPiece :
    (withPiece entry name value).getD "fields" = (entry.getD "fields").withField name value := by
  cases entry with
  | obj fields =>
    rw [withPiece, Json.withField, Json.getD_obj, Table.get?_insert, if_pos rfl]
    rfl
  | null | bool | int | real | str | arr => rfl

theorem piece_withPiece_of_ne (h : name ≠ other) :
    piece (withPiece entry name value) other = piece entry other := by
  rw [piece, getD_fields_withPiece, Json.getD_withField_of_ne h, piece]

theorem piece_withPiece : piece (withPiece entry name value) name = value ∨
    piece (withPiece entry name value) name = piece entry name := by
  rw [piece, getD_fields_withPiece, piece]
  exact Json.getD_withField

-- A piece that is bare in the end was bare before, or the bare value has taken its place.
theorem not_isBare_piece_withPiece (h : ¬(piece entry other).IsBare)
    (hv : name = other → ¬value.IsBare) : ¬(piece (withPiece entry name value) other).IsBare := by
  by_cases hn : name = other
  case pos =>
    subst hn
    have hp : piece (withPiece entry name value) name = value ∨ _ := piece_withPiece
    rcases hp with hp | hp <;> rw [hp]
    case inl => exact hv rfl
    case inr => exact h
  case neg => rwa [piece_withPiece_of_ne hn]

-- Another value for a piece is taken, unless it is bare and stands where a list belongs, and it changes
-- nothing but the part that the piece tells.
theorem ofJson_withPiece (h : ofJson entry = .ok issue)
    (hv : name = "issuelinks" ∨ name = "subtasks" → ¬value.IsBare) :
    ∃ issue', ofJson (withPiece entry name value) = .ok issue' ∧ DifferIn name issue issue' := by
  have ⟨hl, hs⟩ := not_or.mp (exists_ofJson_iff.mp ⟨issue, h⟩)
  have hn : ¬Refused (withPiece entry name value) := not_or.mpr
    ⟨not_isBare_piece_withPiece hl fun hn => hv (.inl hn),
      not_isBare_piece_withPiece hs fun hn => hv (.inr hn)⟩
  have ⟨issue', h'⟩ := exists_ofJson_iff.mpr hn
  have hp := shareParts_of_ofJson h h'
  exact ⟨issue', h', {
    key := hp.key getD_key_withPiece
    links := fun hn => hp.links (piece_withPiece_of_ne hn)
    parent := fun hn => hp.parent (piece_withPiece_of_ne hn)
    subtasks := fun hn => hp.subtasks (piece_withPiece_of_ne hn) }⟩

end Issue
end RelatedIssues
