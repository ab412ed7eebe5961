import ServedMedia.Decimal.Binary64

/-!
# JSON values

Trees keep what a reader of the text can see: the members of an object stay in
the order in which their keys were first given, and whole numbers are apart
from floats.

    get? k (insert k v members) = some v                       (get?_insert_self)
    k ≠ k' → get? k (insert k' v members) = get? k members     (get?_insert_of_ne)

`inductionOn` reaches the values in an array and those of the members of an object.
-/

namespace ServedMedia

/-- Whole numbers between `-2 ^ 63` and `2 ^ 64 - 1` are kept exactly. -/
inductive Json.Number where
  | whole (value : Int)
  | float (value : Binary64)
  deriving DecidableEq, Repr, Inhabited

inductive Json where
  | null
  | bool (value : Bool)
  | number (value : Json.Number)
  | string (value : String)
  | array (items : List Json)
  | object (members : List (String × Json))
  deriving Repr, Inhabited, BEq

namespace Json

/-! ## Algorithm -/

/-- The members of an object. -/
abbrev Members := List (String × Json)

/-- The value of the first member with the key. -/
def Members.get? (key : String) : Members → Option Json
  | [] => none
  | (k, v) :: rest => if k = key then some v else get? key rest

/-- Replaces the value of the key where it stands, or adds the key at the end. -/
def Members.insert (key : String) (value : Json) : Members → Members
  | [] => [(key, value)]
  | (k, v) :: rest => if k = key then (k, value) :: rest else (k, v) :: insert key value rest

/-- The member of an object; other values have none. -/
def member? (key : String) : Json → Option Json
  | object members => Members.get? key members
  | _ => none

def asString? : Json → Option String
  | string value => some value
  | _ => none

/-! ## Lemmas -/

theorem inductionOn {motive : Json → Prop} (null : motive .null)
    (bool : ∀ value, motive (.bool value)) (number : ∀ value, motive (.number value))
    (string : ∀ value, motive (.string value))
    (array : ∀ items, (∀ item ∈ items, motive item) → motive (.array items))
    (object : ∀ members : Members, (∀ member ∈ members, motive member.2) →
      motive (.object members)) (value : Json) : motive value :=
  @Json.rec motive (fun items => ∀ item ∈ items, motive item)
    (fun members => ∀ member ∈ members, motive member.2) (fun member => motive member.2)
    null bool number string array object
    (by simp) (fun _ _ hhead htail => List.forall_mem_cons.2 ⟨hhead, htail⟩)
    (by simp) (fun _ _ hhead htail => List.forall_mem_cons.2 ⟨hhead, htail⟩)
    (fun _ _ hvalue => hvalue) value

theorem Members.mem_of_get? {key : String} {members : Members} {value : Json}
    (h : Members.get? key members = some value) : (key, value) ∈ members := by
  induction members with
  | nil => cases h
  | cons member members ih =>
    obtain ⟨k, first⟩ := member
    rw [Members.get?] at h
    split at h
    · next hk =>
      obtain rfl := Option.some.inj h
      rw [hk]
      exact List.mem_cons_self
    · exact List.mem_cons_of_mem _ (ih h)

theorem Members.get?_insert_self (key : String) (value : Json) (members : Members) :
    get? key (insert key value members) = some value := by
  induction members with
  | nil => simp [insert, get?]
  | cons first rest ih =>
    obtain ⟨k, v⟩ := first
    by_cases h : k = key <;> simp [insert, get?, h, ih]

theorem Members.get?_insert_of_ne {key other : String} (h : key ≠ other) (value : Json)
    (members : Members) : get? key (insert other value members) = get? key members := by
  induction members with
  | nil => simp [insert, get?, Ne.symm h]
  | cons first rest ih =>
    obtain ⟨k, v⟩ := first
    by_cases ho : k = other
    · subst ho
      simp [insert, get?, Ne.symm h]
    · by_cases hk : k = key
      · subst hk
        simp [insert, get?, ho]
      · simp [insert, get?, ho, hk, ih]

end Json

end ServedMedia
