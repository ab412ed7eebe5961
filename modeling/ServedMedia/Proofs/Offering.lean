import ServedMedia.Proofs.Position

/-!
# Walks with a memory

What an offer answers may depend on all that it was offered before.  Whatever it
answers, a walk offers each statement that lies in no replaced one, one time, in document
order and as it stands in the tree, and it offers nothing else.  The answers stand in the
places of their statements, and the rest of the tree is as it was:

    ∃ calls, Answers offer s calls (visitStatements offer tree s).2 ∧
      Covers (StatementAt tree) tree (visitStatements offer tree s).1 calls
                                                            (exists_calls_visitStatements)

The state may be a record of all that was offered, so no other calls are made than these:

    (visitStatements (recorded offer) tree (s, [])).2.2 = calls.map Call.node
                                                                (visitStatements_recorded)
-/

namespace ServedMedia.Syntax

open Json

/-! ## Addresses -/

/-- The numbers of the children on the way down to a node.  Members count as items do, so
the order of addresses is document order, each node in front of those inside it. -/
abbrev Address := List Nat

/-- The child of a number. -/
def child? : Json → Nat → Option Json
  | .array items, index => items[index]?
  | .object members, index => members[index]?.map Prod.snd
  | _, _ => none

/-- The node at an address. -/
def nodeAt? : Json → Address → Option Json
  | value, [] => some value
  | value, index :: rest => (child? value index).bind fun child => nodeAt? child rest

/-- The node is an item of an array under the key of statement lists. -/
def StatementAt (tree : Json) (address : Address) (node : Json) : Prop :=
  ∃ outer field index members items, address = outer ++ [field, index] ∧
    nodeAt? tree outer = some (.object members) ∧
    members[field]? = some (bodyKey, .array items) ∧ items[index]? = some node

/-! ## Calls -/

/-- A node that was offered, where it stands, and what came of it. -/
structure Call where
  address : Address
  node : Json
  answer : Option Json

/-- The calls of an offer one after the other, each in the state that the last one left. -/
inductive Answers {σ : Type} (offer : Offer σ) : σ → List Call → σ → Prop
  | nil (s : σ) : Answers offer s [] s
  | cons {s next last : σ} {call : Call} {calls : List Call} :
      offer s call.node = (call.answer, next) → Answers offer next calls last →
      Answers offer s (call :: calls) last

/-- The offer with a record of all that it was offered. -/
def recorded {σ : Type} (offer : Offer σ) : Offer (σ × List Json) := fun s node =>
  let r := offer s.1 node
  (r.1, r.2, s.2 ++ [node])

/-- The calls tell which tree comes of a tree in which nodes stand to be offered. -/
structure Covers (Stands : Address → Json → Prop) (before after : Json) (calls : List Call) :
    Prop where
  /-- Document order, so no node is offered two times. -/
  ordered : (calls.map Call.address).Pairwise (· < ·)
  /-- A node is offered exactly if it lies in none that is replaced. -/
  offered_iff : ∀ address node, (∃ answer, ⟨address, node, answer⟩ ∈ calls) ↔
    Stands address node ∧
      ∀ call ∈ calls, call.address <+: address → call.address ≠ address → call.answer = none
  /-- What is answered stands in the place of the node, with all that is inside it. -/
  replaced : ∀ call ∈ calls, ∀ replacement, call.answer = some replacement →
    nodeAt? after call.address = some replacement
  /-- What is neither replaced nor inside of what is replaced is kept. -/
  kept : ∀ address, (∀ call ∈ calls, call.address <+: address → call.answer = none) →
    (nodeAt? after address).map outline = (nodeAt? before address).map outline

/-! ## Slots -/

/-- A child as a walk comes to it: a statement is offered first, and statements may be
its items if it stands under their key. -/
structure Slot where
  isStatement : Bool
  isBody : Bool
  node : Json

def slots (isBody : Bool) : Json → List Slot
  | .array items => items.map fun item => ⟨isBody, false, item⟩
  | .object members => members.map fun member => ⟨false, member.1 == bodyKey, member.2⟩
  | _ => []

/-- The statements of a value by their addresses; `isBody` says whether the value stands
under the key of statement lists. -/
def Below : Address → Bool → Json → Json → Prop
  | [], _, _, _ => False
  | index :: rest, isBody, value, node => ∃ slot, (slots isBody value)[index]? = some slot ∧
      ((slot.isStatement = true ∧ rest = [] ∧ node = slot.node) ∨
        Below rest slot.isBody slot.node node)

/-- The statements of a slot: those inside it, and perhaps itself. -/
def Slot.Stands (slot : Slot) (address : Address) (node : Json) : Prop :=
  (slot.isStatement = true ∧ address = [] ∧ node = slot.node) ∨
    Below address slot.isBody slot.node node

/-- The same value with other children. -/
def withChildren : Json → List Json → Json
  | .array _, children => .array children
  | .object members, children => .object ((members.map Prod.fst).zip children)
  | value, _ => value

section
variable {σ : Type} (offer : Offer σ)

def visitSlot (slot : Slot) (s : σ) : Json × σ :=
  if slot.isStatement then
    match offer s slot.node with
    | (some node, s) => (node, s)
    | (none, s) => visit offer slot.isBody slot.node s
  else visit offer slot.isBody slot.node s

def visitSlots : List Slot → σ → List Json × σ
  | [], s => ([], s)
  | slot :: slots, s =>
    let first := visitSlot offer slot s
    let r := visitSlots slots first.2
    (first.1 :: r.1, r.2)

theorem visitItems_eq_visitSlots (isBody : Bool) (items : List Json) (s : σ) :
    visitItems offer isBody items s =
      visitSlots offer (items.map fun item => ⟨isBody, false, item⟩) s := by
  induction items generalizing s with
  | nil => rfl
  | cons item items ih =>
    rw [visitItems, List.map_cons, visitSlots, ih]
    rfl

theorem visitMembers_eq_visitSlots (members : Members) (s : σ) :
    visitMembers offer members s =
      let r := visitSlots offer
        (members.map fun member => ⟨false, member.1 == bodyKey, member.2⟩) s
      ((members.map Prod.fst).zip r.1, r.2) := by
  induction members generalizing s with
  | nil => rfl
  | cons member members ih =>
    obtain ⟨key, value⟩ := member
    rw [visitMembers, ih]
    rfl

/-- A value is walked slot by slot. -/
theorem visit_eq_visitSlots (isBody : Bool) (value : Json) (s : σ) :
    visit offer isBody value s =
      let r := visitSlots offer (slots isBody value) s
      (withChildren value r.1, r.2) := by
  cases value with
  | array items =>
    rw [visit, visitItems_eq_visitSlots]
    rfl
  | object members =>
    rw [visit, visitMembers_eq_visitSlots]
    rfl
  | null | bool _ | number _ | string _ => rfl

end

/-! ## Addresses of statements -/

theorem child?_eq_slot (isBody : Bool) (value : Json) (index : Nat) :
    child? value index = (slots isBody value)[index]?.map Slot.node := by
  cases value with
  | array items => simp [child?, slots, Function.comp_def]
  | object members => simp [child?, slots, Function.comp_def]
  | null | bool _ | number _ | string _ => rfl

theorem below_cons_iff {index : Nat} {rest : Address} {isBody : Bool} {value node : Json} :
    Below (index :: rest) isBody value node ↔
      ∃ slot, (slots isBody value)[index]? = some slot ∧ slot.Stands rest node := Iff.rfl

theorem StatementAt.cons {index : Nat} {rest : Address} {value child node : Json}
    (hchild : child? value index = some child) (h : StatementAt child rest node) :
    StatementAt value (index :: rest) node := by
  obtain ⟨outer, field, last, members, items, rfl, houter, hfield, hitem⟩ := h
  refine ⟨index :: outer, field, last, members, items, rfl, ?_, hfield, hitem⟩
  rw [nodeAt?, hchild]
  exact houter

theorem below_of_statementAt {address : Address} {value node : Json} (isBody : Bool)
    (h : StatementAt value address node) : Below address isBody value node := by
  obtain ⟨outer, field, index, members, items, rfl, houter, hfield, hitem⟩ := h
  induction outer generalizing value isBody with
  | nil =>
    obtain rfl : value = .object members := Option.some.inj houter
    refine ⟨⟨false, true, .array items⟩, ?_, .inr ⟨⟨true, false, node⟩, ?_, .inl ⟨rfl, rfl, rfl⟩⟩⟩
    · simp [slots, hfield]
    · simp [slots, hitem]
  | cons first outer ih =>
    rw [nodeAt?, child?_eq_slot isBody] at houter
    obtain ⟨child, hchild, houter⟩ := Option.bind_eq_some_iff.1 houter
    obtain ⟨slot, hslot, rfl⟩ := Option.map_eq_some_iff.1 hchild
    exact ⟨slot, hslot, .inr (ih slot.isBody houter)⟩

/-- Only the items of an array are statements. -/
theorem items_of_isStatement {index : Nat} {isBody : Bool} {value : Json} {slot : Slot}
    (hslot : (slots isBody value)[index]? = some slot) (h : slot.isStatement = true) :
    isBody = true ∧ ∃ items, value = .array items ∧ items[index]? = some slot.node := by
  cases value with
  | array items =>
    obtain ⟨item, hitem, rfl⟩ : ∃ item, items[index]? = some item ∧
        (⟨isBody, false, item⟩ : Slot) = slot := by simpa [slots] using hslot
    exact ⟨h, items, rfl, hitem⟩
  | object members =>
    obtain ⟨key, item, -, rfl⟩ : ∃ key item, members[index]? = some (key, item) ∧
        (⟨false, key == bodyKey, item⟩ : Slot) = slot := by simpa [slots] using hslot
    cases h
  | null | bool _ | number _ | string _ => simp [slots] at hslot

/-- Only the value of a member stands under a key. -/
theorem members_of_isBody {index : Nat} {isBody : Bool} {value : Json} {slot : Slot}
    (hslot : (slots isBody value)[index]? = some slot) (h : slot.isBody = true) :
    ∃ members, value = .object members ∧ members[index]? = some (bodyKey, slot.node) := by
  cases value with
  | array items =>
    obtain ⟨item, -, rfl⟩ : ∃ item, items[index]? = some item ∧
        (⟨isBody, false, item⟩ : Slot) = slot := by simpa [slots] using hslot
    cases h
  | object members =>
    obtain ⟨key, item, hmember, rfl⟩ : ∃ key item, members[index]? = some (key, item) ∧
        (⟨false, key == bodyKey, item⟩ : Slot) = slot := by simpa [slots] using hslot
    obtain rfl : key = bodyKey := beq_iff_eq.1 h
    exact ⟨members, rfl, hmember⟩
  | null | bool _ | number _ | string _ => simp [slots] at hslot

theorem statementAt_of_below {address : Address} {isBody : Bool} {value node : Json}
    (h : Below address isBody value node) : StatementAt value address node ∨
      isBody = true ∧ ∃ items index, value = .array items ∧ address = [index] ∧
        items[index]? = some node := by
  induction address generalizing isBody value with
  | nil => exact h.elim
  | cons index rest ih =>
    obtain ⟨slot, hslot, ⟨hstatement, rfl, rfl⟩ | hbelow⟩ := below_cons_iff.1 h
    · obtain ⟨hbody, items, rfl, hitem⟩ := items_of_isStatement hslot hstatement
      exact .inr ⟨hbody, items, index, rfl, rfl, hitem⟩
    · rcases ih hbelow with hinside | ⟨hbody, items, last, hitems, rfl, hitem⟩
      · have hchild : child? value index = some slot.node := by
          rw [child?_eq_slot isBody, hslot]
          rfl
        exact .inl (hinside.cons hchild)
      · obtain ⟨members, rfl, hmember⟩ := members_of_isBody hslot hbody
        rw [hitems] at hmember
        exact .inl ⟨[], index, last, members, items, rfl, rfl, hmember, hitem⟩

theorem statementAt_iff_below {address : Address} {tree node : Json} :
    StatementAt tree address node ↔ Below address false tree node := by
  refine ⟨below_of_statementAt false, fun h => ?_⟩
  rcases statementAt_of_below h with hstatement | ⟨hbody, -⟩
  · exact hstatement
  · cases hbody

theorem statementAt_eq_below (tree : Json) : StatementAt tree = (Below · false tree ·) := by
  funext address node
  exact propext statementAt_iff_below

/-! ## Calls of children -/

/-- A slot that was walked: the calls inside it and what it holds afterwards. -/
structure Part where
  slot : Slot
  calls : List Call
  after : Json

/-- The call as seen from outside of one more value. -/
def Call.under (index : Nat) (call : Call) : Call := { call with address := index :: call.address }

/-- The calls of parts that are numbered from a number on. -/
def callsFrom : Nat → List Part → List Call
  | _, [] => []
  | index, part :: parts => part.calls.map (Call.under index) ++ callsFrom (index + 1) parts

theorem mem_callsFrom {first : Nat} {parts : List Part} {call : Call} :
    call ∈ callsFrom first parts ↔ ∃ (index : Nat) (part : Part) (inner : Call),
      parts[index]? = some part ∧ inner ∈ part.calls ∧ call = inner.under (first + index) := by
  induction parts generalizing first with
  | nil => simp [callsFrom]
  | cons part parts ih =>
    rw [callsFrom, List.mem_append, List.mem_map, ih]
    constructor
    · rintro (⟨inner, hinner, rfl⟩ | ⟨index, other, inner, hother, hinner, rfl⟩)
      · exact ⟨0, part, inner, rfl, hinner, rfl⟩
      · exact ⟨index + 1, other, inner, hother, hinner, by rw [Nat.add_right_comm]; rfl⟩
    · rintro ⟨_ | index, other, inner, hother, hinner, rfl⟩
      · obtain rfl : part = other := Option.some.inj hother
        exact .inl ⟨inner, hinner, rfl⟩
      · exact .inr ⟨index, other, inner, hother, hinner, by rw [Nat.add_right_comm]; rfl⟩

theorem ordered_callsFrom {parts : List Part}
    (h : ∀ part ∈ parts, (part.calls.map Call.address).Pairwise (· < ·)) (first : Nat) :
    ((callsFrom first parts).map Call.address).Pairwise (· < ·) := by
  induction parts generalizing first with
  | nil => exact .nil
  | cons part parts ih =>
    obtain ⟨hpart, hparts⟩ := List.forall_mem_cons.1 h
    rw [callsFrom, List.map_append, List.map_map, List.pairwise_append]
    refine ⟨?_, ih hparts (first + 1), ?_⟩
    · rw [List.pairwise_map] at hpart ⊢
      exact hpart.imp fun hlt => List.cons_lt_cons_iff.2 (.inr ⟨rfl, hlt⟩)
    · intro a ha b hb
      obtain ⟨inner, -, rfl⟩ := List.mem_map.1 ha
      obtain ⟨call, hcall, rfl⟩ := List.mem_map.1 hb
      obtain ⟨index, other, inner', -, -, rfl⟩ := mem_callsFrom.1 hcall
      exact List.cons_lt_cons_iff.2 (.inl (by omega))

section
variable {σ : Type} {offer : Offer σ}

theorem Answers.append {s next last : σ} {first second : List Call}
    (hfirst : Answers offer s first next) (hsecond : Answers offer next second last) :
    Answers offer s (first ++ second) last := by
  induction hfirst with
  | nil => exact hsecond
  | cons hcall _ ih => exact .cons hcall (ih hsecond)

/-- An offer does not see the address. -/
theorem Answers.under {s last : σ} {calls : List Call} (h : Answers offer s calls last)
    (index : Nat) : Answers offer s (calls.map (Call.under index)) last := by
  induction h with
  | nil s => exact .nil s
  | cons hcall _ ih => exact .cons hcall ih

/-- The calls of an offer with a record are calls of the offer, and they are what is recorded. -/
theorem Answers.recorded {s last : σ × List Json} {calls : List Call}
    (h : Answers (recorded offer) s calls last) :
    Answers offer s.1 calls last.1 ∧ last.2 = s.2 ++ calls.map Call.node := by
  induction h with
  | nil s => exact ⟨.nil s.1, by simp⟩
  | @cons s next last call calls hcall _ ih =>
    obtain ⟨hanswers, hrecord⟩ := ih
    obtain ⟨hanswer, rfl⟩ := Prod.mk.inj hcall
    refine ⟨.cons (Prod.ext hanswer rfl) hanswers, ?_⟩
    rw [hrecord, List.map_cons, List.append_assoc, List.singleton_append]

end

/-! ## Walked values -/

/-- All that the calls of a part should tell. -/
def Part.IsCovered (part : Part) : Prop :=
  Covers part.slot.Stands part.slot.node part.after part.calls

section
variable {Stands : Address → Json → Prop} {before after : Json} {parts : List Part}

/-- The calls inside a part are those whose address begins with its number. -/
theorem under_mem_callsFrom_iff {index : Nat} {part : Part} (hpart : parts[index]? = some part)
    (call : Call) :
    call.under index ∈ callsFrom 0 parts ↔ call ∈ part.calls := by
  rw [mem_callsFrom]
  constructor
  · rintro ⟨other, same, ⟨address, node, answer⟩, hother, hinner, hcall⟩
    obtain ⟨address', node', answer'⟩ := call
    simp only [Call.under, Call.mk.injEq, List.cons.injEq, Nat.zero_add] at hcall
    obtain ⟨⟨rfl, rfl⟩, rfl, rfl⟩ := hcall
    obtain rfl : part = same := Option.some.inj (hpart.symm.trans hother)
    exact hinner
  · intro hcall
    exact ⟨index, part, call, hpart, hcall, by rw [Nat.zero_add]⟩

/-- What encloses an address in a part stands in the same part. -/
theorem forall_enclosing_iff {index : Nat} {part : Part} {P : Call → Prop} {rest : Address}
    (hpart : parts[index]? = some part) :
    (∀ call ∈ callsFrom 0 parts, call.address <+: index :: rest → P call) ↔
      ∀ call ∈ part.calls, call.address <+: rest → P (call.under index) := by
  constructor
  · intro h call hcall hle
    exact h _ ((under_mem_callsFrom_iff hpart call).2 hcall) (List.cons_prefix_cons.2 ⟨rfl, hle⟩)
  · intro h call hcall hle
    obtain ⟨other, same, inner, hother, hinner, rfl⟩ := mem_callsFrom.1 hcall
    obtain ⟨hindex, hinside⟩ := List.cons_prefix_cons.1 hle
    obtain rfl : other = index := by omega
    obtain rfl : part = same := Option.some.inj (hpart.symm.trans hother)
    rw [Nat.zero_add]
    exact h inner hinner hinside

theorem not_mem_callsFrom {index : Nat} {call : Call} (hnone : parts[index]? = none)
    {rest : Address} (haddress : call.address = index :: rest) : call ∉ callsFrom 0 parts := by
  intro hcall
  obtain ⟨other, part, inner, hpart, -, rfl⟩ := mem_callsFrom.1 hcall
  obtain ⟨hindex, -⟩ := List.cons.inj haddress
  obtain rfl : other = index := by omega
  rw [hpart] at hnone
  cases hnone

/-- If the calls of each part tell what they should, all calls together do. -/
theorem Covers.of_parts (hroot : ∀ node, ¬ Stands [] node)
    (hstands : ∀ index rest node, Stands (index :: rest) node ↔
      ∃ part, parts[index]? = some part ∧ part.slot.Stands rest node)
    (hbefore : ∀ index, child? before index = parts[index]?.map fun part => part.slot.node)
    (hafter : ∀ index, child? after index = parts[index]?.map Part.after)
    (houtline : after.outline = before.outline) (h : ∀ part ∈ parts, part.IsCovered) :
    Covers Stands before after (callsFrom 0 parts) := by
  have hcovered {index : Nat} {part : Part} (hpart : parts[index]? = some part) : part.IsCovered :=
    h part (List.mem_of_getElem? hpart)
  refine ⟨ordered_callsFrom (fun part hpart => (h part hpart).ordered) 0, ?_, ?_, ?_⟩
  · intro address node
    cases address with
    | nil =>
      refine iff_of_false ?_ fun hnode => hroot node hnode.1
      rintro ⟨answer, hcall⟩
      obtain ⟨index, part, inner, -, -, heq⟩ := mem_callsFrom.1 hcall
      cases congrArg Call.address heq
    | cons index rest =>
      rw [hstands]
      cases hpart : parts[index]? with
      | none =>
        refine iff_of_false (fun ⟨answer, hcall⟩ => not_mem_callsFrom hpart rfl hcall) ?_
        rintro ⟨⟨part, hsome, -⟩, -⟩
        cases hsome
      | some part =>
        have hcalls : (∃ answer, ⟨index :: rest, node, answer⟩ ∈ callsFrom 0 parts) ↔
            ∃ answer, ⟨rest, node, answer⟩ ∈ part.calls :=
          exists_congr fun answer => under_mem_callsFrom_iff hpart ⟨rest, node, answer⟩
        rw [hcalls, (hcovered hpart).offered_iff, forall_enclosing_iff hpart]
        simp [Call.under]
  · intro call hcall replacement hanswer
    obtain ⟨index, part, inner, hpart, hinner, rfl⟩ := mem_callsFrom.1 hcall
    rw [Nat.zero_add]
    show (child? after index).bind _ = _
    rw [hafter, hpart]
    exact (hcovered hpart).replaced inner hinner replacement hanswer
  · intro address hkept
    cases address with
    | nil => exact congrArg some houtline
    | cons index rest =>
      rw [nodeAt?, nodeAt?, hafter, hbefore]
      cases hpart : parts[index]? with
      | none => rfl
      | some part => exact (hcovered hpart).kept rest ((forall_enclosing_iff hpart).1 hkept)

end

/-- The children of a walked value. -/
theorem child?_withChildren {isBody : Bool} {value : Json} {children : List Json}
    (hlength : children.length = (slots isBody value).length) (index : Nat) :
    child? (withChildren value children) index = children[index]? := by
  cases value with
  | array items => rfl
  | object members =>
    have hle : children.length ≤ (members.map Prod.fst).length := by
      simpa [slots] using Nat.le_of_eq hlength
    simp only [withChildren, child?]
    rw [← List.getElem?_map, List.map_snd_zip hle]
  | null | bool _ | number _ | string _ =>
    obtain rfl := List.eq_nil_of_length_eq_zero hlength
    rfl

theorem outline_withChildren {isBody : Bool} {value : Json} {children : List Json}
    (hlength : children.length = (slots isBody value).length) :
    (withChildren value children).outline = value.outline := by
  cases value with
  | array items =>
    have hsame : children.length = items.length := by simpa [slots] using hlength
    simp [withChildren, outline, List.map_const', hsame]
  | object members =>
    have hle : (members.map Prod.fst).length ≤ children.length := by
      simpa [slots] using Nat.le_of_eq hlength.symm
    have hkeys := congrArg (List.map fun key => (key, null)) (List.map_fst_zip hle)
    rw [List.map_map, List.map_map] at hkeys
    exact congrArg object hkeys
  | null | bool _ | number _ | string _ => rfl

section
variable {σ : Type} {offer : Offer σ}

/-- A replaced statement is the only call of its slot. -/
theorem covers_replaced (slot : Slot) (hstatement : slot.isStatement = true) (replacement : Json) :
    Covers slot.Stands slot.node replacement [⟨[], slot.node, some replacement⟩] := by
  refine ⟨by simp, ?_, by simp [nodeAt?], by simp⟩
  intro address node
  cases address with
  | nil => simp [Slot.Stands, Below, hstatement]
  | cons index rest => simp

/-- A kept statement is offered before those inside it. -/
theorem Covers.of_kept {slot : Slot} {after : Json} {calls : List Call}
    (hstatement : slot.isStatement = true)
    (h : Covers (Below · slot.isBody slot.node ·) slot.node after calls) :
    Covers slot.Stands slot.node after (⟨[], slot.node, none⟩ :: calls) := by
  have hinside : ∀ call ∈ calls, call.address ≠ [] := by
    rintro ⟨address, node, answer⟩ hcall rfl
    exact ((h.offered_iff [] node).1 ⟨answer, hcall⟩).1
  refine ⟨?_, ?_, ?_, ?_⟩
  · rw [List.map_cons, List.pairwise_cons]
    refine ⟨fun address haddress => ?_, h.ordered⟩
    obtain ⟨call, hcall, rfl⟩ := List.mem_map.1 haddress
    obtain ⟨index, rest, heq⟩ := List.exists_cons_of_ne_nil (hinside call hcall)
    rw [heq]
    exact List.nil_lt_cons index rest
  · intro address node
    cases address with
    | nil =>
      have hnone : ∀ answer, (⟨[], node, answer⟩ : Call) ∉ calls :=
        fun answer hcall => hinside _ hcall rfl
      simp +contextual [Slot.Stands, Below, hstatement, hnone]
    | cons index rest =>
      have hstands : slot.Stands (index :: rest) node ↔
          Below (index :: rest) slot.isBody slot.node node := by simp [Slot.Stands]
      rw [hstands, List.forall_mem_cons]
      simpa using h.offered_iff (index :: rest) node
  · intro call hcall replacement hanswer
    rcases List.mem_cons.1 hcall with rfl | hcall
    · cases hanswer
    · exact h.replaced call hcall replacement hanswer
  · intro address hkept
    exact h.kept address (List.forall_mem_cons.1 hkept).2

theorem exists_calls_slot {slot : Slot}
    (h : ∀ s, ∃ calls, Answers offer s calls (visit offer slot.isBody slot.node s).2 ∧
      Covers (Below · slot.isBody slot.node ·) slot.node
        (visit offer slot.isBody slot.node s).1 calls) (s : σ) :
    ∃ calls, Answers offer s calls (visitSlot offer slot s).2 ∧
      Covers slot.Stands slot.node (visitSlot offer slot s).1 calls := by
  unfold visitSlot
  cases hstatement : slot.isStatement with
  | false =>
    have hstands : slot.Stands = (Below · slot.isBody slot.node ·) := by
      funext address node
      simp [Slot.Stands, hstatement]
    rw [hstands]
    exact h s
  | true =>
    rw [if_pos rfl]
    cases hoffer : offer s slot.node with
    | mk answer next =>
      cases answer with
      | some replacement =>
        exact ⟨_, .cons hoffer (.nil next), covers_replaced slot hstatement replacement⟩
      | none =>
        obtain ⟨calls, hanswers, hcovers⟩ := h next
        exact ⟨_, .cons hoffer hanswers, hcovers.of_kept hstatement⟩

theorem exists_parts {slots : List Slot}
    (h : ∀ slot ∈ slots, ∀ s, ∃ calls, Answers offer s calls (visitSlot offer slot s).2 ∧
      Covers slot.Stands slot.node (visitSlot offer slot s).1 calls) (first : Nat) (s : σ) :
    ∃ parts, parts.map Part.slot = slots ∧ parts.map Part.after = (visitSlots offer slots s).1 ∧
      Answers offer s (callsFrom first parts) (visitSlots offer slots s).2 ∧
      ∀ part ∈ parts, part.IsCovered := by
  induction slots generalizing first s with
  | nil => exact ⟨[], rfl, rfl, .nil s, by simp⟩
  | cons slot slots ih =>
    obtain ⟨hslot, hslots⟩ := List.forall_mem_cons.1 h
    obtain ⟨calls, hcalls, hcovers⟩ := hslot s
    obtain ⟨parts, rfl, hafter, hanswers, hcovered⟩ :=
      ih hslots (first + 1) (visitSlot offer slot s).2
    refine ⟨⟨slot, calls, (visitSlot offer slot s).1⟩ :: parts, rfl, ?_, ?_, ?_⟩
    · rw [List.map_cons, hafter]
      rfl
    · exact (hcalls.under first).append hanswers
    · exact List.forall_mem_cons.2 ⟨hcovers, hcovered⟩

theorem exists_calls_of_slots {isBody : Bool} {value : Json}
    (h : ∀ slot ∈ slots isBody value, ∀ s, ∃ calls,
      Answers offer s calls (visitSlot offer slot s).2 ∧
        Covers slot.Stands slot.node (visitSlot offer slot s).1 calls) (s : σ) :
    ∃ calls, Answers offer s calls (visit offer isBody value s).2 ∧
      Covers (Below · isBody value ·) value (visit offer isBody value s).1 calls := by
  obtain ⟨parts, hslots, hafter, hanswers, hcovered⟩ := exists_parts h 0 s
  have hslot (index : Nat) : (slots isBody value)[index]? = parts[index]?.map Part.slot := by
    rw [← hslots, List.getElem?_map]
  have hlength : (visitSlots offer (slots isBody value) s).1.length =
      (slots isBody value).length := by
    rw [← hafter, ← hslots, List.length_map, List.length_map]
  rw [visit_eq_visitSlots]
  refine ⟨callsFrom 0 parts, hanswers, .of_parts (fun node h => h) ?_ ?_ ?_ ?_ hcovered⟩
  · intro index rest node
    rw [below_cons_iff, hslot]
    constructor
    · rintro ⟨slot, hsome, hstands⟩
      obtain ⟨part, hpart, rfl⟩ := Option.map_eq_some_iff.1 hsome
      exact ⟨part, hpart, hstands⟩
    · rintro ⟨part, hpart, hstands⟩
      exact ⟨part.slot, by rw [hpart]; rfl, hstands⟩
  · intro index
    rw [child?_eq_slot isBody, hslot, Option.map_map]
    rfl
  · intro index
    rw [child?_withChildren hlength, ← hafter, List.getElem?_map]
  · exact outline_withChildren hlength

theorem exists_calls_visit (value : Json) (isBody : Bool) (s : σ) :
    ∃ calls, Answers offer s calls (visit offer isBody value s).2 ∧
      Covers (Below · isBody value ·) value (visit offer isBody value s).1 calls := by
  induction value using Json.inductionOn generalizing isBody s with
  | array items ih =>
    refine exists_calls_of_slots (fun slot hslot => ?_) s
    obtain ⟨item, hitem, rfl⟩ := List.mem_map.1 hslot
    exact exists_calls_slot fun s => ih item hitem false s
  | object members ih =>
    refine exists_calls_of_slots (fun slot hslot => ?_) s
    obtain ⟨member, hmember, rfl⟩ := List.mem_map.1 hslot
    exact exists_calls_slot fun s => ih member hmember (member.1 == bodyKey) s
  | null | bool _ | number _ | string _ =>
    exact exists_calls_of_slots (fun slot hslot => absurd hslot List.not_mem_nil) s

/-! ## Top theorems -/

theorem exists_calls_visitStatements (offer : Offer σ) (tree : Json) (s : σ) :
    ∃ calls, Answers offer s calls (visitStatements offer tree s).2 ∧
      Covers (StatementAt tree) tree (visitStatements offer tree s).1 calls := by
  rw [statementAt_eq_below]
  exact exists_calls_visit tree false s

theorem visitStatements_recorded (offer : Offer σ) (tree : Json) (s : σ) :
    ∃ calls, (visitStatements (recorded offer) tree (s, [])).2.2 = calls.map Call.node ∧
      Answers offer s calls (visitStatements (recorded offer) tree (s, [])).2.1 ∧
      Covers (StatementAt tree) tree (visitStatements (recorded offer) tree (s, [])).1 calls := by
  obtain ⟨calls, hcalls, hcovers⟩ :=
    @exists_calls_visit _ (recorded offer) tree false (s, [])
  obtain ⟨hanswers, hrecord⟩ := hcalls.recorded
  rw [statementAt_eq_below]
  exact ⟨calls, hrecord.trans (List.nil_append _), hanswers, hcovers⟩

end

end ServedMedia.Syntax
