import ServedMedia.Proofs.Views

/-!
# The encodings of nodes

A node that is told by a tag may be an object with the tag under "type", or an array
of the tag and at most one more item, which is the field of the node whatever its key.
Inside another such node the number of the tag is as good as the tag.

    Expression.read? nested node =
      (marked? node).bind fun given =>
        (shape? nested expressionTags given.mark).bind (ofShape? node given)    (read?_eq_bind)

From this equation it follows for each kind of node which encodings are read as one,
and of an expression of any kind that

    (∃ expression, Expression.read? true node = some expression) ↔ IsReadable node
                                                            (exists_read?_iff_isReadable)
-/

namespace ServedMedia.Syntax

open Json

/-! ## Encodings -/

/-- What tells a node and what it holds, of either encoding. -/
structure Marked where
  mark : Json
  field? : String → Option Json

/-- The member "type" of an object with the other members, or the first item of an array
with the second one, which is any field. -/
def marked? : Json → Option Marked
  | .object members =>
    (Members.get? "type" members).map fun mark => ⟨mark, fun key => Members.get? key members⟩
  | .array [mark] => some ⟨mark, fun _ => none⟩
  | .array [mark, field] => some ⟨mark, fun _ => some field⟩
  | _ => none

/-- Whether a node is an array with a field behind the mark. -/
def isPair : Json → Bool
  | .array [_, _] => true
  | _ => false

/-- A mark stands for a tag if it is the tag, or inside another node its number. -/
def IsMark (nested : Bool) (tags : List String) (tag : String) (mark : Json) : Prop :=
  mark = .string tag ∨ (nested = true ∧ mark = .number (.whole (tags.idxOf tag)))

/-- A mark that is a tag or a number, but none of those that are known. -/
def IsForeign (nested : Bool) (tags : List String) (mark : Json) : Prop :=
  (∃ tag, mark = .string tag ∧ tag ∉ tags) ∨
    (nested = true ∧ ∃ number : Nat, mark = .number (.whole number) ∧ tags.length ≤ number)

/-- A field of a shape. -/
def Marked.Holds (key : String) (Shape : Json → Prop) (given : Marked) : Prop :=
  ∃ child, given.field? key = some child ∧ Shape child

/-- A node of either encoding whose mark stands for a tag and whose fields are as needed. -/
def Variant (nested : Bool) (tags : List String) (tag : String) (Fits : Marked → Prop)
    (node : Json) : Prop :=
  ∃ given, marked? node = some given ∧ IsMark nested tags tag given.mark ∧ Fits given

/-- A record of one field: a member of an object, or the only item of an array. -/
def Field (key : String) (Shape : Json → Prop) (node : Json) : Prop :=
  Has key Shape node ∨ Only Shape node

/-- A record of two fields. -/
def Fields (first second : String) (First Second : Json → Prop) (node : Json) : Prop :=
  (Has first First node ∧ Has second Second node) ∨
    ∃ a b, node = .array [a, b] ∧ First a ∧ Second b

/-- An expression inside another node that can be read. -/
inductive IsReadable : Json → Prop
  | await {node argument : Json} {given : Marked} : marked? node = some given →
      IsMark true expressionTags "AwaitExpression" given.mark →
      given.field? "argument" = some argument → IsReadable argument → IsReadable node
  | importOf {node source : Json} {given : Marked} : marked? node = some given →
      IsMark true expressionTags "ImportExpression" given.mark →
      given.field? "source" = some source → IsReadable source → IsReadable node
  | call {node : Json} {items : List Json} {given : Marked} : marked? node = some given →
      IsMark true expressionTags "CallExpression" given.mark →
      given.field? "arguments" = some (.array items) → (∀ item ∈ items, IsReadable item) →
      IsReadable node
  | emptyCall {node : Json} {given : Marked} : marked? node = some given →
      IsMark true expressionTags "CallExpression" given.mark →
      given.field? "arguments" = none → IsReadable node
  | literal {node : Json} {given : Marked} : marked? node = some given →
      IsMark true expressionTags "Literal" given.mark → IsReadable node
  | other {node : Json} {given : Marked} : marked? node = some given →
      IsForeign true expressionTags given.mark → isPair node = false → IsReadable node

/-! ## Marks -/

section
variable {nested : Bool} {tags : List String} {mark : Json}

theorem findIdx?_tag_eq_some_iff (hnodup : tags.Nodup) {index : Nat} {tag other : String}
    (htag : tags[index]? = some tag) :
    tags.findIdx? (· == other) = some index ↔ other = tag := by
  obtain ⟨hindex, rfl⟩ := List.getElem?_eq_some_iff.1 htag
  -- No tag is listed twice, so the first item that fits is the only one.
  rw [List.findIdx?_eq_some_iff_getElem]
  constructor
  · rintro ⟨_, hother, _⟩
    exact (beq_iff_eq.1 hother).symm
  · rintro rfl
    refine ⟨hindex, beq_self_eq_true _, fun earlier hlt heq => ?_⟩
    have hsame := (List.getElem_inj hnodup).1 (beq_iff_eq.1 heq)
    omega

theorem isMark_iff (hnodup : tags.Nodup) {index : Nat} {tag : String}
    (htag : tags[index]? = some tag) :
    IsMark nested tags tag mark ↔ shape? nested tags mark = some (some index) := by
  obtain ⟨hindex, hget⟩ := List.getElem?_eq_some_iff.1 htag
  have hnumber : tags.idxOf tag = index := by
    rw [← hget]
    exact hnodup.idxOf_getElem index hindex
  unfold IsMark
  rw [hnumber]
  cases mark with
  | string other => simp [shape?, findIdx?_tag_eq_some_iff hnodup htag]
  | number number =>
    cases number with
    | whole value =>
      simp only [shape?]
      split
      · next h =>
        split
        · simp [h.1]
          omega
        · simp [h.1]
          omega
      · next h =>
        simp only [reduceCtorEq, iff_false, false_or]
        rintro ⟨hnested, heq⟩
        have hvalue : value = index := by simpa using heq
        exact h ⟨hnested, by omega⟩
    | float value => simp [shape?]
  | null | bool _ | array _ | object _ => simp [shape?]

theorem isForeign_iff : IsForeign nested tags mark ↔ shape? nested tags mark = some none := by
  unfold IsForeign
  cases mark with
  | string other =>
    have hnone : tags.findIdx? (· == other) = none ↔ other ∉ tags := by
      rw [List.findIdx?_eq_none_iff]
      refine ⟨fun h hmem => by simpa using h other hmem, fun h tag hmem => ?_⟩
      exact beq_false_of_ne fun heq => h (heq ▸ hmem)
    simp [shape?, hnone]
  | number number =>
    cases number with
    | whole value =>
      simp only [shape?]
      split
      · next h =>
        split
        · simp [h.1]
          omega
        · simp [h.1]
          exact ⟨value.toNat, by omega, by omega⟩
      · next h =>
        simp only [reduceCtorEq, iff_false, false_and, exists_false, false_or]
        rintro ⟨hnested, number, heq, -⟩
        have hvalue : value = number := by simpa using heq
        exact h ⟨hnested, by omega⟩
    | float value => simp [shape?]
  | null | bool _ | array _ | object _ => simp [shape?]

theorem lt_of_shape? {index : Nat} (h : shape? nested tags mark = some (some index)) :
    index < tags.length := by
  cases mark with
  | string tag =>
    have hfind : tags.findIdx? (· == tag) = some index := Option.some.inj h
    obtain ⟨hindex, -⟩ := List.findIdx?_eq_some_iff_getElem.1 hfind
    exact hindex
  | number number =>
    cases number with
    | whole value =>
      simp only [shape?] at h
      split at h
      · split at h
        · have hindex : value.toNat = index := by simpa using h
          omega
        · cases h
      · cases h
    | float value => cases h
  | null | bool _ | array _ | object _ => cases h

/-- What is read by its mark comes out as one view from one variant only. -/
theorem eq_some_iff_variant {α : Type} {node : Json} {ofShape? : Marked → Option Nat → Option α}
    {view : α} {tag : String} {Fits : Marked → Prop} (hnodup : tags.Nodup) (index : Nat)
    (htag : tags[index]? = some tag)
    (hshape : ∀ given, ofShape? given (some index) = some view ↔ Fits given)
    (hothers : ∀ given other, other < tags.length → other ≠ index →
      ofShape? given (some other) ≠ some view)
    (hforeign : ∀ given, ofShape? given none ≠ some view) :
    ((marked? node).bind fun given => (shape? nested tags given.mark).bind (ofShape? given)) =
      some view ↔ Variant nested tags tag Fits node := by
  unfold Variant
  rw [Option.bind_eq_some_iff]
  constructor
  · rintro ⟨given, hgiven, hview⟩
    obtain ⟨shape, hmark, hview⟩ := Option.bind_eq_some_iff.1 hview
    cases shape with
    | none => exact absurd hview (hforeign given)
    | some other =>
      obtain rfl : other = index := Classical.byContradiction fun hne =>
        hothers given other (lt_of_shape? hmark) hne hview
      exact ⟨given, hgiven, (isMark_iff hnodup htag).2 hmark, (hshape given).1 hview⟩
  · rintro ⟨given, hgiven, hmark, hfits⟩
    refine ⟨given, hgiven, ?_⟩
    rw [(isMark_iff hnodup htag).1 hmark]
    exact (hshape given).2 hfits

/-- What does not matter for a variant may be chosen at its field. -/
theorem exists_variant_iff {α : Type} {tag key : String} {Shape : α → Json → Prop} {node : Json} :
    (∃ x, Variant nested tags tag (Marked.Holds key (Shape x)) node) ↔
      Variant nested tags tag (Marked.Holds key fun child => ∃ x, Shape x child) node := by
  constructor
  · rintro ⟨x, given, hgiven, hmark, child, hfield, hshape⟩
    exact ⟨given, hgiven, hmark, child, hfield, x, hshape⟩
  · rintro ⟨given, hgiven, hmark, child, hfield, x, hshape⟩
    exact ⟨x, given, hgiven, hmark, child, hfield, hshape⟩

theorem nodup_patternTags : patternTags.Nodup := by decide

theorem nodup_propertyTags : propertyTags.Nodup := by decide

theorem nodup_expressionTags : expressionTags.Nodup := by decide

end

/-! ## Records -/

section
variable {node : Json}

theorem exists_fields?_iff {key : String} {Shape : Json → Prop} :
    (∃ value, fields? [key] node = some [some value] ∧ Shape value) ↔ Field key Shape node := by
  unfold Field Has Only
  cases node with
  | object members => cases hget : Members.get? key members <;> simp [fields?, member?, hget]
  | array items =>
    rcases items with _ | ⟨value, _ | ⟨second, rest⟩⟩ <;> simp [fields?, member?]
  | null | bool _ | number _ | string _ => simp [fields?, member?]

theorem exists_fields?_pair_iff {first second : String} {First Second : Json → Prop} :
    (∃ a b, fields? [first, second] node = some [some a, some b] ∧ First a ∧ Second b) ↔
      Fields first second First Second node := by
  unfold Fields Has
  cases node with
  | object members =>
    cases hfirst : Members.get? first members <;> cases hsecond : Members.get? second members <;>
      simp [fields?, member?, hfirst, hsecond]
  | array items =>
    rcases items with _ | ⟨a, _ | ⟨b, _ | ⟨third, rest⟩⟩⟩ <;> simp [fields?, member?]
  | null | bool _ | number _ | string _ => simp [fields?, member?]

theorem identifierName?_eq_some_iff {name : String} :
    identifierName? node = some name ↔ Field "name" (Text name) node := by
  rw [← exists_fields?_iff]
  unfold identifierName? Text
  split
  · next other hfields => simp [hfields]
  · next hother =>
    refine iff_of_false (by simp) ?_
    rintro ⟨_, hfields, rfl⟩
    exact hother name hfields

theorem literalValue?_eq_string_iff {text : String} :
    literalValue? node = some (.string text) ↔ Field "value" (Text text) node := by
  rw [← exists_fields?_iff]
  unfold literalValue? Text
  split
  · next value hfields => cases value <;> simp [hfields]
  · next hother =>
    refine iff_of_false (by simp) ?_
    rintro ⟨value, hfields, -⟩
    exact hother _ hfields

theorem localName?_eq_some_iff {name : String} :
    localName? node = some name ↔ Field "local" (Field "name" (Text name)) node := by
  rw [← exists_fields?_iff]
  unfold localName?
  split
  · next value hfields => simp [hfields, identifierName?_eq_some_iff]
  · next hother =>
    refine iff_of_false (by simp) ?_
    rintro ⟨value, hfields, -⟩
    exact hother _ hfields

end

/-! ## Patterns -/

namespace Pattern

variable {nested : Bool} {node : Json}

theorem readEntriesOf?_eq_bind (key : String) (members : Members) :
    readEntriesOf? key members = (Members.get? key members).bind readItems? := by
  induction members with
  | nil => rfl
  | cons member members ih =>
    obtain ⟨k, value⟩ := member
    rw [readEntriesOf?_cons, Members.get?]
    by_cases hk : k = key
    · simp [hk]
    · simp [hk, ih]

theorem identifierName?_object (members : Members) :
    identifierName? (.object members) = (Members.get? "name" members).bind asString? := by
  unfold identifierName? fields?
  simp only [List.map_cons, List.map_nil]
  rcases Members.get? "name" members with _ | value
  · rfl
  · cases value <;> rfl

/-- A pattern of a shape with the fields that it is given with. -/
def ofShape? (node : Json) (given : Marked) : Option Nat → Option Pattern
  | some 0 => ((given.field? "name").bind asString?).map .identifier
  | some _ => ((given.field? "properties").bind readItems?).map .object
  | none => if isPair node then none else some .other

theorem read?_eq_bind (nested : Bool) (node : Json) :
    read? nested node = (marked? node).bind fun given =>
      (shape? nested patternTags given.mark).bind (ofShape? node given) := by
  cases node with
  | object members =>
    rw [read?, marked?, identifierName?_object, readEntriesOf?_eq_bind]
    cases Members.get? "type" members with
    | none => rfl
    | some mark =>
      rw [Option.bind_eq_bind, Option.bind_some]
      rcases hshape : shape? nested patternTags mark with _ | _ | _ | index <;>
        simp [hshape, ofShape?, isPair]
  | array items =>
    rcases items with _ | ⟨mark, _ | ⟨field, _ | ⟨next, rest⟩⟩⟩
    · rfl
    · rw [read?_single, marked?]
      rcases hshape : shape? nested patternTags mark with _ | _ | _ | index <;>
        simp [hshape, ofShape?, isPair]
    · rw [read?_pair, marked?]
      rcases hshape : shape? nested patternTags mark with _ | _ | _ | index <;>
        simp [hshape, ofShape?, isPair]
    · rw [read?_of_long]
      rfl
  | null | bool _ | number _ | string _ => rfl

theorem read?_eq_identifier_iff {name : String} : read? nested node = some (.identifier name) ↔
    Variant nested patternTags "Identifier" (Marked.Holds "name" (Text name)) node := by
  rw [read?_eq_bind]
  refine eq_some_iff_variant nodup_patternTags 0 rfl (fun given => ?_)
    (fun given other _ hne => ?_) (fun given => ?_)
  · unfold Marked.Holds Text ofShape?
    rcases given.field? "name" with _ | value
    · simp
    · cases value <;> simp [asString?]
  · cases other with
    | zero => exact absurd rfl hne
    | succ other => simp [ofShape?, -Option.map_bind]
  · simp [ofShape?]

theorem read?_eq_object_iff {entries : List (Option Pattern)} :
    read? nested node = some (.object entries) ↔
      Variant nested patternTags "ObjectPattern"
        (Marked.Holds "properties" fun child => readItems? child = some entries) node := by
  rw [read?_eq_bind]
  refine eq_some_iff_variant nodup_patternTags 1 rfl (fun given => ?_)
    (fun given other hlt hne => ?_) (fun given => ?_)
  · simp [ofShape?, Marked.Holds, Option.bind_eq_some_iff, -Option.map_bind]
  · obtain rfl : other = 0 := by
      have hlt : other < 2 := hlt
      omega
    simp [ofShape?, -Option.map_bind]
  · simp [ofShape?]

/-- An entry of a shape with the fields that it is given with. -/
def entryOfShape? (node : Json) (given : Marked) : Option Nat → Option (Option Pattern)
  | some _ => ((given.field? "value").bind (read? true)).map some
  | none => if isPair node then none else some none

theorem readEntry?_eq_bind (node : Json) :
    readEntry? node = (marked? node).bind fun given =>
      (shape? true propertyTags given.mark).bind (entryOfShape? node given) := by
  cases node with
  | object members =>
    rw [marked?, readEntry?, readOf?_eq_bind]
    cases Members.get? "type" members with
    | none => rfl
    | some mark =>
      rw [Option.bind_eq_bind, Option.bind_some]
      rcases hshape : shape? true propertyTags mark with _ | _ | index <;>
        simp [hshape, entryOfShape?, isPair]
  | array items =>
    rcases items with _ | ⟨mark, _ | ⟨field, _ | ⟨next, rest⟩⟩⟩
    · rfl
    all_goals
      rcases hshape : shape? true propertyTags mark with _ | _ | index <;>
        simp [marked?, hshape, readEntry?, entryOfShape?, isPair]
  | null | bool _ | number _ | string _ => rfl

theorem readEntry?_eq_some_iff {pattern : Pattern} : readEntry? node = some (some pattern) ↔
    Variant true propertyTags "Property"
      (Marked.Holds "value" fun child => read? true child = some pattern) node := by
  rw [readEntry?_eq_bind]
  refine eq_some_iff_variant nodup_propertyTags 0 rfl (fun given => ?_)
    (fun given other hlt hne => ?_) (fun given => ?_)
  · simp [entryOfShape?, Marked.Holds, Option.bind_eq_some_iff, -Option.map_bind]
  · have hlt : other < 1 := hlt
    omega
  · simp [entryOfShape?]

end Pattern

/-! ## Expressions -/

namespace Expression

variable {nested : Bool} {node : Json}

theorem inductionOn {motive : Expression → Prop}
    (await : ∀ argument, motive argument → motive (.await argument))
    (importOf : ∀ source, motive source → motive (.importOf source))
    (call : ∀ arguments, (∀ argument ∈ arguments, motive argument) → motive (.call arguments))
    (literal : ∀ value, motive (.literal value)) (other : motive .other)
    (expression : Expression) : motive expression :=
  @Expression.rec motive (fun arguments => ∀ argument ∈ arguments, motive argument)
    await importOf call literal other
    (by simp) (fun _ _ hhead htail => List.forall_mem_cons.2 ⟨hhead, htail⟩) expression

theorem readAllOf?_eq_elim (key : String) (members : Members) :
    readAllOf? key members = (Members.get? key members).elim (some []) readItems? := by
  induction members with
  | nil => rfl
  | cons member members ih =>
    obtain ⟨k, value⟩ := member
    rw [readAllOf?_cons, Members.get?]
    by_cases hk : k = key
    · simp [hk]
    · simp [hk, ih]

theorem literalValue?_object (members : Members) :
    literalValue? (.object members) = some ((Members.get? "value" members).getD .null) := rfl

/-- An expression of a shape with the fields that it is given with. -/
def ofShape? (node : Json) (given : Marked) : Option Nat → Option Expression
  | some 0 => ((given.field? "argument").bind (read? true)).map .await
  | some 1 => ((given.field? "source").bind (read? true)).map .importOf
  | some 2 => ((given.field? "arguments").elim (some []) readItems?).map .call
  | some _ => some (.literal ((given.field? "value").getD .null))
  | none => if isPair node then none else some .other

theorem read?_eq_bind (nested : Bool) (node : Json) :
    read? nested node = (marked? node).bind fun given =>
      (shape? nested expressionTags given.mark).bind (ofShape? node given) := by
  cases node with
  | object members =>
    rw [read?, marked?, literalValue?_object, readOf?_eq_bind, readOf?_eq_bind, readAllOf?_eq_elim]
    cases Members.get? "type" members with
    | none => rfl
    | some mark =>
      rw [Option.bind_eq_bind, Option.bind_some]
      rcases hshape : shape? nested expressionTags mark with _ | _ | _ | _ | _ | index <;>
        simp [hshape, ofShape?, isPair]
  | array items =>
    rcases items with _ | ⟨mark, _ | ⟨field, _ | ⟨next, rest⟩⟩⟩
    · rfl
    · rw [read?_single, marked?]
      rcases hshape : shape? nested expressionTags mark with _ | _ | _ | _ | _ | index <;>
        simp [hshape, ofShape?, isPair]
    · rw [read?_pair, marked?]
      rcases hshape : shape? nested expressionTags mark with _ | _ | _ | _ | _ | index <;>
        simp [hshape, ofShape?, isPair]
    · rw [read?_of_long]
      rfl
  | null | bool _ | number _ | string _ => rfl

theorem read?_eq_await_iff {argument : Expression} : read? nested node = some (.await argument) ↔
    Variant nested expressionTags "AwaitExpression"
      (Marked.Holds "argument" fun child => read? true child = some argument) node := by
  rw [read?_eq_bind]
  refine eq_some_iff_variant nodup_expressionTags 0 rfl (fun given => ?_)
    (fun given other _ hne => ?_) (fun given => ?_)
  · simp [ofShape?, Marked.Holds, Option.bind_eq_some_iff, -Option.map_bind]
  · rcases other with _ | _ | _ | other <;> simp [ofShape?, -Option.map_bind] at hne ⊢
  · simp [ofShape?]

theorem read?_eq_importOf_iff {source : Expression} : read? nested node = some (.importOf source) ↔
    Variant nested expressionTags "ImportExpression"
      (Marked.Holds "source" fun child => read? true child = some source) node := by
  rw [read?_eq_bind]
  refine eq_some_iff_variant nodup_expressionTags 1 rfl (fun given => ?_)
    (fun given other _ hne => ?_) (fun given => ?_)
  · simp [ofShape?, Marked.Holds, Option.bind_eq_some_iff, -Option.map_bind]
  · rcases other with _ | _ | _ | other <;> simp [ofShape?, -Option.map_bind] at hne ⊢
  · simp [ofShape?]

theorem read?_eq_call_iff {arguments : List Expression} :
    read? nested node = some (.call arguments) ↔
      Variant nested expressionTags "CallExpression" (fun given =>
        (given.field? "arguments").elim (some []) readItems? = some arguments) node := by
  rw [read?_eq_bind]
  refine eq_some_iff_variant nodup_expressionTags 2 rfl (fun given => ?_)
    (fun given other _ hne => ?_) (fun given => ?_)
  · simp [ofShape?]
  · rcases other with _ | _ | _ | other <;> simp [ofShape?, -Option.map_bind] at hne ⊢
  · simp [ofShape?]

theorem read?_eq_literal_iff {value : Json} : read? nested node = some (.literal value) ↔
    Variant nested expressionTags "Literal" (fun given =>
      (given.field? "value").getD .null = value) node := by
  rw [read?_eq_bind]
  refine eq_some_iff_variant nodup_expressionTags 3 rfl (fun given => ?_)
    (fun given other hlt hne => ?_) (fun given => ?_)
  · simp [ofShape?]
  · have hlt : other < 4 := hlt
    rcases other with _ | _ | _ | other
    · simp [ofShape?, -Option.map_bind]
    · simp [ofShape?, -Option.map_bind]
    · simp [ofShape?]
    · omega
  · simp [ofShape?]

theorem read?_eq_other_iff : read? nested node = some .other ↔
    ∃ given, marked? node = some given ∧ IsForeign nested expressionTags given.mark ∧
      isPair node = false := by
  rw [read?_eq_bind, Option.bind_eq_some_iff]
  refine exists_congr fun given => and_congr_right fun _ => ?_
  rw [isForeign_iff]
  rcases shape? nested expressionTags given.mark with _ | _ | _ | _ | _ | index <;>
    simp [ofShape?, -Option.map_bind]

theorem readItems?_eq_some_iff {value : Json} {arguments : List Expression} :
    readItems? value = some arguments ↔
      ∃ items, value = .array items ∧ items.mapM (read? true) = some arguments := by
  cases value with
  | array items => simp [readItems?, readAll?_eq_mapM]
  | null | bool _ | number _ | string _ | object _ => simp [readItems?]

end Expression

/-! ## Readable expressions -/

theorem isReadable_of_read? {expression : Expression} {node : Json}
    (h : Expression.read? true node = some expression) : IsReadable node := by
  induction expression using Expression.inductionOn generalizing node with
  | await argument ih =>
    obtain ⟨given, hgiven, hmark, child, hfield, hread⟩ := Expression.read?_eq_await_iff.1 h
    exact .await hgiven hmark hfield (ih hread)
  | importOf source ih =>
    obtain ⟨given, hgiven, hmark, child, hfield, hread⟩ := Expression.read?_eq_importOf_iff.1 h
    exact .importOf hgiven hmark hfield (ih hread)
  | call arguments ih =>
    obtain ⟨given, hgiven, hmark, harguments⟩ := Expression.read?_eq_call_iff.1 h
    cases hfield : given.field? "arguments" with
    | none => exact .emptyCall hgiven hmark hfield
    | some value =>
      rw [hfield] at harguments
      obtain ⟨items, rfl, hitems⟩ := Expression.readItems?_eq_some_iff.1 harguments
      refine .call hgiven hmark hfield fun item hitem => ?_
      obtain ⟨argument, hmem, hread⟩ := exists_of_mapM_eq_some hitems hitem
      exact ih argument hmem hread
  | literal value =>
    obtain ⟨given, hgiven, hmark, -⟩ := Expression.read?_eq_literal_iff.1 h
    exact .literal hgiven hmark
  | other =>
    obtain ⟨given, hgiven, hforeign, hpair⟩ := Expression.read?_eq_other_iff.1 h
    exact .other hgiven hforeign hpair

/-! ## Top theorems -/

theorem exists_read?_iff_isReadable {node : Json} :
    (∃ expression, Expression.read? true node = some expression) ↔ IsReadable node := by
  refine ⟨fun ⟨_, h⟩ => isReadable_of_read? h, fun h => ?_⟩
  induction h with
  | await hgiven hmark hfield _ ih =>
    obtain ⟨argument, hread⟩ := ih
    exact ⟨.await argument, Expression.read?_eq_await_iff.2 ⟨_, hgiven, hmark, _, hfield, hread⟩⟩
  | importOf hgiven hmark hfield _ ih =>
    obtain ⟨source, hread⟩ := ih
    exact ⟨.importOf source,
      Expression.read?_eq_importOf_iff.2 ⟨_, hgiven, hmark, _, hfield, hread⟩⟩
  | call hgiven hmark hfield _ ih =>
    obtain ⟨arguments, hread⟩ := exists_mapM_iff.2 ih
    refine ⟨.call arguments, Expression.read?_eq_call_iff.2 ⟨_, hgiven, hmark, ?_⟩⟩
    dsimp only
    rw [hfield]
    exact Expression.readItems?_eq_some_iff.2 ⟨_, rfl, hread⟩
  | emptyCall hgiven hmark hfield =>
    refine ⟨.call [], Expression.read?_eq_call_iff.2 ⟨_, hgiven, hmark, ?_⟩⟩
    dsimp only
    rw [hfield]
    rfl
  | literal hgiven hmark =>
    exact ⟨.literal _, Expression.read?_eq_literal_iff.2 ⟨_, hgiven, hmark, rfl⟩⟩
  | other hgiven hforeign hpair =>
    exact ⟨.other, Expression.read?_eq_other_iff.2 ⟨_, hgiven, hforeign, hpair⟩⟩

end ServedMedia.Syntax
