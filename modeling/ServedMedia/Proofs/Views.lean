import ServedMedia.Proofs.Reading

/-!
# What views do not show of the statements inside a node

Statements stand below the key "body", and no view looks there.  So a walk over the
statements inside a node leaves its view as it was, whichever way its parts are given
and whether they can be read or not:

    Statement.classify (substitute edit false node) =
      (Statement.classify node).map (substitute edit false)       (classify_substitute)

All that changes is the value of a literal: it is kept as it stands in the tree, and
there may be statements in it.
-/

namespace ServedMedia.Syntax

open Json

/-! ## Algorithm -/

mutual

/-- The expression with each value of a literal changed. -/
def Expression.map (f : Json → Json) : Expression → Expression
  | .await argument => .await (argument.map f)
  | .importOf source => .importOf (source.map f)
  | .call arguments => .call (Expression.mapAll f arguments)
  | .literal value => .literal (f value)
  | .other => .other

/-- The expressions with each value of a literal changed. -/
def Expression.mapAll (f : Json → Json) : List Expression → List Expression
  | [] => []
  | first :: others => first.map f :: Expression.mapAll f others

end

/-- The declarator with each value of a literal changed. -/
def Declarator.map (f : Json → Json) (declarator : Declarator) : Declarator :=
  ⟨declarator.id, declarator.init.map (Expression.map f)⟩

/-- The statement with each value of a literal changed. -/
def Statement.map (f : Json → Json) : Statement → Statement
  | .importDeclaration locals source => .importDeclaration locals (f source)
  | .variableDeclaration declarators => .variableDeclaration (declarators.map (Declarator.map f))
  | .other => .other

/-- The entries of an array. -/
def Pattern.readItems? : Json → Option (List (Option Pattern))
  | .array entries => Pattern.readEntries? entries
  | _ => none

/-- The expressions of an array. -/
def Expression.readItems? : Json → Option (List Expression)
  | .array items => Expression.readAll? items
  | _ => none

/-! ## Changed literals -/

section
variable {f : Json → Json}

theorem Expression.map_eq_await_iff {expression argument : Expression} :
    expression.map f = .await argument ↔
      ∃ inner, expression = .await inner ∧ inner.map f = argument := by
  cases expression <;> simp [Expression.map]

theorem Expression.map_eq_importOf_iff {expression source : Expression} :
    expression.map f = .importOf source ↔
      ∃ inner, expression = .importOf inner ∧ inner.map f = source := by
  cases expression <;> simp [Expression.map]

theorem Expression.map_eq_call_iff {expression : Expression} {arguments : List Expression} :
    expression.map f = .call arguments ↔
      ∃ inner, expression = .call inner ∧ Expression.mapAll f inner = arguments := by
  cases expression <;> simp [Expression.map]

theorem Expression.map_eq_literal_iff {expression : Expression} {value : Json} :
    expression.map f = .literal value ↔ ∃ inner, expression = .literal inner ∧ f inner = value := by
  cases expression <;> simp [Expression.map]

theorem Expression.mapAll_eq_cons_iff {expressions others : List Expression} {first : Expression} :
    Expression.mapAll f expressions = first :: others ↔
      ∃ head tail, expressions = head :: tail ∧ head.map f = first ∧
        Expression.mapAll f tail = others := by
  cases expressions <;> simp [Expression.mapAll]

end

/-! ## Records -/

section
variable (edit : Json → Option Json)

theorem shape?_substitute (nested : Bool) (names : List String) (isBody : Bool) (tag : Json) :
    shape? nested names (substitute edit isBody tag) = shape? nested names tag := by
  cases tag <;> rfl

theorem fields?_substitute {names : List String} (hnames : bodyKey ∉ names) (node : Json) :
    fields? names (substitute edit false node) =
      (fields? names node).map (List.map (Option.map (substitute edit false))) := by
  cases node with
  | array items =>
    simp only [substitute, substituteItems_eq_map, fields?, List.length_map]
    split
    · simp [Function.comp_def]
    · rfl
  | object members =>
    simp only [substitute, fields?, Option.map_some, List.map_map]
    congr 1
    apply List.map_congr_left
    intro name hname
    have hkey : (name == bodyKey) = false := beq_false_of_ne fun h => hnames (h ▸ hname)
    rw [get?_substituteMembers, hkey]
    rfl
  | null | bool _ | number _ | string _ => rfl

theorem identifierName?_substitute (node : Json) :
    identifierName? (substitute edit false node) = identifierName? node := by
  unfold identifierName?
  rw [fields?_substitute edit (by decide)]
  rcases fields? ["name"] node with _ | _ | ⟨_ | name, _ | _⟩
  · rfl
  · rfl
  · rfl
  · rfl
  · cases name <;> rfl
  · cases name <;> rfl

theorem literalValue?_substitute (node : Json) :
    literalValue? (substitute edit false node) =
      (literalValue? node).map (substitute edit false) := by
  unfold literalValue?
  rw [fields?_substitute edit (by decide)]
  rcases fields? ["value"] node with _ | _ | ⟨_ | value, _ | _⟩ <;> rfl

theorem localName?_substitute (node : Json) :
    localName? (substitute edit false node) = localName? node := by
  unfold localName?
  rw [fields?_substitute edit (by decide)]
  rcases fields? ["local"] node with _ | _ | ⟨_ | name, _ | _⟩
  · rfl
  · rfl
  · rfl
  · rfl
  · exact identifierName?_substitute edit name
  · rfl

theorem asString?_substitute (isBody : Bool) (value : Json) :
    (substitute edit isBody value).asString? = value.asString? := by
  cases value <;> rfl

/-- The shape that the tag of an object stands for. -/
theorem tag_substitute (nested : Bool) (names : List String) (members : Members) :
    (Members.get? "type" (substituteMembers edit members) >>= shape? nested names) =
      (Members.get? "type" members >>= shape? nested names) := by
  rw [get?_substituteMembers]
  cases Members.get? "type" members with
  | none => rfl
  | some tag => exact shape?_substitute edit nested names _ tag

/-! ## Patterns -/

theorem Pattern.readEntriesOf?_cons (key k : String) (value : Json) (rest : Members) :
    Pattern.readEntriesOf? key ((k, value) :: rest) =
      if k = key then Pattern.readItems? value else Pattern.readEntriesOf? key rest := by
  cases value <;> simp [Pattern.readEntriesOf?, Pattern.readItems?]

theorem Pattern.read?_single (nested : Bool) (tag : Json) :
    Pattern.read? nested (.array [tag]) =
      match shape? nested patternTags tag with
      | some none => some .other
      | _ => none := by
  rw [Pattern.read?]
  · rcases shape? nested patternTags tag with _ | _ | _ | index <;> rfl
  · simp

theorem Pattern.read?_pair (nested : Bool) (tag value : Json) :
    Pattern.read? nested (.array [tag, value]) =
      match shape? nested patternTags tag with
      | some (some 0) => value.asString?.map .identifier
      | some (some _) => (Pattern.readItems? value).map .object
      | _ => none := by
  cases value with
  | array entries =>
    rw [Pattern.read?]
    rcases shape? nested patternTags tag with _ | _ | _ | index <;> rfl
  | null | bool _ | number _ | string _ | object _ =>
    rw [Pattern.read?]
    · rcases shape? nested patternTags tag with _ | _ | _ | index <;> rfl
    · simp

/-- A pattern that is given by position has one field. -/
theorem Pattern.read?_of_long (nested : Bool) (tag first second : Json) (rest : List Json) :
    Pattern.read? nested (.array (tag :: first :: second :: rest)) = none := by
  rw [Pattern.read?]
  · rcases shape? nested patternTags tag with _ | _ | _ | index
    · rfl
    · rfl
    · simp [identifierName?, fields?]
    · rfl
  · simp

mutual

theorem Pattern.read?_substitute (nested : Bool) : ∀ node,
    Pattern.read? nested (substitute edit false node) = Pattern.read? nested node
  | .object members => by
    have hname : identifierName? (.object (substituteMembers edit members)) =
        identifierName? (.object members) := identifierName?_substitute edit (.object members)
    rw [substitute, Pattern.read?, Pattern.read?, tag_substitute, hname,
      Pattern.readEntriesOf?_substitute (by decide) members]
  | .array [] => rfl
  | .array [tag] => by
    rw [substitute, substituteItems_plain, substituteItems,
      Pattern.read?_single, Pattern.read?_single, shape?_substitute]
  | .array [tag, value] => by
    rw [substitute, substituteItems_plain, substituteItems_plain, substituteItems,
      Pattern.read?_pair, Pattern.read?_pair, shape?_substitute, asString?_substitute,
      Pattern.readItems?_substitute value]
  | .array (_ :: _ :: _ :: _) => by
    rw [substitute, substituteItems_plain, substituteItems_plain, substituteItems_plain,
      Pattern.read?_of_long,
      Pattern.read?_of_long]
  | .null | .bool _ | .number _ | .string _ => rfl

theorem Pattern.readItems?_substitute : ∀ value,
    Pattern.readItems? (substitute edit false value) = Pattern.readItems? value
  | .array entries => Pattern.readEntries?_substitute entries
  | .null | .bool _ | .number _ | .string _ | .object _ => rfl

theorem Pattern.readEntriesOf?_substitute {key : String} (hkey : key ≠ bodyKey) : ∀ members,
    Pattern.readEntriesOf? key (substituteMembers edit members) =
      Pattern.readEntriesOf? key members
  | [] => rfl
  | (k, value) :: rest => by
    rw [substituteMembers, Pattern.readEntriesOf?_cons, Pattern.readEntriesOf?_cons,
      Pattern.readEntriesOf?_substitute hkey rest]
    by_cases hk : k = key
    · have hbody : (k == bodyKey) = false := beq_false_of_ne (hk ▸ hkey)
      rw [hbody, Pattern.readItems?_substitute value]
    · rw [if_neg hk, if_neg hk]

theorem Pattern.readEntries?_substitute : ∀ entries,
    Pattern.readEntries? (substituteItems edit false entries) = Pattern.readEntries? entries
  | [] => rfl
  | entry :: rest => by
    rw [substituteItems_plain, Pattern.readEntries?, Pattern.readEntries?,
      Pattern.readEntries?_substitute rest, Pattern.readEntry?_substitute entry]

theorem Pattern.readEntry?_substitute : ∀ entry,
    Pattern.readEntry? (substitute edit false entry) = Pattern.readEntry? entry
  | .object members => by
    rw [substitute, Pattern.readEntry?, Pattern.readEntry?, tag_substitute,
      Pattern.readOf?_substitute (by decide) members]
  | .array [] => rfl
  | .array [tag] => by
    simp [substitute, substituteItems, Pattern.readEntry?, shape?_substitute]
  | .array [tag, value] => by
    simp [substitute, substituteItems, Pattern.readEntry?, shape?_substitute,
      Pattern.read?_substitute true value]
  | .array (tag :: _ :: _ :: _) => by
    simp [substitute, substituteItems, Pattern.readEntry?, shape?_substitute]
  | .null | .bool _ | .number _ | .string _ => rfl

theorem Pattern.readOf?_substitute {key : String} (hkey : key ≠ bodyKey) : ∀ members,
    Pattern.readOf? key (substituteMembers edit members) = Pattern.readOf? key members
  | [] => rfl
  | (k, value) :: rest => by
    rw [substituteMembers, Pattern.readOf?, Pattern.readOf?, Pattern.readOf?_substitute hkey rest]
    by_cases hk : k = key
    · have hbody : (k == bodyKey) = false := beq_false_of_ne (hk ▸ hkey)
      rw [hbody, Pattern.read?_substitute true value]
    · rw [if_neg hk, if_neg hk]

end

/-! ## Expressions -/

theorem Expression.readAllOf?_cons (key k : String) (value : Json) (rest : Members) :
    Expression.readAllOf? key ((k, value) :: rest) =
      if k = key then Expression.readItems? value else Expression.readAllOf? key rest := by
  cases value <;> simp [Expression.readAllOf?, Expression.readItems?]

theorem Expression.read?_single (nested : Bool) (tag : Json) :
    Expression.read? nested (.array [tag]) =
      match shape? nested expressionTags tag with
      | none | some (some 0) | some (some 1) => none
      | some (some 2) => some (.call [])
      | some (some _) => some (.literal .null)
      | some none => some .other := by
  rw [Expression.read?]
  rcases shape? nested expressionTags tag with _ | _ | _ | _ | _ | index <;> rfl

theorem Expression.read?_pair (nested : Bool) (tag value : Json) :
    Expression.read? nested (.array [tag, value]) =
      match shape? nested expressionTags tag with
      | some (some 0) => (Expression.read? true value).map .await
      | some (some 1) => (Expression.read? true value).map .importOf
      | some (some 2) => (Expression.readItems? value).map .call
      | some (some _) => some (.literal value)
      | _ => none := by
  cases value with
  | array items =>
    conv_lhs => rw [Expression.read?]
    rcases shape? nested expressionTags tag with _ | _ | _ | _ | _ | index <;> rfl
  | null | bool _ | number _ | string _ | object _ =>
    conv_lhs => rw [Expression.read?]
    rcases shape? nested expressionTags tag with _ | _ | _ | _ | _ | index <;> rfl

/-- An expression that is given by position has at most one field. -/
theorem Expression.read?_of_long (nested : Bool) (tag first second : Json) (rest : List Json) :
    Expression.read? nested (.array (tag :: first :: second :: rest)) = none := by
  rw [Expression.read?]
  · rcases shape? nested expressionTags tag with _ | _ | _ | _ | _ | index
    · rfl
    · rfl
    · rfl
    · rfl
    · rfl
    · simp [literalValue?, fields?]
  all_goals simp

mutual

theorem Expression.read?_substitute (nested : Bool) : ∀ node,
    Expression.read? nested (substitute edit false node) =
      (Expression.read? nested node).map (Expression.map (substitute edit false))
  | .object members => by
    have hvalue : literalValue? (.object (substituteMembers edit members)) =
        (literalValue? (.object members)).map (substitute edit false) :=
      literalValue?_substitute edit (.object members)
    rw [substitute, Expression.read?, Expression.read?, tag_substitute, hvalue,
      Expression.readOf?_substitute (by decide) members,
      Expression.readOf?_substitute (by decide) members,
      Expression.readAllOf?_substitute (by decide) members]
    rcases Members.get? "type" members >>= shape? nested expressionTags with
      _ | _ | _ | _ | _ | index <;>
      simp [Expression.map, Function.comp_def]
  | .array [] => rfl
  | .array [tag] => by
    rw [substitute, substituteItems_plain, substituteItems,
      Expression.read?_single, Expression.read?_single, shape?_substitute]
    rcases shape? nested expressionTags tag with _ | _ | _ | _ | _ | index <;> rfl
  | .array [tag, value] => by
    rw [substitute, substituteItems_plain, substituteItems_plain, substituteItems,
      Expression.read?_pair, Expression.read?_pair, shape?_substitute,
      Expression.read?_substitute true value, Expression.readItems?_substitute value]
    rcases shape? nested expressionTags tag with _ | _ | _ | _ | _ | index <;>
      simp [Expression.map, Function.comp_def]
  | .array (_ :: _ :: _ :: _) => by
    rw [substitute, substituteItems_plain, substituteItems_plain, substituteItems_plain,
      Expression.read?_of_long,
      Expression.read?_of_long]
    rfl
  | .null | .bool _ | .number _ | .string _ => rfl

theorem Expression.readItems?_substitute : ∀ value,
    Expression.readItems? (substitute edit false value) =
      (Expression.readItems? value).map (Expression.mapAll (substitute edit false))
  | .array items => Expression.readAll?_substitute items
  | .null | .bool _ | .number _ | .string _ | .object _ => rfl

theorem Expression.readOf?_substitute {key : String} (hkey : key ≠ bodyKey) : ∀ members,
    Expression.readOf? key (substituteMembers edit members) =
      (Expression.readOf? key members).map (Expression.map (substitute edit false))
  | [] => rfl
  | (k, value) :: rest => by
    rw [substituteMembers, Expression.readOf?, Expression.readOf?,
      Expression.readOf?_substitute hkey rest]
    by_cases hk : k = key
    · have hbody : (k == bodyKey) = false := beq_false_of_ne (hk ▸ hkey)
      rw [hbody, Expression.read?_substitute true value, if_pos hk, if_pos hk]
    · rw [if_neg hk, if_neg hk]

theorem Expression.readAllOf?_substitute {key : String} (hkey : key ≠ bodyKey) : ∀ members,
    Expression.readAllOf? key (substituteMembers edit members) =
      (Expression.readAllOf? key members).map (Expression.mapAll (substitute edit false))
  | [] => rfl
  | (k, value) :: rest => by
    rw [substituteMembers, Expression.readAllOf?_cons, Expression.readAllOf?_cons,
      Expression.readAllOf?_substitute hkey rest]
    by_cases hk : k = key
    · have hbody : (k == bodyKey) = false := beq_false_of_ne (hk ▸ hkey)
      rw [hbody, Expression.readItems?_substitute value, if_pos hk, if_pos hk]
    · rw [if_neg hk, if_neg hk]

theorem Expression.readAll?_substitute : ∀ items,
    Expression.readAll? (substituteItems edit false items) =
      (Expression.readAll? items).map (Expression.mapAll (substitute edit false))
  | [] => rfl
  | item :: rest => by
    rw [substituteItems_plain, Expression.readAll?, Expression.readAll?,
      Expression.readAll?_substitute rest, Expression.read?_substitute true item]
    cases Expression.read? true item with
    | none => rfl
    | some first => cases Expression.readAll? rest <;> rfl

end

/-! ## Statements -/

theorem declarator?_substitute (node : Json) :
    declarator? (substitute edit false node) =
      (declarator? node).map (Declarator.map (substitute edit false)) := by
  unfold declarator?
  rw [fields?_substitute edit (by decide)]
  rcases fields? ["id", "init"] node with _ | _ | ⟨_ | id, _ | ⟨init, _ | _⟩⟩
  · rfl
  · rfl
  · rfl
  · rfl
  · rfl
  · rfl
  · simp only [Option.map_some, List.map_cons, List.map_nil]
    rw [Pattern.read?_substitute]
    cases Pattern.read? false id with
    | none => rfl
    | some pattern =>
      rcases init with _ | value
      · rfl
      · cases value with
        | null => rfl
        | bool b | number n | string s => rfl
        | array _ | object _ =>
          show (Expression.read? false (substitute edit false _)).map _ =
            ((Expression.read? false _).map _).map _
          rw [Expression.read?_substitute, Option.map_map, Option.map_map]
          rfl
  · rfl

theorem mapM_substitute {α : Type} {read? : Json → Option α} {change : α → α}
    (h : ∀ item, read? (substitute edit false item) = (read? item).map change)
    (items : List Json) : (substituteItems edit false items).mapM read? =
      (items.mapM read?).map (List.map change) := by
  induction items with
  | nil => rfl
  | cons item items ih =>
    rw [substituteItems_plain, List.mapM_cons, List.mapM_cons, h item, ih]
    cases read? item with
    | none => rfl
    | some first => cases items.mapM read? <;> rfl

theorem localNames?_substitute (members : Members) :
    localNames? (substituteMembers edit members) = localNames? members := by
  unfold localNames?
  rw [get?_substituteMembers]
  cases Members.get? "specifiers" members with
  | none => rfl
  | some value =>
    cases value with
    | array specifiers =>
      have hname : ∀ item,
          localName? (substitute edit false item) = (localName? item).map id := by
        intro item
        rw [localName?_substitute, Option.map_id]
        rfl
      show (substituteItems edit false specifiers).mapM localName? = specifiers.mapM localName?
      rw [mapM_substitute edit hname, List.map_id_fun, Option.map_id]
      rfl
    | null | bool _ | number _ | string _ | object _ => rfl

theorem importDeclaration?_substitute (members : Members) :
    importDeclaration? (substituteMembers edit members) =
      (importDeclaration? members).map (Statement.map (substitute edit false)) := by
  unfold importDeclaration?
  rw [localNames?_substitute, get?_substituteMembers]
  cases localNames? members with
  | none => rfl
  | some locals =>
    cases Members.get? "source" members with
    | none => rfl
    | some source =>
      show (literalValue? (substitute edit false source)).bind _ =
        ((literalValue? source).bind _).map _
      rw [literalValue?_substitute]
      cases literalValue? source <;> rfl

theorem variableDeclaration?_substitute (members : Members) :
    variableDeclaration? (substituteMembers edit members) =
      (variableDeclaration? members).map (Statement.map (substitute edit false)) := by
  unfold variableDeclaration?
  rw [get?_substituteMembers]
  cases Members.get? "declarations" members with
  | none => rfl
  | some value =>
    cases value with
    | array declarators =>
      show ((substituteItems edit false declarators).mapM declarator?).map _ =
        ((declarators.mapM declarator?).map _).map _
      rw [mapM_substitute edit (declarator?_substitute edit)]
      cases declarators.mapM declarator? <;> rfl
    | null | bool _ | number _ | string _ | object _ => rfl

theorem classify_substitute (node : Json) :
    Statement.classify (substitute edit false node) =
      (Statement.classify node).map (substitute edit false) := by
  cases node with
  | object members =>
    rw [substitute, Statement.classify, Statement.classify, get?_substituteMembers,
      importDeclaration?_substitute, variableDeclaration?_substitute]
    cases Members.get? "type" members with
    | none => rfl
    | some tag =>
      cases tag with
      | string tag =>
        by_cases himport : tag = "ImportDeclaration"
        · subst himport
          cases importDeclaration? members <;> rfl
        · by_cases hvariable : tag = "VariableDeclaration"
          · subst hvariable
            cases variableDeclaration? members <;> rfl
          · simp [substitute, himport, hvariable, Statement.map]
      | null | bool _ | number _ | array _ | object _ => rfl
  | null | bool _ | number _ | string _ | array _ => rfl

end

end ServedMedia.Syntax
