import DeferredText.Proofs.Faults

/-!
Contract: values without the attributes that are hidden.

Hiding some attributes takes them away from the objects in a value, at any depth, and leaves
everything else where it is. What templates do with values, short of calling helpers, looks at an
object only through its identity and its public attributes, so it makes no difference whether
the hidden ones are taken away before or afterwards.

Owns: values, failures and outcomes without hidden attributes, and the equations that carry the
texts, the accesses and the mappings of values over.

Does not own: what helpers and filters do with objects (`Proofs.Discreet`).
-/

namespace DeferredText

namespace Value

mutual

/-- The value without the hidden attributes of the objects in it. -/
def disclosed (hidden : String → Bool) : Value → Value
  | .list items => .list (disclosedItems hidden items)
  | .tuple items => .tuple (disclosedItems hidden items)
  | .dict entries => .dict (disclosedEntries hidden entries)
  | .object identity attributes => .object identity (disclosedAttributes hidden attributes)
  | .exception kind arguments => .exception kind (disclosedItems hidden arguments)
  | other => other

def disclosedItems (hidden : String → Bool) : List Value → List Value
  | [] => []
  | item :: rest => disclosed hidden item :: disclosedItems hidden rest

def disclosedEntries (hidden : String → Bool) : List (Value × Value) → List (Value × Value)
  | [] => []
  | (key, value) :: rest =>
      (disclosed hidden key, disclosed hidden value) :: disclosedEntries hidden rest

def disclosedAttributes (hidden : String → Bool) : List (String × Value) → List (String × Value)
  | [] => []
  | (name, value) :: rest =>
      if hidden name then disclosedAttributes hidden rest
      else (name, disclosed hidden value) :: disclosedAttributes hidden rest

end

end Value

/-- The report without hidden attributes in the values that it holds. -/
def Report.disclosed (hidden : String → Bool) : Report → Report
  | ⟨code, category, message, detail, suggestion, helperName, template, none⟩ =>
      ⟨code, category, message, detail.disclosed hidden, suggestion.disclosed hidden,
        helperName.disclosed hidden, template.disclosed hidden, none⟩
  | ⟨code, category, message, detail, suggestion, helperName, template, some cause⟩ =>
      ⟨code, category, message, detail.disclosed hidden, suggestion.disclosed hidden,
        helperName.disclosed hidden, template.disclosed hidden, some (cause.disclosed hidden)⟩

/-- The failure without hidden attributes in the values that it holds. -/
def Failure.disclosed (hidden : String → Bool) : Failure → Failure
  | .raised kind arguments => .raised kind (arguments.map (Value.disclosed hidden))
  | .reported report => .reported (report.disclosed hidden)

/-- The outcome without hidden attributes, given how they are taken away from results. -/
def disclosedOutcome
    {α : Type}
    (hidden : String → Bool)
    (view : α → α) : Outcome α → Outcome α
  | .ok result => .ok (view result)
  | .error failure => .error (failure.disclosed hidden)

variable {hidden : String → Bool}

/-! ### The parts of values -/

namespace Value

theorem disclosedItems_eq (items : List Value) :
    disclosedItems hidden items = items.map (disclosed hidden) := by
  induction items with
  | nil => rfl
  | cons item rest inductionHypothesis =>
      rw [disclosedItems, inductionHypothesis, List.map_cons]

theorem disclosedEntries_eq (entries : Entries) : disclosedEntries hidden entries =
    entries.map fun entry => (entry.1.disclosed hidden, entry.2.disclosed hidden) := by
  induction entries with
  | nil => rfl
  | cons entry rest inductionHypothesis =>
      rw [disclosedEntries, inductionHypothesis, List.map_cons]

theorem disclosedAttributes_eq (attributes : List (String × Value)) :
    disclosedAttributes hidden attributes = (attributes.filter fun pair => !hidden pair.1).map
      fun pair => (pair.1, pair.2.disclosed hidden) := by
  induction attributes with
  | nil => rfl
  | cons pair rest inductionHypothesis =>
      rw [disclosedAttributes, inductionHypothesis, List.filter_cons]
      cases hidden pair.1 <;> rfl

/-- Texts hold no objects. -/
@[simp] theorem disclosed_text (content : String) :
    (text content).disclosed hidden = .text content := rfl

@[simp] theorem isNone_disclosed (value : Value) :
    (value.disclosed hidden).isNone = value.isNone := by
  cases value <;> rfl

@[simp] theorem text?_disclosed (value : Value) :
    (value.disclosed hidden).text? = value.text? := by
  cases value <;> rfl

@[simp] theorem int?_disclosed (value : Value) :
    (value.disclosed hidden).int? = value.int? := by
  cases value <;> rfl

@[simp] theorem methods_disclosed (value : Value) :
    (value.disclosed hidden).methods = value.methods := by
  cases value <;> rfl

@[simp] theorem truthy_disclosed (value : Value) :
    (value.disclosed hidden).truthy = value.truthy := by
  cases value with
  | list items | tuple items | dict entries => cases ‹List _› <;> rfl
  | _ => rfl

mutual

@[simp] theorem unhashable?_disclosed : ∀ value : Value,
    (value.disclosed hidden).unhashable? = value.unhashable?
  | .tuple items => by
      rw [disclosed, unhashable?, unhashable?]
      exact unhashableItem?_disclosed items
  | .list _ | .dict _ | .none | .bool _ | .int _ | .float _ | .complex _ _ | .text _ | .bytes _
  | .ellipsis | .object _ _ | .exception _ _ | .opaqueOf _ => by
      simp [disclosed, unhashable?]

theorem unhashableItem?_disclosed : ∀ items : List Value,
    unhashableItem? (disclosedItems hidden items) = unhashableItem? items
  | [] => rfl
  | item :: rest => by
      rw [disclosedItems, unhashableItem?, unhashableItem?, unhashable?_disclosed item,
        unhashableItem?_disclosed rest]

end

/-! ### Equality -/

mutual

/-- Objects are told apart by their identity, so hiding attributes keeps what is equal. -/
theorem same_disclosed : ∀ left right : Value,
    same (left.disclosed hidden) (right.disclosed hidden) = same left right
  | .list left, right => by
      cases right with
      | list right =>
          rw [disclosed, disclosed, same, same]
          exact sameItems_disclosed left right
      | _ => simp [disclosed, same, numeric?]
  | .tuple left, right => by
      cases right with
      | tuple right =>
          rw [disclosed, disclosed, same, same]
          exact sameItems_disclosed left right
      | _ => simp [disclosed, same, numeric?]
  | .dict left, right => by
      cases right with
      | dict right =>
          rw [disclosed, disclosed, same, same]
          exact sameEntries_disclosed left right
      | _ => simp [disclosed, same, numeric?]
  | .exception leftKind left, right => by
      cases right with
      | exception rightKind right =>
          rw [disclosed, disclosed, same, same, sameItems_disclosed left right]
      | _ => simp [disclosed, same, numeric?]
  | .object _ _, right => by
      cases right <;> simp [disclosed, same, numeric?]
  | .none, right | .bool _, right | .int _, right | .float _, right | .complex _ _, right
  | .text _, right | .bytes _, right | .ellipsis, right | .opaqueOf _, right => by
      cases right <;> simp [disclosed, same, numeric?]

theorem sameItems_disclosed : ∀ left right : List Value,
    sameItems (disclosedItems hidden left) (disclosedItems hidden right) = sameItems left right
  | [], [] | [], _ :: _ | _ :: _, [] => rfl
  | left :: leftRest, right :: rightRest => by
      rw [disclosedItems, disclosedItems, sameItems, sameItems, same_disclosed left right,
        sameItems_disclosed leftRest rightRest]

theorem sameEntries_disclosed : ∀ left right : List (Value × Value),
    sameEntries (disclosedEntries hidden left) (disclosedEntries hidden right) =
      sameEntries left right
  | [], [] | [], _ :: _ | _ :: _, [] => rfl
  | (leftKey, left) :: leftRest, (rightKey, right) :: rightRest => by
      rw [disclosedEntries, disclosedEntries, sameEntries, sameEntries,
        same_disclosed leftKey rightKey, same_disclosed left right,
        sameEntries_disclosed leftRest rightRest]

end

end Value

/-! ### Texts -/

/-- The parts of a system error without hidden attributes. -/
def SystemDetails.disclosed
    (hidden : String → Bool)
    (details : SystemDetails) : SystemDetails where
  number := details.number.disclosed hidden
  reason := details.reason.disclosed hidden
  file := details.file.disclosed hidden
  secondFile := details.secondFile.disclosed hidden

theorem systemDetails?_disclosed (arguments : List Value) :
    systemDetails? (arguments.map (Value.disclosed hidden)) =
      (systemDetails? arguments).map (SystemDetails.disclosed hidden) := by
  rcases arguments with _ | ⟨_, _ | ⟨_, _ | ⟨_, _ | ⟨_, _ | ⟨_, _ | ⟨_, _⟩⟩⟩⟩⟩⟩ <;> rfl

theorem keptCount_disclosed (kind : ErrorKind) (arguments : List Value) :
    keptCount kind (arguments.map (Value.disclosed hidden)) = keptCount kind arguments := by
  unfold keptCount
  rw [systemDetails?_disclosed, List.length_map]
  cases kind <;> cases systemDetails? arguments <;> simp [SystemDetails.disclosed]

namespace Value

mutual

/-- No attribute is written out. -/
@[simp] theorem quoted_disclosed : ∀ value : Value,
    (value.disclosed hidden).quoted = value.quoted
  | .list items => by
      rw [disclosed, quoted, quoted, quotedItems_disclosed items]
  | .tuple items => by
      rw [disclosed, quoted, quoted, quotedItems_disclosed items]
  | .dict entries => by
      rw [disclosed, quoted, quoted, quotedEntries_disclosed entries]
  | .exception kind arguments => by
      rw [disclosed, quoted, quoted, quotedItems_disclosed arguments,
        disclosedItems_eq, keptCount_disclosed]
  | .object _ _ => by
      rw [disclosed, quoted, quoted]
  | .none | .bool _ | .int _ | .float _ | .complex _ _ | .text _ | .bytes _ | .ellipsis
  | .opaqueOf _ => rfl

theorem quotedItems_disclosed : ∀ items : List Value,
    quotedItems (disclosedItems hidden items) = quotedItems items
  | [] => rfl
  | item :: rest => by
      rw [disclosedItems, quotedItems, quotedItems, quoted_disclosed item,
        quotedItems_disclosed rest]

theorem quotedEntries_disclosed : ∀ entries : List (Value × Value),
    quotedEntries (disclosedEntries hidden entries) = quotedEntries entries
  | [] => rfl
  | (key, value) :: rest => by
      rw [disclosedEntries, quotedEntries, quotedEntries, quoted_disclosed key,
        quoted_disclosed value, quotedEntries_disclosed rest]

end

end Value

@[simp] theorem textOrQuoted_disclosed (value : Value) :
    exceptionMessage.textOrQuoted (value.disclosed hidden) =
      exceptionMessage.textOrQuoted value := by
  cases value with
  | text content => rfl
  | _ => exact Value.quoted_disclosed _

mutual

@[simp] theorem Value.display_disclosed : ∀ value : Value,
    (value.disclosed hidden).display = value.display
  | .text _ => rfl
  | .exception kind arguments => by
      rw [Value.disclosed, Value.display, Value.display, Value.disclosedItems_eq]
      exact exceptionMessage_disclosed kind arguments
  | .none | .bool _ | .int _ | .float _ | .complex _ _ | .bytes _ | .ellipsis
  | .opaqueOf _ => rfl
  | .list _ | .tuple _ | .dict _ | .object _ _ => @Value.quoted_disclosed hidden _

theorem exceptionMessage_disclosed (kind : ErrorKind) (arguments : List Value) :
    exceptionMessage kind (arguments.map (Value.disclosed hidden)) =
      exceptionMessage kind arguments := by
  have all : Value.quotedItems (arguments.map (Value.disclosed hidden)) =
      Value.quotedItems arguments := by
    rw [← Value.disclosedItems_eq, Value.quotedItems_disclosed]
  match arguments with
  | [] => rfl
  | [argument] =>
      have shown := Value.display_disclosed argument
      cases kind <;> simp [exceptionMessage, shown]
  | first :: second :: rest =>
      have details := @systemDetails?_disclosed hidden (first :: second :: rest)
      rw [List.map_cons, List.map_cons] at all details ⊢
      cases kind with
      | system variant =>
          simp only [exceptionMessage, details, all]
          cases systemDetails? (first :: second :: rest) with
          | none => rfl
          | some found => simp [SystemDetails.disclosed]
      | _ => simp only [exceptionMessage, all]

end

namespace Failure

@[simp] theorem kindName_disclosed (failure : Failure) :
    (failure.disclosed hidden).kindName = failure.kindName := by
  cases failure <;> rfl

/-- A failure says the same without hidden attributes. -/
@[simp] theorem message_disclosed (failure : Failure) :
    (failure.disclosed hidden).message = failure.message := by
  cases failure with
  | raised kind arguments => exact exceptionMessage_disclosed kind arguments
  | reported report =>
      obtain ⟨code, category, message, detail, suggestion, helperName, template, _ | cause⟩ := report
      all_goals
        simp only [Failure.disclosed, Report.disclosed, Failure.message, Report.text,
          Value.truthy_disclosed, Value.display_disclosed]

end Failure

/-- The outcome fails only in ways that hold no objects. -/
def FailsPlainly {α : Type} (outcome : Outcome α) : Prop :=
  ∀ failure, outcome = .error failure → ∀ {hidden}, failure.disclosed hidden = failure

namespace FailsPlainly

variable {α β : Type}

theorem ok (result : α) : FailsPlainly (.ok result) :=
  nofun

theorem wrongType (message : String) :
    FailsPlainly (.error (.wrongType message) : Outcome α) := by
  intro failure fails hidden
  cases fails
  rfl

theorem bind {outcome : Outcome α} {next : α → Outcome β} (first : FailsPlainly outcome)
    (second : ∀ result, FailsPlainly (next result)) : FailsPlainly (outcome >>= next) := by
  cases outcome with
  | ok result => exact second result
  | error raised =>
      intro failure fails
      cases fails
      exact first raised rfl

end FailsPlainly

theorem FailsByLength.plainly {α : Type} {outcome : Outcome α} (fails : FailsByLength outcome) :
    FailsPlainly outcome := by
  intro failure isFailure hidden
  rw [fails failure isFailure]
  rfl

theorem failsPlainly_display (value : Value) : FailsPlainly value.display :=
  (failsByLength_display value).plainly

/-! ### Mappings -/

namespace Entries

/-- A mapping without hidden attributes of the objects in it, keys and values alike. -/
def disclosed
    (hidden : String → Bool)
    (entries : Entries) : Entries :=
  entries.map fun entry => (entry.1.disclosed hidden, entry.2.disclosed hidden)

theorem get?_disclosed (entries : Entries) (key : Value) :
    (entries.disclosed hidden).get? (key.disclosed hidden) =
      (entries.get? key).map (Value.disclosed hidden) := by
  have sameKeys : (fun entry : Value × Value => (key.disclosed hidden).same entry.1) ∘
      (fun entry : Value × Value => (entry.1.disclosed hidden, entry.2.disclosed hidden)) =
        fun entry : Value × Value => key.same entry.1 :=
    funext fun entry => Value.same_disclosed key entry.1
  unfold get? disclosed
  rw [List.find?_map, sameKeys, Option.map_map, Option.map_map]
  rfl

theorem insert_disclosed (entries : Entries) (key value : Value) :
    (entries.insert key value).disclosed hidden =
      (entries.disclosed hidden).insert (key.disclosed hidden) (value.disclosed hidden) := by
  induction entries with
  | nil => rfl
  | cons entry rest inductionHypothesis =>
      unfold disclosed at inductionHypothesis ⊢
      rw [List.map_cons, insert, insert, Value.same_disclosed]
      cases key.same entry.1 with
      | true => rfl
      | false => exact congrArg _ inductionHypothesis

end Entries

/-! ### Accesses -/

namespace Value

theorem itemAt?_map {α β : Type} (change : α → β) (items : List α) (position : Int) :
    itemAt? (items.map change) position = (itemAt? items position).map change := by
  unfold itemAt?
  dsimp only
  rw [List.length_map]
  generalize (if position < 0 then position + items.length else position) = index
  split
  · rfl
  · exact List.getElem?_map

theorem sequence?_disclosed (value : Value) : (value.disclosed hidden).sequence? =
    value.sequence?.map (List.map (disclosed hidden)) := by
  cases value with
  | list items => exact congrArg some (disclosedItems_eq items)
  | tuple items => exact congrArg some (disclosedItems_eq items)
  | text content =>
      rw [disclosed_text, sequence?, Option.map_some, List.map_map]
      rfl
  | _ => rfl

theorem integerPart?_disclosed (number : Int) (name : String) :
    (integerPart? number name).map (disclosed hidden) = integerPart? number name := by
  unfold integerPart?
  repeat' split
  all_goals rfl

theorem exceptionPart?_disclosed (kind : ErrorKind) (arguments : List Value) (name : String) :
    exceptionPart? kind (arguments.map (disclosed hidden)) name =
      (exceptionPart? kind arguments name).map (disclosed hidden) := by
  unfold exceptionPart?
  rw [keptCount_disclosed, ← List.map_take]
  split
  · rw [Option.map_some, disclosed, disclosedItems_eq]
  · cases kind with
    | system variant =>
        have details : (systemDetails? (arguments.map (disclosed hidden))).getD
            ⟨.none, .none, .none, .none⟩ =
              ((systemDetails? arguments).getD ⟨.none, .none, .none, .none⟩).disclosed hidden := by
          rw [systemDetails?_disclosed]
          cases systemDetails? arguments <;> rfl
        dsimp only
        rw [details]
        repeat' split
        all_goals rfl
    | missingAttribute =>
        dsimp only
        split <;> rfl
    | _ => rfl

/-- An attribute that is not hidden is found whether or not others are taken away. -/
theorem field?_disclosed {name : String} (isShown : hidden name = false) (value : Value) :
    (value.disclosed hidden).field? name = (value.field? name).map (disclosed hidden) := by
  cases value with
  | bool truth => exact (integerPart?_disclosed _ name).symm
  | int number => exact (integerPart?_disclosed number name).symm
  | float datum | complex realPart imaginaryPart =>
      unfold field? disclosed
      dsimp only
      repeat' split
      all_goals rfl
  | object identity attributes =>
      have named : (fun pair : String × Value => decide ((!hidden pair.1) = true ∧
          (pair.1 == name) = true)) = fun pair => pair.1 == name := by
        funext pair
        by_cases isNamed : pair.1 = name <;> simp [isNamed, isShown]
      rw [disclosed, field?, field?, disclosedAttributes_eq, ← List.map_reverse,
        List.find?_map, ← List.filter_reverse, List.find?_filter, Option.map_map, Option.map_map]
      exact congrArg (Option.map _) (congrArg (List.find? · _) named)
  | exception kind arguments =>
      rw [disclosed, field?, field?, disclosedItems_eq]
      exact exceptionPart?_disclosed kind arguments name
  | _ => rfl

/-- Which names template data binds, and to what, is asked of mappings only. -/
theorem bindsName_disclosed (data : Value) (name : String) :
    (data.disclosed hidden).bindsName name = data.bindsName name := by
  have anyItem (items : List Value) : ((items.map (disclosed hidden)).any fun item =>
      same (.text name) item) = items.any fun item => same (.text name) item := by
    rw [List.any_map]
    refine congrArg (List.any items) (funext fun item => ?_)
    exact same_disclosed (.text name) item
  cases data with
  | dict entries =>
      have found := @Entries.get?_disclosed hidden entries (.text name)
      rw [disclosed, disclosedEntries_eq]
      refine congrArg Except.ok ?_
      rw [Entries.getText?, Entries.getText?]
      exact (congrArg Option.isSome found).trans Option.isSome_map
  | list items =>
      rw [disclosed, disclosedItems_eq]
      exact congrArg Except.ok (anyItem items)
  | tuple items =>
      rw [disclosed, disclosedItems_eq]
      exact congrArg Except.ok (anyItem items)
  | _ => rfl

theorem failsPlainly_bindsName (data : Value) (name : String) :
    FailsPlainly (data.bindsName name) := by
  cases data with
  | dict entries | list items | tuple items | text content => exact .ok _
  | _ => exact .wrongType _

theorem boundTo_disclosed (data : Value) (name : String) :
    (data.disclosed hidden).boundTo name =
      disclosedOutcome hidden (disclosed hidden) (data.boundTo name) := by
  cases data with
  | dict entries =>
      have found : Entries.getText? (disclosedEntries hidden entries) name =
          (Entries.getText? entries name).map (disclosed hidden) := by
        rw [disclosedEntries_eq]
        exact Entries.get?_disclosed entries (.text name)
      rw [disclosed, boundTo, boundTo, found]
      cases Entries.getText? entries name <;> rfl
  | _ => rfl

variable (isPrivate : ∀ name, hidden name = true → isPrivateName name = true)
include isPrivate

/-- Private attributes are never reached, so it makes no difference whether they are there. -/
theorem attribute?_disclosed (value : Value) (name : String) :
    (value.disclosed hidden).attribute? name = (value.attribute? name).map (disclosed hidden) := by
  unfold attribute?
  by_cases starts : startsWithText "_" name = true
  · rw [if_pos starts, if_pos starts]
    rfl
  · have isShown : hidden name = false :=
      Bool.eq_false_iff.mpr fun isHidden => starts (isPrivate name isHidden)
    rw [if_neg starts, if_neg starts, field?_disclosed isShown, methods_disclosed]
    cases value.field? name with
    | some found => rfl
    | none =>
        dsimp only [Option.map_none]
        split <;> rfl

theorem access?_disclosed (base key : Value) :
    (base.disclosed hidden).access? (key.disclosed hidden) =
      disclosedOutcome hidden (Option.map (disclosed hidden)) (base.access? key) := by
  have others (noDict : ∀ entries, base ≠ .dict entries)
      (noDictLeft : ∀ entries, base.disclosed hidden ≠ .dict entries) :
      (base.disclosed hidden).access? (key.disclosed hidden) =
        disclosedOutcome hidden (Option.map (disclosed hidden)) (base.access? key) := by
    rw [access?, access?, sequence?_disclosed, int?_disclosed, text?_disclosed]
    · cases base.sequence? <;> cases key.int? <;> cases key.text? <;>
        simp [disclosedOutcome, itemAt?_map, attribute?_disclosed isPrivate]
    · exact noDict
    · exact noDictLeft
  cases base with
  | dict entries =>
      rw [access?.eq_def, disclosed, access?.eq_def]
      dsimp only
      rw [unhashable?_disclosed, disclosedEntries_eq]
      cases key.unhashable? with
      | some name => rfl
      | none => exact congrArg Except.ok (Entries.get?_disclosed entries key)
  | _ => exact others (by rintro _ ⟨⟩) (by rintro _ ⟨⟩)

end Value

/-! ### Pure steps of an evaluation -/

namespace Evaluate

variable {σ : Type} (engine : Engine σ)

theorem undefined_disclosed (expression name : String) :
    disclosedOutcome hidden (Value.disclosed hidden) (undefined engine expression name) =
      undefined engine expression name := by
  unfold undefined
  split <;> rfl

theorem name_disclosed (data : Value) (expression identifier : String) :
    name engine (data.disclosed hidden) expression identifier =
      disclosedOutcome hidden (Value.disclosed hidden)
        (name engine data expression identifier) := by
  have constants : ∀ pair ∈ aliases, pair.2.disclosed hidden = pair.2 := by
    simp [aliases, Value.disclosed]
  unfold name
  rw [Value.bindsName_disclosed, Value.boundTo_disclosed]
  rcases binds : data.bindsName identifier with failure | _ | _
  · exact congrArg Except.error (Value.failsPlainly_bindsName data identifier failure binds).symm
  · cases found : aliases.find? fun pair => pair.1 == identifier with
    | none => exact (undefined_disclosed engine expression identifier).symm
    | some pair =>
        exact congrArg Except.ok (constants pair (List.mem_of_find?_eq_some found)).symm
  · rfl

theorem signed_disclosed (operator : UnaryOperator) (operand : Value) :
    signed operator (operand.disclosed hidden) =
      disclosedOutcome hidden (Value.disclosed hidden) (signed operator operand) := by
  cases operand with
  | float datum | complex realPart imaginaryPart => cases operator <;> rfl
  | _ => rfl

theorem insertEntry_disclosed (entries : Entries) (key value : Value) :
    insertEntry (entries.disclosed hidden) (key.disclosed hidden) (value.disclosed hidden) =
      disclosedOutcome hidden (Entries.disclosed hidden) (insertEntry entries key value) := by
  unfold insertEntry
  rw [Value.unhashable?_disclosed, ← Entries.insert_disclosed]
  cases key.unhashable? <;> rfl

theorem access_disclosed (isPrivate : ∀ name, hidden name = true → isPrivateName name = true)
    (expression : String) (base key : Value) :
    access engine expression (base.disclosed hidden) (key.disclosed hidden) =
      disclosedOutcome hidden (Value.disclosed hidden) (access engine expression base key) := by
  unfold access
  rw [Value.access?_disclosed isPrivate, Value.display_disclosed]
  rcases base.access? key with failure | _ | found
  · rfl
  · rcases shown : key.display with failure | detail
    · exact congrArg Except.error (failsPlainly_display key failure shown).symm
    · exact (undefined_disclosed engine expression detail).symm
  · rfl

end Evaluate

@[simp] theorem Engine.insertedText_disclosed (value : Value) :
    Engine.insertedText (value.disclosed hidden) = Engine.insertedText value := by
  cases value with
  | none => rfl
  | _ => exact @Value.display_disclosed hidden _

end DeferredText
