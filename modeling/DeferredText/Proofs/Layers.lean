import DeferredText.Config.Merge
import DeferredText.Proofs.Places
import DeferredText.Proofs.Sameness

/-!
Contract: what a mapping leads to once another one was laid over it.

A path of keys leads through nested mappings to a value. The merge of two mappings leads to a
leaf exactly where the upper mapping does, and where the lower one does and the upper one leaves
the path open. Laying the upper mapping over the merge once more changes nothing.

Owns: lookups after `Entries.insert` and `Entries.merge`, general paths, and open paths.

Does not own: completion with a standard (`Proofs.Places`) and equality of keys
(`Proofs.Sameness`).
-/

namespace DeferredText

/-! ### Lookups -/

namespace Entries

variable {entries : Entries} {key other value : Value}

theorem get?_cons (entry : Value × Value) (rest : Entries) (key : Value) :
    get? (entry :: rest) key = if key.same entry.1 then some entry.2 else get? rest key := by
  unfold get?
  cases isKey : key.same entry.1 <;> simp [isKey]

/-- Keys that are the same find the same. -/
theorem get?_congr (isSame : other.same key = true) (entries : Entries) :
    entries.get? other = entries.get? key :=
  congrArg (fun test => (List.find? test entries).map Prod.snd)
    (funext fun entry => Value.same_congr other key isSame entry.1)

theorem get?_insert (entries : Entries) (key value other : Value) :
    (entries.insert key value).get? other =
      if other.same key then some value else entries.get? other := by
  induction entries with
  | nil => exact get?_cons (key, value) [] other
  | cons entry rest inductionHypothesis =>
      rw [insert]
      by_cases isKey : key.same entry.1 = true
      · rw [if_pos isKey, get?_cons, get?_cons]
        dsimp only
        by_cases isOther : other.same key = true
        · rw [if_pos isOther, if_pos (Value.same_trans isOther isKey)]
        · have differs : other.same entry.1 ≠ true := fun isSame =>
            isOther (Value.same_trans isSame (by rwa [Value.same_comm]))
          rw [if_neg isOther, if_neg differs, if_neg differs]
      · rw [if_neg isKey, get?_cons, get?_cons, inductionHypothesis]
        by_cases isOther : other.same key = true
        · rw [if_pos isOther, if_pos isOther, Value.same_congr other key isOther, if_neg isKey]
        · rw [if_neg isOther, if_neg isOther]

/-- Setting what is there already changes nothing. -/
theorem insert_of_get? (found : entries.get? key = some value) :
    entries.insert key value = entries := by
  induction entries with
  | nil => cases found
  | cons entry rest inductionHypothesis =>
      rw [get?_cons] at found
      rw [insert]
      by_cases isKey : key.same entry.1 = true
      · rw [if_pos isKey] at found ⊢
        cases found
        rfl
      · rw [if_neg isKey] at found ⊢
        rw [inductionHypothesis found]

theorem mem_of_get? (found : entries.get? key = some value) :
    ∃ stored, key.same stored = true ∧ (stored, value) ∈ entries := by
  obtain ⟨entry, isFirst, rfl⟩ := Option.map_eq_some_iff.mp found
  have isKey := List.find?_some isFirst
  exact ⟨entry.1, isKey, List.mem_of_find?_eq_some isFirst⟩

/-- Where keys differ, the first entry is not found further on. -/
theorem get?_rest {entry : Value × Value} {rest : Entries}
    (differs : ∀ later ∈ rest, later.1.same entry.1 = false) : get? rest entry.1 = none := by
  cases found : get? rest entry.1 with
  | none => rfl
  | some value =>
      obtain ⟨stored, isSame, member⟩ := mem_of_get? found
      rw [Value.same_comm, differs _ member] at isSame
      cases isSame

/-- What a merge has under a key: what the upper mapping has there, laid over what the lower one
has. -/
theorem get?_merge {override : Entries} (distinct : override.Distinct) :
    ∀ (base : Entries) (key : Value), get? (merge base override) key =
      match override.get? key with
      | some value => some (overlay (get? base key) value)
      | none => get? base key := by
  induction override with
  | nil => intro base key; rfl
  | cons entry rest inductionHypothesis =>
      intro base key
      obtain ⟨differs, restDistinct⟩ := List.pairwise_cons.mp distinct
      rw [merge, inductionHypothesis restDistinct, get?_insert, get?_cons]
      by_cases isKey : key.same entry.1 = true
      · rw [if_pos isKey, if_pos isKey, get?_congr isKey rest, get?_rest differs,
          get?_congr isKey base]
      · rw [if_neg isKey, if_neg isKey]

end Entries

/-! ### Paths of keys -/

namespace Value

/-- What a value leads to along a path of keys. -/
def along? (value : Value) : List Value → Option Value
  | [] => some value
  | key :: rest =>
      (value.dict?.bind fun entries => Entries.get? entries key).bind fun inner =>
        inner.along? rest

/-- A value has nothing at a path, and nothing but mappings on the way there. -/
structure Open (value : Value) (path : List Value) : Prop where
  unbound : value.along? path = Option.none
  mappings : ∀ front bound, front <+: path → front ≠ path → value.along? front = some bound →
    ∃ entries, bound = .dict entries

variable {value inner : Value} {entries : Entries} {key : Value} {path rest : List Value}

/-- A leaf leads nowhere but to itself. -/
theorem along?_leaf (isLeaf : value.dict? = Option.none)
    (reached : value.along? path = some inner) : path = [] := by
  cases path with
  | nil => rfl
  | cons key rest =>
      rw [along?, isLeaf] at reached
      cases reached

theorem along?_dict (entries : Entries) (key : Value) (rest : List Value) :
    (Value.dict entries).along? (key :: rest) =
      (entries.get? key).bind fun inner => inner.along? rest :=
  rfl

theorem along?_found (found : entries.get? key = some inner) (rest : List Value) :
    (Value.dict entries).along? (key :: rest) = inner.along? rest := by
  rw [along?_dict, found, Option.bind_some]

theorem along?_missing (missing : entries.get? key = Option.none) (rest : List Value) :
    (Value.dict entries).along? (key :: rest) = Option.none := by
  rw [along?_dict, missing, Option.bind_none]

theorem not_open_nil (value : Value) : ¬ value.Open [] :=
  fun isOpen => nomatch isOpen.unbound

/-- A leaf closes every path. -/
theorem not_open_leaf (isLeaf : value.dict? = Option.none) (path : List Value) :
    ¬ value.Open path := by
  intro isOpen
  cases path with
  | nil => exact not_open_nil value isOpen
  | cons key rest =>
      obtain ⟨entries, rfl⟩ :=
        isOpen.mappings [] value List.nil_prefix (List.cons_ne_nil key rest).symm rfl
      cases isLeaf

/-- A missing key leaves every path open that begins with it. -/
theorem open_missing (missing : entries.get? key = Option.none) (rest : List Value) :
    (Value.dict entries).Open (key :: rest) where
  unbound := along?_missing missing rest
  mappings := by
    intro front bound inFront _ reached
    cases front with
    | nil => exact ⟨entries, (Option.some.inj reached).symm⟩
    | cons first further =>
        obtain ⟨rfl, _⟩ := List.cons_prefix_cons.mp inFront
        rw [along?_missing missing] at reached
        cases reached

/-- A path is open as far as what is found under its first key leaves the rest of it open. -/
theorem open_found (found : entries.get? key = some inner) :
    (Value.dict entries).Open (key :: rest) ↔ inner.Open rest := by
  constructor
  · intro isOpen
    refine ⟨(along?_found found rest).symm.trans isOpen.unbound, ?_⟩
    intro front bound inFront proper reached
    refine isOpen.mappings (key :: front) bound (List.cons_prefix_cons.mpr ⟨rfl, inFront⟩) ?_
      ((along?_found found front).trans reached)
    exact fun whole => proper (List.cons.inj whole).2
  · intro isOpen
    refine ⟨(along?_found found rest).trans isOpen.unbound, ?_⟩
    intro front bound inFront proper reached
    cases front with
    | nil => exact ⟨entries, (Option.some.inj reached).symm⟩
    | cons first further =>
        obtain ⟨rfl, within⟩ := List.cons_prefix_cons.mp inFront
        rw [along?_found found] at reached
        exact isOpen.mappings further bound within (fun whole => proper (by rw [whole])) reached

end Value

/-! ### What a merge leads to -/

namespace Entries

/-- Only a mapping is merged with what was there; anything else replaces it. -/
theorem overlay_of_leaf {value : Value} (isLeaf : value.dict? = none) (current : Option Value) :
    overlay current value = value := by
  cases value <;> first | rfl | cases isLeaf

/-- A mapping replaces what is no mapping. -/
theorem overlay_of_no_mapping {current : Option Value}
    (noMapping : current.bind Value.dict? = none) (override : Entries) :
    overlay current (.dict override) = .dict override := by
  cases current with
  | none => rfl
  | some below => cases below <;> first | rfl | cases noMapping

/-- A mapping laid over anything gives a mapping, so a leaf is only given by itself. -/
theorem overlay_eq_leaf_iff {value leaf : Value} (isLeaf : leaf.dict? = none)
    (current : Option Value) : overlay current value = leaf ↔ value = leaf := by
  cases isMapping : value.dict? with
  | none => rw [overlay_of_leaf isMapping]
  | some override =>
      cases Value.dict?_eq_some_iff.mp isMapping
      have differs (merged : Entries) : Value.dict merged ≠ leaf := by
        rintro rfl
        cases isLeaf
      cases isBase : current.bind Value.dict? with
      | none => rw [overlay_of_no_mapping isBase]
      | some base =>
          obtain ⟨below, rfl, isBelow⟩ := Option.bind_eq_some_iff.mp isBase
          cases Value.dict?_eq_some_iff.mp isBelow
          exact iff_of_false (differs _) (differs _)

/-- One step into a merge: to what the two mappings have under a key of the upper one, laid over
each other, and else into the lower one. -/
theorem along?_merge_cons {override : Entries} (distinct : override.Distinct) (base : Entries)
    (key : Value) (rest : List Value) :
    (Value.dict (base.merge override)).along? (key :: rest) =
      match override.get? key with
      | some upper => (overlay (base.get? key) upper).along? rest
      | none => (Value.dict base).along? (key :: rest) := by
  rw [Value.along?_dict, get?_merge distinct]
  cases override.get? key <;> rfl

/-- What a value laid over another one leads to. The induction is on the path, and goes on with
what the two mappings have under its first key, where a mapping may meet a leaf on either side. -/
theorem along?_overlay_iff {leaf : Value} (isLeaf : leaf.dict? = none) {path : List Value} :
    ∀ (current : Option Value) {value : Value}, value.isKeyed = true →
      ((overlay current value).along? path = some leaf ↔
        value.along? path = some leaf ∨
          current.bind (fun below => below.along? path) = some leaf ∧ value.Open path) := by
  induction path with
  | nil =>
      intro current value _
      simp only [Value.along?, Option.some.injEq, overlay_eq_leaf_iff isLeaf]
      exact (or_iff_left fun both => Value.not_open_nil value both.2).symm
  | cons key rest inductionHypothesis =>
      intro current value keyed
      cases isMapping : value.dict? with
      | none =>
          -- An upper leaf takes the place of all that was there.
          rw [overlay_of_leaf isMapping]
          exact (or_iff_left fun both => Value.not_open_leaf isMapping _ both.2).symm
      | some override =>
          cases Value.dict?_eq_some_iff.mp isMapping
          rw [Value.isKeyed, Bool.and_eq_true, decide_eq_true_eq] at keyed
          cases isBase : current.bind Value.dict? with
          | none =>
              -- What was there is no mapping, and leads nowhere along this path.
              rw [overlay_of_no_mapping isBase]
              refine (or_iff_left ?_).symm
              rintro ⟨reached, _⟩
              obtain ⟨below, rfl, reached⟩ := Option.bind_eq_some_iff.mp reached
              cases Value.along?_leaf isBase reached
          | some base =>
              obtain ⟨below, rfl, isBelow⟩ := Option.bind_eq_some_iff.mp isBase
              cases Value.dict?_eq_some_iff.mp isBelow
              rw [overlay, Option.bind_some, along?_merge_cons keyed.1]
              cases found : get? override key with
              | none =>
                  rw [Value.along?_missing found]
                  exact ⟨fun reached => .inr ⟨reached, Value.open_missing found rest⟩,
                    fun either => (either.resolve_left nofun).1⟩
              | some upper =>
                  obtain ⟨_, _, member⟩ := mem_of_get? found
                  have upperKeyed : upper.isKeyed = true := Value.isKeyed_of_mem keyed.2 member
                  rw [Value.along?_found found, Value.open_found found, Value.along?_dict]
                  exact inductionHypothesis (get? base key) upperKeyed

/-! ### Merging once more -/

theorem overlay_none (value : Value) : overlay none value = value := by
  cases value <;> rfl

/-- Where keys differ, an entry is what is found under its key. -/
theorem get?_of_mem {entries : Entries} (distinct : entries.Distinct) {entry : Value × Value}
    (member : entry ∈ entries) : entries.get? entry.1 = some entry.2 := by
  induction entries with
  | nil => cases member
  | cons first rest inductionHypothesis =>
      obtain ⟨differs, restDistinct⟩ := List.pairwise_cons.mp distinct
      rw [get?_cons]
      rcases List.mem_cons.mp member with rfl | further
      · rw [if_pos (Value.same_self entry.1)]
      · rw [differs entry further, if_neg Bool.false_ne_true]
        exact inductionHypothesis restDistinct further

/-- A mapping with which every entry of another one agrees already is unchanged by it. -/
theorem merge_of_settled {override base : Entries}
    (settled : ∀ entry ∈ override, ∃ value, base.get? entry.1 = some value ∧
      overlay (some value) entry.2 = value) : base.merge override = base := by
  induction override with
  | nil => rfl
  | cons entry rest inductionHypothesis =>
      obtain ⟨value, found, stays⟩ := settled entry List.mem_cons_self
      rw [merge, found, stays, insert_of_get? found]
      exact inductionHypothesis fun later member => settled later (List.mem_cons_of_mem _ member)

/-- A mapping whose values may be laid over their results once more may be so itself. -/
theorem merge_merge {override : Entries} (distinct : override.Distinct)
    (settled : ∀ entry ∈ override, ∀ current,
      overlay (some (overlay current entry.2)) entry.2 = overlay current entry.2)
    (base : Entries) : (base.merge override).merge override = base.merge override := by
  refine merge_of_settled fun entry member =>
    ⟨overlay (base.get? entry.1) entry.2, ?_, settled entry member _⟩
  rw [get?_merge distinct, get?_of_mem distinct member]

mutual

/-- Laying a value once more over the result changes nothing. -/
theorem overlay_overlay : ∀ value : Value, value.isKeyed = true → ∀ current : Option Value,
    overlay (some (overlay current value)) value = overlay current value
  | .dict override, keyed, current => by
      rw [Value.isKeyed, Bool.and_eq_true, decide_eq_true_eq] at keyed
      have settled := overlay_overlay_entries override keyed.2
      cases isBase : current.bind Value.dict? with
      | some base =>
          obtain ⟨below, rfl, isBelow⟩ := Option.bind_eq_some_iff.mp isBase
          cases Value.dict?_eq_some_iff.mp isBelow
          exact congrArg Value.dict (merge_merge keyed.1 settled base)
      | none =>
          rw [overlay_of_no_mapping isBase]
          refine congrArg Value.dict (merge_of_settled fun entry member =>
            ⟨entry.2, get?_of_mem keyed.1 member, ?_⟩)
          have again := settled entry member none
          rwa [overlay_none] at again
  | .none, _, _ | .bool _, _, _ | .int _, _, _ | .float _, _, _ | .complex _ _, _, _
  | .text _, _, _ | .bytes _, _, _ | .ellipsis, _, _ | .list _, _, _ | .tuple _, _, _
  | .object _ _, _, _ | .exception _ _, _, _ | .opaqueOf _, _, _ => rfl

theorem overlay_overlay_entries : ∀ override : List (Value × Value),
    Value.areKeyed override = true → ∀ entry ∈ override, ∀ current : Option Value,
      overlay (some (overlay current entry.2)) entry.2 = overlay current entry.2
  | [], _, _, member => nomatch member
  | (key, value) :: rest, keyed, entry, member => by
      rw [Value.areKeyed, Bool.and_eq_true] at keyed
      rcases List.mem_cons.mp member with rfl | further
      · exact overlay_overlay value keyed.1
      · exact overlay_overlay_entries rest keyed.2 entry further

end

end Entries

/-! ### The path law -/

/-- A merge of nested mappings follows the upper one wherever that leads to a leaf, and the lower
one wherever it leads to a leaf along a path that the upper one leaves open; it leads to no other
leaf, and merging the upper mapping a second time changes nothing. -/
theorem merge_follows_paths (base : Entries) {override : Entries}
    (keyed : (Value.dict override).isKeyed = true) :
    (∀ path leaf, leaf.dict? = none →
      ((Value.dict (base.merge override)).along? path = some leaf ↔
        (Value.dict override).along? path = some leaf ∨
          (Value.dict base).along? path = some leaf ∧ (Value.dict override).Open path)) ∧
    (base.merge override).merge override = base.merge override := by
  constructor
  · intro path leaf isLeaf
    exact Entries.along?_overlay_iff isLeaf (some (.dict base)) keyed
  · have again := Entries.overlay_overlay (.dict override) keyed (some (.dict base))
    exact Value.dict.inj again

namespace Sample

/-- A mapping whose second key leads to a mapping, and its last one to a number. -/
def lowerLayer : Entries :=
  [(.text "level", .text "info"), (.text "options", .dict [(.int 1, .bool true),
    (.text "width", .int 80)]), (.text "limit", .int 3)]

/-- A mapping that changes an inner entry under a key that counts as the same, and puts a mapping
in the place of a number. -/
def upperLayer : Entries :=
  [(.text "options", .dict [(.bool true, .none)]), (.text "limit", .dict [(.text "soft", .int 2)])]

theorem merge_layers :
    (Value.dict upperLayer).isKeyed = true ∧
    (∀ path leaf, leaf.dict? = none →
      ((Value.dict (lowerLayer.merge upperLayer)).along? path = some leaf ↔
        (Value.dict upperLayer).along? path = some leaf ∨
          (Value.dict lowerLayer).along? path = some leaf ∧ (Value.dict upperLayer).Open path)) ∧
    (lowerLayer.merge upperLayer).merge upperLayer = lowerLayer.merge upperLayer ∧
    lowerLayer.merge upperLayer =
      [(.text "level", .text "info"), (.text "options", .dict [(.int 1, .none),
        (.text "width", .int 80)]), (.text "limit", .dict [(.text "soft", .int 2)])] := by
  have keyed : (Value.dict upperLayer).isKeyed = true := by decide +kernel
  obtain ⟨paths, again⟩ := merge_follows_paths lowerLayer keyed
  exact ⟨keyed, paths, again, by rfl⟩

end Sample

end DeferredText
