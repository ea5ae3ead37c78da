import DeferredText.Proofs.Upkeep

/-!
Contract: groups of helpers, at every level of their names.

A name that is not registered stands for the helpers below it: those whose names go on with a dot
after it. They are listed by the rest of their names, in the order of the registry, and a group
inside of a group lists what the outer one lists below its name. Where a name goes on without a
dot, it is no member.

Owns: the members of a group, and the laws of look-ups in the registry of any session.

Does not own: which helpers are registered (`Proofs.Ledger`).
-/

namespace DeferredText

/-! ### Names below a name -/

namespace Registry

/-- The name of a member of a group. -/
def below
    (group : String)
    (rest : String) : String :=
  group ++ "." ++ rest

variable {group name rest : String}

theorem below_below (group name rest : String) :
    below (below group name) rest = below group (below name rest) := by
  simp only [below, String.append_assoc]

theorem below_injective (group : String) : Function.Injective (below group) := by
  intro first second same
  have characters := congrArg String.toList same
  simp only [below, String.toList_append] at characters
  exact String.toList_injective (List.append_cancel_left characters)

theorem memberName?_eq_some_iff : memberName? group name = some rest ↔ name = below group rest := by
  have dotted : (group ++ ".").toList = group.toList ++ ['.'] := by simp
  unfold memberName?
  dsimp only
  constructor
  · intro isRest
    split at isRest
    · rename_i starts
      obtain ⟨characters, split⟩ := List.isPrefixOf_iff_prefix.mp starts
      cases isRest
      apply String.toList_injective
      rw [below, String.toList_append, dotted, ← split, List.drop_left, String.toList_ofList]
    · cases isRest
  · rintro rfl
    have split : (below group rest).toList = group.toList ++ ['.'] ++ rest.toList := by
      rw [below, String.toList_append, dotted]
    rw [split, if_pos (List.isPrefixOf_iff_prefix.mpr (List.prefix_append _ _)), List.drop_left,
      String.ofList_toList]

/-- The names below a group are those that start with it and a dot. -/
theorem startsWithText_iff :
    startsWithText (group ++ ".") name = true ↔ ∃ rest, name = below group rest := by
  rw [startsWithText, List.isPrefixOf_iff_prefix]
  constructor
  · rintro ⟨characters, split⟩
    refine ⟨String.ofList characters, String.toList_injective ?_⟩
    rw [below, String.toList_append, String.toList_ofList, split]
  · rintro ⟨rest, rfl⟩
    exact ⟨rest.toList, (String.toList_append ..).symm⟩

/-! ### Members -/

variable {registry : Registry} {history : List Change}

/-- What a group has under the rest of a name is what is registered under the whole name. -/
theorem get?_members (registry : Registry) (group rest : String) :
    Table.get? (registry.members group) rest = registry.callable? (below group rest) := by
  unfold members Registry.callable?
  induction registry.callables with
  | nil => rfl
  | cons row others inductionHypothesis =>
      rw [Table.get?_cons, List.filterMap_cons]
      cases isMember : memberName? group row.1 with
      | none =>
          have differs : row.1 ≠ below group rest := fun isBelow => by
            rw [memberName?_eq_some_iff.mpr isBelow] at isMember
            cases isMember
          rw [if_neg differs]
          exact inductionHypothesis
      | some found =>
          have isBelow := memberName?_eq_some_iff.mp isMember
          rw [Option.map_some, Table.get?_cons, isBelow]
          dsimp only
          by_cases isRest : found = rest
          · rw [if_pos isRest, if_pos (congrArg _ isRest)]
          · rw [if_neg isRest, if_neg fun same => isRest (below_injective group same)]
            exact inductionHypothesis

/-- The members of a group are listed in the order of the names. -/
theorem names_members (registry : Registry) (group : String) :
    (Table.names (registry.members group)).map (below group) =
      registry.callables.names.filter (startsWithText (group ++ ".")) := by
  unfold members
  induction registry.callables with
  | nil => rfl
  | cons row others inductionHypothesis =>
      rw [List.filterMap_cons, Table.names_cons]
      cases isMember : memberName? group row.1 with
      | none =>
          have outside : ¬ startsWithText (group ++ ".") row.1 = true := fun starts => by
            obtain ⟨rest, isBelow⟩ := startsWithText_iff.mp starts
            rw [memberName?_eq_some_iff.mpr isBelow] at isMember
            cases isMember
          rw [List.filter_cons_of_neg outside]
          exact inductionHypothesis
      | some found =>
          have isBelow := memberName?_eq_some_iff.mp isMember
          rw [List.filter_cons_of_pos (startsWithText_iff.mpr ⟨found, isBelow⟩), Option.map_some,
            Table.names_cons, List.map_cons, isBelow]
          exact congrArg _ inductionHypothesis

/-! ### Look-ups -/

/-- What looking up a name gives, for every name of a registry. -/
structure Grouped (registry : Registry) : Prop where
  helper : ∀ name entry, registry.find? name = some entry →
    Cache.lookup registry (.text name) = .ok (.callable entry.callable)
  nothing : ∀ name, name ∉ registry.names → (∀ rest, below name rest ∉ registry.names) →
    Cache.lookup registry (.text name) = .ok .nothing
  group : ∀ name, name ∉ registry.names → (∃ rest, below name rest ∈ registry.names) →
    ∃ members : Table Callable, Cache.lookup registry (.text name) = .ok (.group members) ∧
      members.names.Nodup ∧
      members.names.map (below name) =
        registry.names.filter (startsWithText (name ++ ".")) ∧
      (∀ rest, rest ∈ members.names ↔ below name rest ∈ registry.names) ∧
      ∀ rest callable, members.get? rest = some callable ↔
        Cache.lookup registry (.text (below name rest)) = .ok (.callable callable)
  deeper : ∀ outer inner, outer ∉ registry.names → below outer inner ∉ registry.names →
    (∃ rest, below (below outer inner) rest ∈ registry.names) →
      ∃ wide narrow : Table Callable,
        Cache.lookup registry (.text outer) = .ok (.group wide) ∧
        Cache.lookup registry (.text (below outer inner)) = .ok (.group narrow) ∧
        ∀ rest, narrow.get? rest = wide.get? (below inner rest)
  apart : ∀ name tail (members : Table Callable), startsWithText "." tail = false →
    Cache.lookup registry (.text name) = .ok (.group members) →
      ∀ rest ∈ members.names, below name rest ≠ name ++ tail

/-- What is registered under a name is found there, and nothing else. -/
theorem lookup_eq_callable_iff (registry : Registry) (name : String) (callable : Callable) :
    Cache.lookup registry (.text name) = .ok (.callable callable) ↔
      registry.callable? name = some callable := by
  unfold Cache.lookup lookup
  dsimp only
  cases registry.callable? name with
  | some found => simp
  | none => cases registry.members name <;> simp

/-- Where nothing is registered under a name itself, the members below it are found. -/
theorem lookup_of_unregistered (absent : registry.callable? name = none) :
    Cache.lookup registry (.text name) =
      if registry.members name = [] then .ok .nothing
      else .ok (.group (registry.members name)) := by
  unfold Cache.lookup lookup
  dsimp only
  rw [absent]
  cases registry.members name <;> rfl

section Tracked

variable (tracks : registry.Tracks history)

include tracks

/-- Both tables of a registry have the same names. -/
theorem Tracks.names_callables : registry.callables.names = registry.names := by
  rw [tracks.twins, Table.names, List.map_map]
  rfl

theorem Tracks.callable?_eq_none_iff : registry.callable? name = none ↔ name ∉ registry.names := by
  rw [← tracks.names_callables, Table.mem_names_iff, Bool.not_eq_true, Option.isSome_eq_false_iff,
    Option.isNone_iff_eq_none]
  rfl

theorem Tracks.mem_members_iff :
    rest ∈ Table.names (registry.members group) ↔ below group rest ∈ registry.names := by
  rw [Table.mem_names_iff, get?_members, ← tracks.names_callables, Table.mem_names_iff]
  rfl

theorem Tracks.names_members : (Table.names (registry.members group)).map (below group) =
    registry.names.filter (startsWithText (group ++ ".")) := by
  rw [Registry.names_members, tracks.names_callables]

theorem Tracks.nodup_members : (Table.names (registry.members group)).Nodup := by
  have distinct : ((Table.names (registry.members group)).map (below group)).Nodup := by
    rw [tracks.names_members]
    exact tracks.distinct.filter _
  exact distinct.of_map _

/-- A name with something below it stands for its members. -/
theorem Tracks.lookup_group (absent : name ∉ registry.names)
    (present : ∃ rest, below name rest ∈ registry.names) :
    Cache.lookup registry (.text name) = .ok (.group (registry.members name)) := by
  obtain ⟨rest, isName⟩ := present
  rw [lookup_of_unregistered (tracks.callable?_eq_none_iff.mpr absent), if_neg]
  intro empty
  have member := tracks.mem_members_iff.mpr isName
  rw [empty] at member
  cases member

theorem Tracks.grouped : registry.Grouped where
  helper := fun name entry isEntry => by
    rw [lookup_eq_callable_iff, tracks.callable?, ← tracks.found, isEntry, Option.map_some]
  nothing := fun name absent alone => by
    rw [lookup_of_unregistered (tracks.callable?_eq_none_iff.mpr absent), if_pos]
    rw [List.eq_nil_iff_forall_not_mem]
    intro member among
    have listed : member.1 ∈ Table.names (registry.members name) := List.mem_map_of_mem among
    exact alone member.1 (tracks.mem_members_iff.mp listed)
  group := fun name absent present => by
    refine ⟨registry.members name, tracks.lookup_group absent present, tracks.nodup_members,
      tracks.names_members, fun rest => tracks.mem_members_iff, fun rest callable => ?_⟩
    rw [get?_members, lookup_eq_callable_iff]
  deeper := fun outer inner absent absentBelow present => by
    have presentOutside : ∃ rest, below outer rest ∈ registry.names := by
      obtain ⟨rest, isName⟩ := present
      exact ⟨below inner rest, below_below outer inner rest ▸ isName⟩
    refine ⟨_, _, tracks.lookup_group absent presentOutside,
      tracks.lookup_group absentBelow present, fun rest => ?_⟩
    rw [get?_members, get?_members, below_below]
  apart := fun name tail members undotted _ rest _ same => by
    have tails : (".": String) ++ rest = tail := by
      have characters := congrArg String.toList same
      simp only [below, String.toList_append, List.append_assoc] at characters
      apply String.toList_injective
      rw [String.toList_append]
      exact List.append_cancel_left characters
    rw [← tails, startsWithText, String.toList_append] at undotted
    simp at undotted

end Tracked

end Registry

/-- In the registry of any session, look-ups agree with each other at every level. A registered
name gives its helper; another one gives the helpers below it, by the rest of their names and in
the order of the registry, or nothing if there are none. A group inside of a group gives what the
outer one has below its name, and a name that goes on without a dot is in no group. -/
theorem lookup_grouped (limits : Limits) (shape : PlaceholderShape) (strict warnsOnOverride : Bool)
    (commands : List Session.Command) (log : Option LogSettings) :
    ∃ history,
      (Session.attend limits shape strict warnsOnOverride commands
        log).2.state.registry.Tracks history ∧
      (Session.attend limits shape strict warnsOnOverride commands
        log).2.state.registry.Grouped := by
  obtain ⟨history, tracks⟩ :=
    Session.tracks_attend limits shape strict warnsOnOverride commands log
  exact ⟨history, tracks, tracks.grouped⟩

namespace Sample

/-- Names at three levels, registered in two ways, one of which is removed again; another one only
begins like a group. -/
def grouping : List Session.Command :=
  [.register false (.text "g.b") (.callable prompt),
    .register true (.text "g.c.d") (.callable prompt),
    .shortForm false (.plain (.text "gone")) (.callable prompt),
    .shortForm false (.plain (.text "g.c.e")) (.callable prompt),
    .register false (.text "g.a") (.callable prompt),
    .unregister (.text "g.a")]

def groupedRegistry : Registry :=
  (Session.attend ⟨3, 10⟩ .standard false true grouping none).2.state.registry

/-- The group has a member two levels below it and none that only begins like it, and the group
inside of it has what it has itself below the name. -/
theorem lookup_grouping :
    (∃ members : Table Callable,
      Cache.lookup groupedRegistry (.text "g") = .ok (.group members) ∧
        members.names.map (Registry.below "g") = ["g.b", "g.c.d", "g.c.e"]) ∧
    ∃ wide narrow : Table Callable,
      Cache.lookup groupedRegistry (.text "g") = .ok (.group wide) ∧
      Cache.lookup groupedRegistry (.text "g.c") = .ok (.group narrow) ∧
      ∀ rest, narrow.get? rest = wide.get? (Registry.below "c" rest) := by
  have names : groupedRegistry.names = ["g.b", "g.c.d", "gone", "g.c.e"] := by decide +kernel
  obtain ⟨_, -, grouped⟩ : ∃ history, groupedRegistry.Tracks history ∧ groupedRegistry.Grouped :=
    lookup_grouped ⟨3, 10⟩ .standard false true grouping none
  obtain ⟨members, isGroup, -, order, -, -⟩ :=
    grouped.group "g" (by rw [names]; decide) ⟨"b", by rw [names]; decide⟩
  rw [names] at order
  refine ⟨⟨members, isGroup, order.trans (by decide)⟩, ?_⟩
  exact grouped.deeper "g" "c" (by rw [names]; decide) (by rw [names]; decide)
    ⟨"d", by rw [names]; decide⟩

end Sample

end DeferredText
