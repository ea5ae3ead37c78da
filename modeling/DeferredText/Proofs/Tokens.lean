import DeferredText.Placeholder.Supply
import DeferredText.Proofs.Fragments
import Mathlib.Data.List.Chain
import Mathlib.Data.List.Range

/-!
Contract: tokens of the standard shape in text without doubled underscores.

A standard token begins with two underscores, and has underscores at fixed places. The
text between tokens has no two underscores in a row, so an occurrence of a token can
only start where a token was put.

Owns: texts without doubled underscores, standard tokens, and where tokens occur in a
text of fragments.

Does not own: which tokens there are (`Placeholder.Supply`).
-/

namespace DeferredText

/-- Of two neighbouring letters, at most one is an underscore. -/
def Unpaired (letter next : Char) : Prop :=
  letter = '_' → next ≠ '_'

instance : DecidableRel Unpaired :=
  fun letter next => inferInstanceAs (Decidable (letter = '_' → next ≠ '_'))

/-- A text without two underscores in a row, and without one at its end. -/
def IsPlain (text : String) : Prop :=
  text.toList.IsChain Unpaired ∧ text.toList.getLast? ≠ some '_'

instance (text : String) : Decidable (IsPlain text) :=
  inferInstanceAs (Decidable (_ ∧ _))

theorem isPlain_of_notMem {text : String} (absent : '_' ∉ text.toList) : IsPlain text := by
  constructor
  · refine List.Pairwise.isChain (List.pairwise_of_forall_mem_list ?_)
    rintro letter member next - rfl
    exact absurd member absent
  · intro last
    exact absent (List.mem_of_getLast? last)

theorem isPlain_empty : IsPlain "" := by
  decide

theorem isPlain_append {left right : String} (first : IsPlain left) (second : IsPlain right) :
    IsPlain (left ++ right) := by
  rw [IsPlain, String.toList_append]
  constructor
  · refine first.1.append second.1 ?_
    rintro letter last next - rfl
    exact absurd last first.2
  · rw [List.getLast?_append]
    cases ended : right.toList.getLast? with
    | none => exact first.2
    | some letter =>
        rw [Option.some_or, ← ended]
        exact second.2

/-- The standard opening and closing, with so many letters between them as settings may
ask for. -/
structure PlaceholderShape.IsStandard (shape : PlaceholderShape) : Prop where
  opening : shape.opening = standard.opening
  closing : shape.closing = standard.closing
  length : leastLength ≤ shape.length

theorem PlaceholderShape.isStandard_standard : standard.IsStandard :=
  ⟨rfl, rfl, by decide⟩

theorem PlaceholderShape.leastLength_le {length : Value} {count : Nat}
    (longEnough : isTooShort length = .ok false) (sized : bodyLength length = .ok count) :
    leastLength ≤ count := by
  have whole : ∀ number : Int, ¬ number < leastLength →
      (if number < (lengthBound : Int) then Except.ok number.toNat else
        .error (.withMessage .overflow "the repetition number is too large") : Outcome Nat) =
          .ok count → leastLength ≤ count := by
    intro number long sized
    split at sized
    · obtain rfl := Except.ok.inj sized
      omega
    · cases sized
  cases length with
  | int number => exact whole number (by simpa [isTooShort, Value.int?] using longEnough) sized
  | bool truth =>
      exact whole (if truth then 1 else 0) (by simpa [isTooShort, Value.int?] using longEnough) sized
  | _ => cases sized

/-- What holds of settings that describe a shape. -/
theorem PlaceholderShape.ofSettings_cases {opening closing length : Value}
    {shape : PlaceholderShape} (accepted : ofSettings opening closing length = .ok shape) :
    isTooShort length = .ok false ∧
      affix "can't concat str to bytes" opening = .ok shape.opening ∧
      affix "can only concatenate str (not \"bytes\") to str" closing = .ok shape.closing ∧
      bodyLength length = .ok shape.length := by
  rw [ofSettings, Outcome.bind_eq_ok_iff] at accepted
  obtain ⟨tooShort, short, accepted⟩ := accepted
  cases tooShort with
  | true => cases shown : length.display <;> rw [shown] at accepted <;> cases accepted
  | false =>
      cases nonempty : opening.truthy with
      | false =>
          rw [nonempty] at accepted
          cases accepted
      | true =>
          rw [nonempty] at accepted
          obtain ⟨openingText, inFront, accepted⟩ := Outcome.bind_eq_ok_iff.mp accepted
          obtain ⟨_, -, accepted⟩ := Outcome.bind_eq_ok_iff.mp accepted
          obtain ⟨closingText, behind, accepted⟩ := Outcome.bind_eq_ok_iff.mp accepted
          obtain ⟨count, sized, accepted⟩ := Outcome.bind_eq_ok_iff.mp accepted
          cases accepted
          exact ⟨short, inFront, behind, sized⟩

/-- Every length that settings may ask for leads to a standard shape. -/
theorem PlaceholderShape.isStandard_ofSettings {length : Value} {shape : PlaceholderShape}
    (accepts : ofSettings (.text standard.opening) (.text standard.closing) length = .ok shape) :
    shape.IsStandard := by
  obtain ⟨short, inFront, behind, sized⟩ := ofSettings_cases accepts
  exact ⟨(Except.ok.inj inFront).symm, (Except.ok.inj behind).symm, leastLength_le short sized⟩

/-- A token of a standard shape. -/
def IsToken (token : String) : Prop :=
  ∃ body : List Char, PlaceholderShape.leastLength ≤ body.length ∧ '_' ∉ body ∧
    token.toList = PlaceholderShape.standard.token body

/-! ### Drawn tokens -/

theorem Supply.character_ne (supply : Supply) : supply.character ≠ '_' := by
  have plain : alphabet.contains '_' = false := by decide
  rw [Supply.character, List.getD_eq_getElem?_getD]
  cases drawn : alphabet[supply.state / Nat.pow 2 16 % alphabet.length]? with
  | none => decide
  | some letter =>
      rintro rfl
      have inside : alphabet.contains '_' = true :=
        List.contains_iff_mem.mpr (List.mem_of_getElem? drawn)
      rw [plain] at inside
      cases inside

theorem Supply.draw_plain (count : Nat) (supply : Supply) :
    (draw count supply).1.length = count ∧ '_' ∉ (draw count supply).1 := by
  induction count generalizing supply with
  | zero => exact ⟨rfl, List.not_mem_nil⟩
  | succ count inductionHypothesis =>
      obtain ⟨length, plain⟩ := inductionHypothesis supply.step
      rw [draw]
      refine ⟨congrArg (· + 1) length, ?_⟩
      rw [List.mem_cons, not_or]
      exact ⟨(supply.step.character_ne).symm, plain⟩

theorem Supply.isToken_token {shape : PlaceholderShape} (standard : shape.IsStandard)
    (supply : Supply) : IsToken (token shape supply).1 := by
  obtain ⟨length, plain⟩ := draw_plain shape.length supply
  refine ⟨_, length.symm ▸ standard.length, plain, ?_⟩
  rw [token, String.toList_ofList, PlaceholderShape.token, standard.opening, standard.closing]
  rfl

/-! ### The underscores of a text -/

/-- Where a text has underscores. -/
def marks (text : List Char) : List Bool :=
  text.map (· == '_')

/-- The underscores of a token with so many letters between its opening and its closing. -/
def tokenMarks (count : Nat) : List Bool :=
  marks PlaceholderShape.standard.opening.toList ++
    (.replicate count false ++ marks PlaceholderShape.standard.closing.toList)

/-- Of two neighbouring places, at most one has an underscore. -/
def Alone (place next : Bool) : Prop :=
  place = true → next ≠ true

instance : DecidableRel Alone :=
  fun place next => inferInstanceAs (Decidable (place = true → next ≠ true))

/-- The first two underscores in a row are those at the beginning of a token. -/
def Spaced (underscores : List Bool) : Prop :=
  ∀ before rest, underscores = before ++ true :: true :: rest →
    (before ++ [true]).IsChain Alone → ∃ more, rest = .replicate 5 false ++ true :: more

theorem marks_append (left right : List Char) : marks (left ++ right) = marks left ++ marks right :=
  List.map_append

theorem marks_plain {text : List Char} (plain : '_' ∉ text) :
    marks text = .replicate text.length false := by
  rw [marks, List.eq_replicate_iff, List.length_map]
  refine ⟨rfl, ?_⟩
  intro underscore member
  obtain ⟨letter, inside, rfl⟩ := List.mem_map.mp member
  rw [beq_eq_false_iff_ne]
  rintro rfl
  exact plain inside

theorem IsToken.marks {token : String} (isToken : IsToken token) :
    ∃ count, PlaceholderShape.leastLength ≤ count ∧ marks token.toList = tokenMarks count := by
  obtain ⟨body, length, plain, characters⟩ := isToken
  refine ⟨body.length, length, ?_⟩
  rw [characters, tokenMarks, PlaceholderShape.token, List.append_assoc, marks_append,
    marks_append, marks_plain plain]

theorem length_tokenMarks (count : Nat) : (tokenMarks count).length = count + 21 := by
  have opening : (marks PlaceholderShape.standard.opening.toList).length = 19 := by decide
  have closing : (marks PlaceholderShape.standard.closing.toList).length = 2 := by decide
  rw [tokenMarks, List.length_append, List.length_append, List.length_replicate, opening, closing]
  omega

/-- The places of the underscores of a token. -/
theorem getElem?_tokenMarks (count place : Nat) :
    (tokenMarks count)[place]? = some true ↔
      place ∈ [0, 1, 7, 14, 17, 18, count + 19, count + 20] := by
  have opening : (marks PlaceholderShape.standard.opening.toList).length = 19 := by decide
  have closing : marks PlaceholderShape.standard.closing.toList = [true, true] := by decide
  have early : ∀ place < 19, (marks PlaceholderShape.standard.opening.toList)[place]? = some true ↔
      place ∈ [0, 1, 7, 14, 17, 18] := by decide
  rw [tokenMarks, closing]
  simp only [List.mem_cons, List.not_mem_nil, or_false] at early ⊢
  by_cases atOpening : place < 19
  · rw [List.getElem?_append_left (by omega), early place atOpening]
    omega
  · rw [List.getElem?_append_right (by omega), opening]
    by_cases atBody : place - 19 < count
    · rw [List.getElem?_append_left (by rwa [List.length_replicate]), List.getElem?_replicate,
        if_pos atBody]
      simp only [Option.some.injEq, Bool.false_eq_true, false_iff]
      omega
    · rw [List.getElem?_append_right (by rwa [List.length_replicate, ← Nat.not_lt]),
        List.length_replicate]
      rcases (by omega : place - 19 - count = 0 ∨ place - 19 - count = 1 ∨
        2 ≤ place - 19 - count) with first | second | beyond
      · simp only [first, List.getElem?_cons_zero, true_iff]
        omega
      · simp only [second, List.getElem?_cons_succ, List.getElem?_cons_zero, true_iff]
        omega
      · rw [List.getElem?_eq_none beyond]
        simp only [reduceCtorEq, false_iff]
        omega

theorem IsToken.nonempty {token : String} (isToken : IsToken token) : token ≠ "" := by
  rintro rfl
  obtain ⟨count, -, same⟩ := isToken.marks
  have length := congrArg List.length same
  rw [length_tokenMarks] at length
  simp [DeferredText.marks] at length

/-- A standard token begins with two underscores in a row. -/
theorem IsToken.not_isPlain {token : String} (isToken : IsToken token) : ¬ IsPlain token := by
  obtain ⟨body, -, -, characters⟩ := isToken
  intro plain
  have chain := plain.1
  rw [characters] at chain
  have start : PlaceholderShape.standard.token body =
      '_' :: '_' :: (PlaceholderShape.standard.token body).drop 2 := rfl
  rw [start, List.isChain_cons_cons] at chain
  exact chain.1 rfl rfl

theorem IsPlain.alone {text : String} (plain : IsPlain text) :
    (marks text.toList).IsChain Alone ∧ (marks text.toList).getLast? ≠ some true := by
  constructor
  · refine List.isChain_map_of_isChain _ ?_ plain.1
    intro letter next apart isUnderscore
    simpa using apart (beq_iff_eq.mp isUnderscore)
  · intro ended
    rw [marks, List.getLast?_map, Option.map_eq_some_iff] at ended
    obtain ⟨letter, last, isUnderscore⟩ := ended
    rw [beq_iff_eq.mp isUnderscore] at last
    exact plain.2 last

theorem Spaced.plain {text : String} {underscores : List Bool} (plain : IsPlain text)
    (spaced : Spaced underscores) : Spaced (marks text.toList ++ underscores) := by
  obtain ⟨alone, unended⟩ := plain.alone
  intro before rest split first
  rcases List.append_eq_append_iff.mp split with ⟨inner, rfl, same⟩ | ⟨inner, within, same⟩
  · rw [List.append_assoc] at first
    exact spaced inner rest same first.right_of_append
  · rcases inner with _ | ⟨one, _ | ⟨two, more⟩⟩
    · exact spaced [] rest same.symm (by decide)
    · obtain ⟨rfl, -⟩ := List.cons.inj same
      rw [within] at unended
      simp at unended
    · simp only [List.cons_append, List.cons.injEq] at same
      obtain ⟨rfl, rfl, -⟩ := same
      rw [within] at alone
      simpa [Alone] using alone.right_of_append

theorem Spaced.token (count : Nat) (underscores : List Bool) :
    Spaced (tokenMarks count ++ underscores) := by
  intro before rest split first
  have parts : tokenMarks count ++ underscores = true :: true ::
      (.replicate 5 false ++ true :: ((tokenMarks count).drop 8 ++ underscores)) := rfl
  rw [parts] at split
  rcases before with _ | ⟨one, _ | ⟨two, more⟩⟩
  · simp only [List.nil_append, List.cons.injEq, true_and] at split
    exact ⟨_, split.symm⟩
  · simp only [List.cons_append, List.cons.injEq] at split
    obtain ⟨rfl, -⟩ := split
    simp [Alone] at first
  · simp only [List.cons_append, List.cons.injEq] at split
    obtain ⟨rfl, rfl, -⟩ := split
    simp [Alone] at first

section Places

variable {count other offset : Nat} {underscores : List Bool}

/-- Where a token starts inside of another one, each has the underscores of the other. -/
theorem getElem?_inside (starts : tokenMarks count <+: (tokenMarks other).drop offset ++ underscores)
    {place : Nat} (here : place < count + 21) (there : offset + place < other + 21) :
    (tokenMarks count)[place]? = (tokenMarks other)[offset + place]? := by
  obtain ⟨rest, starts⟩ := starts
  have same := congrArg (fun marks : List Bool => marks[place]?) starts
  rwa [List.getElem?_append_left (by rwa [length_tokenMarks]),
    List.getElem?_append_left (by rw [List.length_drop, length_tokenMarks]; omega),
    List.getElem?_drop] at same

/-- Tokens that start at the same place have the same length. -/
theorem tokenMarks_start (starts : tokenMarks count <+: tokenMarks other ++ underscores) :
    count = other := by
  have agrees := @getElem?_inside count other 0 underscores starts
  simp only [Nat.zero_add] at agrees
  rcases Nat.lt_trichotomy count other with shorter | same | longer
  · have mark := (getElem?_tokenMarks count (count + 19)).mpr (by simp)
    rw [agrees (by omega) (by omega), getElem?_tokenMarks] at mark
    simp at mark
    omega
  · exact same
  · have mark := (getElem?_tokenMarks other (other + 19)).mpr (by simp)
    rw [← agrees (by omega) (by omega), getElem?_tokenMarks] at mark
    simp at mark
    omega

/-- A token does not start inside of another. -/
theorem tokenMarks_offset (long : PlaceholderShape.leastLength ≤ count)
    (longer : PlaceholderShape.leastLength ≤ other) (positive : 0 < offset)
    (inside : offset < other + 21) (spaced : Spaced underscores) :
    ¬ tokenMarks count <+: (tokenMarks other).drop offset ++ underscores := by
  intro starts
  rw [PlaceholderShape.leastLength] at long longer
  have marked : ∀ place < count + 21, offset + place < other + 21 →
      place ∈ [0, 1, 7, 14, 17, 18, count + 19, count + 20] →
      offset + place ∈ [0, 1, 7, 14, 17, 18, other + 19, other + 20] := by
    intro place here there mark
    rwa [← getElem?_tokenMarks, ← getElem?_inside starts here there, getElem?_tokenMarks]
  simp only [List.mem_cons, List.not_mem_nil, or_false] at marked
  by_cases early : offset < other + 19
  · -- Both ends lie in the first token, whose underscores do not repeat at this distance.
    have first := marked 0 (by omega) (by omega) (by omega)
    have second := marked 1 (by omega) (by omega) (by omega)
    have third : offset + 7 < other + 21 → _ := fun there =>
      marked 7 (by omega) there (by omega)
    omega
  · -- The first token ends in two underscores. The next two in a row would be inside of the
    -- other token, but have to be the beginning of one.
    obtain ⟨rest, starts⟩ := starts
    obtain ⟨more, rfl⟩ : ∃ more, count = more + 6 := ⟨count - 6, by omega⟩
    have ends : (tokenMarks other).drop (other + 19) = [true, true] := by
      rw [tokenMarks, ← List.append_assoc]
      apply List.drop_left'
      rw [List.length_append, List.length_replicate, Nat.add_comm]
      rfl
    have ends' : (tokenMarks other).drop (other + 20) = [true] := by
      have split : (tokenMarks other).drop (other + 20) =
          ((tokenMarks other).drop (other + 19)).drop 1 := by
        rw [List.drop_drop]
      rw [split, ends]
      rfl
    rcases (by omega : offset = other + 19 ∨ offset = other + 20) with rfl | rfl
    · have parts : tokenMarks (more + 6) ++ rest =
          [true, true] ++ (((tokenMarks 0).drop 2).take 15 ++
          true :: true :: (.replicate 5 false ++ false :: ((tokenMarks more).drop 19 ++ rest))) :=
        rfl
      rw [ends] at starts
      obtain ⟨_, same⟩ := spaced _ _ (List.append_cancel_left (starts.symm.trans parts))
        (by decide)
      cases (List.cons.inj (List.append_cancel_left same)).1
    · have parts : tokenMarks (more + 6) ++ rest =
          [true] ++ (((tokenMarks 0).drop 1).take 16 ++
          true :: true :: (.replicate 5 false ++ false :: ((tokenMarks more).drop 19 ++ rest))) :=
        rfl
      rw [ends'] at starts
      obtain ⟨_, same⟩ := spaced _ _ (List.append_cancel_left (starts.symm.trans parts))
        (by decide)
      cases (List.cons.inj (List.append_cancel_left same)).1

end Places

section Starts

variable {token : String} {front inner behind rest : List Char}

/-- Where a token starts inside of another one, it is that one. -/
theorem starts_token (isToken : IsToken token) {other : String} (isOther : IsToken other)
    (spaced : Spaced (marks behind)) (parts : front ++ inner = other.toList) (nonempty : inner ≠ [])
    (starts : inner ++ behind = token.toList ++ rest) : front = [] ∧ other = token := by
  obtain ⟨count, long, tokenSame⟩ := isToken.marks
  obtain ⟨otherCount, otherLong, otherSame⟩ := isOther.marks
  have underscores := congrArg marks starts
  rw [marks_append, marks_append, tokenSame] at underscores
  have innerMarks : marks inner = (tokenMarks otherCount).drop front.length := by
    rw [← otherSame, ← parts, marks_append, marks, List.drop_left']
    exact List.length_map _
  rw [innerMarks] at underscores
  have width : front.length + inner.length = otherCount + 21 := by
    rw [← List.length_append, parts, ← length_tokenMarks, ← otherSame, marks,
      List.length_map]
  have some : 0 < inner.length := List.length_pos_iff.mpr nonempty
  have start : front = [] := by
    by_contra positive
    exact tokenMarks_offset long otherLong (List.length_pos_iff.mpr positive) (by omega) spaced
      ⟨_, underscores.symm⟩
  subst start
  obtain rfl : count = otherCount := tokenMarks_start ⟨_, underscores.symm⟩
  have sameLength : other.toList.length = token.toList.length := by
    have lengths := congrArg List.length (otherSame.trans tokenSame.symm)
    rwa [marks, marks, List.length_map, List.length_map] at lengths
  rw [← List.nil_append inner, parts] at starts
  exact ⟨rfl, String.toList_injective (List.append_inj_left starts sameLength)⟩

/-- A token does not start inside of a plain text. -/
theorem not_starts_plain (isToken : IsToken token) {content : String}
    (isPlain : IsPlain content) (parts : front ++ inner = content.toList) (nonempty : inner ≠ [])
    (starts : inner ++ behind = token.toList ++ rest) : False := by
  obtain ⟨count, -, tokenSame⟩ := isToken.marks
  obtain ⟨alone, unended⟩ := isPlain.alone
  rw [← parts, marks_append] at alone unended
  have underscores := congrArg marks starts
  have opening : tokenMarks count = true :: true :: (tokenMarks count).drop 2 := rfl
  rw [marks_append, marks_append, tokenSame, opening] at underscores
  rcases inner with _ | ⟨one, _ | ⟨two, more⟩⟩
  · exact nonempty rfl
  · obtain ⟨isUnderscore, -⟩ := List.cons.inj underscores
    simp [marks, isUnderscore] at unended
  · obtain ⟨isUnderscore, others⟩ := List.cons.inj underscores
    obtain ⟨isUnderscore', -⟩ := List.cons.inj others
    have both := alone.right_of_append
    rw [marks, List.map_cons, List.map_cons, List.isChain_cons_cons] at both
    exact both.1 isUnderscore isUnderscore'

end Starts

/-! ### Tokens in a text of fragments -/

namespace Fragment

/-- Plain literal parts, and standard tokens. -/
def ArePlain (fragments : List Fragment) : Prop :=
  (∀ content, .literal content ∈ fragments → IsPlain content) ∧
    ∀ token, .placeholder token ∈ fragments → IsToken token

/-- Every token stands for itself or for a plain text. -/
def Settles (meaning : String → String) : Prop :=
  ∀ token, meaning token = token ∨ IsPlain (meaning token)

variable {meaning : String → String} {fragments : List Fragment} {fragment : Fragment}
  {rest : List Fragment} {token : String}

theorem arePlain_append {left right : List Fragment} :
    ArePlain (left ++ right) ↔ ArePlain left ∧ ArePlain right := by
  simp only [ArePlain, List.mem_append, or_imp, forall_and]
  tauto

theorem ArePlain.tail (plain : ArePlain (fragment :: rest)) : ArePlain rest :=
  ⟨fun content member => plain.1 content (List.mem_cons_of_mem fragment member),
    fun token member => plain.2 token (List.mem_cons_of_mem fragment member)⟩

/-- A fragment is written as a token, or as a plain text. -/
theorem ArePlain.written (plain : ArePlain (fragment :: rest)) (settles : Settles meaning) :
    (∃ token, fragment = .placeholder token ∧ fragment.written meaning = token ∧ IsToken token) ∨
      IsPlain (fragment.written meaning) := by
  cases fragment with
  | literal content => exact .inr (plain.1 content List.mem_cons_self)
  | placeholder token =>
      rcases settles token with itself | isPlain
      · exact .inl ⟨token, rfl, itself, plain.2 token List.mem_cons_self⟩
      · exact .inr isPlain

theorem ArePlain.spaced (plain : ArePlain fragments) (settles : Settles meaning) :
    Spaced (marks (join meaning fragments).toList) := by
  induction fragments with
  | nil =>
      intro before rest split
      simp [marks] at split
  | cons fragment rest inductionHypothesis =>
      rw [join_cons, String.toList_append, marks_append]
      rcases plain.written settles with ⟨token, -, same, isToken⟩ | isPlain
      · obtain ⟨count, -, underscores⟩ := isToken.marks
        rw [same, underscores]
        exact Spaced.token count _
      · exact (inductionHypothesis plain.tail).plain isPlain

/-- A standard token occurs only where it was put and stands for itself. -/
theorem ArePlain.occurrence (plain : ArePlain fragments) (settles : Settles meaning)
    (isToken : IsToken token) {before after : String}
    (split : join meaning fragments = before ++ token ++ after) :
    meaning token = token ∧ ∃ left right, fragments = left ++ .placeholder token :: right ∧
      before = join meaning left := by
  induction fragments generalizing before with
  | nil =>
      exfalso
      have lengths := congrArg String.length split
      simp only [join_nil, String.length_empty, String.length_append] at lengths
      apply isToken.nonempty
      exact String.length_eq_zero_iff.mp (by omega)
  | cons fragment rest inductionHypothesis =>
      have characters : (fragment.written meaning).toList ++ (join meaning rest).toList =
          before.toList ++ (token.toList ++ after.toList) := by
        rw [← String.toList_append, ← join_cons, split, String.toList_append,
          String.toList_append, List.append_assoc]
      by_cases behind : (fragment.written meaning).toList.length ≤ before.toList.length
      · -- The occurrence lies behind the first fragment.
        obtain ⟨further, parts⟩ : (fragment.written meaning).toList <+: before.toList :=
          List.prefix_of_prefix_length_le ⟨_, characters⟩ ⟨_, rfl⟩ behind
        rw [← parts, List.append_assoc] at characters
        have shorter : join meaning rest = String.ofList further ++ token ++ after := by
          apply String.toList_injective
          rw [List.append_cancel_left characters]
          simp
        obtain ⟨itself, left, right, others, place⟩ := inductionHypothesis plain.tail shorter
        refine ⟨itself, fragment :: left, right, by rw [others, List.cons_append], ?_⟩
        apply String.toList_injective
        rw [join_cons, ← place, String.toList_append, String.toList_ofList, parts]
      · -- The occurrence starts inside of the first fragment, which has to be the token.
        obtain ⟨inner, parts⟩ : before.toList <+: (fragment.written meaning).toList :=
          List.prefix_of_prefix_length_le ⟨_, characters.symm⟩ ⟨_, rfl⟩ (by omega)
        have starts : inner ++ (join meaning rest).toList = token.toList ++ after.toList := by
          rw [← parts, List.append_assoc] at characters
          exact List.append_cancel_left characters
        have nonempty : inner ≠ [] := by
          rintro rfl
          rw [List.append_nil] at parts
          exact behind (Nat.le_of_eq (congrArg List.length parts.symm))
        rcases plain.written settles with ⟨other, isOther, same, otherToken⟩ | isPlain
        · rw [same] at parts
          obtain ⟨empty, rfl⟩ := starts_token isToken otherToken (plain.tail.spaced settles) parts
            nonempty starts
          obtain rfl : before = "" := String.toList_injective empty
          rw [isOther, Fragment.written] at same
          exact ⟨same, [], rest, by rw [isOther, List.nil_append], rfl⟩
        · exact (not_starts_plain isToken isPlain parts nonempty starts).elim

theorem ArePlain.onlyAsFragment (plain : ArePlain fragments) (settles : Settles meaning)
    (isToken : IsToken token) : OnlyAsFragment meaning token fragments :=
  fun _ _ split => (plain.occurrence settles isToken split).2

end Fragment

end DeferredText
