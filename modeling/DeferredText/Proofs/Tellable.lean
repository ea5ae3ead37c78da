import DeferredText.Proofs.Faults
import DeferredText.Resolve.Drain
import Mathlib.Algebra.Order.Group.Nat

/-!
Contract: what keeps a log from writing what it is told.

The cache tells names, cycle ids, counts and spans of its clock, and besides what users and
helpers gave it: names of any kind, arguments and failures. A log that can cut every text
fails only where a text would need an integer with more digits than are ever written out; a
log that cannot does fail for another reason, whatever its level is.

Owns: the events that a cache tells, and which settings of a log are usable.

Does not own: what a refused event does to the cache (`Proofs.Unlogged`).
-/

namespace DeferredText

/-! ### Spans of the clock -/

namespace Binary64

/-- At an exponent that leaves about fifty-three bits, the quotient stays below `2 ^ 54`. -/
theorem scaled_lt {numerator denominator : Nat} {exponent : Int} (positive : 0 < denominator)
    (least : (numerator.log2 : Int) - denominator.log2 - 53 ≤ exponent) :
    (scaled numerator denominator exponent).1 / (scaled numerator denominator exponent).2 <
      2 ^ 54 := by
  have above : numerator < 2 ^ (numerator.log2 + 1) := Nat.lt_log2_self
  have below : 2 ^ denominator.log2 ≤ denominator :=
    Nat.log2_self_le (Nat.ne_of_gt positive)
  cases exponent with
  | ofNat power =>
      have fits : numerator.log2 + 1 ≤ 54 + denominator.log2 + power := by
        simp only [Int.ofNat_eq_natCast] at least
        omega
      simp only [scaled, Nat.pow_eq]
      rw [Nat.div_lt_iff_lt_mul (Nat.mul_pos positive (Nat.two_pow_pos power))]
      calc numerator < 2 ^ (numerator.log2 + 1) := above
        _ ≤ 2 ^ (54 + denominator.log2 + power) := Nat.pow_le_pow_right (by omega) fits
        _ = 2 ^ 54 * (2 ^ denominator.log2 * 2 ^ power) := by rw [Nat.pow_add, Nat.pow_add, Nat.mul_assoc]
        _ ≤ 2 ^ 54 * (denominator * 2 ^ power) := by gcongr
  | negSucc power =>
      have fits : numerator.log2 + 1 + (power + 1) ≤ 54 + denominator.log2 := by omega
      simp only [scaled, Nat.pow_eq]
      rw [Nat.div_lt_iff_lt_mul positive]
      calc numerator * 2 ^ (power + 1) < 2 ^ (numerator.log2 + 1) * 2 ^ (power + 1) :=
            Nat.mul_lt_mul_of_pos_right above (Nat.two_pow_pos (power + 1))
        _ = 2 ^ (numerator.log2 + 1 + (power + 1)) := by rw [← Nat.pow_add]
        _ ≤ 2 ^ (54 + denominator.log2) := Nat.pow_le_pow_right (by omega) fits
        _ = 2 ^ 54 * 2 ^ denominator.log2 := Nat.pow_add ..
        _ ≤ 2 ^ 54 * denominator := by gcongr

theorem roundHalfEven_le (numerator denominator : Nat) :
    roundHalfEven numerator denominator ≤ numerator / denominator + 1 := by
  unfold roundHalfEven
  dsimp only
  split
  · omega
  · split <;> omega

theorem least_ratioExponent (numerator denominator : Nat) :
    (numerator.log2 : Int) - denominator.log2 - 53 ≤ ratioExponent numerator denominator := by
  unfold ratioExponent
  dsimp only
  split <;> omega

theorem ratioExponent_le (numerator denominator : Nat) :
    ratioExponent numerator denominator ≤
      max leastExponent ((numerator.log2 : Int) - denominator.log2 - 52) := by
  unfold ratioExponent
  dsimp only
  split <;> omega

/-- What a quotient is rounded to, if that is finite. -/
theorem ofRatio_bounded {negative sign : Bool} {numerator denominator mantissa : Nat}
    {exponent : Int} (positive : 0 < denominator)
    (rounds : ofRatio negative numerator denominator = .finite sign mantissa exponent) :
    mantissa ≤ 2 ^ 54 ∧ exponent ≤ greatestExponent := by
  have kept : ∀ settled : Nat × Int, settled.1 ≤ 2 ^ 54 →
      (if greatestExponent < settled.2 then .infinite negative
        else Binary64.finite negative settled.1 settled.2) = .finite sign mantissa exponent →
      mantissa ≤ 2 ^ 54 ∧ exponent ≤ greatestExponent := by
    intro settled small same
    by_cases beyond : greatestExponent < settled.2
    · rw [if_pos beyond] at same
      cases same
    · rw [if_neg beyond] at same
      cases same
      exact ⟨small, Int.not_lt.mp beyond⟩
  unfold ofRatio at rounds
  by_cases absent : numerator = 0
  · rw [if_pos absent] at rounds
    cases rounds
    decide
  · rw [if_neg absent] at rounds
    have rounded := roundHalfEven_le
      (scaled numerator denominator (ratioExponent numerator denominator)).1
      (scaled numerator denominator (ratioExponent numerator denominator)).2
    have small := scaled_lt positive (least_ratioExponent numerator denominator)
    refine kept _ ?_ rounds
    split
    · exact Nat.pow_le_pow_right (by omega) (by omega)
    · dsimp only
      omega

/-- The integer part of what a quotient is rounded to. -/
theorem truncate?_bounded {negative : Bool} {numerator denominator : Nat} {whole : Int}
    (positive : 0 < denominator)
    (truncates : (ofRatio negative numerator denominator).truncate? = some whole) :
    whole.natAbs < 2 ^ 1026 := by
  cases rounds : ofRatio negative numerator denominator with
  | nan =>
      rw [rounds] at truncates
      cases truncates
  | infinite sign =>
      rw [rounds] at truncates
      cases truncates
  | finite sign mantissa exponent =>
      obtain ⟨small, fits⟩ := ofRatio_bounded positive rounds
      have quotient : (ratio mantissa exponent).1 / (ratio mantissa exponent).2 < 2 ^ 1026 := by
        cases exponent with
        | ofNat power =>
            have bounded : power ≤ 971 := Int.ofNat_le.mp fits
            calc mantissa * 2 ^ power / 1 = mantissa * 2 ^ power := Nat.div_one _
              _ ≤ 2 ^ 54 * 2 ^ 971 := Nat.mul_le_mul small (Nat.pow_le_pow_right (by omega) bounded)
              _ < 2 ^ 1026 := by decide +kernel
        | negSucc power =>
            calc mantissa / 2 ^ (power + 1) ≤ mantissa := Nat.div_le_self ..
              _ ≤ 2 ^ 54 := small
              _ < 2 ^ 1026 := by decide +kernel
      rw [rounds] at truncates
      cases truncates
      rw [Int.natAbs_tdiv, Int.natAbs_natCast]
      cases sign
      · exact quotient
      · rw [if_pos rfl, Int.natAbs_neg]
        exact quotient

/-- The integer part of a product. -/
theorem truncate?_mul {left right : Binary64} {whole : Int}
    (truncates : (left.mul right).truncate? = some whole) : whole.natAbs < 2 ^ 1026 := by
  unfold mul at truncates
  dsimp only at truncates
  cases first : left.toRatio? with
  | none =>
      rw [first] at truncates
      dsimp only at truncates
      split at truncates <;> cases truncates
  | some pair =>
      cases second : right.toRatio? with
      | none =>
          rw [first, second] at truncates
          dsimp only at truncates
          split at truncates <;> cases truncates
      | some other =>
          rw [first, second] at truncates
          exact truncate?_bounded
            (Nat.mul_pos (positive_toRatio? first) (positive_toRatio? second)) truncates

/-- A quotient that is small enough is rounded to a finite datum. -/
theorem isFinite_ofRatio (negative : Bool) {numerator denominator : Nat}
    (small : (numerator.log2 : Int) - denominator.log2 ≤ 1020) :
    (ofRatio negative numerator denominator).isFinite = true := by
  have fits := ratioExponent_le numerator denominator
  have kept : ∀ settled : Nat × Int, settled.2 ≤ greatestExponent →
      (if greatestExponent < settled.2 then .infinite negative
        else Binary64.finite negative settled.1 settled.2).isFinite = true := by
    intro settled below
    rw [if_neg (Int.not_lt.mpr below)]
    rfl
  unfold ofRatio
  by_cases absent : numerator = 0
  · rw [if_pos absent]
    rfl
  · rw [if_neg absent]
    refine kept _ ?_
    unfold leastExponent at fits
    unfold greatestExponent
    split <;> dsimp only <;> omega

end Binary64

namespace CacheState

/-- A span of the clock in milliseconds is the integer part of a binary64 number. -/
theorem elapsed_bounded (start finish : Int) : (elapsed start finish).natAbs < 2 ^ 1026 := by
  unfold elapsed
  dsimp only
  cases truncates : (((seconds finish).add (seconds start).neg).mul
      (Binary64.ofInt 1000)).truncate? with
  | none =>
      rw [Option.getD_none, Int.natAbs_zero]
      exact Nat.pos_of_ne_zero (NeZero.ne _)
  | some whole => exact Binary64.truncate?_mul truncates

/-- A span of the clock can be told in seconds. -/
theorem seconds_elapsed (start finish : Int) :
    ∃ text, Event.seconds (.int (elapsed start finish)) = .ok text := by
  have bounded := elapsed_bounded start finish
  generalize elapsed start finish = duration at bounded
  have small : (duration.natAbs.log2 : Int) - (1000 : Nat).log2 ≤ 1020 := by
    by_cases absent : duration.natAbs = 0
    · rw [absent]
      decide
    · have below := (Nat.log2_lt absent).mpr bounded
      have thousand : (1000 : Nat).log2 = 9 := by decide
      omega
  have finite : (Binary64.ofSignedRatio duration 1000).isFinite = true :=
    Binary64.isFinite_ofRatio _ small
  refine ⟨(Binary64.ofSignedRatio duration 1000).fixedText 2, ?_⟩
  unfold Event.seconds
  dsimp only [Value.int?]
  rw [if_pos finite]

end CacheState

/-! ### Events -/

/-- An event as the cache tells it: cycles, names, kinds and tokens are texts, counts are
numbers, and a duration is a span of the clock. -/
inductive Event.Told : Event → Prop where
  | registered (name kind : String) : Told (.registered (.text name) (.text kind))
  | overridden (name previous kind : String) :
      Told (.overridden (.text name) (.text previous) (.text kind))
  | rejected (name : Value) (reason : String) : Told (.rejected name (.text reason))
  | renderCompleted (cycle : String) (expressions pending : Nat) :
      Told (.renderCompleted (.text cycle) (.int expressions) (.int pending))
  | renderFailed (cycle : String) (failure : Failure) :
      Told (.renderFailed (.text cycle) (.failure failure))
  | started (cycle : String) (pending : Nat) : Told (.started (.text cycle) (.int pending))
  | skipped (cycle name token : String) :
      Told (.skipped (.text cycle) (.text name) (.text token))
  | invoking (cycle name : String) (arguments : List Value) :
      Told (.invoking (.text cycle) (.text name) (.tuple arguments))
  | completed (cycle name : String) (start finish : Int) :
      Told (.completed (.text cycle) (.text name) (.int (CacheState.elapsed start finish)))
  | failed (cycle name : String) (failure : Failure) (start finish : Int) :
      Told (.failed (.text cycle) (.text name) (.failure failure)
        (.int (CacheState.elapsed start finish)))
  | duplicate (cycle name : String) : Told (.duplicate (.text cycle) (.text name))
  | finished (cycle : String) (resolved skipped : Nat) (start finish : Int) :
      Told (.finished (.text cycle) (.int resolved) (.int skipped)
        (.int (CacheState.elapsed start finish)))
  | aborted (cycle : String) (remaining : Nat) : Told (.aborted (.text cycle) (.int remaining))

/-! ### Settings of a log -/

theorem length_le_quotedText (content : String) :
    content.length ≤ (quotedText content).length := by
  have written : ∀ (quote : Char) (visible : Char → Bool) (character : Char),
      1 ≤ (quotedCharacter quote visible character).length := by
    intro quote visible character
    unfold quotedCharacter numberEscape
    repeat' split
    all_goals simp
  have longer : ∀ (quote : Char) (visible : Char → Bool) (text : List Char),
      text.length ≤ (text.flatMap (quotedCharacter quote visible)).length := by
    intro quote visible text
    induction text with
    | nil => simp
    | cons character rest inductionHypothesis =>
        have first := written quote visible character
        rw [List.flatMap_cons, List.length_append, List.length_cons]
        omega
  have inside := longer (chosenQuote content.toList) isPrintable content.toList
  rw [← String.length_toList]
  unfold quotedText quotedBy
  simp only [String.length_ofList, List.length_cons, List.length_append]
  omega

namespace LogSettings

/-- Whether every text can be cut: the bound is a whole number, or one that no length exceeds. -/
def cuts (settings : LogSettings) : Bool :=
  match settings.truncateAt with
  | .float .nan => true
  | .float (.infinite negative) => !negative
  | other => other.int?.isSome

/-- Whatever the log shows can be cut, or it shows nothing. -/
def Usable (settings : LogSettings) : Prop :=
  settings.showArguments.truthy = true → settings.cuts = true

instance (settings : LogSettings) : Decidable settings.Usable := by
  unfold Usable
  infer_instance

variable {settings : LogSettings}

theorem truncate_of_cuts (able : settings.cuts = true) (text : String) :
    ∃ kept, settings.truncate text = .ok kept := by
  have whole : ∀ number, settings.truncateAt.int? = some number →
      (∃ longer, exceeds text.length settings.truncateAt = .ok longer) →
      ∃ kept, settings.truncate text = .ok kept := by
    rintro number isWhole ⟨longer, compares⟩
    have cut : ∃ kept, firstCharacters text.toList settings.truncateAt = .ok kept := by
      unfold firstCharacters
      rw [isWhole]
      dsimp only
      split <;> exact ⟨_, rfl⟩
    obtain ⟨kept, cut⟩ := cut
    unfold truncate
    rw [compares, cut]
    cases longer <;> exact ⟨_, rfl⟩
  unfold cuts at able
  cases bound : settings.truncateAt with
  | int number => exact whole number (by rw [bound]; rfl) ⟨_, by rw [bound]; rfl⟩
  | bool truth => exact whole _ (by rw [bound]; rfl) ⟨_, by rw [bound]; rfl⟩
  | float datum =>
      unfold truncate
      rw [bound]
      cases datum with
      | nan => exact ⟨text, rfl⟩
      | infinite negative =>
          cases negative with
          | false => exact ⟨text, rfl⟩
          | true =>
              rw [bound] at able
              cases able
      | finite negative mantissa exponent =>
          rw [bound] at able
          cases able
  | _ =>
      rw [bound] at able
      cases able

/-- The failure of a cut is of another kind than that of an integer with too many digits. -/
theorem not_cuts (unable : settings.cuts = false) :
    ∃ length, ∀ text : String, length ≤ text.length →
      ∃ failure, settings.truncate text = .error failure ∧ failure ≠ .digitLimit := by
  have other : ∀ message, Failure.wrongType message ≠ .digitLimit := by
    intro message same
    injection same with kinds
    cases kinds
  -- A bound that is no number is compared with nothing, and a fraction cuts nothing.
  have cutting : ∀ datum, settings.truncateAt = .float datum → ∀ text : String,
      exceeds text.length (.float datum) = .ok true →
      ∃ failure, settings.truncate text = .error failure ∧ failure ≠ .digitLimit := by
    intro datum bound text longer
    unfold truncate
    rw [bound, longer]
    exact ⟨_, rfl, other _⟩
  unfold cuts at unable
  cases bound : settings.truncateAt with
  | int number =>
      rw [bound] at unable
      cases unable
  | bool truth =>
      rw [bound] at unable
      cases unable
  | float datum =>
      cases datum with
      | nan =>
          rw [bound] at unable
          cases unable
      | infinite negative =>
          cases negative with
          | false =>
              rw [bound] at unable
              cases unable
          | true => exact ⟨0, fun text _ => cutting _ bound text rfl⟩
      | finite negative mantissa exponent =>
          refine ⟨(Binary64.ratio mantissa exponent).1 + 1, fun text long => ?_⟩
          refine cutting _ bound text ?_
          have positive := Binary64.positive_ratio mantissa exponent
          have scaled : text.length * 1 ≤ text.length * (Binary64.ratio mantissa exponent).2 :=
            Nat.mul_le_mul_left _ positive
          simp only [exceeds, Binary64.toRatio?, Except.ok.injEq, decide_eq_true_eq]
          rw [← Int.natCast_mul]
          split <;> omega
  | _ =>
      refine ⟨0, fun text _ => ?_⟩
      unfold truncate
      rw [bound]
      exact ⟨_, rfl, other _⟩

end LogSettings

/-- An entry of a context: its key is a text, and its value a text or a whole number. -/
def IsSimple (pair : Value × Value) : Prop :=
  (∃ key, pair.1 = .text key) ∧
    ((∃ content, pair.2 = .text content) ∨ ∃ number, pair.2 = .int number)

/-- The entry of an event has a simple context, or there is none because an integer would have
too many digits. -/
def Event.Plain (outcome : Outcome LogEntry) : Prop :=
  FailsByLength outcome ∧ ∀ entry, outcome = .ok entry → ∀ pair ∈ entry.context, IsSimple pair

namespace Event

variable {α : Type} {settings : LogSettings} {event : Event}

theorem plain_ok {entry : LogEntry} (simple : ∀ pair ∈ entry.context, IsSimple pair) :
    Plain (.ok entry) := by
  refine ⟨.ok entry, ?_⟩
  intro _ same
  cases same
  exact simple

theorem Plain.bind {outcome : Outcome α} {next : α → Outcome LogEntry}
    (first : FailsByLength outcome) (second : ∀ result, Plain (next result)) :
    Plain (outcome >>= next) := by
  refine ⟨first.bind fun result => (second result).1, ?_⟩
  intro entry same
  cases outcome with
  | ok result => exact (second result).2 entry same
  | error failure => cases same

theorem isSimple_text (key content : String) : IsSimple (.text key, .text content) :=
  ⟨⟨key, rfl⟩, .inl ⟨content, rfl⟩⟩

theorem isSimple_int (key : String) (number : Int) : IsSimple (.text key, .int number) :=
  ⟨⟨key, rfl⟩, .inr ⟨number, rfl⟩⟩

theorem failsByLength_seconds (start finish : Int) :
    FailsByLength (seconds (.int (CacheState.elapsed start finish))) := by
  obtain ⟨text, told⟩ := CacheState.seconds_elapsed start finish
  rw [told]
  exact .ok text

theorem Told.plain (told : Told event) (usable : settings.Usable) :
    Plain (event.entry settings) := by
  have texts := isSimple_text
  have counts := isSimple_int
  cases told with
  | invoking cycle name arguments =>
      have named : ∀ shown : List (String × Value),
          (∀ pair ∈ shown, IsSimple (.text pair.1, pair.2)) →
          Plain (do
            let nameText ← (Value.text name).display
            return {
              level := .debug
              component := .resolve
              message := "Calling async helper '" ++ nameText ++ "'"
              context := resolveContext (.text cycle) "invocation_started"
                (("helper_name", .text name) :: shown) }) := by
        intro shown simple
        refine Plain.bind (failsByLength_display _) fun _ => plain_ok ?_
        simp only [resolveContext, List.map_cons, List.forall_mem_cons, texts, true_and]
        intro pair member
        obtain ⟨field, isShown, rfl⟩ := List.mem_map.mp member
        exact simple field isShown
      simp only [entry]
      by_cases shows : settings.showArguments.truthy = true
      · rw [if_pos shows]
        refine Plain.bind (failsByLength_display _) fun content => ?_
        obtain ⟨kept, cut⟩ := settings.truncate_of_cuts (usable shows) content
        rw [cut]
        exact named _ (by simp [texts])
      · rw [if_neg shows]
        exact named [] nofun
  | _ =>
      repeat' refine Plain.bind ?_ fun _ => ?_
      all_goals first
        | exact failsByLength_display _
        | exact failsByLength_message _
        | exact failsByLength_seconds _ _
        | exact plain_ok (by simp [contextOf, resolveContext, texts, counts])

end Event

namespace Entries

theorem isSimple_insert {entries : Entries} {key value : Value}
    (simple : ∀ pair ∈ entries, IsSimple pair) (new : IsSimple (key, value)) :
    ∀ pair ∈ insert entries key value, IsSimple pair := by
  induction entries with
  | nil => simpa [insert] using new
  | cons first rest inductionHypothesis =>
      have others : ∀ pair ∈ rest, IsSimple pair := fun pair member =>
        simple pair (List.mem_cons_of_mem _ member)
      unfold insert
      split
      · intro pair member
        rcases List.mem_cons.mp member with rfl | later
        · exact ⟨(simple first List.mem_cons_self).1, new.2⟩
        · exact others pair later
      · intro pair member
        rcases List.mem_cons.mp member with rfl | later
        · exact simple _ List.mem_cons_self
        · exact inductionHypothesis others pair later

theorem isSimple_ofPairs {pairs : List (Value × Value)} (simple : ∀ pair ∈ pairs, IsSimple pair) :
    ∀ pair ∈ ofPairs pairs, IsSimple pair := by
  have collects : ∀ collected : Entries, (∀ pair ∈ collected, IsSimple pair) →
      ∀ pair ∈ pairs.foldl (fun entries pair => insert entries pair.1 pair.2) collected,
        IsSimple pair := by
    induction pairs with
    | nil => exact fun collected known => known
    | cons first rest inductionHypothesis =>
        intro collected known
        exact inductionHypothesis (fun pair member => simple pair (List.mem_cons_of_mem _ member)) _
          (isSimple_insert known (simple first List.mem_cons_self))
  exact collects [] nofun

end Entries

theorem Json.failsByLength_writeEntries {entries : List (Value × Value)}
    (simple : ∀ pair ∈ entries, IsSimple pair) :
    FailsByLength (Json.writeEntries Json.displayed entries) := by
  induction entries with
  | nil => exact .ok []
  | cons pair rest inductionHypothesis =>
      obtain ⟨key, value⟩ := pair
      obtain ⟨⟨name, isName⟩, content⟩ := simple _ List.mem_cons_self
      dsimp only at isName
      subst isName
      have written : FailsByLength (Json.write Json.displayed value) := by
        rcases content with ⟨text, isText⟩ | ⟨number, isNumber⟩
        · dsimp only at isText
          subst isText
          exact .ok _
        · dsimp only at isNumber
          subst isNumber
          exact failsByLength_integerText number
      exact (FailsByLength.ok _).bind fun _ => written.bind fun _ =>
        (inductionHypothesis fun pair member => simple pair (List.mem_cons_of_mem _ member)).bind
          fun _ => .ok _

namespace LogEntry

variable {settings : LogSettings} {entry : LogEntry}

theorem failsByLength_jsonText (simple : ∀ pair ∈ entry.context, IsSimple pair) :
    FailsByLength entry.jsonText := by
  refine (Json.failsByLength_writeEntries (Entries.isSimple_ofPairs ?_)).bind fun _ => .ok _
  simp only [List.cons_append, List.nil_append, List.forall_mem_cons, Event.isSimple_text, true_and]
  exact simple

theorem failsByLength_coloredText (entry : LogEntry) (usable : settings.Usable) :
    FailsByLength (entry.coloredText settings) := by
  unfold coloredText
  split
  · rename_i shows
    have able := usable (Bool.and_eq_true_iff.mp shows).2
    refine (failsByLength_display _).bind fun content => ?_
    obtain ⟨kept, cut⟩ := settings.truncate_of_cuts able content
    rw [cut]
    exact .ok _
  · exact .ok _

theorem failsByLength_lines (simple : ∀ pair ∈ entry.context, IsSimple pair)
    (usable : settings.Usable) : FailsByLength (entry.lines settings) := by
  unfold lines
  split
  · split
    · exact (failsByLength_jsonText simple).bind fun _ => .ok _
    · exact (entry.failsByLength_coloredText usable).bind fun _ => .ok _
  · exact .ok _

end LogEntry

/-- A usable log fails to write what a cache tells it only where an integer has too many digits. -/
theorem Event.Told.failsByLength {settings : LogSettings} {event : Event} (told : event.Told)
    (usable : settings.Usable) : FailsByLength (event.lines settings) := by
  obtain ⟨written, simple⟩ := told.plain usable
  unfold Event.lines
  cases made : event.entry settings with
  | ok entry => exact LogEntry.failsByLength_lines (simple entry made) usable
  | error failure =>
      intro other fails
      cases fails
      exact written failure made

/-- A log that is not usable fails to write for another reason, whatever its level is. -/
theorem LogSettings.refuses_of_not_usable {settings : LogSettings} (unusable : ¬ settings.Usable) :
    ∃ event : Event, event.Told ∧ ∃ failure, event.lines settings = .error failure ∧
      failure ≠ .digitLimit := by
  unfold Usable at unusable
  push Not at unusable
  obtain ⟨shows, unable⟩ := unusable
  obtain ⟨length, fails⟩ := not_cuts (Bool.eq_false_iff.mpr unable)
  let content := String.ofList (List.replicate length 'a')
  have long : length ≤ (Value.tupleText [quotedText content]).length := by
    have inside := length_le_quotedText content
    have whole : content.length = length := by simp [content]
    have around : (Value.tupleText [quotedText content]).length =
        (quotedText content).length + 3 := by
      simp only [Value.tupleText, String.length_append]
      have ends : "(".length + ",)".length = 3 := by decide
      omega
    omega
  obtain ⟨failure, cut, other⟩ := fails _ long
  refine ⟨.invoking (.text "") (.text "") (.tuple [.text content]), .invoking _ _ _, failure, ?_, other⟩
  have shown : (Value.tuple [.text content]).display = .ok (Value.tupleText [quotedText content]) := by
    rfl
  simp only [Event.lines, Event.entry]
  rw [if_pos shows, shown]
  change (settings.truncate _ >>= _) >>= _ = _
  rw [cut]
  rfl

end DeferredText
