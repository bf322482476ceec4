import ChangeImpact.Proofs.Json.Completeness
import ChangeImpact.Wire.Stream
/-!
# Counting brackets in JSON text

A scan does not parse: it counts brackets and braces alike and only keeps apart what is in a string.
Yet a stretch of text that denotes a value is balanced. A scan of it comes back to where it began,
and on the way never leaves the brackets that were open before. So the bracket at which the count of
an array comes back to zero is the one that the grammar has at its end.
-/
set_option autoImplicit false

namespace ChangeImpact.Wire

open Json (Blank StringBody Denotes Meaning)

namespace Scanner

/-- The scan after some more text. -/
def run (scanner : Scanner) (text : Text) : Scanner :=
  text.foldl step scanner

@[simp] theorem run_nil (scanner : Scanner) : scanner.run [] = scanner := rfl

@[simp] theorem run_cons (scanner : Scanner) (point : CodePoint) (rest : Text) :
    scanner.run (point :: rest) = (scanner.step point).run rest := rfl

theorem run_append (scanner : Scanner) (first second : Text) :
    scanner.run (first ++ second) = (scanner.run first).run second :=
  List.foldl_append

/-- At least `low` brackets stay open during the scan of a text. -/
def Above (low : Nat) (scanner : Scanner) : Text → Prop
  | [] => True
  | point :: rest => low ≤ (scanner.step point).depth ∧ Above low (scanner.step point) rest

theorem above_append (low : Nat) (scanner : Scanner) (first second : Text) :
    Above low scanner (first ++ second) ↔
      Above low scanner first ∧ Above low (scanner.run first) second := by
  induction first generalizing scanner with
  | nil => simp [Above]
  | cons point rest ih =>
      rw [List.cons_append, Above, Above, ih, run_cons, and_assoc]

theorem above_of_le {low high : Nat} (less : low ≤ high) {scanner : Scanner} {text : Text}
    (above : Above high scanner text) : Above low scanner text := by
  induction text generalizing scanner with
  | nil => trivial
  | cons point rest ih => exact ⟨Nat.le_trans less above.1, ih above.2⟩

theorem le_depth_run_of_above {low : Nat} {scanner : Scanner} {text : Text}
    (begins : low ≤ scanner.depth) (above : Above low scanner text) :
    low ≤ (scanner.run text).depth := by
  induction text generalizing scanner with
  | nil => exact begins
  | cons point rest ih => exact ih above.1 above.2

/-- Only what is in a string is escaped. -/
def Regular (scanner : Scanner) : Prop :=
  scanner.escaped = true → scanner.inString = true

theorem regular_outside : Regular outside :=
  fun escaped => by cases escaped

theorem regular_step {scanner : Scanner} (regular : Regular scanner) (point : CodePoint) :
    Regular (scanner.step point) := by
  obtain ⟨depth, inString, escaped⟩ := scanner
  unfold Regular step at *
  cases inString <;> cases escaped <;> grind

theorem regular_run {scanner : Scanner} (regular : Regular scanner) (text : Text) :
    Regular (scanner.run text) := by
  induction text generalizing scanner with
  | nil => exact regular
  | cons point rest ih => exact ih (regular_step regular point)

/-- The point that closes the last bracket stands outside strings. -/
theorem step_eq_outside {scanner : Scanner} {point : CodePoint} (regular : Regular scanner)
    (inside : scanner.depth ≠ 0) (completed : (scanner.step point).depth = 0) :
    scanner.step point = outside := by
  obtain ⟨depth, inString, escaped⟩ := scanner
  unfold Regular at regular
  unfold step outside at *
  cases inString <;> cases escaped <;> grind

/-- Inside `depth` brackets and outside strings. -/
def within (depth : Nat) : Scanner := ⟨depth, false, false⟩

/-- In a string inside `depth` brackets. -/
def quoting (depth : Nat) : Scanner := ⟨depth, true, false⟩

/-- After a backslash in a string inside `depth` brackets. -/
def escaping (depth : Nat) : Scanner := ⟨depth, true, true⟩

@[simp] theorem step_within_bracket (depth : Nat) :
    (within depth).step (.char '[') = within (depth + 1) := rfl

@[simp] theorem step_within_brace (depth : Nat) :
    (within depth).step (.char '{') = within (depth + 1) := rfl

@[simp] theorem step_within_endBracket (depth : Nat) :
    (within (depth + 1)).step (.char ']') = within depth := rfl

@[simp] theorem step_within_endBrace (depth : Nat) :
    (within (depth + 1)).step (.char '}') = within depth := rfl

@[simp] theorem step_within_quote (depth : Nat) :
    (within depth).step (.char '"') = quoting depth := rfl

@[simp] theorem step_quoting_backslash (depth : Nat) :
    (quoting depth).step (.char '\\') = escaping depth := rfl

@[simp] theorem step_escaping (depth : Nat) (point : CodePoint) :
    (escaping depth).step point = quoting depth := rfl

theorem step_quoting_of_ne (depth : Nat) {point : CodePoint} (notQuote : point ≠ .char '"')
    (notBackslash : point ≠ .char '\\') : (quoting depth).step point = quoting depth := by
  simp [step, quoting, notQuote, notBackslash]

/-- The points that a scan outside strings counts or turns at. -/
def isStructural (point : CodePoint) : Bool :=
  point = '"' || point = '[' || point = '{' || point = ']' || point = '}'

theorem step_within_of_not_structural (depth : Nat) {point : CodePoint}
    (plain : isStructural point = false) : (within depth).step point = within depth := by
  simp only [isStructural, Bool.or_eq_false_iff, decide_eq_false_iff_not] at plain
  obtain ⟨⟨⟨⟨notQuote, notBracket⟩, notBrace⟩, notEndBracket⟩, notEndBrace⟩ := plain
  simp [step, within, notQuote, notBracket, notBrace, notEndBracket, notEndBrace]

/-! ## Balanced text -/

/-- The scan of the text comes back to where it began and never leaves the brackets open there. -/
def Balanced (text : Text) : Prop :=
  ∀ depth, (within depth).run text = within depth ∧ Above depth (within depth) text

theorem balanced_nil : Balanced [] :=
  fun _ => ⟨rfl, trivial⟩

theorem balanced_append {first second : Text} (balancedFirst : Balanced first)
    (balancedSecond : Balanced second) : Balanced (first ++ second) := by
  intro depth
  obtain ⟨runFirst, aboveFirst⟩ := balancedFirst depth
  obtain ⟨runSecond, aboveSecond⟩ := balancedSecond depth
  rw [run_append, above_append, runFirst]
  exact ⟨runSecond, aboveFirst, aboveSecond⟩

theorem balanced_of_not_structural {text : Text}
    (plain : ∀ point ∈ text, isStructural point = false) : Balanced text := by
  induction text with
  | nil => exact balanced_nil
  | cons point rest ih =>
      intro depth
      have stepped := step_within_of_not_structural depth (plain point (by simp))
      have tail := ih (fun other member => plain other (by simp [member])) depth
      rw [run_cons, Above, stepped]
      exact ⟨tail.1, Nat.le_refl depth, tail.2⟩

theorem balanced_cons {point : CodePoint} {rest : Text} (plain : isStructural point = false)
    (balanced : Balanced rest) : Balanced (point :: rest) := by
  have alone : Balanced [point] := balanced_of_not_structural (by simpa using plain)
  exact balanced_append alone balanced

theorem balanced_blanks {blanks : Text} (blank : Blank blanks) : Balanced blanks := by
  apply balanced_of_not_structural
  intro point member
  rcases (Json.isJsonBlank_iff point).mp (blank point member) with rfl | rfl | rfl | rfl <;> decide

/-- Text between two brackets of which the one opens what the other closes. -/
theorem balanced_enclosed {opening closing : CodePoint} {inner : Text}
    (opens : ∀ depth, (within depth).step opening = within (depth + 1))
    (closes : ∀ depth, (within (depth + 1)).step closing = within depth)
    (balanced : Balanced inner) : Balanced (opening :: (inner ++ [closing])) := by
  intro depth
  -- The text inside is scanned one level deeper, which is why balance is asked for at every depth.
  obtain ⟨runInner, aboveInner⟩ := balanced (depth + 1)
  rw [run_cons, run_append, Above, above_append, opens, runInner, run_cons, Above, closes]
  exact ⟨rfl, Nat.le_succ depth, above_of_le (Nat.le_succ depth) aboveInner, Nat.le_refl depth,
    trivial⟩

theorem ne_of_hexValue? {point : CodePoint} {value : Nat}
    (isHex : Text.hexValue? point = some value) : point ≠ .char '"' ∧ point ≠ .char '\\' := by
  constructor
  · rintro rfl
    cases isHex
  · rintro rfl
    cases isHex

theorem step_quoting_of_hexValue? (depth : Nat) {point : CodePoint} {value : Nat}
    (isHex : Text.hexValue? point = some value) : (quoting depth).step point = quoting depth :=
  step_quoting_of_ne depth (ne_of_hexValue? isHex).1 (ne_of_hexValue? isHex).2

theorem run_stringBody (depth : Nat) {body : Text} {units : List Json.Unit16}
    (isBody : StringBody body units) :
    (quoting depth).run body = within depth ∧ Above depth (quoting depth) body := by
  induction isBody with
  | close => exact ⟨rfl, Nat.le_refl depth, trivial⟩
  | plain notQuote notBackslash _ _ ih =>
      rw [run_cons, Above, step_quoting_of_ne depth notQuote notBackslash]
      exact ⟨ih.1, Nat.le_refl depth, ih.2⟩
  | short _ _ ih =>
      rw [run_cons, run_cons, Above, Above, step_quoting_backslash, step_escaping]
      exact ⟨ih.1, Nat.le_refl depth, Nat.le_refl depth, ih.2⟩
  | @code a b c d point body units isCode _ ih =>
      unfold Json.unitOf? at isCode
      split at isCode
      · rename_i isA isB isC isD
        have stepA := step_quoting_of_hexValue? depth isA
        have stepB := step_quoting_of_hexValue? depth isB
        have stepC := step_quoting_of_hexValue? depth isC
        have stepD := step_quoting_of_hexValue? depth isD
        simp only [run_cons, Above, step_quoting_backslash, step_escaping, stepA, stepB, stepC,
          stepD]
        exact ⟨ih.1, Nat.le_refl depth, Nat.le_refl depth, Nat.le_refl depth, Nat.le_refl depth,
          Nat.le_refl depth, Nat.le_refl depth, ih.2⟩
      · cases isCode

theorem balanced_string {body : Text} {units : List Json.Unit16} (isBody : StringBody body units) :
    Balanced (.char '"' :: body) := by
  intro depth
  rw [run_cons, Above, step_within_quote]
  exact ⟨(run_stringBody depth isBody).1, Nat.le_refl depth, (run_stringBody depth isBody).2⟩

theorem balanced_word {word : String} {value : Json.Value} (isWord : (word, value) ∈ Json.words) :
    Balanced (Text.ofString word) := by
  apply balanced_of_not_structural
  simp only [Json.words, List.mem_cons, Prod.mk.injEq, List.not_mem_nil, or_false] at isWord
  rcases isWord with ⟨rfl, -⟩ | ⟨rfl, -⟩ | ⟨rfl, -⟩ | ⟨rfl, -⟩ | ⟨rfl, -⟩ | ⟨rfl, -⟩ <;> decide

theorem not_isStructural_of_isNumberPoint {point : CodePoint}
    (isPoint : Json.isNumberPoint point = true) :
    isStructural point = false := by
  rw [Bool.eq_false_iff]
  intro structural
  simp only [isStructural, Bool.or_eq_true, decide_eq_true_eq, or_assoc] at structural
  rcases structural with rfl | rfl | rfl | rfl | rfl <;> exact absurd isPoint (by decide)

theorem balanced_number {part : Text} {value : Json.Value}
    (isNumber : Json.readNumber part = .ok (value, [])) : Balanced part := by
  obtain ⟨_, same, -, points, -⟩ := Json.readNumber_front isNumber
  rw [List.append_nil] at same
  subst same
  exact balanced_of_not_structural fun point member =>
    not_isStructural_of_isNumberPoint (points point member)

theorem balanced_of_denotes {part : Text} {meaning : Meaning} (denotes : Denotes part meaning) :
    Balanced part := by
  induction denotes with
  | string isBody => exact balanced_string isBody
  | word isWord => exact balanced_word isWord
  | number isNumber => exact balanced_number isNumber
  | emptyArray blank =>
      exact balanced_enclosed step_within_bracket step_within_endBracket (balanced_blanks blank)
  | array blank _ ih =>
      exact balanced_enclosed step_within_bracket step_within_endBracket
        (balanced_append (balanced_blanks blank) ih)
  | emptyObject blank =>
      exact balanced_enclosed step_within_brace step_within_endBrace (balanced_blanks blank)
  | object blank _ ih =>
      exact balanced_enclosed step_within_brace step_within_endBrace
        (balanced_append (balanced_blanks blank) ih)
  | lastItem _ blank ih => exact balanced_append ih (balanced_blanks blank)
  | moreItems _ blankBefore blankAfter _ ihItem ihOthers =>
      refine balanced_append (balanced_append ihItem (balanced_blanks blankBefore)) ?_
      exact balanced_cons (by decide) (balanced_append (balanced_blanks blankAfter) ihOthers)
  | lastMember isKey blankBefore blankAfter _ blank ih =>
      refine balanced_append
        (balanced_append (balanced_string isKey) (balanced_blanks blankBefore)) ?_
      refine balanced_cons (by decide) ?_
      exact balanced_append (balanced_append (balanced_blanks blankAfter) ih)
        (balanced_blanks blank)
  | moreMembers isKey blankBefore blankAfter _ blank blankNext _ ihItem ihOthers =>
      refine balanced_append
        (balanced_append (balanced_string isKey) (balanced_blanks blankBefore)) ?_
      refine balanced_cons (by decide) ?_
      refine balanced_append (balanced_append (balanced_append (balanced_blanks blankAfter) ihItem)
        (balanced_blanks blank)) ?_
      exact balanced_cons (by decide) (balanced_append (balanced_blanks blankNext) ihOthers)

end Scanner

end ChangeImpact.Wire
