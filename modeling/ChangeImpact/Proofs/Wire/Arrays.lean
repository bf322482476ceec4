import ChangeImpact.Proofs.Wire.Feeding
/-!
# Arrays one after the other

What a stream reads is defined here without brackets being counted and without pieces: skip blanks,
read one array off the front with the JSON grammar, go on. The stream gives the same values for any
way to cut the bytes, and fails exactly where this reader does or where the bytes are not UTF-8.
-/
set_option autoImplicit false

namespace ChangeImpact.Wire

open Json (Value Blank Denotes)
open Utf8 (Bytes)

theorem length_lt_of_readFront {text front left : Text} {value : Value}
    (skipped : Json.skipBlanks text = front) (isRead : Json.readFront front = .ok (value, left)) :
    left.length < text.length := by
  obtain ⟨blanks, rfl, -⟩ := Json.exists_blanks_of_skipBlanks skipped
  obtain ⟨part, rfl, denotes⟩ := Json.denotes_of_readFront isRead
  have notEmpty := Json.length_pos_of_denotes_value denotes
  simp only [List.length_append]
  omega

/-- Reads arrays off the front of a text, with blanks before, between and after them, to its end. -/
def readArrays? (text : Text) : Option (List Value) :=
  match _skipped : Json.skipBlanks text with
  | [] => some []
  | point :: rest =>
      if point = '[' then
        match _isRead : Json.readFront (point :: rest) with
        | .error _ => none
        | .ok (value, left) => (readArrays? left).map (value :: ·)
      else none
termination_by text.length
decreasing_by exact length_lt_of_readFront _skipped _isRead

/-- Text that is arrays of these values, with blanks before, between and after them. -/
inductive Arrays : Text → List Value → Prop
  | done {blanks : Text} (blank : Blank blanks) : Arrays blanks []
  | more {blanks part rest : Text} {value : Value} {values : List Value} (blank : Blank blanks)
      (denotes : Denotes (.char '[' :: part) (.value value)) (others : Arrays rest values) :
      Arrays (blanks ++ (.char '[' :: part ++ rest)) (value :: values)

theorem arrays_blanks_append {blanks text : Text} {values : List Value} (blank : Blank blanks)
    (arrays : Arrays text values) : Arrays (blanks ++ text) values := by
  have both {others : Text} (blankOthers : Blank others) : Blank (blanks ++ others) := by
    intro point member
    rcases List.mem_append.mp member with first | second
    · exact blank point first
    · exact blankOthers point second
  cases arrays with
  | done blankRest => exact .done (both blankRest)
  | more blankRest denotes others =>
      rw [← List.append_assoc]
      exact .more (both blankRest) denotes others

/-! ## The reader and the grammar -/

theorem arrays_of_readArrays? {text : Text} {values : List Value}
    (isRead : readArrays? text = some values) : Arrays text values := by
  fun_induction readArrays? text generalizing values with
  | case1 text skipped =>
      obtain ⟨blanks, rfl, blank⟩ := Json.exists_blanks_of_skipBlanks skipped
      cases isRead
      rw [List.append_nil]
      exact .done blank
  | case2 => cases isRead
  | case3 text rest value left skipped isFront ih =>
      obtain ⟨others, isOthers, rfl⟩ := Option.map_eq_some_iff.mp isRead
      obtain ⟨blanks, rfl, blank⟩ := Json.exists_blanks_of_skipBlanks skipped
      obtain ⟨part, isFront, denotes⟩ := Json.denotes_of_readFront isFront
      obtain ⟨point, inner, rfl, -⟩ := Json.exists_cons_of_denotes_value denotes
      obtain ⟨rfl, rfl⟩ := List.cons.inj isFront
      exact .more blank denotes (ih isOthers)
  | case4 => cases isRead

theorem readArrays?_of_blank {blanks : Text} (blank : Blank blanks) :
    readArrays? blanks = some [] := by
  have skipped : Json.skipBlanks blanks = [] := by
    have stops : Json.NoBlank [] := by simp [Json.NoBlank]
    have appended := Json.skipBlanks_append blank stops
    rwa [List.append_nil] at appended
  rw [readArrays?]
  split
  · rfl
  · rename_i same
    cases skipped.symm.trans same

theorem readArrays?_of_readFront {text front left : Text} {value : Value}
    (skipped : Json.skipBlanks text = .char '[' :: front)
    (isRead : Json.readFront (.char '[' :: front) = .ok (value, left)) :
    readArrays? text = (readArrays? left).map (value :: ·) := by
  rw [readArrays?]
  split
  · rename_i same
    cases skipped.symm.trans same
  · rename_i same
    cases skipped.symm.trans same
    rw [if_pos rfl]
    split
    · rename_i failed
      cases isRead.symm.trans failed
    · rename_i isRead'
      cases isRead.symm.trans isRead'
      rfl

theorem readArrays?_of_arrays {text : Text} {values : List Value} (arrays : Arrays text values) :
    readArrays? text = some values := by
  induction arrays with
  | done blank => exact readArrays?_of_blank blank
  | @more blanks part rest value values blank denotes _ ih =>
      obtain ⟨items, -, -, rfl, -⟩ := Json.exists_array_of_denotes denotes rfl
      have stops : Json.NoBlank (.char '[' :: part ++ rest) := by
        intro point same
        cases same
        decide
      have skipped := Json.skipBlanks_append blank stops
      rw [readArrays?_of_readFront skipped (Json.readFront_of_denotes_array denotes rest), ih]
      rfl

theorem readArrays?_eq_some_iff (text : Text) (values : List Value) :
    readArrays? text = some values ↔ Arrays text values :=
  ⟨arrays_of_readArrays?, readArrays?_of_arrays⟩

/-! ## The stream and the grammar -/

/-- What a drain leaves over follows the text of the arrays that it completes. -/
theorem exists_front_of_drains {scanner last : Scanner} {taken text left : Text}
    {values : List Value} (tracks : Tracks scanner taken)
    (drains : Drains scanner taken text last values left) :
    ∃ front, taken.reverse ++ text = front ++ left.reverse ∧ Arrays front values := by
  -- What was taken is the beginning of the array that the text closes first, so it stands in front.
  induction drains with
  | done => exact ⟨[], List.append_nil _, .done (by simp [Blank])⟩
  | @blank _ _ _ _ _ _ point outside isBlank _ ih =>
      have empty := tracks.taken_eq_nil outside
      have single : Blank [point] := by simpa [Blank] using isBlank
      rw [empty] at tracks ⊢
      obtain ⟨front, isText, arrays⟩ := ih tracks
      exact ⟨point :: front, congrArg (point :: ·) isText, arrays_blanks_append single arrays⟩
  | opens outside _ ih =>
      cases tracks.eq_outside outside
      rw [tracks.taken_eq_nil outside]
      exact ih ⟨rfl, .inr ⟨[], rfl, trivial⟩⟩
  | goesOn inside stillInside _ ih =>
      have front := ih (tracks.goesOn inside stillInside)
      rwa [List.reverse_cons, List.append_assoc] at front
  | @closes _ _ taken rest left _ point _ inside completed isRead _ ih =>
      obtain ⟨inner, same, -, -⟩ := tracks.exists_bracket inside
      obtain ⟨front, isRest, others⟩ := ih (by
        rw [Scanner.step_eq_outside tracks.regular inside completed]
        exact tracks_outside)
      rw [List.reverse_cons, same, List.cons_append] at isRead
      obtain ⟨part, blanks, items, isSlice, blank, rfl, denotes⟩ :=
        (Json.read_bracket_eq_ok_iff ..).mp isRead
      obtain ⟨first, more, rfl, -⟩ := Json.exists_cons_of_denotes_value denotes
      obtain ⟨rfl, -⟩ := List.cons.inj isSlice
      -- Only blanks can stand between the end of the array and that of the slice.
      have isText : taken.reverse ++ point :: rest = .char '[' :: more ++ (blanks ++ rest) := by
        rw [← List.append_assoc, ← isSlice, same, List.cons_append, List.cons_append,
          List.append_assoc, List.singleton_append]
      have isFront : rest = front ++ left.reverse := isRest
      refine ⟨[] ++ (.char '[' :: more ++ (blanks ++ front)), ?_,
        .more (by simp [Blank]) denotes (arrays_blanks_append blank others)⟩
      rw [isText, isFront]
      simp

theorem arrays_of_drains {last : Scanner} {text : Text} {values : List Value}
    (drains : Drains .outside [] text last values []) : Arrays text values := by
  obtain ⟨front, isText, arrays⟩ := exists_front_of_drains tracks_outside drains
  have isFront : text = front := by simpa using isText
  rw [isFront]
  exact arrays

theorem drains_blanks {blanks : Text} (blank : Blank blanks) :
    Drains .outside [] blanks .outside [] [] := by
  induction blanks with
  | nil => exact .done
  | cons point rest ih =>
      exact .blank rfl (blank point (by simp)) (ih fun other member =>
        blank other (by simp [member]))

/-- Text that leaves no bracket open before it is taken as it is. -/
theorem drains_of_above {scanner : Scanner} {text : Text} (taken : Text)
    (inside : 1 ≤ scanner.depth) (above : Scanner.Above 1 scanner text) :
    Drains scanner taken text (scanner.run text) [] (text.reverse ++ taken) := by
  induction text generalizing scanner taken with
  | nil => exact .done
  | cons point rest ih =>
      rw [List.reverse_cons, List.append_assoc]
      exact .goesOn (Nat.one_le_iff_ne_zero.mp inside) (Nat.one_le_iff_ne_zero.mp above.1)
        (ih (point :: taken) above.1 above.2)

theorem drains_array {part : Text} {value : Value}
    (denotes : Denotes (.char '[' :: part) (.value value)) :
    Drains .outside [] (.char '[' :: part) .outside [value] [] := by
  obtain ⟨items, blanks, inner, rfl, blank, isPart, isInner⟩ :=
    Json.exists_array_of_denotes denotes rfl
  have balancedInner : Scanner.Balanced inner := by
    rcases isInner with rfl | isItems
    · exact Scanner.balanced_nil
    · exact Scanner.balanced_of_denotes isItems
  have balanced := Scanner.balanced_append (Scanner.balanced_blanks blank) balancedInner
  obtain ⟨comesBack, above⟩ := balanced 1
  have isRead : Json.read (.char '[' :: part) = .ok (.array items) :=
    (Json.read_bracket_eq_ok_iff ..).mpr
      ⟨_, [], items, (List.append_nil _).symm, by simp [Blank], rfl, denotes⟩
  rw [(List.cons.inj isPart).2] at isRead ⊢
  -- The depth is at least one up to the last bracket, so no slice is cut before it.
  have drainsInner := drains_of_above [.char '['] (Nat.le_refl 1) above
  rw [comesBack] at drainsInner
  refine .opens rfl (drains_append_of_drains drainsInner ?_)
  refine .closes (by decide) rfl ?_ .done
  simpa using isRead

theorem drains_of_arrays {text : Text} {values : List Value} (arrays : Arrays text values) :
    Drains .outside [] text .outside values [] := by
  induction arrays with
  | done blank => exact drains_blanks blank
  | more blank denotes _ ih =>
      exact drains_append_of_drains (drains_blanks blank)
        (drains_append_of_drains (drains_array denotes) ih)

theorem drains_iff_arrays (text : Text) (values : List Value) :
    Drains .outside [] text .outside values [] ↔ Arrays text values :=
  ⟨arrays_of_drains, drains_of_arrays⟩

theorem readAll_eq_ok_iff_arrays (pieces : List Bytes) (values : List Value) :
    Stream.readAll pieces = .ok values ↔
      ∃ chars, pieces.flatten = Utf8.encodeChars chars ∧ Arrays (Text.ofChars chars) values := by
  rw [Stream.readAll_eq_ok_iff]
  constructor
  · rintro ⟨text, decoded, drains⟩
    obtain ⟨chars, rfl, isEncoded⟩ := (Utf8.decodeMore_eq_ok_nil_iff ..).mp decoded
    exact ⟨chars, isEncoded, (drains_iff_arrays ..).mp drains⟩
  · rintro ⟨chars, isEncoded, arrays⟩
    have decoded := (Utf8.decodeMore_eq_ok_nil_iff ..).mpr ⟨chars, rfl, isEncoded⟩
    exact ⟨Text.ofChars chars, decoded, (drains_iff_arrays ..).mpr arrays⟩

/-- However the bytes are cut into pieces, a stream that is fed them and closed succeeds exactly if
they are the UTF-8 of a text that is arrays one after the other, and then its values are those
arrays. -/
theorem readAll_eq_ok_iff_readArrays? (pieces : List Bytes) (values : List Value) :
    Stream.readAll pieces = .ok values ↔
      ∃ chars, pieces.flatten = Utf8.encodeChars chars ∧
        readArrays? (Text.ofChars chars) = some values := by
  rw [readAll_eq_ok_iff_arrays]
  simp only [readArrays?_eq_some_iff]

end ChangeImpact.Wire
