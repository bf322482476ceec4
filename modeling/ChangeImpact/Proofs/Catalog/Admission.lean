import ChangeImpact.Proofs.Channel.AllOrNothing
/-!
# Which records are admitted

A record is an object in which each field is looked up under its name on the wire, and under its own
name only without that one. It is admitted if its names are text, its file is text that can be
written and is not empty, and its lines are integers from one on, in order. The complaint about an
array of records is the first one, in the order of the fields, about its first element that is not
admitted.
-/
set_option autoImplicit false

namespace ChangeImpact

open Json (Value Members)

namespace Text

theorem eq_ofChars_of_toChars? {text : Text} {chars : List Char}
    (read : text.toChars? = some chars) :
    text = ofChars chars := by
  induction text generalizing chars with
  | nil =>
      cases read
      rfl
  | cons point rest ih =>
      cases point with
      | char c =>
          rw [toChars?, Option.map_eq_some_iff] at read
          obtain ⟨others, readRest, rfl⟩ := read
          rw [ih readRest]
          rfl
      | surrogate offset => cases read

theorem any_isSurrogate_iff {text : Text} :
    text.any Utf8.isSurrogate = true ↔ text.toChars? = none := by
  induction text with
  | nil => simp [toChars?]
  | cons point rest ih =>
      cases point with
      | char c => simpa [toChars?, Utf8.isSurrogate] using ih
      | surrogate offset => simp [toChars?, Utf8.isSurrogate]

end Text

namespace Validation

variable {α β : Type}

/-- How a check ends: with a complaint before all others, or with a value of which something
holds. -/
inductive Ends (result : α → Prop) : Option Complaint → Checked α → Prop
  | admitted {value : α} (holds : result value) : Ends result none (.ok value)
  | refused (problems : Problems) : Ends result (some problems.first.complaint) (.error problems)

theorem ends_fail (result : α → Prop) (location : List Key) (complaint : Complaint) :
    Ends result (some complaint) (Checked.fail location complaint) :=
  .refused ⟨⟨location, complaint⟩, []⟩

namespace Ends

variable {result : α → Prop} {other : β → Prop} {fault otherFault : Option Complaint}
  {checked : Checked α} {next : Checked β}

theorem under (ends : Ends result fault checked) (key : Key) :
    Ends result fault (checked.under key) := by
  cases ends with
  | admitted holds => exact .admitted holds
  | refused problems => exact .refused (problems.under key)

theorem both (ends : Ends result fault checked) (nextEnds : Ends other otherFault next) :
    Ends (fun pair => result pair.1 ∧ other pair.2) (fault.or otherFault) (checked.both next) := by
  cases ends with
  | admitted holds =>
      cases nextEnds with
      | admitted otherHolds => exact .admitted ⟨holds, otherHolds⟩
      | refused problems => exact .refused problems
  | refused problems =>
      cases nextEnds with
      | admitted otherHolds => exact .refused problems
      | refused others => exact .refused (problems.append others)

theorem exists_ok_iff (ends : Ends result fault checked) :
    (∃ value, checked = .ok value) ↔ fault = none := by
  cases ends <;> simp

theorem holds_of_ok (ends : Ends result fault checked) {value : α} (isOk : checked = .ok value) :
    result value := by
  cases ends with
  | admitted holds =>
      cases isOk
      exact holds
  | refused problems => cases isOk

theorem fault_of_error (ends : Ends result fault checked) {problems : Problems}
    (isError : checked = .error problems) : fault = some problems.first.complaint := by
  cases ends with
  | admitted holds => cases isError
  | refused problems =>
      cases isError
      rfl

end Ends

theorem findSome?_cons_eq_or (fault : α → Option β) (item : α) (rest : List α) :
    (item :: rest).findSome? fault = (fault item).or (rest.findSome? fault) := by
  rw [List.findSome?_cons]
  cases fault item <;> rfl

/-- The items are checked one after the other, and the first complaint counts. -/
theorem ends_each {result : α → β → Prop} {fault : α → Option Complaint} {check : α → Checked β}
    (ends : ∀ item, Ends (result item) (fault item) (check item)) (items : List α) (start : Nat) :
    Ends (List.Forall₂ result items) (items.findSome? fault) (Checked.each check start items) := by
  induction items generalizing start with
  | nil => exact .admitted .nil
  | cons item rest ih =>
      have ended := ((ends item).under (.index start)).both (ih (start + 1))
      rw [Checked.each, findSome?_cons_eq_or]
      generalize (fault item).or (rest.findSome? fault) = total at ended
      generalize Checked.both _ _ = checked at ended
      cases ended with
      | admitted holds => exact .admitted (.cons holds.1 holds.2)
      | refused problems => exact .refused problems

/-! ## The value of a field -/

/-- The value under the name on the wire, or without it the one under the field's own name. -/
def fieldValue? (members : Members) (wireName ownName : String) : Option Value :=
  (members.get? (Text.ofString wireName)).or (members.get? (Text.ofString ownName))

theorem lookup?_pair (members : Members) (wireName ownName : String) :
    (lookup? members [wireName, ownName]).map Prod.snd = fieldValue? members wireName ownName := by
  rw [lookup?, fieldValue?, List.findSome?_cons, List.findSome?_cons, List.findSome?_nil]
  cases members.get? (Text.ofString wireName) with
  | some value => rfl
  | none => cases members.get? (Text.ofString ownName) <;> rfl

variable {result : Value → α → Prop} {fault : Value → Option Complaint} {check : Value → Checked α}

theorem Ends.weaken {first second : α → Prop} {complaint : Option Complaint} {checked : Checked α}
    (ends : Ends first complaint checked) (implies : ∀ value, first value → second value) :
    Ends second complaint checked := by
  cases ends with
  | admitted holds => exact .admitted (implies _ holds)
  | refused problems => exact .refused problems

theorem ends_required (members : Members) (wireName ownName : String)
    (ends : ∀ value, Ends (result value) (fault value) (check value)) :
    Ends
      (fun found =>
        ∃ value, fieldValue? members wireName ownName = some value ∧ result value found)
      ((fieldValue? members wireName ownName).elim (some .missing) fault)
      (required [wireName, ownName] check members) := by
  rw [← lookup?_pair, required]
  cases lookup? members [wireName, ownName] with
  | none => exact ends_fail ..
  | some pair =>
      apply ((ends pair.2).under (.field pair.1)).weaken
      intro found holds
      exact ⟨pair.2, rfl, holds⟩

theorem ends_optional (members : Members) (wireName ownName : String) (default : α)
    (ends : ∀ value, Ends (result value) (fault value) (check value)) :
    Ends
      (fun found =>
        (fieldValue? members wireName ownName).elim (found = default) (result · found))
      ((fieldValue? members wireName ownName).bind fault)
      (optional [wireName, ownName] default check members) := by
  rw [← lookup?_pair, optional]
  cases lookup? members [wireName, ownName] with
  | none => exact .admitted rfl
  | some pair => exact (ends pair.2).under (.field pair.1)

end Validation

namespace SourceFunction

open Validation

/-! ## Records -/

/-- The fields of a record. -/
inductive Field where
  | qualifiedName
  | name
  | file
  | startLine
  | endLine
  deriving DecidableEq

namespace Field

def inOrder : List Field := [qualifiedName, name, file, startLine, endLine]

/-- The name on the wire and the field's own name. -/
def names : Field → String × String
  | qualifiedName => ("ControllerName", "qualified_name")
  | name => ("FunctionName", "name")
  | file => ("Filename", "file")
  | startLine => ("StartLine", "start_line")
  | endLine => ("EndLine", "end_line")

def value? (field : Field) (members : Members) : Option Value :=
  fieldValue? members field.names.1 field.names.2

end Field

/-- An object that makes a record. -/
structure Admissible (members : Members) : Prop where
  qualifiedName : ∀ value ∈ Field.qualifiedName.value? members,
    value = .null ∨ ∃ text, value = .string text
  name : ∀ value ∈ Field.name.value? members, ∃ text, value = .string text
  file : ∃ chars, chars ≠ [] ∧ Field.file.value? members = some (.string (Text.ofChars chars))
  lines : ∃ start finish : Int, Field.startLine.value? members = some (.int start) ∧
    Field.endLine.value? members = some (.int finish) ∧ 1 ≤ start ∧ start ≤ finish

/-- The function whose record an object is. -/
structure Describes (members : Members) (function : SourceFunction) : Prop where
  qualifiedName : ∀ text, function.qualifiedName = some text ↔
    Field.qualifiedName.value? members = some (.string text)
  name : Field.name.value? members = some (.string function.name) ∨
    Field.name.value? members = none ∧ function.name = []
  file : Field.file.value? members = some (.string (Text.ofString function.file.text))
  startLine : Field.startLine.value? members = some (.int function.startLine)
  endLine : Field.endLine.value? members = some (.int function.endLine)

/-! ## The first complaint -/

def textFault? : Value → Option Complaint
  | .string _ => none
  | _ => some .notString

def textOrNullFault? : Value → Option Complaint
  | .null => none
  | value => textFault? value

def fileFault? : Value → Option Complaint
  | .string text =>
      if text.any Utf8.isSurrogate then some .loneSurrogate
      else if text = [] then some .emptyString
      else none
  | _ => some .notString

def lineFault? : Value → Option Complaint
  | .int number => if number < 1 then some (.below 1) else none
  | _ => some .notInteger

/-- What is wrong with the value of a field, or with its absence. -/
def Field.fault? (members : Members) : Field → Option Complaint
  | qualifiedName => (qualifiedName.value? members).bind textOrNullFault?
  | name => (name.value? members).bind textFault?
  | file => (file.value? members).elim (some .missing) fileFault?
  | startLine => (startLine.value? members).elim (some .missing) lineFault?
  | endLine => (endLine.value? members).elim (some .missing) lineFault?

/-- The complaint about lines in the wrong order. -/
def orderFault? (members : Members) : Option Complaint :=
  match Field.startLine.value? members, Field.endLine.value? members with
  | some (.int start), some (.int finish) =>
      if finish < start then some (.startAfterEnd start.toNat finish.toNat) else none
  | _, _ => none

/-- The first complaint about a record: that of the first field with one, or else that about the
order of its lines. -/
def firstFault? : Value → Option Complaint
  | .object members => (Field.inOrder.findSome? (Field.fault? members)).or (orderFault? members)
  | _ => some (.notObject "FunctionRange")

/-! ## Checks of values -/

theorem ends_text (value : Value) :
    Ends (fun found => value = .string found) (textFault? value) (plain text value) := by
  cases value with
  | string found => exact .admitted rfl
  | _ => exact ends_fail ..

theorem ends_textOrNull (value : Value) :
    Ends (fun found => ∀ text, found = some text ↔ value = .string text) (textOrNullFault? value)
      (plain textOrNull value) := by
  cases value with
  | null => exact .admitted (by simp)
  | string found => exact .admitted (by simp)
  | _ => exact ends_fail ..

theorem ends_file (value : Value) :
    Ends (fun found : NonEmptyString => value = .string (Text.ofString found.text))
      (fileFault? value)
      (plain nonEmptyString value) := by
  cases value with
  | string found =>
      cases read : found.toChars? with
      | none =>
          have refused : plain nonEmptyString (.string found) = Checked.fail [] .loneSurrogate := by
            simp only [plain, nonEmptyString, Text.toString?, read, Option.map_none]
          rw [refused, fileFault?, if_pos (Text.any_isSurrogate_iff.mpr read)]
          exact ends_fail ..
      | some chars =>
          have noSurrogate : ¬found.any Utf8.isSurrogate = true := by
            rw [Text.any_isSurrogate_iff, read]
            simp
          have isText := Text.eq_ofChars_of_toChars? read
          by_cases empty : chars = []
          · rw [isText, empty]
            exact ends_fail _ [] .emptyString
          · have nonEmpty : String.ofList chars ≠ "" := by simpa using empty
            have accepted : fileFault? (.string found) = none := by
              rw [fileFault?, if_neg noSurrogate,
                if_neg (by simpa [isText, Text.ofChars] using empty)]
            have isFile :
                found = Text.ofString (NonEmptyString.mk (String.ofList chars) nonEmpty).text := by
              rw [isText, Text.ofString, String.toList_ofList]
            rw [accepted, isFile, nonEmptyString_ofString]
            exact .admitted rfl
  | _ => exact ends_fail ..

theorem ends_line (value : Value) :
    Ends (fun found : { n : Nat // 1 ≤ n } => value = .int found.val) (lineFault? value)
      (plain lineNumber value) := by
  cases value with
  | int number =>
      simp only [plain, lineNumber, lineFault?]
      by_cases small : number < 1
      · rw [if_pos small, dif_neg (by omega)]
        exact ends_fail ..
      · rw [if_neg small, dif_pos (by omega)]
        have isNumber : number = (number.toNat : Int) := by omega
        exact .admitted (congrArg Value.int isNumber)
  | _ => exact ends_fail ..

/-! ## Records, checked -/

theorem findSome?_fault?_inOrder (members : Members) :
    Field.inOrder.findSome? (Field.fault? members) =
      (Field.fault? members .qualifiedName).or ((Field.fault? members .name).or
        ((Field.fault? members .file).or ((Field.fault? members .startLine).or
          (Field.fault? members .endLine)))) := by
  simp only [Field.inOrder, findSome?_cons_eq_or, List.findSome?_nil, Option.or_none]

theorem orderFault?_of_lines {members : Members} {start finish : Nat}
    (isStart : Field.startLine.value? members = some (.int start))
    (isFinish : Field.endLine.value? members = some (.int finish)) :
    orderFault? members = if start ≤ finish then none else some (.startAfterEnd start finish) := by
  simp only [orderFault?, isStart, isFinish, Int.toNat_natCast]
  by_cases ordered : start ≤ finish
  · rw [if_pos ordered, if_neg (by omega)]
  · rw [if_neg ordered, if_pos (by omega)]

theorem ends_ofMembers (members : Members) :
    Ends (Describes members) (firstFault? (.object members)) (ofMembers members) := by
  have fields :=
    (ends_optional members "ControllerName" "qualified_name" none ends_textOrNull).both
      ((ends_optional members "FunctionName" "name" [] ends_text).both
        ((ends_required members "Filename" "file" ends_file).both
          ((ends_required members "StartLine" "start_line" ends_line).both
            (ends_required members "EndLine" "end_line" ends_line))))
  change Ends _ ((Field.fault? members .qualifiedName).or ((Field.fault? members .name).or
    ((Field.fault? members .file).or ((Field.fault? members .startLine).or
      (Field.fault? members .endLine))))) _ at fields
  rw [firstFault?, findSome?_fault?_inOrder]
  unfold ofMembers qualifiedNameKeys nameKeys fileKeys startLineKeys endLineKeys
  generalize Option.or _ _ = fault at fields ⊢
  generalize Checked.both _ _ = checked at fields ⊢
  cases fields with
  | refused problems => exact .refused problems
  | @admitted value holds =>
      obtain ⟨qualifiedName, name, file, start, finish⟩ := value
      obtain ⟨isQualifiedName, isName, ⟨_, isFile, rfl⟩, ⟨_, isStart, rfl⟩, ⟨_, isFinish, rfl⟩⟩ :=
        holds
      simp only [Option.none_or, orderFault?_of_lines isStart isFinish]
      by_cases ordered : start.val ≤ finish.val
      · rw [if_pos ordered, dif_pos ordered]
        refine .admitted ⟨?_, ?_, isFile, isStart, isFinish⟩
        · intro text
          change _ ↔ fieldValue? members "ControllerName" "qualified_name" = _
          cases found : fieldValue? members "ControllerName" "qualified_name" with
          | none =>
              have absent : qualifiedName = none := by simpa [found] using isQualifiedName
              simp [absent]
          | some value =>
              rw [found] at isQualifiedName
              rw [Option.some_inj]
              exact isQualifiedName text
        · change fieldValue? members "FunctionName" "name" = _ ∨
            fieldValue? members "FunctionName" "name" = _ ∧ _
          cases found : fieldValue? members "FunctionName" "name" with
          | none => exact .inr ⟨rfl, by simpa [found] using isName⟩
          | some value => exact .inl (by simpa [found] using isName)
      · rw [if_neg ordered, dif_neg ordered]
        exact ends_fail ..

theorem ends_ofValue (value : Value) :
    Ends (fun function => ∃ members, value = .object members ∧ Describes members function)
      (firstFault? value) (ofValue value) := by
  cases value with
  | object members =>
      apply (ends_ofMembers members).weaken
      intro function describes
      exact ⟨members, rfl, describes⟩
  | _ => exact ends_fail ..

/-! ## What is not complained about -/

/-- The value is an object that makes a record. -/
def Admitted (value : Value) : Prop :=
  ∃ members, value = .object members ∧ Admissible members

theorem textFault?_eq_none_iff (value : Value) :
    textFault? value = none ↔ ∃ text, value = .string text := by
  cases value <;> simp [textFault?]

theorem textOrNullFault?_eq_none_iff (value : Value) :
    textOrNullFault? value = none ↔ value = .null ∨ ∃ text, value = .string text := by
  cases value <;> simp [textOrNullFault?, textFault?]

theorem fileFault?_eq_none_iff (value : Value) :
    fileFault? value = none ↔ ∃ chars, chars ≠ [] ∧ value = .string (Text.ofChars chars) := by
  cases value with
  | string text =>
      constructor
      · intro accepted
        rw [fileFault?] at accepted
        split at accepted
        · cases accepted
        · rename_i noSurrogate
          split at accepted
          · cases accepted
          · rename_i nonEmpty
            rw [Text.any_isSurrogate_iff, ← ne_eq, Option.ne_none_iff_exists'] at noSurrogate
            obtain ⟨chars, read⟩ := noSurrogate
            have isText := Text.eq_ofChars_of_toChars? read
            refine ⟨chars, ?_, congrArg Value.string isText⟩
            intro empty
            exact nonEmpty (by rw [isText, empty]; rfl)
      · rintro ⟨chars, nonEmpty, same⟩
        cases same
        have noSurrogate : ¬(Text.ofChars chars).any Utf8.isSurrogate = true := by
          rw [Text.any_isSurrogate_iff, Text.toChars?_ofChars]
          simp
        rw [fileFault?, if_neg noSurrogate, if_neg (by simpa [Text.ofChars] using nonEmpty)]
  | _ => simp [fileFault?]

theorem lineFault?_eq_none_iff (value : Value) :
    lineFault? value = none ↔ ∃ number : Int, value = .int number ∧ 1 ≤ number := by
  cases value with
  | int number => simp [lineFault?]
  | _ => simp [lineFault?]

theorem bind_eq_none_iff_forall (found : Option Value) (fault : Value → Option Complaint) :
    found.bind fault = none ↔ ∀ value ∈ found, fault value = none := by
  cases found <;> simp

theorem elim_eq_none_iff_exists (found : Option Value) (fault : Value → Option Complaint) :
    found.elim (some .missing) fault = none ↔ ∃ value, found = some value ∧ fault value = none := by
  cases found <;> simp

theorem firstFault?_object_eq_none_iff (members : Members) :
    firstFault? (.object members) = none ↔ Admissible members := by
  rw [firstFault?, Option.or_eq_none_iff, findSome?_fault?_inOrder]
  simp only [Option.or_eq_none_iff, Field.fault?, bind_eq_none_iff_forall, elim_eq_none_iff_exists,
    textFault?_eq_none_iff, textOrNullFault?_eq_none_iff, fileFault?_eq_none_iff,
    lineFault?_eq_none_iff]
  constructor
  · rintro ⟨⟨isQualifiedName, isName, ⟨_, isFile, chars, nonEmpty, rfl⟩,
      ⟨_, isStart, start, rfl, positive⟩, ⟨_, isFinish, finish, rfl, -⟩⟩, ordered⟩
    refine ⟨isQualifiedName, isName, ⟨chars, nonEmpty, isFile⟩, start, finish, isStart, isFinish,
      positive, ?_⟩
    simpa [orderFault?, isStart, isFinish] using ordered
  · rintro ⟨isQualifiedName, isName, ⟨chars, nonEmpty, isFile⟩, start, finish, isStart, isFinish,
      positive, ordered⟩
    refine ⟨⟨isQualifiedName, isName, ⟨_, isFile, chars, nonEmpty, rfl⟩,
      ⟨_, isStart, start, rfl, positive⟩, ⟨_, isFinish, finish, rfl, by omega⟩⟩, ?_⟩
    simpa [orderFault?, isStart, isFinish] using ordered

theorem firstFault?_eq_none_iff (value : Value) : firstFault? value = none ↔ Admitted value := by
  cases value with
  | object members =>
      rw [firstFault?_object_eq_none_iff]
      constructor
      · intro admissible
        exact ⟨members, rfl, admissible⟩
      · rintro ⟨others, same, admissible⟩
        cases same
        exact admissible
  | _ =>
      constructor
      · intro accepted
        cases accepted
      · rintro ⟨members, same, -⟩
        cases same

theorem ends_batchOfValue (items : List Value) :
    Ends (List.Forall₂ (fun item function => ∃ members, item = .object members ∧
      Describes members function) items)
      (items.findSome? firstFault?) (batchOfValue (.array items)) :=
  ends_each ends_ofValue items 0

end SourceFunction

namespace Wire

open SourceFunction
open Utf8 (Bytes)

/-! ## Batches -/

theorem exists_readBatch_iff (value : Value) :
    (∃ batch, readBatch value = .ok batch) ↔
      ∃ items, value = .array items ∧ ∀ item ∈ items, Admitted item := by
  cases value with
  | array items =>
      have ends := ends_batchOfValue items
      have accepted : (∃ batch, readBatch (.array items) = .ok batch) ↔
          items.findSome? firstFault? = none := by
        rw [← ends.exists_ok_iff, readBatch]
        cases batchOfValue (.array items) <;> simp
      rw [accepted, List.findSome?_eq_none_iff]
      simp [firstFault?_eq_none_iff]
  | _ => simp [readBatch, batchOfValue, Validation.Checked.fail]

theorem describes_of_readBatch {value : Value} {batch : Batch}
    (isRead : readBatch value = .ok batch) :
    ∃ items, value = .array items ∧
      List.Forall₂ (fun item function => ∃ members, item = .object members ∧
        Describes members function)
        items batch := by
  cases value with
  | array items =>
      refine ⟨items, rfl, (ends_batchOfValue items).holds_of_ok ?_⟩
      unfold readBatch at isRead
      split at isRead
      · rename_i found isBatch
        cases isRead
        exact isBatch
      · cases isRead
  | _ => cases isRead

theorem complaint_of_readBatch {value : Value} {error : BatchError}
    (failed : readBatch value = .error error) :
    ∃ complaint, error = .invalidRecord complaint ∧
      ((∀ items, value ≠ .array items) ∧ complaint = .notList ∨
        ∃ front item rest, value = .array (front ++ item :: rest) ∧
          (∀ other ∈ front, Admitted other) ∧
          ¬Admitted item ∧ firstFault? item = some complaint) := by
  unfold readBatch at failed
  split at failed
  · cases failed
  · rename_i problems isError
    cases failed
    refine ⟨problems.first.complaint, rfl, ?_⟩
    cases value with
    | array items =>
        right
        obtain ⟨front, item, rest, rfl, isFault, noFault⟩ :=
          List.findSome?_eq_some_iff.mp ((ends_batchOfValue items).fault_of_error isError)
        refine ⟨front, item, rest, rfl, ?_, ?_, isFault⟩
        · intro other member
          exact (firstFault?_eq_none_iff other).mp (noFault other member)
        · rw [← firstFault?_eq_none_iff, isFault]
          simp
    | _ =>
        left
        cases isError
        exact ⟨by simp, rfl⟩

/-! ## Catalogs -/

theorem exists_mem_of_forall₂ {α β : Type} {related : α → β → Prop} {left : List α} {right : List β}
    (all : List.Forall₂ related left right) {value : β} (member : value ∈ right) :
    ∃ item ∈ left, related item value := by
  induction all with
  | nil => cases member
  | cons holds rest ih =>
      rcases List.mem_cons.mp member with rfl | inRest
      · exact ⟨_, List.mem_cons_self, holds⟩
      · obtain ⟨item, inLeft, isRelated⟩ := ih inRest
        exact ⟨item, List.mem_cons_of_mem _ inLeft, isRelated⟩

theorem exists_value_of_mem_readValues {values : List Value} {batch : Batch}
    (member : batch ∈ (readValues values).batches) : ∃ value, readBatch value = .ok batch := by
  induction values with
  | nil => cases member
  | cons value rest ih =>
      rw [readValues] at member
      cases isBatch : readBatch value with
      | error error =>
          rw [isBatch] at member
          cases member
      | ok found =>
          rw [isBatch] at member
          rcases List.mem_cons.mp member with rfl | inRest
          · exact ⟨value, isBatch⟩
          · exact ih inRest

theorem exists_value_of_mem_readPieces {stream : Stream} {pieces : List Bytes} {batch : Batch}
    (member : batch ∈ (readPieces stream pieces).2.batches) :
    ∃ value, readBatch value = .ok batch := by
  induction pieces generalizing stream with
  | nil => cases member
  | cons piece rest ih =>
      rw [readPieces] at member
      split at member
      · cases member
      · dsimp only at member
        split at member
        · exact exists_value_of_mem_readValues member
        · rcases List.mem_append.mp member with inFirst | inRest
          · exact exists_value_of_mem_readValues inFirst
          · exact ih inRest

theorem exists_value_of_mem_readWire {pieces : List Bytes} {batch : Batch}
    (member : batch ∈ (readWire pieces).batches) : ∃ value, readBatch value = .ok batch := by
  rcases isRead : readPieces .start pieces with ⟨last, reading⟩
  rw [readWire_of_readPieces isRead, Reading.andThen] at member
  have inPieces : batch ∈ reading.batches → ∃ value, readBatch value = .ok batch := by
    intro isThere
    have isRead' : reading = (readPieces .start pieces).2 := by rw [isRead]
    rw [isRead'] at isThere
    exact exists_value_of_mem_readPieces isThere
  split at member
  · exact inPieces member
  · rcases List.mem_append.mp member with inReading | inEnd
    · exact inPieces inReading
    · unfold readEnd at inEnd
      split at inEnd
      · cases inEnd
      · exact exists_value_of_mem_readValues inEnd

theorem exists_admissible_of_mem_catalogOf {pieces : List Bytes} {function : SourceFunction}
    (member : function ∈ (Channel.catalogOf (readWire pieces).batches).functions) :
    ∃ members, Admissible members ∧ Describes members function := by
  rw [Channel.catalogOf_eq] at member
  obtain ⟨batch, isBatch, inBatch⟩ := List.mem_flatten.mp member
  obtain ⟨value, isRead⟩ := exists_value_of_mem_readWire isBatch
  obtain ⟨items, rfl, described⟩ := describes_of_readBatch isRead
  obtain ⟨_, sameItems, admitted⟩ := (exists_readBatch_iff _).mp ⟨batch, isRead⟩
  cases sameItems
  obtain ⟨item, isItem, members, rfl, describes⟩ := exists_mem_of_forall₂ described inBatch
  obtain ⟨_, sameMembers, admissible⟩ := admitted _ isItem
  cases sameMembers
  exact ⟨members, admissible, describes⟩

/-! ## Admission -/

theorem readBatch_admits_exactly (value : Value) (pieces : List Bytes) :
    ((∃ batch, readBatch value = .ok batch) ↔
      ∃ items, value = .array items ∧ ∀ item ∈ items, Admitted item) ∧
    (∀ batch, readBatch value = .ok batch → ∃ items, value = .array items ∧
      List.Forall₂ (fun item function => ∃ members, item = .object members ∧
        Describes members function)
        items batch) ∧
    (∀ error, readBatch value = .error error → ∃ complaint,
      Failure.ofBatchError error =
        .analyzer ("analyzer sent an invalid function record: " ++ complaint.message) none [] ∧
      ((∀ items, value ≠ .array items) ∧ complaint.message = "Input should be a valid list" ∨
        ∃ front item rest, value = .array (front ++ item :: rest) ∧
          (∀ other ∈ front, Admitted other) ∧
          ¬Admitted item ∧ firstFault? item = some complaint)) ∧
    ∀ function ∈ (Channel.catalogOf (readWire pieces).batches).functions,
      1 ≤ function.startLine ∧ function.startLine ≤ function.endLine ∧ function.file.text ≠ "" ∧
        ∃ members, Admissible members ∧ Describes members function := by
  refine ⟨exists_readBatch_iff value, fun batch isRead => describes_of_readBatch isRead, ?_, ?_⟩
  · intro error failed
    obtain ⟨complaint, rfl, cause⟩ := complaint_of_readBatch failed
    refine ⟨complaint, rfl, ?_⟩
    rcases cause with ⟨notArray, rfl⟩ | bad
    · exact .inl ⟨notArray, rfl⟩
    · exact .inr bad
  · intro function member
    exact ⟨function.one_le_start, function.start_le_end, function.file.ne_empty,
      exists_admissible_of_mem_catalogOf member⟩

/-- Both spellings of a name, of which the good one counts, and a member that no field has. -/
def twoSpellings : Value :=
  .object [("qualified_name", .bool true), ("ControllerName", .string "GET /"),
    ("file", .string "f"), ("StartLine", .int 2), ("end_line", .int 2), ("Extra", .null)]

/-- Both spellings of a line, of which the bad one counts, and lines in the wrong order. -/
def lineZero : Value :=
  .object [("Filename", .string "f"), ("StartLine", .int 7), ("end_line", .int 9),
    ("EndLine", .int 0)]

/-- A name with a surrogate that stands alone. -/
def surrogateName : Value :=
  .object [("ControllerName", .string [.surrogate ⟨0x400, by decide⟩, .char 'x']),
    ("Filename", .string "f"), ("StartLine", .int 1), ("EndLine", .int 2)]

theorem readBatch_admits_twoSpellings :
    (∃ items, Value.array [twoSpellings, surrogateName] = .array items ∧
      ∀ item ∈ items, Admitted item) ∧
      (∃ items, Value.array [twoSpellings, surrogateName] = .array items ∧
        List.Forall₂ (fun item function => ∃ members, item = .object members ∧
          Describes members function) items
          [⟨some "GET /", "", ⟨"f", by decide⟩, 2, 2, by decide, by decide⟩,
            ⟨some [.surrogate ⟨0x400, by decide⟩, .char 'x'], "", ⟨"f", by decide⟩, 1, 2,
              by decide, by decide⟩]) ∧
      (∃ complaint, Failure.ofBatchError (.invalidRecord (.below 1)) =
          .analyzer ("analyzer sent an invalid function record: " ++ complaint.message) none [] ∧
        ((∀ items, Value.array [twoSpellings, lineZero] ≠ .array items) ∧
            complaint.message = "Input should be a valid list" ∨
          ∃ front item rest, Value.array [twoSpellings, lineZero] = .array (front ++ item :: rest) ∧
            (∀ other ∈ front, Admitted other) ∧ ¬Admitted item ∧
              firstFault? item = some complaint)) ∧
      ∀ function ∈ awkwardBatches.flatten, ∃ members, Admissible members ∧
        Describes members function := by
  obtain ⟨accepted, described, -⟩ :=
    readBatch_admits_exactly (.array [twoSpellings, surrogateName]) []
  obtain ⟨-, -, refused, catalogs⟩ :=
    readBatch_admits_exactly (.array [twoSpellings, lineZero]) [Channel.awkwardWire]
  have isRead : readWire [Channel.awkwardWire] = ⟨awkwardBatches, none⟩ := by
    rw [readWire_eq_iff, List.flatten_singleton]
    exact Channel.carries_awkwardWire
  refine ⟨accepted.mp ⟨_, rfl⟩, described _ rfl, refused _ rfl, ?_⟩
  intro function member
  rw [isRead, Channel.catalogOf_eq] at catalogs
  exact (catalogs function member).2.2.2

theorem readBatch_surrogateName_ok :
    ¬((∃ batch, readBatch (.array [surrogateName]) = .ok batch) ↔
      ∃ items, Value.array [surrogateName] = .array items ∧ ∀ item ∈ items, ∃ members,
        item = .object members ∧ Admissible members ∧ ∀ (field : Field) (text : Text),
          field.value? members = some (.string text) → text.any Utf8.isSurrogate = false) := by
  intro exactly
  obtain ⟨_, same, wholeItems⟩ := exactly.mp ⟨_, rfl⟩
  cases same
  obtain ⟨_, isObject, -, noSurrogate⟩ := wholeItems surrogateName (by simp)
  cases isObject
  cases noSurrogate .qualifiedName _ rfl

end Wire

end ChangeImpact
