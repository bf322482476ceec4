import ChangeImpact.Proofs.Json.Writer
import ChangeImpact.Wire.Batch
/-!
# Records of functions, written and read

A record is written as an object with one member for each field, in any order, and is read back as
the function that it was written from.
-/
set_option autoImplicit false

namespace ChangeImpact

open Json (Value Members)
open Validation

namespace Validation

variable {α : Type} {members : Members} {name : String} {names : List String} {value : Value}
  {check : Value → Checked α} {result : α}

theorem lookup?_of_get? (isThere : members.get? (Text.ofString name) = some value) :
    lookup? members (name :: names) = some (name, value) := by
  rw [lookup?, List.findSome?_cons, isThere]
  rfl

theorem required_of_get? (isThere : members.get? (Text.ofString name) = some value)
    (checked : check value = .ok result) : required (name :: names) check members = .ok result := by
  rw [required, lookup?_of_get? isThere]
  simp only [checked, Checked.under]

theorem optional_of_get? {default : α} (isThere : members.get? (Text.ofString name) = some value)
    (checked : check value = .ok result) :
    optional (name :: names) default check members = .ok result := by
  rw [optional, lookup?_of_get? isThere]
  simp only [checked, Checked.under]

theorem each_of_forall₂ {β : Type} {check : α → Checked β} {items : List α} {results : List β}
    (checked : List.Forall₂ (fun result item => check item = .ok result) results items)
    (start : Nat) :
    Checked.each check start items = .ok results := by
  induction checked generalizing start with
  | nil => rfl
  | cons isChecked _ ih =>
      rw [Checked.each, isChecked, ih]
      rfl

end Validation

namespace SourceFunction

def qualifiedNameValue (function : SourceFunction) : Value :=
  match function.qualifiedName with
  | some name => .string name
  | none => .null

/-- The members of a record, in the order in which the analyzer writes them. -/
def members (function : SourceFunction) : Members :=
  [(Text.ofString "ControllerName", function.qualifiedNameValue),
    (Text.ofString "FunctionName", .string function.name),
    (Text.ofString "Filename", .string (Text.ofString function.file.text)),
    (Text.ofString "StartLine", .int function.startLine),
    (Text.ofString "EndLine", .int function.endLine)]

theorem toValue_eq (function : SourceFunction) : function.toValue = .object function.members := rfl

theorem nodup_keys_members (function : SourceFunction) : (Members.keys function.members).Nodup := by
  have distinct : (["ControllerName", "FunctionName", "Filename", "StartLine", "EndLine"].map
      Text.ofString).Nodup := by decide
  exact distinct

theorem textOrNull_qualifiedNameValue (function : SourceFunction) :
    plain textOrNull function.qualifiedNameValue = .ok function.qualifiedName := by
  unfold qualifiedNameValue
  cases function.qualifiedName <;> rfl

theorem nonEmptyString_ofString (file : NonEmptyString) :
    plain nonEmptyString (.string (Text.ofString file.text)) = .ok file := by
  have found : NonEmptyString.ofString? file.text = some file := by
    rw [NonEmptyString.ofString?, dif_neg file.ne_empty]
  simp only [plain, nonEmptyString, Text.toString?_ofString, found]

theorem lineNumber_int {line : Nat} (positive : 1 ≤ line) :
    plain lineNumber (.int line) = .ok ⟨line, positive⟩ := by
  simp only [plain, lineNumber, Int.toNat_natCast, dif_pos positive]

theorem ofMembers_of_get? {function : SourceFunction} {members : Members}
    (isThere : ∀ key value, (key, value) ∈ function.members → members.get? key = some value) :
    ofMembers members = .ok function := by
  have readQualified : optional qualifiedNameKeys none (plain textOrNull) members =
      .ok function.qualifiedName :=
    optional_of_get? (isThere _ _ (by simp [SourceFunction.members]))
      (textOrNull_qualifiedNameValue function)
  have readName : optional nameKeys [] (plain text) members = .ok function.name :=
    optional_of_get? (isThere _ (.string function.name) (by simp [SourceFunction.members])) rfl
  have readFile : required fileKeys (plain nonEmptyString) members = .ok function.file :=
    required_of_get? (isThere _ _ (by simp [SourceFunction.members]))
      (nonEmptyString_ofString function.file)
  have readStart : required startLineKeys (plain lineNumber) members =
      .ok ⟨function.startLine, function.one_le_start⟩ :=
    required_of_get? (isThere _ _ (by simp [SourceFunction.members]))
      (lineNumber_int function.one_le_start)
  have one_le_end : 1 ≤ function.endLine := Nat.le_trans function.one_le_start function.start_le_end
  have readEnd :
      required endLineKeys (plain lineNumber) members = .ok ⟨function.endLine, one_le_end⟩ :=
    required_of_get? (isThere _ _ (by simp [SourceFunction.members])) (lineNumber_int one_le_end)
  rw [ofMembers, readQualified, readName, readFile, readStart, readEnd]
  simp only [Checked.both, dif_pos function.start_le_end]

theorem ofValue_of_perm {function : SourceFunction} {members : Members}
    (sameMembers : members.Perm function.members) : ofValue (.object members) = .ok function := by
  have distinct : (Members.keys members).Nodup :=
    (sameMembers.map Prod.fst).nodup_iff.mpr function.nodup_keys_members
  apply ofMembers_of_get?
  intro key value member
  exact Json.get?_of_mem distinct (sameMembers.mem_iff.mpr member)

/-! ## The text of a record -/

/-- The text is an object with the members of the record, in any order. -/
def WritesRecord (function : SourceFunction) (text : List Char) : Prop :=
  ∃ members, members.Perm function.members ∧ Json.WritesList Json.WritesMember '{' '}' members text

/-- The numbers of the lines have no more digits than are read. -/
def ShortLines (function : SourceFunction) : Prop :=
  (Nat.toDigits 10 function.endLine).length ≤ Numeral.digitLimit

instance (function : SourceFunction) : Decidable function.ShortLines :=
  inferInstanceAs (Decidable (_ ≤ _))

theorem shortNumber_of_le {function : SourceFunction} (short : function.ShortLines) {line : Nat}
    (before : line ≤ function.endLine) : Json.ShortNumber (.int line) := by
  intro number same
  have sameNumber : line = number := Int.ofNat.inj (Value.int.inj same)
  have limit := (Nat.length_toDigits_le_iff (by decide) (by decide)).mp short
  rw [← sameNumber, Nat.length_toDigits_le_iff (by decide) (by decide)]
  exact Nat.lt_of_le_of_lt before limit

theorem shortNumber_of_mem {function : SourceFunction} (short : function.ShortLines)
    {member : Text × Value} (isMember : member ∈ function.members) : Json.ShortNumber member.2 := by
  simp only [members, List.mem_cons, List.not_mem_nil, or_false] at isMember
  rcases isMember with rfl | rfl | rfl | rfl | rfl
  · intro number same
    unfold qualifiedNameValue at same
    split at same <;> cases same
  · nofun
  · nofun
  · exact shortNumber_of_le short function.start_le_end
  · exact shortNumber_of_le short (Nat.le_refl _)

theorem exists_value_of_writesRecord {function : SourceFunction} (short : function.ShortLines)
    {text : List Char} (isWritten : function.WritesRecord text) :
    ∃ value, Json.Denotes (Text.ofChars text) (.value value) ∧ ofValue value = .ok function := by
  obtain ⟨members, sameMembers, isObject⟩ := isWritten
  have distinct : (Members.keys members).Nodup :=
    (sameMembers.map Prod.fst).nodup_iff.mpr function.nodup_keys_members
  have shortMembers : ∀ member ∈ members, Json.ShortNumber member.2 :=
    fun member isMember => shortNumber_of_mem short (sameMembers.mem_iff.mp isMember)
  exact ⟨.object members, Json.denotes_of_writesObject isObject shortMembers distinct,
    ofValue_of_perm sameMembers⟩

/-- The names hold no lone surrogates. -/
structure Encodable (function : SourceFunction) : Prop where
  qualifiedName : ∀ name ∈ function.qualifiedName, ∃ chars, name = Text.ofChars chars
  name : ∃ chars, function.name = Text.ofChars chars

theorem writesRecord_writeValue (asciiOnly : Bool) {function : SourceFunction}
    (encodable : function.Encodable) :
    function.WritesRecord (Json.writeValue asciiOnly function.toValue) := by
  rw [toValue_eq]
  refine ⟨function.members, .refl _, Json.writesList_writeObject (by simp [members]) ?_⟩
  intro member isMember
  simp only [members, List.mem_cons, List.not_mem_nil, or_false] at isMember
  rcases isMember with rfl | rfl | rfl | rfl | rfl
  · refine ⟨⟨_, rfl⟩, ?_⟩
    unfold qualifiedNameValue
    split
    · rename_i name isName
      obtain ⟨chars, rfl⟩ := encodable.qualifiedName name isName
      exact Json.writesScalar_string asciiOnly chars
    · exact Json.writesScalar_null asciiOnly
  · obtain ⟨chars, isName⟩ := encodable.name
    rw [isName]
    exact ⟨⟨_, rfl⟩, Json.writesScalar_string asciiOnly chars⟩
  · exact ⟨⟨_, rfl⟩, Json.writesScalar_string asciiOnly _⟩
  · exact ⟨⟨_, rfl⟩, Json.writesScalar_number asciiOnly function.startLine⟩
  · exact ⟨⟨_, rfl⟩, Json.writesScalar_number asciiOnly function.endLine⟩

end SourceFunction

end ChangeImpact
