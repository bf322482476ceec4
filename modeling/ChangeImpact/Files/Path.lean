import ChangeImpact.Text.Lines
/-!
# Paths

A path is a text of parts between slashes. A single point names the directory where it stands and
two points the one above.
-/
set_option autoImplicit false

namespace ChangeImpact.Path

def parts (path : Text) : List Text :=
  (Lines.pieces (.char '/') path).filter (!·.isEmpty)

/-- The parts that lead somewhere else: all but single points. -/
def components (path : Text) : List Text :=
  (parts path).filter (· ≠ Text.ofString ".")

def isAbsolute (path : Text) : Bool :=
  path.head? = some (.char '/')

/-- The slashes that a path keeps at its front: two stay two, and more become one. -/
def frontSlashes : Text → Text
  | .char '/' :: .char '/' :: .char '/' :: _ => "/"
  | .char '/' :: .char '/' :: _ => "//"
  | .char '/' :: _ => "/"
  | _ => []

def tidy (path : Text) : Text :=
  let tidied := frontSlashes path ++ Text.joinWith "/" (components path)
  if tidied.isEmpty then "." else tidied

/-! ## Variables -/

def isNamePoint (point : CodePoint) : Bool :=
  match point with
  | .char c => c.isAlphanum || c = '_'
  | .surrogate _ => false

/-- The name of a variable after a dollar sign, perhaps in braces, and how much text it takes. -/
def variableName? : Text → Option (Text × Nat)
  | .char '\x7b' :: rest =>
      let name := rest.takeWhile (· ≠ .char '\x7d')
      if name.length < rest.length then some (name, name.length + 2) else none
  | text =>
      let name := text.takeWhile isNamePoint
      if name.isEmpty then none else some (name, name.length)

/-- A path with the values of variables in place of their names, of which the first `skip` code
points belong to a name before. A name without a value stays. -/
def expandFrom (values : List (Text × Text)) (skip : Nat) : Text → Text
  | [] => []
  | point :: rest =>
      match skip with
      | skip + 1 => expandFrom values skip rest
      | 0 =>
          let found := if point = '$' then variableName? rest else none
          match found.bind fun (name, length) =>
            (values.find? (·.1 = name)).map fun found => (found.2, length) with
          | some (value, length) => value ++ expandFrom values length rest
          | none => point :: expandFrom values 0 rest

def expandHome (values : List (Text × Text)) (path : Text) : Text :=
  match path, values.find? (·.1 = Text.ofString "HOME") with
  | .char '~' :: rest, some (_, home) =>
      if rest.isEmpty || isAbsolute rest then
        let expanded := (home.reverse.dropWhile (· = .char '/')).reverse ++ rest
        if expanded.isEmpty then "/" else expanded
      else path
  | _, _ => path

def expand (values : List (Text × Text)) (path : Text) : Text :=
  expandFrom values 0 (expandHome values path)

/-! ## Length -/

/-- The bytes that a code point takes in a path; a surrogate stands for a byte that writes no
character. -/
def pointSize (point : CodePoint) : Nat :=
  match point with
  | .surrogate _ => 1
  | .char c =>
      if c.toNat < 0x80 then 1
      else if c.toNat < 0x800 then 2
      else if c.toNat < 0x10000 then 3
      else 4

def size (text : Text) : Nat :=
  text.foldl (fun total point => total + pointSize point) 0

def longestPart : Nat := 255

def longest : Nat := 4095

end ChangeImpact.Path
