import ChangeImpact.Console.Colour
import ChangeImpact.Text.Blank
/-!
# Styles

A style switches effects on or off, and perhaps the colour of the text, that of the ground, and a
link. It is defined by words between blanks; from a style its definition can be written again, in
which every effect has its full name and its place. Of two styles over each other the inner one
wins.
-/
set_option autoImplicit false

namespace ChangeImpact.Console

inductive Effect where
  | bold
  | dim
  | italic
  | underline
  | blink
  | fastBlink
  | reverse
  | conceal
  | strike
  | doubleUnderline
  | frame
  | encircle
  | overline
  deriving DecidableEq

namespace Effect

/-- The effects in the order in which they are written, each with its name and its code. -/
def all : List (Effect × String × String) :=
  [(bold, "bold", "1"), (dim, "dim", "2"), (italic, "italic", "3"), (underline, "underline", "4"),
    (blink, "blink", "5"), (fastBlink, "blink2", "6"), (reverse, "reverse", "7"),
    (conceal, "conceal", "8"), (strike, "strike", "9"), (doubleUnderline, "underline2", "21"),
    (frame, "frame", "51"), (encircle, "encircle", "52"), (overline, "overline", "53")]

def shortNames : List (String × Effect) :=
  [("b", bold), ("d", dim), ("i", italic), ("u", underline), ("r", reverse), ("c", conceal),
    ("s", strike), ("uu", doubleUnderline), ("o", overline)]

def ofWord? (word : Text) : Option Effect :=
  ((all.find? (Text.ofString ·.2.1 = word)).map Prod.fst).or
    ((shortNames.find? (Text.ofString ·.1 = word)).map Prod.snd)

end Effect

structure Style where
  /-- The effects that are set, the latest setting of each first. -/
  settings : List (Effect × Bool)
  colour : Option Colour
  ground : Option Colour
  link : Option Text
  deriving DecidableEq

namespace Style

def plain : Style := ⟨[], none, none, none⟩

def coloured (name : String) : Style := { plain with colour := some (.named name) }

def setting? (style : Style) (effect : Effect) : Option Bool :=
  (style.settings.find? (·.1 = effect)).map Prod.snd

def combine (outer inner : Style) : Style :=
  ⟨inner.settings ++ outer.settings, inner.colour.or outer.colour, inner.ground.or outer.ground,
    inner.link.or outer.link⟩

/-! ## Definitions -/

def ofWordsFrom (style : Style) : List Text → Except ColourError Style
  | [] => .ok style
  | [word] =>
      match Effect.ofWord? (Text.lower word) with
      | some effect => .ok { style with settings := (effect, true) :: style.settings }
      | none =>
          match Colour.ofWord word with
          | .ok colour => .ok { style with colour := some colour }
          | .error error => .error error
  | word :: next :: rest =>
      let key := Text.lower word
      if key = "on" then
        match Colour.ofWord next with
        | .ok colour => ofWordsFrom { style with ground := some colour } rest
        | .error error => .error error
      else if key = "not" then
        match Effect.ofWord? next with
        | some effect =>
            ofWordsFrom { style with settings := (effect, false) :: style.settings } rest
        | none => .error .unknown
      else if key = "link" then ofWordsFrom { style with link := some next } rest
      else
        match Effect.ofWord? key with
        | some effect =>
            ofWordsFrom { style with settings := (effect, true) :: style.settings } (next :: rest)
        | none =>
            match Colour.ofWord word with
            | .ok colour => ofWordsFrom { style with colour := some colour } (next :: rest)
            | .error error => .error error

def ofDefinition (text : Text) : Except ColourError Style :=
  if Text.words text = [Text.ofString "none"] then .ok plain
  else ofWordsFrom plain (Text.words text)

def settingWords (style : Style) : List Text :=
  Effect.all.flatMap fun (effect, name, _) =>
    match style.setting? effect with
    | some true => [Text.ofString name]
    | some false => [Text.ofString "not", Text.ofString name]
    | none => []

def definition (style : Style) : List Text :=
  let words :=
    style.settingWords ++ (style.colour.map Colour.name).toList ++
      (match style.ground with
      | some colour => [Text.ofString "on", colour.name]
      | none => []) ++
      (match style.link with
      | some target => [Text.ofString "link", target]
      | none => [])
  if words.isEmpty then [Text.ofString "none"] else words

/-! ## Writing -/

def codes (style : Style) : List String :=
  (Effect.all.filter fun (effect, _) => style.setting? effect = some true).map (·.2.2) ++
    ((style.colour.map (Colour.codes false)).getD [] ++
      (style.ground.map (Colour.codes true)).getD [])

end Style

end ChangeImpact.Console
