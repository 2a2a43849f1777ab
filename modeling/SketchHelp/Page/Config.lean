import SketchHelp.Json.Value

/-!
Where help pages live and how they are shown. The base address is not empty and the font
size is positive, and both are so by type. The font size is the only thing that changes
later on, whenever the editor's user picks another. Its text is taken to be written in
any size: the limit on the digits of a number is left out of account for font sizes, which
are a few points in practice.
-/

namespace SketchHelp

structure Config where
  base : Text
  embed : Bool
  fontSize : Nat
  base_ne_nil : base ≠ []
  fontSize_pos : 0 < fontSize

namespace Config

inductive Fault where
  | emptyBase
  /-- The font size is no whole number, but of the kind that `word` names. -/
  | fontSizeKind (word : Text)
  | fontSizeNotPositive (size : Int)
  deriving DecidableEq, Repr

def Fault.message : Fault → Text
  | .emptyBase => Text.ofString "base_address cannot be empty"
  | .fontSizeKind word => Text.ofString "font_size must be an int, got " ++ word
  | .fontSizeNotPositive size => Text.orLimit do
    return Text.ofString "font_size must be positive, got " ++ (← Text.ofInt? size)

def defaultBase : Text :=
  Text.ofString "http://139.147.9.247/"

def defaultFontSize : Nat := 12

/-- Keys of the parameters that tell a page how to show itself. -/
def embedKey : Text := Text.ofString "embed"

def fontSizeKey : Text := Text.ofString "fontsize"

/-- A font size out of whatever was asked for. True and false are no numbers here. -/
def fontSizeOf (value : Value) : Except Fault { size : Nat // 0 < size } :=
  match value with
  | .int n =>
    if h : 0 < n then .ok ⟨n.toNat, by omega⟩ else .error (.fontSizeNotPositive n)
  | value => .error (.fontSizeKind value.kindWord)

/-- The base address is checked before the font size. -/
def make (base : Text) (embed : Bool) (fontSize : Value) : Except Fault Config :=
  if h : base = [] then .error .emptyBase
  else do
    let size ← fontSizeOf fontSize
    return ⟨base, embed, size.1, h, size.2⟩

def withFontSize (config : Config) (value : Value) : Except Fault Config := do
  let size ← fontSizeOf value
  return { config with fontSize := size.1, fontSize_pos := size.2 }

/-- Parameters that every page address carries: none unless pages are embedded. -/
def globalParameters (config : Config) : List (Text × Text) :=
  if config.embed then
    [(embedKey, Text.ofString "true"), (fontSizeKey, Text.ofNat config.fontSize)]
  else []

/-- A configuration as it is shown to whoever inspects it. -/
def display (config : Config) : Text :=
  Text.ofString "ResolverConfig(" ++ config.base.quoted ++ Text.ofString ", embed_mode=" ++
    Value.boolWord config.embed ++ Text.ofString ", font_size=" ++
    Text.ofNat config.fontSize ++ Text.ofString ")"

end Config

end SketchHelp
