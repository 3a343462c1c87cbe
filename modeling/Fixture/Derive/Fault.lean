import Fixture.Derive.Token

/-! # Faults of definitions

    Why nothing is derived for a definition, and what is said about it. -/

namespace Fixture.Derive

/-- Why nothing is derived. -/
inductive Fault where
  | unnamedFields
  | notStructure
  /-- The value of an entry is no text. -/
  | notString (key : String)
  | emptyName
  /-- Something else stands where `what` should; `ends` tells that nothing does. -/
  | expected (what : String) (ends : Bool)
  /-- Something stands where nothing should, inside of a group or not. -/
  | unexpected (within : Option Delimiter)
  /-- A word that is reserved stands where a name should. -/
  | reserved (word : String)
  /-- The key of an entry is something else than a path. -/
  | notKey (found : String)
  /-- A text has letters behind its closing quote. -/
  | suffix (letters : String)
  /-- The attribute says nothing. -/
  | noEntries
  /-- The attribute has a value instead of entries. -/
  | notEntries
  /-- A text is no sequence of tokens. -/
  | notTokens
deriving DecidableEq, Repr

def Fault.message : Fault → String
  | .unnamedFields => "Bindable requires named fields"
  | .notStructure => "Bindable can only be derived for structs"
  | .notString key => key ++ " must be a string"
  | .emptyName => "rename must not be empty"
  | .expected what ends =>
      (if ends then "unexpected end of input, " else "") ++ "expected " ++ what
  | .unexpected none => "unexpected token"
  | .unexpected (some .parenthesis) => "unexpected token, expected `)`"
  | .unexpected (some .bracket) => "unexpected token, expected `]`"
  | .unexpected (some .brace) => "unexpected token, expected `\x7d`"
  | .reserved word => "expected identifier, found keyword `" ++ word ++ "`"
  | .notKey found => "unexpected " ++ found ++ " in nested attribute, expected ident"
  | .suffix letters => "unexpected suffix `" ++ letters ++ "` on string literal"
  | .noEntries => "expected attribute arguments in parentheses: #[bind(...)]"
  | .notEntries => "expected parentheses: #[bind(...)]"
  | .notTokens => "cannot parse string into token stream"

end Fixture.Derive
