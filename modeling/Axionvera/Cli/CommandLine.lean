import Axionvera.Foundation.KeyedCells
import Axionvera.Foundation.TokenReader

/-! The command line (`parseArgs` of `bin/commands/shared.js`): flags, options with their values and
positional arguments, and what is found of them afterwards.
-/

namespace Axionvera.Cli

open Axionvera.Foundation

/-- A text of a command line. -/
abbrev Token := List Char

/-- It can be computed whether a text is one of several. -/
scoped instance decidableMemTokens (token : Token) (tokens : List Token)
    : Decidable (token ∈ tokens) :=
  inferInstance

/-- The properties that every object has. -/
def inheritedNames : List Token :=
  ["constructor", "__proto__", "__defineGetter__", "__defineSetter__", "__lookupGetter__",
    "__lookupSetter__", "hasOwnProperty", "isPrototypeOf", "propertyIsEnumerable",
    "toLocaleString", "toString", "valueOf"].map String.toList

/-- `spec`. What is collected in arrays has no name that every object has. -/
structure ArgsSpec where
  aliases : List (Token × Token) := []
  booleans : List Token := []
  arrays : List Token := []
  areOwn : ∀ key ∈ arrays, key ∉ inheritedNames := by decide

/-- The value of a flag. -/
inductive FlagValue where
  | yes
  | text (value : Token)
  | texts (values : List Token)
  deriving DecidableEq

/-- What `parseArgs` returns. -/
structure ParsedArgs where
  flags : InsertionMap Token FlagValue
  positionals : List Token

/-- `token.replace(/^--?/, "")`. -/
def withoutDashes : Token → Token
  | '-' :: '-' :: name => name
  | '-' :: name => name
  | name => name

/-- `aliases[token] || token.replace(/^--?/, "")`. -/
def ArgsSpec.keyOf (spec : ArgsSpec) (name : Token) : Token :=
  (((spec.aliases.find? (·.1 = name)).map Prod.snd).filter (· ≠ [])).getD (withoutDashes name)

/-- What a token says in front of its first `=`. -/
def nameOf (token : Token) : Token :=
  token.takeWhile (· ≠ '=')

/-- What a token says behind its first `=`, if it has one. -/
def inlineValue (token : Token) : Option Token :=
  match token.dropWhile (· ≠ '=') with
  | '=' :: value => some value
  | _ => none

/-- `token.startsWith("-")`. -/
def isOption (token : Token) : Bool :=
  token.head? = some '-'

/-- The property that holds the prototype of an object. -/
def protoKey : Token :=
  "__proto__".toList

/-- `flags[key] = value`, which does nothing for the property `__proto__`. -/
def ParsedArgs.assign (parsed : ParsedArgs) (key : Token) (value : FlagValue) : ParsedArgs :=
  if key = protoKey then parsed
  else { parsed with flags := parsed.flags.set key value }

/-- The values collected so far, and one more. -/
def collected (value : Token) : Option FlagValue → FlagValue
  | some (.texts values) => .texts (values ++ [value])
  | _ => .texts [value]

/-- The value of an option is collected, or replaces the one before. -/
def ParsedArgs.add (spec : ArgsSpec) (parsed : ParsedArgs) (key value : Token) : ParsedArgs :=
  if key ∈ spec.arrays then parsed.assign key (collected value (parsed.flags.get key))
  else parsed.assign key (.text value)

/-- The message of `fail` for an option without a value. -/
def missingValue (name : Token) : String :=
  "Missing value for option \"" ++ String.ofList name ++ "\"."

/-- The loop of `parseArgs`, from what has been parsed on. The error is the message of `fail`. -/
def ArgsSpec.parseFrom (spec : ArgsSpec) : ParsedArgs → List Token → Except String ParsedArgs
  | parsed, [] => .ok parsed
  | parsed, token :: rest =>
      if isOption token then
        if spec.keyOf (nameOf token) ∈ spec.booleans then
          spec.parseFrom (parsed.assign (spec.keyOf (nameOf token)) .yes) rest
        else
          match inlineValue token with
          | some value => spec.parseFrom (parsed.add spec (spec.keyOf (nameOf token)) value) rest
          | none =>
              match rest with
              | [] => .error (missingValue (nameOf token))
              | value :: rest =>
                  spec.parseFrom (parsed.add spec (spec.keyOf (nameOf token)) value) rest
      else spec.parseFrom { parsed with positionals := parsed.positionals ++ [token] } rest

/-- `parseArgs`. -/
def ArgsSpec.parseArgs (spec : ArgsSpec) (argv : List Token) : Except String ParsedArgs :=
  spec.parseFrom ⟨.empty, []⟩ argv

end Axionvera.Cli
