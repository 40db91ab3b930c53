import Munch.NewtonScript.Rules
import Munch.Render.Json
import Munch.Render.Listing
import Munch.Render.Xml

/-!
# Writing out token lists

A token list is written out in one of three formats.  Each of them shows the category and the
spelling of every token, in order, and leaves out the places.
-/

namespace Munch

/-- The formats in which token lists are written out. -/
inductive Format where
  | xml
  | json
  | array
  deriving DecidableEq

namespace Format

/-- The name of a format. -/
def name : Format → String
  | xml => "xml"
  | json => "json"
  | array => "array"

/-- The format with exactly the given name. -/
def ofName? (name : String) : Option Format :=
  if name = "xml" then some xml
  else if name = "json" then some json
  else if name = "array" then some array
  else none

end Format

/-- Why a text could not be lexed and written out. -/
inductive RenderError where
  /-- The text has no division into tokens. -/
  | lex (error : LexError)
  /-- There is no format with this name. -/
  | unknownFormat (name : String)
  deriving DecidableEq

/-- The error in words. -/
def RenderError.message : RenderError → String
  | lex error => error.message
  | unknownFormat name => "unknown output format `" ++ name ++ "` (expected xml, json or array)"

/-- The format with the given name, in whatever case the letters of the name are. -/
def Format.parse (name : String) : Except RenderError Format :=
  match ofName? (String.ofList (name.toList.map Char.toLower)) with
  | some format => .ok format
  | none => .error (.unknownFormat name)

namespace Render

/-- A list of tokens, given as category and spelling, in a format. -/
def render (format : Format) (entries : List (Text × Text)) : Text :=
  match format with
  | .xml => Xml.render entries
  | .json => Json.render entries
  | .array => Listing.render entries

/-- The category and the spelling of a token. -/
def entry {κ : Type} [ToString κ] (token : Token κ) : Text × Text :=
  ((toString token.kind).toList, token.text)

/-- A list of tokens in a format. -/
def tokens {κ : Type} [ToString κ] (format : Format) (tokens : List (Token κ)) : Text :=
  render format (tokens.map entry)

end Render

/-- The tokens of a NewtonScript text in a format. -/
def NewtonScript.render (format : Format) (input : Text) : Except RenderError Text :=
  ((tokenize {} input).mapError .lex).map (Render.tokens format)

end Munch
