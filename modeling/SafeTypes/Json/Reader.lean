import SafeTypes.Json

/-! Reading JSON values made of texts, arrays and objects. The characters are cut into tokens
one by one, and the tokens are put together one by one beside the arrays and objects that are
still open. -/
namespace SafeTypes.Json

inductive Token where
  | text (content : String)
  | openArray
  | closeArray
  | openObject
  | closeObject
  | comma
  | colon
  deriving DecidableEq

/-- The tokens of one character. -/
def Token.ofMark? : Char → Option Token
  | '[' => some .openArray
  | ']' => some .closeArray
  | '\x7b' => some .openObject
  | '\x7d' => some .closeObject
  | ',' => some .comma
  | ':' => some .colon
  | _ => none

/-- What may stand between two tokens. -/
def isGap (c : Char) : Bool :=
  c = ' ' || c = '\t' || c = '\n' || c = '\r'

/-- The value of a hexadecimal digit, in either case. -/
def digit? (c : Char) : Option Nat :=
  if '0' ≤ c ∧ c ≤ '9' then some (c.toNat - 48)
  else if 'a' ≤ c ∧ c ≤ 'f' then some (c.toNat - 87)
  else if 'A' ≤ c ∧ c ≤ 'F' then some (c.toNat - 55)
  else none

/-- The character that a single letter behind a backslash stands for. -/
def abbreviated? : Char → Option Char
  | '"' => some '"'
  | '\\' => some '\\'
  | '/' => some '/'
  | 'b' => some '\x08'
  | 'f' => some '\x0c'
  | 'n' => some '\n'
  | 'r' => some '\r'
  | 't' => some '\t'
  | _ => none

/-- Where in a text the next character stands. Inside quotes the content so far is kept. -/
inductive Place where
  | between
  | quoted (content : List Char)
  /-- Behind a backslash. -/
  | escaped (content : List Char)
  /-- In the digits of a code unit, with so many to come behind the next. -/
  | digits (content : List Char) (high : Option Nat) (missing value : Nat)
  /-- Behind the high code unit of a pair. -/
  | paired (content : List Char) (high : Nat)
  /-- Behind the backslash of the low code unit of a pair. -/
  | pairedEscaped (content : List Char) (high : Nat)

namespace Place

/-- A code unit that is no surrogate is a character of its own. The others come in pairs, the
high one first. -/
def behindUnit (content : List Char) (high : Option Nat) (unit : Nat) : Option Place :=
  match high with
  | none =>
      if unit < 0xD800 ∨ 0xE000 ≤ unit then some (.quoted (content ++ [Char.ofNat unit]))
      else if unit < 0xDC00 then some (.paired content unit)
      else none
  | some high =>
      if 0xDC00 ≤ unit ∧ unit < 0xE000 then
        some (.quoted (content ++
          [Char.ofNat (0x10000 + (high - 0xD800) * 0x400 + (unit - 0xDC00))]))
      else none

def behindDigit (content : List Char) (high : Option Nat) (missing value : Nat) :
    Option Place :=
  match missing with
  | 0 => behindUnit content high value
  | missing + 1 => some (.digits content high missing value)

end Place

/-- The tokens so far, and the place that has been reached. -/
structure Cutting where
  tokens : List Token := []
  place : Place := .between

def Cutting.next (cutting : Cutting) (c : Char) : Option Cutting :=
  match cutting.place with
  | .between =>
      if isGap c then some cutting
      else if c = '"' then some { cutting with place := .quoted [] }
      else (Token.ofMark? c).map fun token => ⟨cutting.tokens ++ [token], .between⟩
  | .quoted content =>
      if c = '"' then some ⟨cutting.tokens ++ [.text (String.ofList content)], .between⟩
      else if c = '\\' then some { cutting with place := .escaped content }
      else if c.toNat < 0x20 then none
      else some { cutting with place := .quoted (content ++ [c]) }
  | .escaped content =>
      if c = 'u' then some { cutting with place := .digits content none 3 0 }
      else (abbreviated? c).map fun meant =>
        { cutting with place := .quoted (content ++ [meant]) }
  | .digits content high missing value =>
      (digit? c).bind fun digit =>
        (Place.behindDigit content high missing (16 * value + digit)).map fun place =>
          { cutting with place }
  | .paired content high =>
      if c = '\\' then some { cutting with place := .pairedEscaped content high } else none
  | .pairedEscaped content high =>
      if c = 'u' then some { cutting with place := .digits content (some high) 3 0 } else none

/-- A text that ends inside quotes has no tokens. -/
def Cutting.finished? (cutting : Cutting) : Option (List Token) :=
  match cutting.place with
  | .between => some cutting.tokens
  | _ => none

/-- An array or an object that is still open, with what it holds in front of the value that is
being read. -/
inductive Frame where
  | array (items : List Json)
  | object (fields : List (String × Json)) (name : String)

/-- What has just been read, with the frames around it. The innermost frame is the first. -/
inductive Building where
  /-- A value has to come. -/
  | due (frames : List Frame)
  /-- An array was opened. -/
  | inArray (frames : List Frame)
  /-- An object was opened. -/
  | inObject (frames : List Frame)
  /-- The name of a further field has to come. -/
  | further (fields : List (String × Json)) (frames : List Frame)
  /-- The name of a field was read. -/
  | named (fields : List (String × Json)) (name : String) (frames : List Frame)
  /-- A value was read. -/
  | whole (value : Json) (frames : List Frame)

namespace Building

def start (frames : List Frame) : Token → Option Building
  | .text content => some (.whole (.text content) frames)
  | .openArray => some (.inArray frames)
  | .openObject => some (.inObject frames)
  | _ => none

def next : Building → Token → Option Building
  | .due frames, token => start frames token
  | .inArray frames, .closeArray => some (.whole (.array []) frames)
  | .inArray frames, token => start (.array [] :: frames) token
  | .inObject frames, .closeObject => some (.whole (.object []) frames)
  | .inObject frames, .text name => some (.named [] name frames)
  | .further fields frames, .text name => some (.named fields name frames)
  | .named fields name frames, .colon => some (.due (.object fields name :: frames))
  | .whole value (.array items :: frames), .comma =>
      some (.due (.array (items ++ [value]) :: frames))
  | .whole value (.array items :: frames), .closeArray =>
      some (.whole (.array (items ++ [value])) frames)
  | .whole value (.object fields name :: frames), .comma =>
      some (.further (fields ++ [(name, value)]) frames)
  | .whole value (.object fields name :: frames), .closeObject =>
      some (.whole (.object (fields ++ [(name, value)])) frames)
  | _, _ => none

/-- The value that was read, once no frame is open any more. -/
def finished? : Building → Option Json
  | .whole value [] => some value
  | _ => none

end Building

def tokens? (text : List Char) : Option (List Token) :=
  (text.foldlM Cutting.next {}).bind Cutting.finished?

/-- The value that a text gives. -/
def read? (text : String) : Option Json :=
  (tokens? text.toList).bind fun tokens =>
    (tokens.foldlM Building.next (.due [])).bind Building.finished?

end SafeTypes.Json
