/-
# Splitting a URL, as `urllib.parse` does

`urlsplit` of Python's `urllib.parse`, as far as the scheme, the network location and the rest, and
the `hostname` it reads out of the location.  Leading control characters and spaces are dropped,
and every tab, carriage return and line feed, before anything is split.

The case table of Unicode and the check of a network location (brackets in pairs around an IPv6
address, no character whose normal form is a separator) are the argument `Rules`.
-/

import AgenticCommerce.Text.Strings

namespace AgenticCommerce
namespace Urls

/-- What depends on the character tables. -/
structure Rules where
  /-- `text.lower()`. -/
  lower : List Char → List Char
  /-- Whether `urlsplit` takes a network location; it raises for the others. -/
  admits : List Char → Bool

/-- A C0 control character or a space. -/
def isControlOrSpace (c : Char) : Bool := c.toNat ≤ 32

/-- A tab, a carriage return or a line feed. -/
def isRemoved (c : Char) : Bool := c == '\t' || c == '\r' || c == '\n'

/-- What `urlsplit` splits. -/
def clean (url : List Char) : List Char :=
  (url.dropWhile isControlOrSpace).filter fun c => !isRemoved c

/-- A letter of ASCII. -/
def isLetter (c : Char) : Bool := c.isUpper || c.isLower

/-- A character of a scheme. -/
def isSchemeChar (c : Char) : Bool :=
  isLetter c || c.isDigit || c == '+' || c == '-' || c == '.'

/-- Whether a text is a scheme. -/
def isScheme : List Char → Bool
  | [] => false
  | c :: text => isLetter c && (c :: text).all isSchemeChar

/-- The scheme before the first colon, in small letters, and what follows; no scheme where what
stands there is none. -/
def splitScheme (url : List Char) : List Char × List Char :=
  match url.span (· ≠ ':') with
  | (before, _ :: after) => if isScheme before then (before.map Char.toLower, after) else ([], url)
  | (_, []) => ([], url)

/-- A character that ends a network location. -/
def endsLocation (c : Char) : Bool := c == '/' || c == '?' || c == '#'

/-- The network location behind `//`, and what follows. -/
def splitLocation : List Char → List Char × List Char
  | '/' :: '/' :: url => url.span fun c => !endsLocation c
  | url => ([], url)

/-- `SplitResult`: the path, the query and the fragment are one text here. -/
structure SplitResult where
  scheme : List Char
  netloc : List Char
  rest : List Char
  deriving DecidableEq

/-- `urlsplit`, `none` where it raises. -/
def urlsplit (rules : Rules) (url : List Char) : Option SplitResult :=
  let (scheme, rest) := splitScheme (clean url)
  let (netloc, rest) := splitLocation rest
  if rules.admits netloc then some { scheme, netloc, rest } else none

/-- What stands behind the last `@`. -/
def behindUserinfo (netloc : List Char) : List Char :=
  (netloc.reverse.takeWhile (· ≠ '@')).reverse

/-- The host of a network location, without its brackets and its port. -/
def hostOf (netloc : List Char) : List Char :=
  let info := behindUserinfo netloc
  match info.dropWhile (· ≠ '[') with
  | _ :: bracketed => bracketed.takeWhile (· ≠ ']')
  | [] => info.takeWhile (· ≠ ':')

/-- `hostname`: in small letters as far as a zone; `none` where there is no host. -/
def hostname (rules : Rules) (split : SplitResult) : Option (List Char) :=
  match hostOf split.netloc with
  | [] => none
  | host => some (rules.lower (host.takeWhile (· ≠ '%')) ++ host.dropWhile (· ≠ '%'))

/-- The rules of ASCII: no other letter has a small one, and every location without brackets is
taken. -/
def asciiRules : Rules where
  lower text := text.map Char.toLower
  admits netloc := !(netloc.contains '[' || netloc.contains ']')

end Urls
end AgenticCommerce
