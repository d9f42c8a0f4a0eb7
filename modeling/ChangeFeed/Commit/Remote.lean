import ChangeFeed.Text.Blank
import ChangeFeed.Text.Digit
import ChangeFeed.Text.LetterCase

/-!
Display forms of remote URLs.

A remote is shown as `host/path`: without the scheme, the user, the port of a remote that is no web
address, and `.git` at the end. The short form `user@host:path` is shown in the same way.
-/

namespace ChangeFeed.Remote

/-- Whether a scheme can contain a character behind its first letter. -/
def isSchemeChar (c : Char) : Bool :=
  Text.isAsciiLetter c || Text.isAsciiDigit c || c == '+' || c == '.' || c == '-'

/-- The scheme of a URL and what follows `://`. -/
def scheme? (url : Text) : Option (Text × Text) :=
  match url.span isSchemeChar with
  | (c :: scheme, t) =>
    if Text.isAsciiLetter c then (Text.rest? "://" t).map fun t => (c :: scheme, t) else none
  | _ => none

/-- What is left of a location without the user in front of the first at sign. -/
def dropUser (t : Text) : Text :=
  match t.span fun c => c != '@' && c != '/' with
  | (_, '@' :: rest) => rest
  | _ => t

/-- The parts in front of and behind the first colon, if no slash comes before it. -/
def splitAtColon? (t : Text) : Option (Text × Text) :=
  match t.span fun c => c != ':' && c != '/' with
  | (host, ':' :: rest) => if host = [] then none else some (host, rest)
  | _ => none

/-- A location without the port behind the host. -/
def dropPort (t : Text) : Text :=
  match splitAtColon? t with
  | none => t
  | some (host, rest) =>
    match rest.span Text.isDecimal with
    | ([], _) => t
    | (_, []) => host
    | (_, '/' :: path) => host ++ '/' :: path
    | _ => t

/-- The host and the path of a location in short form that names no user. -/
def shortForm? (t : Text) : Option Text :=
  match splitAtColon? t with
  | some (host, path) =>
    if path = [] ∨ path.contains '\n' then none else some (host ++ '/' :: path)
  | none => none

/-- The part behind the user in front of the first at sign, if there is one. -/
def afterUser? (t : Text) : Option Text :=
  match t.span fun c => c != '@' && c != '/' with
  | (_ :: _, '@' :: rest) => some rest
  | _ => none

/-- The location that a URL without a scheme stands for. -/
def withoutScheme (url : Text) : Text :=
  match (afterUser? url).bind shortForm? with
  | some t => t
  | none => (shortForm? url).getD url

/-- Whether a scheme is that of a web address. -/
def isWeb (scheme : Text) : Bool :=
  let s := Text.lower scheme
  s == "http" || s == "https"

/-- Host and path of a URL, with whatever follows the path. -/
def location (url : Text) : Text :=
  match scheme? url with
  | none => withoutScheme url
  | some (scheme, t) =>
    let t := dropUser t
    if t.contains '\n' then withoutScheme url
    else if isWeb scheme then t
    else dropPort t

/-- A text without one `.git` at its end. -/
def dropSuffix (t : Text) : Text :=
  if Text.endsWith ".git" t then t.take (t.length - 4) else t

/-- The display form of a remote URL. -/
def display (url : Text) : Text :=
  dropSuffix (Text.dropEndWhile (· == '/') (location (Text.strip url)))

end ChangeFeed.Remote
