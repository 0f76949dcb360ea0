/-
# Anchors, tags and directives of a YAML text

What stands behind `&`, `*`, `!` and `%`.  A tag has a handle and a suffix; the handle is resolved
later, where the directives of the document are known.

An escape `%XX` in a tag writes a byte.  Escapes come in groups shaped like an encoded character: a
first byte that announces how many follow, and bytes that may follow.  More is not asked, so the
bytes may spell no character.  A zero byte ends the tag.
-/
import SqlGateway.Number.Digits
import SqlGateway.Yaml.Cursor
import SqlGateway.Yaml.Scalar
import SqlGateway.Yaml.Token

namespace SqlGateway.Yaml

open Yaml.Cursor

/-! ## 1. Anchors -/

/-- Takes the name of an anchor or alias behind its indicator. -/
def takeAnchor (c : Cursor) : Option (String × Cursor) :=
  let (name, c) := c.takeWhile isWord
  let ends := gapAhead c.rest || (c.rest.head?.map fun x =>
    x == '?' || x == ':' || x == ',' || x == ']' || x == '\x7d' || x == '%' || x == '@' ||
      x == '\x60').getD false
  if name.isEmpty || !ends then none else some (String.ofList name, c)

/-! ## 2. Tags -/

/-- Whether `x` may stand in a tag; between angle brackets, commas and brackets may too. -/
def isTagChar (verbatim : Bool) (x : Char) : Bool :=
  isWord x || ";/?:@&=+$.%!~*'()".toList.contains x ||
    (verbatim && (x == ',' || x == '[' || x == ']'))

/-- How many bytes a group of escapes has that begins with `lead`; none for a byte that begins no
group. -/
def groupSize? (lead : UInt8) : Option Nat :=
  if lead < 0x80 then some 1
  else if lead < 0xC0 then none
  else if lead < 0xE0 then some 2
  else if lead < 0xF0 then some 3
  else if lead < 0xF8 then some 4
  else none

/-- Takes the byte that an escape `%XX` at the front of `cs` writes. -/
def takeOctet : List Char → Option (UInt8 × List Char)
  | '%' :: a :: b :: cs => do
    return (UInt8.ofNat ((← hexDigit? a) * 16 + (← hexDigit? b)), cs)
  | _ => none

/-- Takes `n` escaped bytes that continue a group. -/
def takeTrail : Nat → List Char → Option (List UInt8 × List Char)
  | 0, cs => some ([], cs)
  | n + 1, cs => do
    let (octet, cs) ← takeOctet cs
    if octet &&& 0xC0 != 0x80 then none
    else
      let (more, rest) ← takeTrail n cs
      return (octet :: more, rest)

/-- Takes the group of escapes at the front of `cs`. -/
def takeOctets (cs : List Char) : Option (List UInt8 × List Char) := do
  let (lead, cs) ← takeOctet cs
  let (trail, rest) ← takeTrail ((← groupSize? lead) - 1) cs
  return (lead :: trail, rest)

/-- Takes the bytes of a tag, whose bytes so far are `seen`, in reverse: the bytes, and the
characters that follow. -/
def takeTagOctets (verbatim : Bool) :
    Nat → List UInt8 → List Char → Option (List UInt8 × List Char)
  | 0, seen, cs => some (seen.reverse, cs)
  | fuel + 1, seen, cs =>
    match cs with
    | [] => some (seen.reverse, [])
    | x :: rest =>
      if !isTagChar verbatim x then some (seen.reverse, x :: rest)
      else if x == '%' then do
        let (octets, rest) ← takeOctets cs
        takeTagOctets verbatim fuel (octets.reverse ++ seen) rest
      else takeTagOctets verbatim fuel (x.toNat.toUInt8 :: seen) rest

/-- Takes the bytes of a tag. -/
def takeTagText (verbatim : Bool) (c : Cursor) : Option (List UInt8 × Cursor) := do
  let (octets, rest) ← takeTagOctets verbatim c.rest.length [] c.rest
  return (octets, c.advance (c.rest.length - rest.length) rest)

/-- What a tag keeps of its bytes: a zero byte ends it. -/
def beforeZero (octets : List UInt8) : List UInt8 := octets.takeWhile (· != 0)

/-- Takes a handle: `!`, word characters, and another `!` if one follows. -/
def takeHandle (c : Cursor) : Option (List Char × Cursor) :=
  match c.rest with
  | '!' :: rest =>
    let (word, c) := (c.advance 1 rest).takeWhile isWord
    match c.rest with
    | '!' :: rest => some ('!' :: word ++ ['!'], c.advance 1 rest)
    | _ => some ('!' :: word, c)
  | _ => none

/-- Takes a tag, from its first `!` on: the handle and the suffix. -/
def takeTag (flow : Bool) (c : Cursor) : Option (Token × Cursor) := do
  let (handle, suffix, c) ← (match c.rest with
    | '!' :: '<' :: rest => do
      let (octets, c) ← takeTagText true (c.advance 2 rest)
      match octets, c.rest with
      | _ :: _, '>' :: rest => some ("", beforeZero octets, c.advance 1 rest)
      | _, _ => none
    | _ => do
      let (handle, c) ← takeHandle c
      let (octets, c) ← takeTagText false c
      if 1 < handle.length && handle.getLast? == some '!' then
        if octets.isEmpty then none else some (String.ofList handle, beforeZero octets, c)
      else
        let word := (handle.drop 1).map fun x => x.toNat.toUInt8
        match beforeZero (word ++ octets) with
        | [] => some ("", "!".toUTF8.toList, c)
        | suffix => some ("!", suffix, c))
  if gapAhead c.rest || (flow && c.rest.head? == some ',') then
    return (.tag handle suffix, c)
  else none

/-! ## 3. Directives -/

/-- Takes a number of at most nine digits. -/
def takeVersionNumber (c : Cursor) : Option (Nat × Cursor) :=
  let (digits, c) := c.takeWhile Char.isDigit
  if digits.isEmpty || 9 < digits.length then none
  else some (Digits.value digits, c)

/-- Takes a directive behind `%`, up to the end of its line. -/
def takeDirective (c : Cursor) : Option (Token × Cursor) := do
  let (name, c) := c.takeWhile isWord
  if name.isEmpty || !gapAhead c.rest then none
  else
    let c := c.skipWhile isBlank
    match String.ofList name with
    | "YAML" => do
      let (major, c) ← takeVersionNumber c
      match c.rest with
      | '.' :: rest => do
        let (minor, c) ← takeVersionNumber (c.advance 1 rest)
        return (.versionDirective major minor, ← c.finishLine?)
      | _ => none
    | "TAG" => do
      let (handle, c) ← takeHandle c
      if handle != ['!'] && handle.getLast? != some '!' then none
      else if !(c.rest.head?.map isBlank).getD false then none
      else
        let (expansion, c) ← takeTagText true (c.skipWhile isBlank)
        if expansion.isEmpty || !gapAhead c.rest then none
        else
          return (.tagDirective (String.ofList handle) (beforeZero expansion), ← c.finishLine?)
    | _ => none

end SqlGateway.Yaml
