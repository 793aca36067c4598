/-
This file resolves the dot segments of paths. Two dots remove the segment in front of them, except
for the letter of a drive, which a path never leaves. In the path of a file the letter of a drive
that comes first is written with a colon.
-/

import Testbed.Http.Url.Percent
import Testbed.Text.Blank

namespace Testbed.Url

open Text

/-- Whether a segment of a path stands for its own directory. -/
def isSingleDot (segment : List Char) : Bool :=
  [".", "%2e"].contains (String.ofList (segment.map Char.toLower))

/-- Whether a segment of a path stands for the directory above. -/
def isDoubleDot (segment : List Char) : Bool :=
  ["..", ".%2e", "%2e.", "%2e%2e"].contains (String.ofList (segment.map Char.toLower))

/-- Whether a segment is the letter of a drive, with a colon or a bar. -/
def isDrive : List Char → Bool
  | [letter, sign] => letter.isAlpha && (sign = ':' || sign = '|')
  | _ => false

/-- The segments, given in reverse, without the last. A backslash ends the letter of a drive too. -/
def withoutLast : List (List Char) → List (List Char)
  | [] => []
  | last :: kept => if isDrive (last.takeWhile (· ≠ '\\')) then last :: kept else kept

/-- The path of a file: whether it begins with the letter of a drive, and its segments. -/
structure Route where
  /-- The segments so far, given in reverse. -/
  kept : List (List Char) := []
  hasDrive : Bool := false

/-- Takes a further segment, which may be the last. -/
def Route.take (isFile : Bool) (route : Route) (segment : List Char) (isLast : Bool) : Route :=
  let ended (kept : List (List Char)) := if isLast then [] :: kept else kept
  if isDoubleDot segment then { route with kept := ended (withoutLast route.kept) }
  else if isSingleDot segment then { route with kept := ended route.kept }
  else if isFile && route.kept.isEmpty && isDrive segment then
    { kept := [segment.take 1 ++ [':']], hasDrive := true }
  else { route with kept := percentEncoded (isPlainExcept pathSigns) segment :: route.kept }

/-- Takes all of some segments. -/
def Route.takeAll (isFile : Bool) : Route → List (List Char) → Route
  | route, [] => route
  | route, segment :: rest =>
    Route.takeAll isFile (route.take isFile segment rest.isEmpty) rest

/-- The path to which segments lead. -/
def Route.path (route : Route) : List Char :=
  '/' :: ['/'].intercalate route.kept.reverse

/-- The route of a path behind its first slash. -/
def routeOf (isFile : Bool) (text : List Char) : Route :=
  Route.takeAll isFile {} (splitAt '/' text)

/-- The text without one slash in front. -/
def behindSlash : List Char → List Char
  | '/' :: rest => rest
  | text => text

/-- A path with slashes for backslashes. -/
def withSlashes (text : List Char) : List Char :=
  text.map fun character => if character = '\\' then '/' else character

/-- The normal form of a path that begins with a slash. -/
def rootedPath (text : List Char) : String :=
  String.ofList (routeOf false (behindSlash text)).path

example : rootedPath ['/', 'a', '/', '.', '.', '/', 'b'] = "/b" := by decide +kernel
example : rootedPath ['/', 'C', ':', '/', '.', '.', '/', 'b'] = "/C:/b" := by decide +kernel

end Testbed.Url
