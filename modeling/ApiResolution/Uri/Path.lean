import ApiResolution.Identifier
import ApiResolution.Text.Percent

/-!
Paths of absolute addresses. A path is walked segment by segment (`Walk`): `.` stays, `..` goes to
the parent folder, and neither leaves a drive letter. In addresses of local files a drive letter at
the root is special: it is written with a colon, and what follows the colon is a segment of its own.
-/

namespace ApiResolution
namespace UriPath

open Identifier (splitWhere)
open Text

/-- Whether a path may not hold a character as it is. -/
def asksEncoding (c : Char) : Bool :=
  isBeyondText c || c.toNat = 0x60 || " \"#<>?\x7b\x7d".toList.contains c

/-- Whether a segment means the current folder. -/
def isSingleDot (segment : List Char) : Bool :=
  [".", "%2e"].contains (String.ofList (segment.map Char.toLower))

/-- Whether a segment means the parent folder. -/
def isDoubleDot (segment : List Char) : Bool :=
  ["..", ".%2e", "%2e.", "%2e%2e"].contains (String.ofList (segment.map Char.toLower))

/-- Whether a segment is a drive letter. -/
def isDriveLetter : List Char → Bool
  | [c, mark] => c.isAlpha && (mark == ':' || mark == '|')
  | _ => false

/-- Whether a segment starts with a drive letter. -/
def startsWithDrive (segment : List Char) : Bool :=
  isDriveLetter (segment.take 2) && (segment.drop 2).head?.all (· == '\\')

/-- Where a walk from the root is: the folders that were entered, the nearest first, and whether a
drive letter was met at the root of local files. -/
structure Walk where
  folders : List (List Char)
  metDrive : Bool
deriving DecidableEq, Repr

namespace Walk

/-- The walk at the root. -/
def start : Walk := ⟨[], false⟩

/-- Goes to the parent folder, unless that leaves a drive letter. -/
def leave (w : Walk) : Walk :=
  match w.folders with
  | [] => w
  | folder :: rest => if startsWithDrive folder then w else { w with folders := rest }

/-- Enters the first folder of a local file. -/
def enterRoot (w : Walk) (segment : List Char) : Walk :=
  match segment with
  | [c, _] => if isDriveLetter segment then ⟨[[c, ':']], true⟩ else { w with folders := [segment] }
  | c :: ':' :: rest => { w with folders := if c.isAlpha then [rest, [c, ':']] else [segment] }
  | _ => { w with folders := [segment] }

/-- Follows a segment. -/
def follow (isFile : Bool) (w : Walk) (segment : List Char) : Walk :=
  if isDoubleDot segment then w.leave
  else if isSingleDot segment then w
  else if isFile && w.folders.isEmpty then w.enterRoot segment
  else { w with folders := segment :: w.folders }

/-- The path to where a walk is. -/
def path (w : Walk) : List Char := w.folders.reverse.flatMap fun folder => '/' :: folder

end Walk

/-- Whether a character ends a segment. -/
def isSlash (special : Bool) (c : Char) : Bool := c == '/' || (special && c == '\\')

/-- The path with the given text after the slash at the root, and whether a drive letter was met
there. A path whose last segment is a dot or two ends with a slash. -/
def ofText (isFile special : Bool) (cs : List Char) : List Char × Bool :=
  let segments := (splitWhere (isSlash special) cs).map (percentEncode asksEncoding)
  let walk := segments.foldl (Walk.follow isFile) Walk.start
  let endsOpen := segments.getLast?.any fun s => isSingleDot s || isDoubleDot s
  let path := if endsOpen then walk.path ++ ['/'] else walk.path
  (if isFile then '/' :: path.dropWhile (· == '/') else path, walk.metDrive)

end UriPath
end ApiResolution
