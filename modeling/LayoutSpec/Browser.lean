import LayoutSpec.Error
import LayoutSpec.Page

/-!
A browser that serves prepared pages and keeps a record of what it was asked to do.
-/

namespace LayoutSpec

inductive Call where
  | openPage (url : String)
  | resize (size : Size)
  | setCookie (cookie : String)
  /-- A script that was run, and its arguments as compact JSON text if it had some. -/
  | run (script : String) (arguments : Option String)
  | inject (script : String)
  | screenshot
deriving DecidableEq, Repr

namespace Call

def scriptSize (script : String) : String :=
  String.ofList (Text.natNumeral script.utf8ByteSize)

/-- The line of the record. Scripts are not written out. -/
def line : Call → String
  | openPage url => "open:" ++ url
  | resize size => "resize:" ++ size.display
  | setCookie cookie => "cookie:" ++ cookie
  | run script arguments => "run:" ++ scriptSize script ++ ":" ++ arguments.getD ""
  | inject script => "inject:" ++ scriptSize script
  | screenshot => "screenshot"

end Call

/-- A browser: the pages that it can show, the addresses that it cannot reach, what it shows now and
what it was asked to do so far. -/
structure Browser where
  pages : List (String × Page) := []
  unreachable : List String := []
  url : String := "about:blank"
  size : Size := ⟨1024, 768⟩
  calls : List Call := []
deriving Inhabited

namespace Browser

def putPage (b : Browser) (url : String) (page : Page) : Browser :=
  { b with pages := putEntry url page b.pages }

/-- The page that is shown. An address without a page shows one on which nothing is. -/
def page (b : Browser) : Page :=
  (b.pages.lookup b.url).getD .blank

def record (b : Browser) (call : Call) : Browser :=
  { b with calls := b.calls ++ [call] }

def wasCalled (b : Browser) (text : String) : Bool :=
  b.calls.any fun call => text.toList.isPrefixOf call.line.toList

/-- Goes to an address. If it cannot be reached, the browser stays where it is, and the call is on
record all the same. -/
def openPage (b : Browser) (url : String) : Except Error Unit × Browser :=
  let asked := b.record (.openPage url)
  if b.unreachable.contains url then (.error (.browser ("Cannot open " ++ url)), asked)
  else (.ok (), { asked with url })

def resize (b : Browser) (size : Size) : Browser :=
  { b.record (.resize size) with size }

def setCookies (b : Browser) (cookies : List String) : Browser :=
  cookies.foldl (fun b cookie => b.record (.setCookie cookie)) b

def run (b : Browser) (script : String) (arguments : Option String) : Browser :=
  b.record (.run script arguments)

def inject (b : Browser) (script : String) : Browser :=
  b.record (.inject script)

def screenshotPath : Path := ⟨"mock-screenshot.png"⟩

def screenshot (b : Browser) : Path × Browser :=
  (screenshotPath, b.record .screenshot)

end Browser

end LayoutSpec
