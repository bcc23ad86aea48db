import LinkLedger.Address.Parse
import LinkLedger.Text.Quoted
import LinkLedger.Unicode.Blank

/-!
# Which urls get a permanent link

A url is accepted if it is not empty, at most 2048 bytes long, without blanks at its ends, without
control characters, and an address of the schemes `http` or `https`. It is only looked at, never
changed: what is kept is exactly what was sent, so it must be fit to be sent back in a header.

The conditions are checked in this order, and the first one that fails is reported.
-/

set_option autoImplicit false

namespace LinkLedger

open LinkLedger.Text LinkLedger.Unicode

/-- Most bytes that a url may have in UTF-8. -/
def maxUrlBytes : Nat := 2048

/-- Why a url is not accepted. -/
inductive UrlFault where
  | empty
  | tooLong (bytes : Nat)
  /-- A blank stands at one of its ends. -/
  | blankEnd (url : String)
  | hasControl (url : String)
  /-- It is no address. -/
  | notAddress (cause : Address.Fault) (url : String)
  | wrongScheme (scheme : String)
  deriving DecidableEq, Repr

/-- The reason in words. Urls that may hold characters a reader cannot see are quoted. -/
def UrlFault.message : UrlFault → String
  | .empty => "URL cannot be empty"
  | .tooLong bytes => s!"URL is {bytes} bytes long, the limit is {maxUrlBytes}"
  | .blankEnd url => s!"URL has leading or trailing whitespace: {quoted url}"
  | .hasControl url => s!"URL contains control characters: {quoted url}"
  | .notAddress cause url => s!"{cause.message}: {url}"
  | .wrongScheme scheme => s!"URL scheme must be http or https: {scheme}"

/-- Whether a blank stands at one of the ends of a text. -/
def hasBlankEnd (text : List Char) : Bool :=
  text.head?.any isBlank || text.getLast?.any isBlank

/-- Checks a url; succeeds for those that may be kept. -/
def checkUrl (url : String) : Except UrlFault Unit :=
  if url.isEmpty then .error .empty
  else if maxUrlBytes < url.utf8ByteSize then .error (.tooLong url.utf8ByteSize)
  else if hasBlankEnd url.toList then .error (.blankEnd url)
  else if url.toList.any isControl then .error (.hasControl url)
  else
    match Address.parse url with
    | .error cause => .error (.notAddress cause url)
    | .ok target =>
      if target.scheme = "http" ∨ target.scheme = "https" then .ok ()
      else .error (.wrongScheme target.scheme)

end LinkLedger
