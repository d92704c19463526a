import ModemStack.Text.JsString

/-!
The documents of the HiLink API.

Tags are found by their text alone, case apart; no document tree is built.
-/

namespace ModemStack.HuaweiHilink

open ModemStack.Text

/-! ### Tags -/

/-- What follows a text that the body begins with, case apart. -/
def afterTag (tag body : JsString) : Option JsString :=
  if lowerAscii (body.take tag.length) = lowerAscii tag then some (body.drop tag.length) else none

def openTag (tag : JsString) : JsString := js "<" ++ tag ++ js ">"

def closeTag (tag : JsString) : JsString := js "</" ++ tag ++ js ">"

/-- `<tag>([^<]*)</tag>` at the head of the body: what it captures. -/
def elementAt (tag body : JsString) : Option JsString :=
  (afterTag (openTag tag) body).bind fun inner =>
    let value := inner.takeWhile (· ≠ 0x3C)
    (afterTag (closeTag tag) (inner.drop value.length)).map fun _ => value

def parseHilinkXmlValue (body tag : JsString) : Option JsString :=
  (body.tails.findSome? (elementAt tag)).map trim

/-- `<response>` stands in the body. -/
def hasResponse (body : JsString) : Bool :=
  body.tails.any fun rest => (afterTag (openTag (js "response")) rest).isSome

/-- `<response>\s*OK\s*</response>` stands in the body. -/
def respondsOk (body : JsString) : Bool :=
  body.tails.any fun rest =>
    ((afterTag (openTag (js "response")) rest).bind fun inner =>
      (afterTag (js "OK") (inner.dropWhile isJsSpace)).bind fun after =>
        afterTag (closeTag (js "response")) (after.dropWhile isJsSpace)).isSome

/-- The text up to the first place where the tag stands. -/
def upTo (tag : JsString) : JsString → Option JsString
  | [] => none
  | c :: rest => if (afterTag tag (c :: rest)).isSome then some [] else (upTo tag rest).map (c :: ·)

/-- `<tag>([\s\S]*?)</tag>` at the head of the body. -/
def blockAt (tag body : JsString) : Option JsString :=
  (afterTag (openTag tag) body).bind (upTo (closeTag tag))

/-- All matches of `<tag>([\s\S]*?)</tag>`. Code units that a match has taken are skipped. -/
def blocks (tag : JsString) : (skipped : Nat) → JsString → List JsString
  | _, [] => []
  | skipped + 1, _ :: rest => blocks tag skipped rest
  | 0, c :: rest =>
    match blockAt tag (c :: rest) with
    | some block =>
      block :: blocks tag
        ((openTag tag).length + block.length + (closeTag tag).length - 1) rest
    | none => blocks tag 0 rest

/-! ### Documents -/

structure HilinkSession where
  cookie : JsString
  token : JsString
deriving DecidableEq

def parseHilinkSession (body : JsString) : Option HilinkSession :=
  match parseHilinkXmlValue body (js "SesInfo"), parseHilinkXmlValue body (js "TokInfo") with
  | some cookie, some token => if cookie = [] ∨ token = [] then none else some ⟨cookie, token⟩
  | _, _ => none

inductive PasswordType where
  | three
  | four
deriving DecidableEq

def PasswordType.text : PasswordType → JsString
  | .three => js "3"
  | .four => js "4"

structure HilinkUserState where
  state : JsString
  passwordType : PasswordType

def parseHilinkUserState (body : JsString) : Option HilinkUserState :=
  match parseHilinkXmlValue body (js "State"), parseHilinkXmlValue body (js "password_type") with
  | some state, some rawPasswordType =>
    if rawPasswordType = js "3" then some ⟨state, .three⟩
    else if rawPasswordType = js "4" then some ⟨state, .four⟩
    else none
  | _, _ => none

inductive UnavailableReason where
  | notReported
  | malformed
  | authExpired
  | unreachable
  | refused (code : JsString)

inductive HilinkDataCapability where
  | reported (enabled : Bool)
  | unavailable (reason : UnavailableReason)

def parseHilinkDataCapability (body : JsString) : HilinkDataCapability :=
  match parseHilinkXmlValue body (js "code") with
  | some code =>
    if code = js "125002" then .unavailable .authExpired else .unavailable (.refused code)
  | none =>
    match parseHilinkXmlValue body (js "dataswitch") with
    | none => .unavailable (if body = [] then .unreachable else .malformed)
    | some value =>
      if value = js "0" ∨ value = js "1" then .reported (value = js "1")
      else .unavailable .malformed

structure NetworkMode where
  id : JsString
  name : Option JsString

inductive HilinkNetModeCapability where
  | reported (modes : List NetworkMode) (current : Option JsString)
  | unavailable (reason : UnavailableReason)

def nonEmpty (value : Option JsString) : Option JsString := value.filter (· ≠ [])

def parseMode (block : JsString) : Option NetworkMode :=
  (nonEmpty (parseHilinkXmlValue block (js "Index"))).map fun id =>
    ⟨id, nonEmpty (parseHilinkXmlValue block (js "Name"))⟩

def parseHilinkCapabilities (netModeList : JsString) (netMode : Option JsString) :
    HilinkNetModeCapability :=
  match parseHilinkXmlValue netModeList (js "code") with
  | some code =>
    if code = js "125002" then .unavailable .authExpired else .unavailable (.refused code)
  | none =>
    if trim netModeList = [] then .unavailable .unreachable
    else if !hasResponse netModeList then .unavailable .malformed
    else
      let modes := (blocks (js "NetworkMode") 0 netModeList).filterMap parseMode
      if modes = [] then .unavailable .notReported
      else .reported modes
        (nonEmpty (parseHilinkXmlValue (netMode.getD []) (js "NetworkMode")))

end ModemStack.HuaweiHilink
