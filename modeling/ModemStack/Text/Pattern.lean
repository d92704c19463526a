import ModemStack.Text.JsString

/-!
Regular expressions, matched by backtracking.

Only the forms used in this program: literals, greedy runs of one class, the two
line anchors of the `m` flag, an optional part and capturing groups. A match is
the first one backtracking meets, so the alternatives are tried in the order in
which they are listed here.
-/

namespace ModemStack.Text

inductive Pattern where
  | literal (units : JsString)
  /-- At least `least` code units that meet `test`, `most` at the most; longest first. -/
  | run (test : UInt16 → Bool) (least : Nat) (most : Option Nat)
  | lineStart
  | lineEnd
  | seq (first second : Pattern)
  | optional (part : Pattern)
  | group (part : Pattern)

/-- A place in a text: the code unit before it and the text from there. -/
structure Cursor where
  before : Option UInt16
  rest : JsString

def Cursor.advance (place : Cursor) (n : Nat) : Cursor where
  before := ((place.rest.take n).getLast?).or place.before
  rest := place.rest.drop n

def isLineTerminator (c : UInt16) : Bool := c = 0x0A || c = 0x0D || c = 0x2028 || c = 0x2029

namespace Pattern

/-- The match of `p` from `place` with which `next` succeeds first. `groups` are the
texts captured so far. -/
def matchAt {ρ : Type} (p : Pattern) (place : Cursor) (groups : List JsString)
    (next : Cursor → List JsString → Option ρ) : Option ρ :=
  match p with
  | .literal units =>
    if units.isPrefixOf place.rest then next (place.advance units.length) groups else none
  | .run test least most =>
    let longest := (place.rest.takeWhile test).length
    let longest := most.elim longest (min longest)
    (List.range (longest + 1)).reverse.findSome? fun n =>
      if least ≤ n then next (place.advance n) groups else none
  | .lineStart => if place.before.all isLineTerminator then next place groups else none
  | .lineEnd => if place.rest.head?.all isLineTerminator then next place groups else none
  | .seq first second =>
    first.matchAt place groups fun place groups => second.matchAt place groups next
  | .optional part => (part.matchAt place groups next).or (next place groups)
  | .group part =>
    part.matchAt place groups fun after groups =>
      next after (groups ++ [place.rest.take (place.rest.length - after.rest.length)])

/-- The groups of the first match from `before` on. -/
def execFrom (p : Pattern) (before : Option UInt16) : JsString → Option (List JsString)
  | [] => p.matchAt ⟨before, []⟩ [] fun _ groups => some groups
  | c :: rest => (p.matchAt ⟨before, c :: rest⟩ [] fun _ groups => some groups).or
      (p.execFrom (some c) rest)

/-- `p.exec(text)`: the captured groups of the leftmost match. -/
def exec (p : Pattern) (text : JsString) : Option (List JsString) := p.execFrom none text

theorem exec_of_matchAt {p : Pattern} {text : JsString}
    (here : (p.matchAt ⟨none, text⟩ [] fun _ groups => some groups).isSome) :
    (p.exec text).isSome := by
  cases text with
  | nil => exact here
  | cons => rw [exec, execFrom, Option.isSome_or, here, Bool.true_or]

/-! ### Every match -/

/-- The groups of the first match from a place on, and the place behind it. -/
def findFrom (p : Pattern) (before : Option UInt16) : JsString → Option (List JsString × Cursor)
  | [] => p.matchAt ⟨before, []⟩ [] fun after groups => some (groups, after)
  | c :: rest => (p.matchAt ⟨before, c :: rest⟩ [] fun after groups => some (groups, after)).or
      (p.findFrom (some c) rest)

/-- The matches from a place on, as many as `fuel` at the most. -/
def allFrom (p : Pattern) : Nat → Cursor → List (List JsString)
  | 0, _ => []
  | fuel + 1, place =>
    match p.findFrom place.before place.rest with
    | none => []
    | some (groups, after) => groups :: p.allFrom fuel after

/-- `text.matchAll(p)`: the captured groups of each match, for a pattern that matches no empty
text. -/
def matchAll (p : Pattern) (text : JsString) : List (List JsString) :=
  p.allFrom text.length ⟨none, text⟩

/-! ### Common parts -/

def all : List Pattern → Pattern
  | [] => .literal []
  | [p] => p
  | p :: rest => .seq p (all rest)

/-- `\s*` -/
def spaces : Pattern := .run isJsSpace 0 none

/-- `\d+` -/
def digits : Pattern := .run (fun c => 0x30 ≤ c.toNat && c.toNat ≤ 0x39) 1 none

/-- `[0-9A-Fa-f]{4}` -/
def hex4 : Pattern := .run (fun c => (0x30 ≤ c.toNat && c.toNat ≤ 0x39) ||
  (0x41 ≤ c.toNat && c.toNat ≤ 0x46) || (0x61 ≤ c.toNat && c.toNat ≤ 0x66)) 4 (some 4)

/-- `.*` -/
def anything : Pattern := .run (fun c => !isLineTerminator c) 0 none

end Pattern

end ModemStack.Text
