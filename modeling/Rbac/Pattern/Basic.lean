import Rbac.Text.Basic

namespace Rbac

/-- A set of code points: those in one of the ranges, ends included, or those in none. -/
structure CharSet where
  negated : Bool
  ranges : List (Nat × Nat)
deriving DecidableEq

namespace CharSet

def has (set : CharSet) (point : CodePoint) : Bool :=
  set.ranges.any (fun (low, high) => low ≤ point.value && point.value ≤ high) != set.negated

def only (value : Nat) : CharSet := ⟨false, [(value, value)]⟩

def dot : CharSet := ⟨true, [(10, 10)]⟩

end CharSet

/-- A regular expression with anchors. -/
inductive Pattern where
  | empty
  | one (set : CharSet)
  | seq (first second : Pattern)
  | alt (left right : Pattern)
  /-- Any number of times: the most that go first, or the fewest. -/
  | star (lazy : Bool) (body : Pattern)
  /-- The first way that the pattern finds, and no other. -/
  | atomic (body : Pattern)
  /-- The start of the text. -/
  | atStart
  /-- The end of the text, or right before a line feed that ends it. -/
  | atEnd
  /-- The end of the text. -/
  | atVeryEnd
deriving DecidableEq

namespace Pattern

/-- A place in a text: whether it is the start of the text, and what comes after it. -/
structure Place where
  first : Bool
  rest : List CodePoint

/-- How to go on from a place: where that ends, if it succeeds. -/
abbrev Search := Place → Option Place

@[macro_inline] def prefer (swapped : Bool) (first second : Option Place) : Option Place :=
  if swapped then second.or first else first.or second

/-- Repeats a step at most `fuel` times and goes on behind it. A round that takes nothing is the
last one. -/
def iterate (lazy : Bool) (step : Search → Search) (next : Search) : Nat → Search
  | 0, place => next place
  | fuel + 1, place =>
    prefer lazy
      (step (fun after =>
        if after.rest.length < place.rest.length then iterate lazy step next fuel after
        else next after) place)
      (next place)

/-- The first way of matching the front of what comes after a place and of going on behind it. -/
def run : Pattern → Search → Search
  | .empty, next, place => next place
  | .one set, next, place =>
    match place.rest with
    | c :: rest => if set.has c then next ⟨false, rest⟩ else none
    | [] => none
  | .seq first second, next, place => first.run (fun between => second.run next between) place
  | .alt left right, next, place => (left.run next place).or (right.run next place)
  | .star lazy body, next, place =>
    iterate lazy (fun next place => body.run next place) next place.rest.length place
  | .atomic body, next, place => (body.run some place).bind next
  | .atStart, next, place => if place.first then next place else none
  | .atEnd, next, place =>
    if place.rest.isEmpty || place.rest == [.char '\n'] then next place else none
  | .atVeryEnd, next, place => if place.rest.isEmpty then next place else none

def stop : Search := fun place => if place.rest.isEmpty then some place else none

def accepts (pattern : Pattern) (text : Text) : Bool :=
  (pattern.run stop ⟨true, text.points⟩).isSome

def sequence : List Pattern → Pattern
  | [] => .empty
  | [pattern] => pattern
  | pattern :: rest => .seq pattern (sequence rest)

def optional (lazy : Bool) (pattern : Pattern) : Pattern :=
  if lazy then .alt .empty pattern else .alt pattern .empty

def upTo (lazy : Bool) (pattern : Pattern) : Nat → Pattern
  | 0 => .empty
  | count + 1 => optional lazy (.seq pattern (pattern.upTo lazy count))

def between (lazy : Bool) (pattern : Pattern) (least : Nat) (most : Option Nat) : Pattern :=
  let more := match most with
    | none => .star lazy pattern
    | some most => pattern.upTo lazy (most - least)
  sequence (List.replicate least pattern ++ [more])

end Pattern
end Rbac
