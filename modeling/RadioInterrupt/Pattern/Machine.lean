import RadioInterrupt.Pattern.Basic
import RadioInterrupt.Pattern.Fault
import RadioInterrupt.Pattern.StateTable
import RadioInterrupt.Pattern.WordTree

/-!
The machines for a pattern.

A pattern is matched by two machines that go through the bytes of a text, one forward and one
backward.  `plan` says which states the parts of a pattern add, and in which order: the numbers of
the states decide which of them are shared.  Neither machine may take more room than the limit.
-/

namespace RadioInterrupt.Pattern

inductive Direction where
  | forward
  | backward
  deriving DecidableEq, Repr

namespace Machine

structure Stage where
  room : Room
  /-- The part ends in a branch, which takes a further link to what follows. -/
  endsInBranch : Bool
  deriving DecidableEq, Repr

def Stage.joined (stage : Stage) : Room :=
  if stage.endsInBranch then stage.room.addLinks 1 else stage.room

abbrev Step := Room → Stage

def Step.plain (add : Room → Room) : Step :=
  fun room => ⟨add room, false⟩

/-! ## Repetitions -/

def again (next : Stage → Stage) : Nat → Stage → Stage
  | 0, stage => stage
  | count + 1, stage => if stage.room.isOver then stage else again next count (next stage)

def copies (body : Step) : Nat → Step
  | 0 => .plain (·.addStates 1)
  | count + 1 => fun room => again (fun stage => body stage.joined) count (body room)

def optional (body : Step) : Step :=
  .plain fun room => ((body (room.addStates 1)).joined.addStates 1).addLinks 2

def oneOrMore (body : Step) : Step :=
  fun room => ⟨((body room).joined.addStates 1).addLinks 1, true⟩

/-- One branch before the body is enough where each copy moves on in the text. -/
def zeroOrMore (body : Step) (movesOn : Bool) : Step :=
  fun room =>
    if movesOn then ⟨(body (room.addStates 1)).joined.addLinks 1, true⟩
    else ⟨((body room).joined.addStates 3).addLinks 4, false⟩

def bounded (body : Step) (least further : Nat) : Step :=
  fun room =>
    let needed := copies body least room
    let copy := fun stage : Stage => body ((stage.joined.addStates 1).addLinks 2)
    ⟨(again copy further ⟨needed.room.addStates 1, needed.endsInBranch⟩).joined, false⟩

def repetition (body : Step) (movesOn : Bool) (least : Nat) : Option Nat → Step
  | none =>
      match least with
      | 0 => zeroOrMore body movesOn
      | 1 => oneOrMore body
      | count + 2 => fun room => oneOrMore body (copies body (count + 1) room).joined
  | some most =>
      if least = 0 && most = 1 then optional body
      else if least = most then copies body least
      else bounded body least (most - least)

/-! ## Choices -/

structure Choice where
  word : Option (List Nat)
  step : Step

/-- Each of several choices has a link from the branch before it, which is added behind the second
of them together with the state behind all of them. -/
def addChoices : List Choice → Step
  | [] => .plain (·.addStates 1)
  | [choice] => choice.step
  | first :: second :: others => .plain fun room =>
      let add := fun (room : Room) (choice : Choice) =>
        if room.isOver then room else (choice.step room).joined.addLinks 1
      others.foldl add ((add (add room first) second).addStates 2)

def choose (direction : Direction) (choices : List Choice) : Step :=
  match choices.mapM Choice.word with
  | some words => .plain (addWords (match direction with
      | .forward => words
      | .backward => words.map List.reverse))
  | none => addChoices choices

/-! ## Plans -/

structure Plan where
  choices : List Choice
  step : Step

namespace Plan

def ofStep (step : Step) : Plan :=
  ⟨[⟨none, step⟩], step⟩

def word? (plan : Plan) : Option (List Nat) :=
  match plan.choices with
  | [choice] => choice.word
  | _ => none

def ofSet (direction : Direction) (set : CharSet) : Plan :=
  match set.single? with
  | some c =>
      let bytes := bytesOf c.toNat
      let step := Step.plain (·.addStates bytes.length)
      ⟨[⟨some bytes, step⟩], step⟩
  | none =>
      if set.isAscii then
        let entries := set.ranges.length
        ofStep (.plain fun room => (room.addStates 2).addEntries entries)
      else
        let sequences := set.sequences
        match direction with
        | .forward => ofStep (.plain (readForward sequences))
        | .backward => ofStep (.plain (readBackward sequences))

def andThen (direction : Direction) (first second : Plan) : Plan :=
  let word :=
    match first.word?, second.word? with
    | some left, some right => some (left ++ right)
    | _, _ => none
  let step := fun room =>
    let (before, behind) := match direction with
      | .forward => (first, second)
      | .backward => (second, first)
    let stage := before.step room
    if stage.room.isOver then stage else behind.step stage.joined
  ⟨[⟨word, step⟩], step⟩

end Plan

def plan (direction : Direction) : Pattern → Plan
  | .nothing | .assertion _ => .ofStep (.plain (·.addStates 1))
  | .chars set _ => .ofSet direction set
  | .sequence first second => (plan direction first).andThen direction (plan direction second)
  | .either left right =>
      let choices := (plan direction left).choices ++ (plan direction right).choices
      ⟨choices, choose direction choices⟩
  | .repeated body least most _ =>
      let movesOn := body.leastLength.any (0 < ·)
      let step := (plan direction body).step
      .ofStep (repetition step movesOn least most)
  | .group _ body =>
      let step := (plan direction body).step
      match direction with
      | .forward => .ofStep (.plain fun room => (step (room.addStates 1)).joined.addStates 1)
      | .backward => .ofStep step

/-! ## Machines -/

structure Anchoring where
  atEnd : Bool
  onlyEmpty : Bool
  deriving DecidableEq, Repr

def anchoring (condition : Assertion) (direction : Direction) : Pattern → Anchoring
  | .nothing => ⟨false, true⟩
  | .assertion found => ⟨found = condition, true⟩
  | .chars _ _ => ⟨false, false⟩
  | .sequence first second =>
      let first := anchoring condition direction first
      let second := anchoring condition direction second
      let (outer, inner) := match direction with
        | .forward => (first, second)
        | .backward => (second, first)
      ⟨outer.atEnd || (outer.onlyEmpty && inner.atEnd), outer.onlyEmpty && inner.onlyEmpty⟩
  | .either left right =>
      let left := anchoring condition direction left
      let right := anchoring condition direction right
      ⟨left.atEnd && right.atEnd, left.onlyEmpty && right.onlyEmpty⟩
  | .repeated body least most _ =>
      let body := anchoring condition direction body
      ⟨0 < least && body.atEnd, most.isSome && body.onlyEmpty⟩
  | .group _ body => anchoring condition direction body

def skipping (anchored : Bool) : Room :=
  if anchored then Room.empty.addStates 1
  else ((Room.empty.addStates 3).addLinks 2).addEntries 1

def roomOf (direction : Direction) (pattern : Pattern) : Room :=
  let step := (plan direction pattern).step
  match direction with
  | .forward =>
      let room := skipping (anchoring .textStart direction pattern).atEnd
      (step (room.addStates 1)).joined.addStates 2
  | .backward =>
      let room := skipping (anchoring .textEnd direction pattern).atEnd
      (step room).joined.addStates 1

def needsWords : Pattern → Bool
  | .assertion (.word _ unicode) => unicode
  | .nothing | .assertion _ | .chars _ _ => false
  | .sequence first second | .either first second => needsWords first || needsWords second
  | .repeated body _ _ _ | .group _ body => needsWords body

def check (pattern : Pattern) : Except Fault Unit :=
  if (roomOf .forward pattern).isOver then .error (.tooLarge sizeLimit)
  else if needsWords pattern then .error .unsupportedWords
  else if (roomOf .backward pattern).isOver then .error (.tooLarge sizeLimit)
  else .ok ()

end Machine

end RadioInterrupt.Pattern
