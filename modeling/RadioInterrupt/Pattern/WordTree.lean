import RadioInterrupt.Pattern.Room

/-!
Trees that read one of several words.

Words with a common beginning share it.  The order of the words counts: where one of them is
complete, those before it and those behind it share nothing more.
-/

namespace RadioInterrupt.Pattern.Machine

/-- Splits words where one is complete; a second complete word with nothing between counts only if
something came before. -/
def splitAtComplete (words : List (List Nat)) : List (List (List Nat)) :=
  let started := words.dropWhile List.isEmpty
  let first := if started.length < words.length then [[]] else []
  let rest := started.foldr (fun word segments =>
    if word.isEmpty then [] :: segments
    else
      match segments with
      | segment :: more => (word :: segment) :: more
      | [] => [[word]]) [[]]
  first ++ rest

def tailsBehind (byte : Nat) (words : List (List Nat)) : List (List Nat) :=
  (words.filter fun word => word.head? = some byte).map List.tail

def addTree : Nat → List (List Nat) → Room → Room
  | 0, _, room => room
  | length + 1, words, room =>
      let segments := splitAtComplete words
      let links := (segments.filter fun segment => !segment.isEmpty).length + segments.length - 1
      segments.foldl (fun room segment =>
        let bytes := (segment.filterMap List.head?).eraseDups
        let room :=
          match bytes with
          | [] => room
          | [_] => room.addStates 1
          | _ => (room.addStates 1).addEntries bytes.length
        bytes.foldl (fun room byte =>
          let tails := tailsBehind byte segment
          if tails.all List.isEmpty then room else addTree length tails room) room)
        ((room.addStates 1).addLinks links)

def addWords (words : List (List Nat)) (room : Room) : Room :=
  let length := (words.map List.length).foldl max 0
  addTree (length + 1) words (room.addStates 1)

end RadioInterrupt.Pattern.Machine
