namespace Relational

-- Dependencies among the places below `size`: `(a, b)` says that `a` depends on `b`.
structure Dependencies where
  size : Nat
  edges : List (Nat × Nat)

namespace Dependencies

variable (g : Dependencies)

def direct (a : Nat) : List Nat :=
  (g.edges.filter (·.1 == a)).map (·.2)

def insertNew {α : Type} [DecidableEq α] (items : List α) (a : α) : List α :=
  if a ∈ items then items else items ++ [a]

def close : Nat → List Nat → List Nat
  | 0, places => places
  | fuel + 1, places =>
    let more := (places.flatMap g.direct).foldl insertNew places
    if more.length = places.length then places else close fuel more

def reach (a : Nat) : List Nat :=
  g.close g.size [a]

def reaches : List (List Nat) :=
  (List.range g.size).map g.reach

end Dependencies

namespace Reaches

variable (reaches : List (List Nat))

def leads (a b : Nat) : Bool :=
  ((reaches[a]?.getD []).contains b)

def group (a : Nat) : List Nat :=
  (List.range reaches.length).filter fun b => leads reaches a b && leads reaches b a

def leader (a : Nat) : Nat :=
  (group reaches a).headD a

def leaders : List Nat :=
  (List.range reaches.length).filter fun a => leader reaches a == a

end Reaches

def Dependencies.between (g : Dependencies) (reaches : List (List Nat)) : List (Nat × Nat) :=
  let leaders := (List.range g.size).map (Reaches.leader reaches)
  let leader (a : Nat) := leaders[a]?.getD a
  let edges := g.edges.map fun (a, b) => (leader a, leader b)
  (edges.filter fun (a, b) => a != b).foldl Dependencies.insertNew []

-- The groups that are still to be taken: those that may be taken next, and those that wait, each
-- with the number of groups that it waits for.
structure Agenda where
  ready : List Nat
  waiting : List (Nat × Nat)

namespace Agenda

variable (edges : List (Nat × Nat))

def sort (ready : List Nat) (counted : List (Nat × Nat)) : Agenda where
  ready := ready ++ (counted.filter (·.2 == 0)).map (·.1)
  waiting := counted.filter (·.2 != 0)

def ofLeaders (leaders : List Nat) : Agenda :=
  sort [] (leaders.map fun a => (a, edges.countP (·.1 == a)))

def release (agenda : Agenda) (taken : Nat) : Agenda :=
  let count (entry : Nat × Nat) : Nat × Nat :=
    (entry.1, if (entry.1, taken) ∈ edges then entry.2 - 1 else entry.2)
  sort (agenda.ready.erase taken) (agenda.waiting.map count)

def run : Nat → Agenda → List Nat
  | 0, _ => []
  | fuel + 1, agenda =>
    match agenda.ready.min? with
    | none => []
    | some a => a :: run fuel (agenda.release edges a)

end Agenda

def Dependencies.groups (g : Dependencies) : List (List Nat) :=
  let reaches := g.reaches
  let leaders := Reaches.leaders reaches
  let edges := g.between reaches
  (Agenda.run edges leaders.length (.ofLeaders edges leaders)).map (Reaches.group reaches)

end Relational
